set_option autoImplicit false

namespace Microdata.Text

/-- What the first byte of a character says: how many bytes follow, and between which bounds the
next one lies. -/
structure Lead where
  more : Nat
  low : Nat
  high : Nat

def lead? (b : Nat) : Option Lead :=
  if 0xC2 ≤ b && b ≤ 0xDF then some ⟨1, 0x80, 0xBF⟩
  else if b == 0xE0 then some ⟨2, 0xA0, 0xBF⟩
  else if b == 0xED then some ⟨2, 0x80, 0x9F⟩
  else if 0xE1 ≤ b && b ≤ 0xEF then some ⟨2, 0x80, 0xBF⟩
  else if b == 0xF0 then some ⟨3, 0x90, 0xBF⟩
  else if 0xF1 ≤ b && b ≤ 0xF3 then some ⟨3, 0x80, 0xBF⟩
  else if b == 0xF4 then some ⟨3, 0x80, 0x8F⟩
  else none

def Lead.following (l : Lead) : List Nat → List Nat
  | [] => []
  | b :: rest =>
    if l.low ≤ b && b ≤ l.high then
      b :: (rest.takeWhile fun b => 0x80 ≤ b && b ≤ 0xBF).take (l.more - 1)
    else []

def codePoint (more first : Nat) (following : List Nat) : Nat :=
  following.foldl (fun n b => 64 * n + b % 64) (first % Nat.pow 2 (6 - more))

def decodeUtf8 : List Nat → List Char
  | [] => []
  | b :: rest =>
    if b < 0x80 then Char.ofNat b :: decodeUtf8 rest
    else match lead? b with
      | none => '\ufffd' :: decodeUtf8 rest
      | some l =>
        let bs := l.following rest
        let c := if bs.length == l.more then Char.ofNat (codePoint l.more b bs) else '\ufffd'
        c :: decodeUtf8 (rest.drop bs.length)
termination_by bs => bs.length
decreasing_by all_goals simp only [List.length_drop, List.length_cons]; omega

def utf8? : List Nat → Option (List Char)
  | [] => some []
  | b :: rest =>
    if b < 0x80 then (utf8? rest).map (Char.ofNat b :: ·)
    else match lead? b with
      | none => none
      | some l =>
        let bs := l.following rest
        if bs.length == l.more then
          (utf8? (rest.drop bs.length)).map (Char.ofNat (codePoint l.more b bs) :: ·)
        else none
termination_by bs => bs.length
decreasing_by all_goals simp only [List.length_drop, List.length_cons]; omega

end Microdata.Text
