import Microdata.Proofs.Expression.Lexemes
set_option autoImplicit false

/-!
Where tokens lie in a text. Each token has an extent, its own characters as they are written, and
the extents lie one behind the other with blanks between them (`Tiles`). A lexeme is read the same
if the text is cut behind it (`lexeme_cut`), and so are the tokens in front of any place that is
reached (`Scans.cut`). Main statement: `tokenize_tiles`, the tokens of a text tile it, and those in
front of an error are the tokens of what stands there.
-/

namespace Microdata.Lexer

inductive Quotes (quote : Char) : List Char → List Char → Prop
  | nil : Quotes quote [] []
  | escaped (c : Char) {body text : List Char} (h : Quotes quote body text) :
      Quotes quote ('\\' :: c :: body) (unescape c ++ text)
  | plain {c : Char} {body text : List Char} (hescape : c ≠ '\\') (hquote : c ≠ quote)
      (h : Quotes quote body text) : Quotes quote (c :: body) (c :: text)

/-- The characters of a token, by its kind and its value. -/
inductive Extent : TokenKind → List Char → List Char → Prop
  | quoted {quote : Char} {body text : List Char} (hquote : quote = '"' ∨ quote = '\'')
      (h : Quotes quote body text) : Extent .text text (quote :: (body ++ [quote]))
  | plain {kind : TokenKind} {c : Char} {cs : List Char} (h : kind ≠ .text) :
      Extent kind (c :: cs) (c :: cs)

/-- The tokens of a text that starts at an offset lie in it one behind the other, and between them
nothing but blanks. -/
inductive Tiles : Nat → List Char → List Token → Prop
  | done (offset : Nat) : Tiles offset [] []
  | blank {offset : Nat} {c : Char} {cs : List Char} {ts : List Token}
      (hc : Text.isBlank c = true) (h : Tiles (offset + 1) cs ts) : Tiles offset (c :: cs) ts
  | token {offset : Nat} {kind : TokenKind} {value extent cs : List Char} {ts : List Token}
      (hextent : Extent kind value extent) (h : Tiles (offset + extent.length) cs ts) :
      Tiles offset (extent ++ cs) (⟨kind, String.ofList value, offset⟩ :: ts)

theorem Extent.length_pos {kind : TokenKind} {value extent : List Char}
    (h : Extent kind value extent) : 0 < extent.length := by
  cases h <;> exact Nat.succ_pos _

variable {quote : Char} {n : Nat} {cs text : List Char}

theorem Quotes.quotedText {body : List Char} (h : Quotes quote body text) (hq : quote ≠ '\\')
    (rest : List Char) :
    quotedText quote (body ++ quote :: rest) = some (text, body.length + 1) := by
  induction h with
  | nil =>
    rw [List.nil_append, Lexer.quotedText]
    · simp
    · exact fun _ _ he => absurd he hq
  | escaped c _ ih => simp [Lexer.quotedText, ih]
  | @plain c body text hescape hquote _ ih =>
    rw [List.cons_append, Lexer.quotedText]
    · simp [hquote, ih]
    · exact fun _ _ he => absurd he hescape

theorem exists_of_quotedText (h : quotedText quote cs = some (text, n)) :
    ∃ body rest, cs = body ++ quote :: rest ∧ n = body.length + 1 ∧ Quotes quote body text := by
  fun_induction quotedText quote cs generalizing text n with
  | case1 => cases h
  | case2 c rest ih =>
    obtain ⟨⟨inner, m⟩, hinner, he⟩ := Option.map_eq_some_iff.mp h
    cases he
    obtain ⟨body, after, rfl, rfl, hbody⟩ := ih hinner
    exact ⟨'\\' :: c :: body, after, rfl, rfl, hbody.escaped c⟩
  | case3 c rest hescape hc =>
    cases h
    obtain rfl := beq_iff_eq.mp hc
    exact ⟨[], rest, rfl, rfl, .nil⟩
  | case4 c rest hescape hc ih =>
    obtain ⟨⟨inner, m⟩, hinner, he⟩ := Option.map_eq_some_iff.mp h
    cases he
    obtain ⟨body, after, rfl, rfl, hbody⟩ := ih hinner
    -- a backslash with nothing behind it would leave the text open
    have hplain : c ≠ '\\' := by
      rintro rfl
      cases body with
      | nil => exact hescape quote after rfl rfl
      | cons d body => exact hescape d (body ++ quote :: after) rfl rfl
    refine ⟨c :: body, after, rfl, rfl, hbody.plain hplain fun he => hc (beq_iff_eq.mpr he)⟩

theorem quotedText_take (hq : quote ≠ '\\') (h : quotedText quote cs = some (text, n)) {m : Nat}
    (hm : n ≤ m) : quotedText quote (cs.take m) = some (text, n) := by
  obtain ⟨body, rest, rfl, rfl, hbody⟩ := exists_of_quotedText h
  obtain ⟨k, rfl⟩ := Nat.exists_eq_add_of_le hm
  have htake : (body ++ quote :: rest).take (body.length + 1 + k) = body ++ quote :: rest.take k := by
    rw [Nat.add_assoc, List.take_length_add_append, Nat.add_comm 1 k, List.take_succ_cons]
  rw [htake, hbody.quotedText hq]

theorem run_take {p : Char → Bool} (h : (cs.takeWhile p).length ≤ n) :
    (cs.take n).takeWhile p = cs.takeWhile p ∧
      (cs.take n).dropWhile p = (cs.dropWhile p).take (n - (cs.takeWhile p).length) := by
  have hcs := (List.takeWhile_append_dropWhile (p := p) (l := cs)).symm
  have hrun : ∀ c ∈ cs.takeWhile p, p c = true := fun c hc => List.mem_takeWhile_imp hc
  have hstop : ∀ c ∈ (cs.dropWhile p).head?, p c = false := by
    intro c hc
    have hhead := List.head?_dropWhile_not p cs
    rwa [Option.mem_def.mp hc] at hhead
  generalize cs.takeWhile p = run, cs.dropWhile p = rest at h hcs hrun hstop ⊢
  obtain ⟨k, rfl⟩ := Nat.exists_eq_add_of_le h
  rw [hcs, List.take_length_add_append, Nat.add_sub_cancel_left]
  refine Text.takeWhile_append hrun fun c hc => ?_
  rw [List.head?_take] at hc
  split at hc
  · cases hc
  · exact hstop c hc

theorem takeWhile_take {p : Char → Bool} (h : (cs.takeWhile p).length ≤ n) :
    (cs.take n).takeWhile p = cs.takeWhile p := (run_take h).1

theorem length_takeWhile_le (p : Char → Bool) (cs : List Char) :
    (cs.takeWhile p).length ≤ cs.length := (List.takeWhile_prefix p).length_le

theorem length_takeWhile_pos {p q : Char → Bool} (hpq : ∀ c, p c = true → q c = true)
    (h : cs.head?.any p = true) : 0 < (cs.takeWhile q).length := by
  cases cs with
  | nil => cases h
  | cons c cs =>
    have hc : q c = true := hpq c h
    rw [List.takeWhile_cons_of_pos hc]
    exact Nat.succ_pos _

theorem take_length_takeWhile (p : Char → Bool) (cs : List Char) :
    cs.take (cs.takeWhile p).length = cs.takeWhile p :=
  (List.prefix_iff_eq_take.mp (List.takeWhile_prefix p)).symm

theorem take_ne_cons {d : Char} (h : ∀ rest, cs = d :: rest → False) (n : Nat) :
    ∀ rest, cs.take n = d :: rest → False := by
  intro rest hrest
  cases cs with
  | nil => simp at hrest
  | cons c cs =>
    cases n with
    | zero => cases hrest
    | succ n => exact h cs (by rw [(List.cons.inj hrest).1])

def fractionWidth : List Char → Nat
  | '.' :: rest =>
    let digits := (rest.takeWhile Char.isDigit).length
    if digits = 0 then 0 else digits + 1
  | _ => 0

theorem numberWidth_eq (cs : List Char) : numberWidth cs =
    (cs.takeWhile Char.isDigit).length + fractionWidth (cs.dropWhile Char.isDigit) := by
  unfold numberWidth
  generalize cs.dropWhile Char.isDigit = rest
  dsimp only
  split
  · simp only [fractionWidth, beq_iff_eq]
    split <;> omega
  · rename_i hpoint
    rw [fractionWidth, Nat.add_zero]
    exact hpoint

theorem fractionWidth_le (cs : List Char) : fractionWidth cs ≤ cs.length := by
  unfold fractionWidth
  split
  · rename_i rest
    have hrest := length_takeWhile_le Char.isDigit rest
    dsimp only
    rw [List.length_cons]
    split <;> omega
  · exact Nat.zero_le _

theorem fractionWidth_take (h : fractionWidth cs ≤ n) :
    fractionWidth (cs.take n) = fractionWidth cs := by
  unfold fractionWidth at h
  split at h
  · rename_i rest
    cases n with
    | zero =>
      dsimp only at h
      split at h
      · rename_i hnone
        simp [fractionWidth, List.length_eq_zero_iff.mp hnone]
      · omega
    | succ n =>
      have hdigits : (rest.takeWhile Char.isDigit).length ≤ n := by
        dsimp only at h
        split at h <;> omega
      rw [List.take_succ_cons, fractionWidth, fractionWidth, takeWhile_take hdigits]
  · rename_i hpoint
    rw [fractionWidth, fractionWidth]
    · exact hpoint
    · exact take_ne_cons hpoint n

theorem numberWidth_pos (h : cs.head?.any Char.isDigit = true) : 0 < numberWidth cs := by
  rw [numberWidth_eq]
  exact Nat.add_pos_left (length_takeWhile_pos (fun _ hc => hc) h) _

theorem numberWidth_le (cs : List Char) : numberWidth cs ≤ cs.length := by
  have hfraction := fractionWidth_le (cs.dropWhile Char.isDigit)
  have hlength := congrArg List.length (List.takeWhile_append_dropWhile (p := Char.isDigit) (l := cs))
  rw [List.length_append] at hlength
  rw [numberWidth_eq]
  omega

theorem numberWidth_take (h : numberWidth cs ≤ n) : numberWidth (cs.take n) = numberWidth cs := by
  rw [numberWidth_eq] at h
  have hdigits : (cs.takeWhile Char.isDigit).length ≤ n := by omega
  obtain ⟨hrun, hrest⟩ := run_take hdigits
  rw [numberWidth_eq, numberWidth_eq, hrun, hrest, fractionWidth_take (by omega)]

theorem wordKind_ne_text (word : List Char) : wordKind word ≠ .text := by
  unfold wordKind
  split <;> simp

theorem symbol?_take {c : Char} {kind : TokenKind} {width : Nat}
    (h : symbol? c cs = some (kind, width)) (hn : width ≤ n + 1) :
    symbol? c (cs.take n) = some (kind, width) := by
  unfold symbol? at h
  split at h
  case h_7 | h_8 | h_9 =>
    -- what could begin a longer one does not, and the cut adds nothing
    rename_i hshort
    cases h
    rw [symbol?]
    exact take_ne_cons hshort n
  case h_10 | h_11 =>
    cases h
    rfl
  case h_12 => cases h
  all_goals
    cases h
    cases n with
    | zero => omega
    | succ n => rfl

theorem symbol?_bounds {c : Char} {kind : TokenKind} {width : Nat}
    (h : symbol? c cs = some (kind, width)) :
    kind ≠ .text ∧ 0 < width ∧ width ≤ cs.length + 1 := by
  unfold symbol? at h
  split at h <;> cases h <;> simp

variable {c : Char} {more : Nat} {kind : TokenKind} {value : List Char}
  {token : Option (TokenKind × List Char)}

theorem take_cons_take {m : Nat} (h : m ≤ n + 1) :
    (c :: cs.take n).take m = (c :: cs).take m := by
  rw [← List.take_succ_cons, List.take_take, Nat.min_eq_left h]

theorem head?_any_take {p : Char → Bool} (hn : 0 < n) :
    (cs.take n).head?.any p = cs.head?.any p := by
  rw [List.head?_take, if_neg (by omega)]

theorem Lexes.take (h : Lexes c cs token more) (hn : more ≤ n) :
    Lexes c (cs.take n) token more := by
  cases h with
  | blank hc => exact .blank hc
  | text hquote hquoted =>
    have hc : c ≠ '\\' := by
      rintro rfl
      simp at hquote
    exact .text hquote (quotedText_take hc hquoted hn)
  | @number _ _ m hc hm =>
    rw [← take_cons_take (by omega : m ≤ n + 1)]
    refine .number hc ?_
    rw [← List.take_succ_cons, numberWidth_take (by omega), hm]
  | negative hd hm =>
    have hpos := numberWidth_pos hd
    have hread : Lexes '-' (cs.take n) (some (.number, '-' :: (cs.take n).take more)) more :=
      .negative (by rwa [head?_any_take (by omega)]) (by rw [numberWidth_take (by omega), hm])
    rwa [List.take_take, Nat.min_eq_left hn] at hread
  | word hc hrun =>
    subst hrun
    exact .word hc (takeWhile_take hn)
  | reserved hs hrun =>
    subst hrun
    have hpos : 0 < (cs.takeWhile isNameRest).length :=
      length_takeWhile_pos (fun _ => isNameRest_of_isNameStart) hs
    exact .reserved (by rwa [head?_any_take (by omega)]) (takeWhile_take hn)
  | @symbol _ _ kind m hsymbol =>
    obtain ⟨-, hpos, -⟩ := symbol?_bounds hsymbol
    rw [← take_cons_take (by omega : m ≤ n + 1)]
    exact .symbol (symbol?_take hsymbol (by omega))

theorem Lexes.isBlank (h : Lexes c cs none more) : Text.isBlank c = true ∧ more = 0 := by
  cases h with
  | blank hc => exact ⟨hc, rfl⟩

theorem Lexes.extent (h : Lexes c cs (some (kind, value)) more) :
    more ≤ cs.length ∧ Extent kind value (c :: cs.take more) := by
  cases h with
  | text hquote hquoted =>
    obtain ⟨body, rest, rfl, rfl, hbody⟩ := exists_of_quotedText hquoted
    rw [List.take_length_add_append]
    exact ⟨by simp, .quoted hquote hbody⟩
  | number hc hn =>
    subst hn
    have hpos : 0 < numberWidth (c :: cs) := numberWidth_pos hc
    have hle := numberWidth_le (c :: cs)
    obtain ⟨m, hm⟩ := Nat.exists_eq_add_one.mpr hpos
    rw [hm, List.length_cons] at hle
    rw [hm, List.take_succ_cons]
    exact ⟨by omega, .plain nofun⟩
  | negative hd hn =>
    subst hn
    exact ⟨numberWidth_le cs, .plain nofun⟩
  | word hc hrun =>
    subst hrun
    rw [take_length_takeWhile]
    exact ⟨length_takeWhile_le _ cs, .plain (wordKind_ne_text _)⟩
  | reserved hs hrun =>
    subst hrun
    rw [take_length_takeWhile]
    refine ⟨length_takeWhile_le _ cs, .plain ?_⟩
    split <;> nofun
  | @symbol _ _ _ n hsymbol =>
    obtain ⟨hkind, hpos, hle⟩ := symbol?_bounds hsymbol
    obtain ⟨m, rfl⟩ := Nat.exists_eq_add_one.mpr hpos
    rw [List.take_succ_cons]
    exact ⟨by omega, .plain hkind⟩

theorem lexeme_cut {front rest : List Char} (h : lexeme c (front ++ rest) = .ok ⟨token, more⟩)
    (hn : more ≤ front.length) : lexeme c front = .ok ⟨token, more⟩ := by
  have hcut := ((lexes_of_lexeme h).take hn).lexeme_eq
  rwa [List.take_left] at hcut

variable {offset finish : Nat} {rest : List Char} {ts : List Token}

theorem Tiles.offset_mem (h : Tiles offset cs ts) {t : Token} (ht : t ∈ ts) :
    offset ≤ t.offset ∧ t.offset < offset + cs.length := by
  induction h with
  | done => cases ht
  | blank _ _ ih =>
    have := ih ht
    rw [List.length_cons]
    omega
  | token hextent _ ih =>
    have hpos := hextent.length_pos
    rw [List.length_append]
    obtain rfl | ht := List.mem_cons.mp ht
    · simp only
      omega
    · have := ih ht
      omega

theorem Tiles.pairwise (h : Tiles offset cs ts) :
    ts.Pairwise fun t u => t.offset < u.offset := by
  induction h with
  | done => exact .nil
  | blank _ _ ih => exact ih
  | token hextent h ih =>
    refine List.pairwise_cons.mpr ⟨fun t ht => ?_, ih⟩
    have hpos := hextent.length_pos
    have := (h.offset_mem ht).1
    simp only
    omega

/-- The text that is scanned may be cut behind the tokens that are scanned off it, and they tile
what is left. -/
theorem Scans.cut (h : Scans offset cs ts finish rest) : ∃ front, cs = front ++ rest ∧
    finish = offset + front.length ∧ Scans offset front ts finish [] ∧ Tiles offset front ts := by
  induction h with
  | done => exact ⟨[], rfl, rfl, .done, .done _⟩
  | @blank _ _ more c cs after _ hl _ ih =>
    obtain ⟨front, hcs, rfl, hs, htiles⟩ := ih
    obtain ⟨hblank, rfl⟩ := (lexes_of_lexeme hl).isBlank
    obtain rfl : cs = front ++ after := hcs
    refine ⟨c :: front, rfl, ?_, .blank (lexeme_cut hl (Nat.zero_le _)) hs, htiles.blank hblank⟩
    rw [List.length_cons]
    omega
  | @token _ _ more c cs _ after _ _ hl _ ih =>
    obtain ⟨front, hcs, rfl, hs, htiles⟩ := ih
    obtain ⟨hmore, hextent⟩ := (lexes_of_lexeme hl).extent
    have hlength : (cs.take more).length = more := List.length_take_of_le hmore
    have hwhole : cs = cs.take more ++ front ++ after := by
      rw [List.append_assoc, ← hcs, List.take_append_drop]
    generalize cs.take more = extent at hextent hlength hwhole
    subst hwhole hlength
    have hread := lexeme_cut hl (by simp)
    refine ⟨c :: (extent ++ front), rfl, ?_, .token hread (by rwa [List.drop_left]), ?_⟩
    · rw [List.length_cons, List.length_append]
      omega
    · refine .token hextent ?_
      rwa [List.length_cons, Nat.add_comm _ 1, ← Nat.add_assoc]

theorem pairwise_all {source : String} {l : TokenList} (h : tokenize source = .ok l) :
    l.all.Pairwise fun t u => t.offset < u.offset := by
  obtain ⟨finish, hs⟩ := scans_of_tokenize h
  obtain ⟨front, hcs, -, -, htiles⟩ := hs.cut
  rw [List.append_nil] at hcs
  subst hcs
  have hend : l.finish = source.length :=
    congrArg TokenList.finish (Except.ok.inj (h.symm.trans (tokenize_of_scans hs)))
  refine List.pairwise_append.mpr ⟨htiles.pairwise, List.pairwise_singleton .., ?_⟩
  intro t ht u hu
  obtain rfl := List.mem_singleton.mp hu
  have hlt := (htiles.offset_mem ht).2
  rwa [Nat.zero_add, String.length_toList, ← hend] at hlt

/-- The tokens of a text lie in it in order, each at its offset, and nothing but blanks between
them; the last one stands at the end. An error stands at a place in the text, and what is in front
of it has the tokens that were scanned before it. -/
theorem tokenize_tiles (source : String) :
    (∀ l, tokenize source = .ok l → l.all = l.tokens ++ [.finish source.length] ∧
      (l.all.Pairwise fun t u => t.offset < u.offset) ∧ Tiles 0 source.toList l.tokens) ∧
    ∀ e, tokenize source = .error e → e.offset < source.length ∧ ∃ ts c rest,
      Scans 0 source.toList ts e.offset (c :: rest) ∧ lexeme c rest = .error e.problem ∧
      tokenize (String.ofList (source.toList.take e.offset)) = .ok ⟨ts, e.offset⟩ := by
  refine ⟨fun l h => ?_, fun e h => ?_⟩
  · obtain ⟨finish, hs⟩ := scans_of_tokenize h
    obtain ⟨front, hcs, -, -, htiles⟩ := hs.cut
    rw [List.append_nil] at hcs
    subst hcs
    have hl := tokenize_of_scans hs
    rw [h] at hl
    have hend : l.finish = source.length := congrArg TokenList.finish (Except.ok.inj hl)
    rw [TokenList.all, hend]
    refine ⟨rfl, List.pairwise_append.mpr ⟨htiles.pairwise, List.pairwise_singleton .., ?_⟩, htiles⟩
    intro t ht u hu
    obtain rfl := List.mem_singleton.mp hu
    have hlt := (htiles.offset_mem ht).2
    rwa [Nat.zero_add, String.length_toList] at hlt
  · obtain ⟨ts, c, rest, hs, hl⟩ := scans_of_tokenize_error h
    obtain ⟨front, hcs, hfinish, hfront, -⟩ := hs.cut
    rw [Nat.zero_add] at hfinish
    have hlength : source.length = front.length + (rest.length + 1) := by
      rw [← String.length_toList, hcs, List.length_append, List.length_cons]
    refine ⟨by omega, ts, c, rest, hs, hl, ?_⟩
    rw [hcs, hfinish, List.take_left]
    have hread : tokenize (String.ofList front) = .ok ⟨ts, (String.ofList front).length⟩ :=
      tokenize_of_scans (by rwa [String.toList_ofList])
    rwa [String.length_ofList] at hread

theorem tokenize_tiles_quoted :
    Tiles 0 "x<=-1.5 'a\\'b'".toList
      [⟨.name, "x", 0⟩, ⟨.operator .lte, "<=", 1⟩, ⟨.number, "-1.5", 3⟩, ⟨.text, "a'b", 8⟩] ∧
    ∃ ts c rest, Scans 0 "@id == \"x".toList ts 7 (c :: rest) ∧
      lexeme c rest = .error .unterminated ∧ tokenize "@id == " = .ok ⟨ts, 7⟩ := by
  have hl : tokenize "x<=-1.5 'a\\'b'" = .ok ⟨[⟨.name, "x", 0⟩, ⟨.operator .lte, "<=", 1⟩,
      ⟨.number, "-1.5", 3⟩, ⟨.text, "a'b", 8⟩], 14⟩ := by decide +kernel
  have he : tokenize "@id == \"x" = .error ⟨.unterminated, 7⟩ := by decide +kernel
  exact ⟨((tokenize_tiles _).1 _ hl).2.2, ((tokenize_tiles _).2 _ he).2⟩

end Microdata.Lexer
