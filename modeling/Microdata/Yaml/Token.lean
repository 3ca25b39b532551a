import Microdata.Number.Digits
import Microdata.ReadError
import Microdata.Text.Utf8
set_option autoImplicit false

/-!
Tokens of YAML texts. Indentation opens and closes blocks, and whether a text is a key shows only at
the colon behind it: the places where a key may have begun are kept, and the marks of keys and of
the blocks that they open are put there afterwards. `Yaml.scan` gives the tokens of a text that can
be told before something is met that is no token.
-/

namespace Microdata.Yaml

inductive Directive where
  | version (major : Nat)
  | handle (name meaning : String)
  | other
  deriving DecidableEq, Repr

inductive Token where
  | directive (d : Directive)
  | documentStart | documentEnd
  | blockList | blockRecord | blockEnd
  | flowList | flowListEnd | flowRecord | flowRecordEnd
  | blockEntry | flowEntry | key | value
  | alias (name : String)
  | anchor (name : String)
  | tag (handle : Option String) (suffix : String)
  | scalar (text : String) (plain : Bool)
  deriving DecidableEq, Repr

structure Cursor where
  rest : List Char
  index : Nat := 0
  line : Nat := 0
  column : Nat := 0

def isBreak (c : Char) : Bool :=
  c == '\n' || c == '\r' || c == '\x85' || c == '\u2028' || c == '\u2029'

def atWordEnd : List Char → Bool
  | [] => true
  | c :: _ => c == ' ' || c == '\t' || isBreak c

def atLineEnd : List Char → Bool
  | [] => true
  | c :: _ => isBreak c

namespace Cursor

def forward (c : Cursor) : Cursor :=
  match c.rest with
  | [] => c
  | d :: rest =>
    if isBreak d && !(d == '\r' && rest.head? == some '\n') then ⟨rest, c.index + 1, c.line + 1, 0⟩
    else if d == '\ufeff' then ⟨rest, c.index + 1, c.line, c.column⟩
    else ⟨rest, c.index + 1, c.line, c.column + 1⟩

def skip (c : Cursor) : Nat → Cursor
  | 0 => c
  | n + 1 => c.forward.skip n

def skipWhile (p : Char → Bool) (c : Cursor) : Cursor := c.skip (c.rest.takeWhile p).length

def lineBreak? (c : Cursor) : Option (Char × Cursor) :=
  match c.rest with
  | '\r' :: '\n' :: _ => some ('\n', c.skip 2)
  | d :: _ =>
    if isBreak d then
      some (if d == '\u2028' || d == '\u2029' then d else '\n', c.forward)
    else none
  | [] => none

def skipComment (c : Cursor) : Cursor :=
  if c.rest.head? == some '#' then c.skipWhile fun d => !isBreak d else c

def atMark (c : Cursor) (mark : Char) : Bool :=
  match c.rest with
  | a :: b :: d :: rest => a == mark && b == mark && d == mark && atWordEnd rest
  | _ => false

def atDocumentMark (c : Cursor) : Bool := c.atMark '-' || c.atMark '.'

def toNext : (fuel : Nat) → Bool → Cursor → Bool × Cursor
  | 0, crossed, c => (crossed, c)
  | fuel + 1, crossed, c =>
    let c := (c.skipWhile (· == ' ')).skipComment
    match c.lineBreak? with
    | some (_, next) => toNext fuel true next
    | none => (crossed, c)

end Cursor

/-- A place where a key may have begun. -/
structure OpenKey where
  position : Nat
  required : Bool
  index : Nat
  line : Nat
  column : Nat

structure Scanner where
  cursor : Cursor
  flow : Nat := 0
  indent : Int := -1
  outer : List Int := []
  keyAllowed : Bool := true
  openKeys : List (Nat × OpenKey) := []
  tokens : Array Token := #[]

namespace Scanner

def push (s : Scanner) (t : Token) : Scanner := { s with tokens := s.tokens.push t }

def advance (s : Scanner) (n : Nat) : Scanner := { s with cursor := s.cursor.skip n }

/-- The scanner without the open key of this level, which must not be one that has to be. -/
def dropKey (s : Scanner) : Option Scanner :=
  if s.openKeys.any fun (level, k) => level == s.flow && k.required then none
  else some { s with openKeys := s.openKeys.filter fun (level, _) => level != s.flow }

def keyReach : Nat := 1024

/-- The scanner without the keys that have ended: they do not go beyond their line. -/
def dropStale (s : Scanner) : Option Scanner :=
  let stale (k : OpenKey) := k.line != s.cursor.line || keyReach < s.cursor.index - k.index
  if s.openKeys.any fun (_, k) => stale k && k.required then none
  else some { s with openKeys := s.openKeys.filter fun (_, k) => !stale k }

def openKey (s : Scanner) : Option Scanner :=
  if s.keyAllowed then do
    let required := s.flow == 0 && s.indent == s.cursor.column
    let s ← s.dropKey
    let k : OpenKey := ⟨s.tokens.size, required, s.cursor.index, s.cursor.line, s.cursor.column⟩
    some { s with openKeys := (s.flow, k) :: s.openKeys }
  else some s

def unwind (column : Int) (s : Scanner) : Scanner :=
  if s.flow == 0 then close column s.outer s else s
where
  close (column : Int) : List Int → Scanner → Scanner
    | [], s => s
    | indent :: outer, s =>
      if column < s.indent then
        close column outer { s with
          indent := indent, outer := outer, tokens := s.tokens.push .blockEnd }
      else s

def openBlock (s : Scanner) (column : Nat) (t : Token) (position : Nat) : Scanner :=
  if s.indent < column then
    { s with
      indent := column
      outer := s.indent :: s.outer
      tokens := (s.tokens.extract 0 position).push t ++ s.tokens.extract position s.tokens.size }
  else s

def isAnchorChar (c : Char) : Bool := c.isAlphanum || c == '-' || c == '_'

def atAnchorEnd (cs : List Char) : Bool :=
  atWordEnd cs || cs.head?.any fun c => "?:,]\x7d%@`".toList.contains c

def anchorName? (c : Cursor) : Option (String × Cursor) :=
  let c := c.forward
  let name := c.rest.takeWhile isAnchorChar
  let after := c.skip name.length
  if name.isEmpty || !atAnchorEnd after.rest then none else some (String.ofList name, after)

def isTagChar (c : Char) : Bool :=
  c.isAlphanum || "-;/?:@&=+$,_.!~*'()[]".toList.contains c

def escapedBytes? : List Char → Option (List Nat × List Char)
  | '%' :: a :: b :: rest => do
    let high ← Numeric.hexValue? a
    let low ← Numeric.hexValue? b
    let (bs, rest) ← escapedBytes? rest
    some ((16 * high + low) :: bs, rest)
  | '%' :: _ => none
  | cs => some ([], cs)

def tagText? : (fuel : Nat) → List Char → Option (List Char × Nat)
  | 0, _ => none
  | fuel + 1, cs =>
    let word := cs.takeWhile isTagChar
    let rest := cs.drop word.length
    if rest.head? == some '%' then do
      let (bs, rest) ← escapedBytes? rest
      let escaped ← Text.utf8? bs
      let (more, n) ← tagText? fuel rest
      some (word ++ escaped ++ more, word.length + 3 * bs.length + n)
    else some (word, word.length)

def tagName? (c : Cursor) : Option (String × Cursor) := do
  let (name, n) ← tagText? (c.rest.length + 1) c.rest
  if n == 0 then none else some (String.ofList name, c.skip n)

def tag? (c : Cursor) : Option (Token × Cursor) := do
  let rest := c.rest.drop 1
  let (t, after) ← match rest with
    | '<' :: _ => do
      let (name, after) ← tagName? (c.skip 2)
      if after.rest.head? == some '>' then some (Token.tag none name, after.forward) else none
    | _ =>
      if atWordEnd rest then some (Token.tag none "!", c.forward)
      else do
        let word := rest.takeWhile fun d => !(d == ' ' || isBreak d)
        let handle := rest.takeWhile isAnchorChar
        let (handle, c) ← if word.contains '!' then
            if rest[handle.length]? == some '!' then
              some (String.ofList ('!' :: handle ++ ['!']), c.skip (handle.length + 2))
            else none
          else some ("!", c.forward)
        let (name, after) ← tagName? c
        some (Token.tag (some handle) name, after)
  if atLineEnd after.rest || after.rest.head? == some ' ' then some (t, after) else none

def digits (c : Cursor) : Except ReadError (Nat × Cursor) :=
  let ds := c.rest.takeWhile Char.isDigit
  if ds.isEmpty then .error .malformed
  else if Numeric.maxDigits < ds.length then .error (.fault (.numeralTooLong ds.length))
  else .ok (Numeric.ofDigits 10 ds, c.skip ds.length)

def version (c : Cursor) : Except ReadError (Directive × Cursor) := do
  let (major, c) ← digits c
  if c.rest.head? == some '.' then do
    let (_, c) ← digits c.forward
    .ok (.version major, c)
  else .error .malformed

def handle? (c : Cursor) : Option (Directive × Cursor) :=
  match c.rest with
  | '!' :: rest => do
    let name := rest.takeWhile isAnchorChar
    let handle ← if rest.head? == some ' ' then some ['!']
      else if rest[name.length]? == some '!' then some ('!' :: name ++ ['!'])
      else none
    let c := c.skip handle.length
    if c.rest.head? != some ' ' then none
    else do
      let (meaning, after) ← tagName? (c.skipWhile (· == ' '))
      some (.handle (String.ofList handle) meaning, after)
  | _ => none

def atDirectiveGap (cs : List Char) : Bool := cs.head? == some ' ' || atLineEnd cs

def directive (c : Cursor) : Except ReadError (Directive × Cursor) := do
  let c := c.forward
  let name := c.rest.takeWhile isAnchorChar
  let c := c.skip name.length
  if name.isEmpty || !atDirectiveGap c.rest then .error .malformed
  else
    let value := c.skipWhile (· == ' ')
    let (d, c) ← if name == "YAML".toList then version value
      else if name == "TAG".toList then need (handle? value)
      else .ok (.other, c.skipWhile fun d => !isBreak d)
    let after := (c.skipWhile (· == ' ')).skipComment
    if atDirectiveGap c.rest && atLineEnd after.rest then .ok (d, after) else .error .malformed

/-- What a line end in a text stands for, with the empty lines that follow it: a single line end is
a space, and of several the first does not count. -/
def folded (first : Char) (more : List Char) : List Char :=
  if first != '\n' then first :: more else if more.isEmpty then [' '] else more

def quotedBreaks? : (fuel : Nat) → Cursor → Option (List Char × Cursor)
  | 0, c => some ([], c)
  | fuel + 1, c =>
    if c.atDocumentMark then none
    else
      let c := c.skipWhile fun d => d == ' ' || d == '\t'
      match c.lineBreak? with
      | some (b, c) => (quotedBreaks? fuel c).map fun (bs, c) => (b :: bs, c)
      | none => some ([], c)

def escape? : Char → Option Char
  | '0' => some '\x00'
  | 'a' => some '\x07'
  | 'b' => some '\x08'
  | 't' | '\t' => some '\t'
  | 'n' => some '\n'
  | 'v' => some '\x0b'
  | 'f' => some '\x0c'
  | 'r' => some '\r'
  | 'e' => some '\x1b'
  | ' ' => some ' '
  | '"' => some '"'
  | '\\' => some '\\'
  | '/' => some '/'
  | 'N' => some '\x85'
  | '_' => some '\xa0'
  | 'L' => some '\u2028'
  | 'P' => some '\u2029'
  | _ => none

def codeWidth? : Char → Option Nat
  | 'x' => some 2
  | 'u' => some 4
  | 'U' => some 8
  | _ => none

def coded (code : Nat) : Except ReadError Char :=
  if code ≤ 0x10ffff then .ok (Char.ofNat code)
  else if code ≤ 0x7fffffff then .error (.fault .codeTooLarge)
  else .error (.fault .codeOutOfRange)

def quoted (double : Bool) : (fuel : Nat) → Cursor → Except ReadError (List Char × Cursor)
  | 0, _ => .error .malformed
  | fuel + 1, c =>
    let more (cs : List Char) (c : Cursor) : Except ReadError (List Char × Cursor) :=
      (quoted double fuel c).map fun (after, c) => (cs ++ after, c)
    match c.rest with
    | [] => .error .malformed
    | d :: rest =>
      if d == ' ' || d == '\t' || isBreak d then
        let gap := c.rest.takeWhile fun d => d == ' ' || d == '\t'
        let c := c.skip gap.length
        if c.rest.isEmpty then .error .malformed
        else match c.lineBreak? with
          | some (b, c) => do
            let (bs, c) ← need (quotedBreaks? (c.rest.length + 1) c)
            more (folded b bs) c
          | none => more gap c
      else if double then
        if d == '"' then .ok ([], c.forward)
        else if d == '\\' then
          match rest with
          | [] => .error .malformed
          | e :: digits =>
            match escape? e, codeWidth? e with
            | some x, _ => more [x] (c.skip 2)
            | none, some width =>
              let code := digits.take width
              if code.length == width && code.all Numeric.isHexDigit then do
                more [← coded (Numeric.ofDigits 16 code)] (c.skip (2 + width))
              else .error .malformed
            | none, none =>
              match c.forward.lineBreak? with
              | some (_, c) => do
                let (bs, c) ← need (quotedBreaks? (c.rest.length + 1) c)
                more bs c
              | none => .error .malformed
        else more [d] c.forward
      else if d == '\'' then
        if rest.head? == some '\'' then more ['\''] (c.skip 2) else .ok ([], c.forward)
      else more [d] c.forward

def plainBreaks : (fuel : Nat) → Cursor → List Char × Cursor × Bool
  | 0, c => ([], c, false)
  | fuel + 1, c =>
    let c := c.skipWhile (· == ' ')
    match c.lineBreak? with
    | some (b, c) =>
      if c.atDocumentMark then ([b], c, true)
      else
        let (bs, c, stopped) := plainBreaks fuel c
        (b :: bs, c, stopped)
    | none => ([], c, false)

/-- The gap between two words of a plain text: what it stands for, and whether it has a line end.
Nothing is given where the text cannot go on. -/
def plainGap (c : Cursor) : List Char × Cursor × Bool :=
  let blanks := c.rest.takeWhile (· == ' ')
  let c := c.skip blanks.length
  match c.lineBreak? with
  | some (b, c) =>
    if c.atDocumentMark then ([], c, true)
    else
      let (bs, c, stopped) := plainBreaks (c.rest.length + 1) c
      if stopped then ([], c, true) else (folded b bs, c, true)
  | none => (blanks, c, false)

def isFlowMark (c : Char) : Bool :=
  c == ',' || c == '[' || c == ']' || c == '\x7b' || c == '\x7d'

def atColonEnd (flow : Bool) (cs : List Char) : Bool :=
  atWordEnd cs || (flow && cs.head?.any isFlowMark)

def plainWord (flow : Bool) : List Char → List Char
  | [] => []
  | d :: rest =>
    if d == ' ' || d == '\t' || isBreak d || (d == ':' && atColonEnd flow rest) ||
        (flow && (isFlowMark d || d == '?')) then []
    else d :: plainWord flow rest

/-- A plain text, the place behind it, and whether it ends behind a line end. Its further lines
must stand deeper than the block. -/
def plain (flow : Bool) (indent : Int) :
    (fuel : Nat) → (gap : List Char) → Bool → Cursor → List Char × Cursor × Bool
  | 0, _, crossed, c => ([], c, crossed)
  | fuel + 1, gap, crossed, c =>
    if c.rest.head? == some '#' then ([], c, crossed)
    else
      let word := plainWord flow c.rest
      if word.isEmpty then ([], c, crossed)
      else
        let (gap', c, crossed) := plainGap (c.skip word.length)
        if gap'.isEmpty || c.rest.head? == some '#' || (!flow && c.column ≤ indent) then
          (gap ++ word, c, crossed)
        else
          let (after, c, crossed) := plain flow indent fuel gap' crossed c
          (gap ++ word ++ after, c, crossed)

/-- The signs behind the mark of a block text: whether the line ends at its end are kept (`some
true`), dropped (`some false`), or one of them is kept; and the depth of the text if it is given. -/
def blockSigns? (c : Cursor) : Option (Option Bool × Option Nat × Cursor) := do
  let chomp (c : Cursor) : Option Bool × Cursor := match c.rest with
    | '+' :: _ => (some true, c.forward)
    | '-' :: _ => (some false, c.forward)
    | _ => (none, c)
  let depth (c : Cursor) : Option (Option Nat × Cursor) := match c.rest with
    | d :: _ =>
      if d == '0' then none
      else if d.isDigit then some (some (d.toNat - 48), c.forward)
      else some (none, c)
    | [] => some (none, c)
  let (keep, c) := chomp c
  let (n, c) ← depth c
  let (keep, c) := if keep.isNone && n.isSome then chomp c else (keep, c)
  if atLineEnd c.rest || c.rest.head? == some ' ' then
    let c := (c.skipWhile (· == ' ')).skipComment
    if atLineEnd c.rest then some (keep, n, ((c.lineBreak?).map (·.2)).getD c) else none
  else none

def skipTo (column : Nat) (c : Cursor) : Cursor :=
  c.skip (min (column - c.column) (c.rest.takeWhile (· == ' ')).length)

def blockBreaks (column : Nat) : (fuel : Nat) → Cursor → List Char × Cursor
  | 0, c => ([], c)
  | fuel + 1, c =>
    let c := skipTo column c
    match c.lineBreak? with
    | some (b, c) =>
      let (bs, c) := blockBreaks column fuel c
      (b :: bs, c)
    | none => ([], c)

def leadingBreaks : (fuel : Nat) → Nat → Cursor → List Char × Nat × Cursor
  | 0, most, c => ([], most, c)
  | fuel + 1, most, c =>
    let c := c.skipWhile (· == ' ')
    let most := max most c.column
    match c.lineBreak? with
    | some (b, c) =>
      let (bs, most, c) := leadingBreaks fuel most c
      (b :: bs, most, c)
    | none => ([], most, c)

/-- The lines of a block text at a column, the empty lines in front of them given: the text, the end
of its last line, the empty lines behind it, and the place behind those. -/
def blockLines (fold : Bool) (column : Nat) :
    (fuel : Nat) → (breaks : List Char) → (ending : List Char) → Cursor →
      List Char × List Char × List Char × Cursor
  | 0, breaks, ending, c => ([], ending, breaks, c)
  | fuel + 1, breaks, ending, c =>
    if c.column == column && !c.rest.isEmpty then
      let inBlank (c : Cursor) := c.rest.head? == some ' ' || c.rest.head? == some '\t'
      let solid := !inBlank c
      let line := c.rest.takeWhile fun d => !isBreak d
      let c := c.skip line.length
      let (ending, c) := match c.lineBreak? with
        | some (b, c) => ([b], c)
        | none => ([], c)
      let (more, c) := blockBreaks column (c.rest.length + 1) c
      if c.column == column && !c.rest.isEmpty then
        let joint := if fold && ending == ['\n'] && solid && !inBlank c then
            if more.isEmpty then [' '] else []
          else ending
        let (after, ending, rest, c) := blockLines fold column fuel more ending c
        (breaks ++ line ++ joint ++ after, ending, rest, c)
      else (breaks ++ line, ending, more, c)
    else ([], ending, breaks, c)

def blockText? (fold : Bool) (indent : Int) (c : Cursor) : Option (List Char × Cursor) := do
  let (keep, depth, c) ← blockSigns? c.forward
  let least := (max (indent + 1) 1).toNat
  let (breaks, column, c) := match depth with
    | none =>
      let (bs, most, c) := leadingBreaks (c.rest.length + 1) 0 c
      (bs, max least most, c)
    | some n =>
      let column := least + n - 1
      let (bs, c) := blockBreaks column (c.rest.length + 1) c
      (bs, column, c)
  let (text, ending, rest, c) := blockLines fold column (c.rest.length + 1) breaks [] c
  some (text ++ (if keep == some false then [] else ending) ++
    (if keep == some true then rest else []), c)

def atPlain (flow : Bool) : List Char → Bool
  | [] => false
  | d :: rest =>
    if d == ' ' || d == '\t' || isBreak d then false
    else if d == '-' then !atWordEnd rest
    else if d == '?' || d == ':' then !flow && !atWordEnd rest
    else !",[]\x7b\x7d#&*!|>'\"%@`".toList.contains d

def quotedScalar (s : Scanner) (double : Bool) : Except ReadError Scanner := do
  let s ← need s.openKey
  let (text, c) ← quoted double (s.cursor.rest.length + 1) s.cursor.forward
  .ok { s with
    cursor := c, keyAllowed := false, tokens := s.tokens.push (.scalar (String.ofList text) false) }

def valueMark (s : Scanner) : Option Scanner := do
  match s.openKeys.find? fun (level, _) => level == s.flow with
  | some (_, k) =>
    let s := { s with
      openKeys := s.openKeys.filter fun (level, _) => level != s.flow
      tokens := (s.tokens.extract 0 k.position).push .key ++
        s.tokens.extract k.position s.tokens.size }
    let s := if s.flow == 0 then s.openBlock k.column .blockRecord k.position else s
    some ({ s with keyAllowed := false }.push .value |>.advance 1)
  | none =>
    if s.flow == 0 && !s.keyAllowed then none
    else
      let s := if s.flow == 0 then
          s.openBlock s.cursor.column .blockRecord s.tokens.size
        else s
      let s ← { s with keyAllowed := s.flow == 0 }.dropKey
      some (s.push .value |>.advance 1)

def mark (t : Token) (n : Nat) (s : Scanner) : Scanner := (s.push t).advance n

def outside (s : Scanner) : Option Scanner := do
  let s ← (s.unwind (-1)).dropKey
  some { s with keyAllowed := false }

def opening (t : Token) (s : Scanner) : Option Scanner := do
  let s ← s.openKey
  some (mark t 1 { s with flow := s.flow + 1, keyAllowed := true })

def closing (t : Token) (s : Scanner) : Option Scanner := do
  if s.flow == 0 then none
  else
    let s ← s.dropKey
    some (mark t 1 { s with flow := s.flow - 1, keyAllowed := false })

def anchored (f : String → Token) (s : Scanner) : Option Scanner := do
  let s ← s.openKey
  let (name, c) ← anchorName? s.cursor
  some { s with cursor := c, keyAllowed := false, tokens := s.tokens.push (f name) }

def entryMark (s : Scanner) : Option Scanner :=
  if s.flow == 0 && !s.keyAllowed then none
  else do
    let s := if s.flow == 0 then s.openBlock s.cursor.column .blockList s.tokens.size else s
    let s ← { s with keyAllowed := true }.dropKey
    some (mark .blockEntry 1 s)

def keyMark (s : Scanner) : Option Scanner :=
  if s.flow == 0 && !s.keyAllowed then none
  else do
    let s := if s.flow == 0 then s.openBlock s.cursor.column .blockRecord s.tokens.size else s
    let s ← { s with keyAllowed := s.flow == 0 }.dropKey
    some (mark .key 1 s)

def blockScalar (fold : Bool) (s : Scanner) : Option Scanner := do
  let s ← s.dropKey
  let (text, c) ← blockText? fold s.indent s.cursor
  some { s with
    cursor := c, keyAllowed := true
    tokens := s.tokens.push (.scalar (String.ofList text) false) }

def plainScalar (s : Scanner) : Option Scanner := do
  let s ← s.openKey
  let c := s.cursor
  let (text, c, crossed) := plain (0 < s.flow) s.indent (c.rest.length + 1) [] false c
  some { s with
    cursor := c, keyAllowed := crossed
    tokens := s.tokens.push (.scalar (String.ofList text) true) }

def next (s : Scanner) : Except ReadError Scanner :=
  let c := s.cursor
  match c.rest with
  | [] => .error .malformed
  | d :: rest =>
    if c.column == 0 && d == '%' then do
      let s ← need s.outside
      let (d, c) ← directive c
      .ok { s with cursor := c, tokens := s.tokens.push (.directive d) }
    else if c.column == 0 && c.atMark '-' then need (s.outside.map (mark .documentStart 3))
    else if c.column == 0 && c.atMark '.' then need (s.outside.map (mark .documentEnd 3))
    else if d == '[' then need (s.opening .flowList)
    else if d == '\x7b' then need (s.opening .flowRecord)
    else if d == ']' then need (s.closing .flowListEnd)
    else if d == '\x7d' then need (s.closing .flowRecordEnd)
    else if d == ',' then
      need ({ s with keyAllowed := true }.dropKey.map (mark .flowEntry 1))
    else if d == '-' && atWordEnd rest then need s.entryMark
    else if d == '?' && (0 < s.flow || atWordEnd rest) then need s.keyMark
    else if d == ':' && (0 < s.flow || atWordEnd rest) then need s.valueMark
    else if d == '*' then need (s.anchored .alias)
    else if d == '&' then need (s.anchored .anchor)
    else if d == '!' then do
      let s ← need s.openKey
      let (t, c) ← need (tag? c)
      .ok { s with cursor := c, keyAllowed := false, tokens := s.tokens.push t }
    else if d == '|' && s.flow == 0 then need (s.blockScalar false)
    else if d == '>' && s.flow == 0 then need (s.blockScalar true)
    else if d == '\'' then s.quotedScalar false
    else if d == '"' then s.quotedScalar true
    else if atPlain (0 < s.flow) c.rest then need s.plainScalar
    else .error .malformed

def settle (s : Scanner) : Option Scanner := do
  let (crossed, c) := Cursor.toNext (s.cursor.rest.length + 1) false s.cursor
  let s := { s with cursor := c, keyAllowed := s.keyAllowed || (crossed && s.flow == 0) }
  let s ← s.dropStale
  some (s.unwind c.column)

/-- The tokens that can be told: those in front of the first place where a key may have begun. -/
def told (s : Scanner) : List Token :=
  match s.dropStale with
  | some s =>
    (s.tokens.toList).take (s.openKeys.foldl (fun n (_, k) => min n k.position) s.tokens.size)
  | none => []

def run : (fuel : Nat) → Scanner → List Token × Option ReadError
  | 0, _ => ([], some .malformed)
  | fuel + 1, s =>
    match s.settle with
    | none => (s.told, some .malformed)
    | some inner =>
      if inner.cursor.rest.isEmpty then
        match (inner.unwind (-1)).dropKey with
        | some last => (last.tokens.toList, none)
        | none => (s.told, some .malformed)
      else match inner.next with
        | .ok next => run fuel next
        | .error e => (s.told, some e)

end Scanner

def isAllowed (c : Char) : Bool :=
  let n := c.toNat
  n == 9 || n == 10 || n == 13 || (0x20 ≤ n && n ≤ 0x7e) || n == 0x85 ||
    (0xa0 ≤ n && n ≤ 0xd7ff) || (0xe000 ≤ n && n ≤ 0xfffd) || 0x10000 ≤ n

def scan (s : String) : List Token × Option ReadError :=
  let cs := s.toList
  if cs.all isAllowed then
    let c : Cursor := ⟨cs, 0, 0, 0⟩
    let c := if cs.head? == some '\ufeff' then c.forward else c
    Scanner.run (cs.length + 2) { cursor := c }
  else ([], some .malformed)

end Microdata.Yaml
