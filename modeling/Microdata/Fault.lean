import Microdata.Text.Quoted
set_option autoImplicit false

namespace Microdata

inductive Fault where
  | integerTooLarge
  | keyKind (kind : String)
  | noJson (kind : String)
  | unhashable (kind : String)
  /-- A section of markup that does not begin with a word; the text of its beginning. -/
  | sectionName (text : String)
  | sectionWord (word : String)
  /-- A location with a bracket that has no partner, or with something beside its brackets. -/
  | bracketedHost
  | shortHost
  | futureHost
  | unknownHost (host : String)
  /-- A location with a disguised separator in its authority. -/
  | disguisedAuthority (authority : String)
  | elementCount (count : Nat)
  | openBrace
  | unknownSetting (name : String)
  | emptySeparator
  | badNumeral (text : String) (base : Nat := 10)
  | badDecimal (text : String)
  | numeralTooLong (count : Nat)
  | calendar (part : String)
  | integerTooLong
  | emptyText
  | unknownWord (word : String)
  | noTimestamp
  | timestampKind
  | codeTooLarge
  /-- A code that does not even fit the integers of codes. -/
  | codeOutOfRange
  | noLength (kind : String)
  /-- A new value at a position of something whose values stay as they are. -/
  | fixedItems (kind : String)
  | fixedLength (kind : String)
  /-- Something nested too deeply to be worked through. -/
  | tooDeep
  | emptyMarker
  /-- A setter that no instance can be made of. -/
  | noInstance (reason : String)
  deriving DecidableEq, Repr

def Fault.message : Fault → String
  | integerTooLarge => "int too large to convert to float"
  | keyKind kind => "keys must be str, int, float, bool or None, not " ++ kind
  | noJson kind => "Object of type " ++ kind ++ " is not JSON serializable"
  | unhashable kind => "unhashable type: '" ++ kind ++ "'"
  | sectionName text => "expected name token at " ++ Text.quoted text
  | sectionWord word => "unknown status keyword " ++ Text.quoted word ++ " in marked section"
  | bracketedHost => "Invalid IPv6 URL"
  | shortHost => "An IPv4 address cannot be in brackets"
  | futureHost => "IPvFuture address is invalid"
  | unknownHost host => Text.quoted host ++ " does not appear to be an IPv4 or IPv6 address"
  | disguisedAuthority authority =>
    "netloc '" ++ authority ++ "' contains invalid characters under NFKC normalization"
  | elementCount count =>
    "expected exactly one top-level element, found " ++ toString count
  | openBrace => "not enough values to unpack (expected 2, got 1)"
  | unknownSetting name =>
    "EngineConfig.__init__() got an unexpected keyword argument '" ++ name ++ "'"
  | emptySeparator => "empty separator"
  | badNumeral text base =>
    "invalid literal for int() with base " ++ toString base ++ ": " ++
      String.ofList ((Text.quoted text).toList.take 200)
  | badDecimal text => "could not convert string to float: " ++ Text.quoted text
  | numeralTooLong count =>
    "Exceeds the limit (4300 digits) for integer string conversion: value has " ++
      toString count ++ " digits; use sys.set_int_max_str_digits() to increase the limit"
  | calendar part => part
  | integerTooLong =>
    "Exceeds the limit (4300 digits) for integer string conversion; " ++
      "use sys.set_int_max_str_digits() to increase the limit"
  | emptyText => "string index out of range"
  | unknownWord word => word
  | noTimestamp => "'NoneType' object has no attribute 'groupdict'"
  | timestampKind => "expected string or bytes-like object, got 'list'"
  | codeTooLarge => "chr() arg not in range(0x110000)"
  | codeOutOfRange => "Python int too large to convert to C int"
  | noLength kind => "object of type '" ++ kind ++ "' has no len()"
  | fixedItems kind => "'" ++ kind ++ "' object does not support item assignment"
  | fixedLength kind => "'" ++ kind ++ "' object has no attribute 'append'"
  | tooDeep => ""
  | emptyMarker => "reference marker must not be empty"
  | noInstance reason => reason

theorem mapError_eq_ok {ε δ α : Type} {x : Except ε α} {f : ε → δ} {a : α} :
    x.mapError f = .ok a ↔ x = .ok a := by
  cases x with
  | error e => exact ⟨nofun, nofun⟩
  | ok b =>
    constructor
    · rintro ⟨⟩
      rfl
    · rintro ⟨⟩
      rfl

theorem bind_eq_ok {ε α β : Type} {x : Except ε α} {f : α → Except ε β} {b : β} :
    (x >>= f) = .ok b ↔ ∃ a, x = .ok a ∧ f a = .ok b := by
  cases x <;> simp [bind, Except.bind]

theorem map_eq_ok {ε α β : Type} {x : Except ε α} {f : α → β} {b : β} :
    x.map f = .ok b ↔ ∃ a, x = .ok a ∧ f a = b := by
  cases x <;> simp [Except.map]

theorem exists_map_eq_ok_iff {ε α β : Type} {x : Except ε α} {f : α → β} :
    (∃ b, x.map f = .ok b) ↔ ∃ a, x = .ok a := by
  cases x <;> simp [Except.map]

/-- What is made of two results is there exactly if both are. -/
theorem exists_both_eq_ok_iff {ε α β γ : Type} {x : Except ε α} {y : Except ε β}
    {f : α → β → γ} :
    (∃ c, (x >>= fun a => y >>= fun b => .ok (f a b)) = .ok c) ↔
      (∃ a, x = .ok a) ∧ ∃ b, y = .ok b := by
  cases x <;> cases y <;> simp [bind, Except.bind]

theorem exists_of_toOption_map {ε α β : Type} {x : Except ε α} {f : α → β} {b : β}
    (h : x.toOption.map f = some b) : ∃ a, x = .ok a ∧ f a = b := by
  cases x with
  | error e => cases h
  | ok a => exact ⟨a, rfl, Option.some.inj h⟩

end Microdata
