set_option autoImplicit false

namespace Microdata.Text

def isBlank (c : Char) : Bool :=
  let n := c.toNat
  n == 32 || (9 ≤ n && n ≤ 13) || (28 ≤ n && n ≤ 31) || n == 0x85 || n == 0xA0 || n == 0x1680 ||
    (0x2000 ≤ n && n ≤ 0x200A) || n == 0x2028 || n == 0x2029 || n == 0x202F || n == 0x205F ||
    n == 0x3000

/-- The blanks that may stand around a number: all but the information separators. -/
def isMargin (c : Char) : Bool := isBlank c && !(28 ≤ c.toNat && c.toNat ≤ 31)

def trim (drop : Char → Bool) (cs : List Char) : List Char :=
  ((cs.dropWhile drop).reverse.dropWhile drop).reverse

def strip (s : String) : String :=
  String.ofList (trim isBlank s.toList)

/-- The maximal runs of characters that do not satisfy `gap`; `run` holds the one being read. -/
def runs (gap : Char → Bool) (run : List Char) : List Char → List (List Char)
  | [] => if run.isEmpty then [] else [run]
  | c :: rest =>
    if gap c then
      if run.isEmpty then runs gap [] rest else run :: runs gap [] rest
    else runs gap (run ++ [c]) rest

def words (s : String) : List String :=
  (runs isBlank [] s.toList).map String.ofList

theorem isBlank_of_graphic {c : Char} (h : 33 ≤ c.toNat ∧ c.toNat ≤ 126) : isBlank c = false := by
  simp [isBlank]
  omega

theorem runs_of_forall {gap : Char → Bool} (run : List Char) {cs : List Char}
    (h : ∀ c ∈ cs, gap c = false) :
    runs gap run cs = if (run ++ cs).isEmpty then [] else [run ++ cs] := by
  induction cs generalizing run with
  | nil => simp [runs]
  | cons c cs ih =>
    have hc := h c (by simp)
    have hcs := ih (run ++ [c]) fun d hd => h d (by simp [hd])
    simp [runs, hc, hcs]

theorem words_of_forall {s : String} (hs : s ≠ "") (h : ∀ c ∈ s.toList, isBlank c = false) :
    words s = [s] := by
  simp [words, runs_of_forall [] h, hs]

theorem trim_of_ends {drop : Char → Bool} {cs : List Char}
    (hhead : ∀ c ∈ cs.head?, drop c = false) (hlast : ∀ c ∈ cs.getLast?, drop c = false) :
    trim drop cs = cs := by
  have hid : ∀ l : List Char, (∀ c ∈ l.head?, drop c = false) → l.dropWhile drop = l := by
    intro l hl
    cases l with
    | nil => rfl
    | cons c l => rw [List.dropWhile_cons_of_neg (by simp [hl c rfl])]
  rw [trim, hid cs hhead, hid _ (by rwa [List.head?_reverse]), List.reverse_reverse]

theorem trim_of_forall {drop : Char → Bool} {cs : List Char} (h : ∀ c ∈ cs, drop c = false) :
    trim drop cs = cs :=
  trim_of_ends (fun c hc => h c (List.mem_of_head? hc)) fun c hc => h c (List.mem_of_getLast? hc)

end Microdata.Text
