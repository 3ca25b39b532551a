set_option autoImplicit false

namespace Microdata.Text

/-- Whether a number lies in one of the closed ranges, which are listed in ascending order. -/
def inRanges (n : Nat) : List (Nat × Nat) → Bool
  | [] => false
  | (a, b) :: rest => if n < a then false else n ≤ b || inRanges n rest

theorem forall_below {bound : Nat} {p : Char → Prop} (h : ∀ n < bound, p (Char.ofNat n)) {c : Char}
    (hc : c.toNat < bound) : p c := by
  have hp := h c.toNat hc
  rwa [Char.ofNat_toNat] at hp

end Microdata.Text
