/-!
# Ranges of code points

* `isInRanges` — a character lies in one of some ranges, which are given by their first and last code
  points.
-/

namespace ModContracts.Text

/-- Whether a character lies in one of some ranges. -/
def isInRanges (ranges : List (Nat × Nat)) (c : Char) : Bool :=
  ranges.any fun (low, high) => low ≤ c.toNat && c.toNat ≤ high

theorem isInRanges_eq_false {ranges : List (Nat × Nat)} {c : Char}
    (h : ∀ r ∈ ranges, c.toNat < r.1) : isInRanges ranges c = false := by
  simp only [isInRanges, List.any_eq_false, Bool.and_eq_true, decide_eq_true_eq]
  intro r hr hc
  exact Nat.not_lt.2 hc.1 (h r hr)

end ModContracts.Text
