/-!
Sets of characters written as inclusive ranges of code points, the form in which
character properties are tabulated.
-/

namespace NodeHistory.Text

abbrev CharRanges := List (Nat × Nat)

def CharRanges.covers (ranges : CharRanges) (c : Char) : Bool :=
  ranges.any fun range => range.1 ≤ c.toNat && c.toNat ≤ range.2

theorem CharRanges.covers_iff {ranges : CharRanges} {c : Char} :
    ranges.covers c = true ↔ ∃ range ∈ ranges, range.1 ≤ c.toNat ∧ c.toNat ≤ range.2 := by
  simp [CharRanges.covers]

end NodeHistory.Text
