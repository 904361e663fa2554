/-!
# Sets of characters given by ranges of codes

Properties of the character standard are tables of ranges. `inRanges` reads such a table, and
`inRanges_iff` says what it decides.
-/

set_option autoImplicit false

namespace EmulatorScout.Text

/-- Whether the code of a character lies in one of the given ranges, ends included. -/
def inRanges (table : List (Nat × Nat)) (c : Char) : Bool :=
  table.any fun range => range.1 ≤ c.toNat && c.toNat ≤ range.2

theorem inRanges_iff {table : List (Nat × Nat)} {c : Char} :
    inRanges table c = true ↔ ∃ range ∈ table, range.1 ≤ c.toNat ∧ c.toNat ≤ range.2 := by
  simp [inRanges]

end EmulatorScout.Text
