/-!
# Ranges of characters

A set of characters given by closed ranges of code points, which is how the
properties of characters are tabulated (`Text.isBlank`, `Text.isAlphabetic`,
`Text.isMasked`).
-/

namespace ScriptLayout.Text

/-- A set of characters, as the closed ranges of their code points. -/
abbrev Ranges := List (Nat × Nat)

/-- Whether the code point of a character lies in one of the ranges. -/
def Ranges.contains (ranges : Ranges) (c : Char) : Bool :=
  ranges.any fun range => range.1 ≤ c.toNat && c.toNat ≤ range.2

theorem Ranges.contains_iff {ranges : Ranges} {c : Char} :
    ranges.contains c ↔ ∃ range ∈ ranges, range.1 ≤ c.toNat ∧ c.toNat ≤ range.2 := by
  simp [contains]

end ScriptLayout.Text
