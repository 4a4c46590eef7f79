import LogSieve.Text.Basic

/-!
# Sets of characters as ranges of code points

A Unicode property is written as the list of the ranges of code points that have it, in ascending
order. `Ranges.has` is membership, and `Ranges.has_iff` reads it as "some range holds the code
point", which is all that a proof about a table needs.
-/

namespace LogSieve

/-- Inclusive ranges of code points. -/
abbrev Ranges := List (Nat × Nat)

namespace Ranges

/-- Whether the character's code point lies in one of the ranges. -/
def has (ranges : Ranges) (c : Char) : Bool :=
  ranges.any fun range => range.1 ≤ c.toNat && c.toNat ≤ range.2

theorem has_iff {ranges : Ranges} {c : Char} :
    ranges.has c = true ↔ ∃ range ∈ ranges, range.1 ≤ c.toNat ∧ c.toNat ≤ range.2 := by
  simp [has]

end Ranges

end LogSieve
