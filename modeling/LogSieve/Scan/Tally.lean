/-!
# Counting lines

What a scan counts. Every line read either gives a record or is skipped, and only lines with a
record can be selected; both are laws of counting (`Tally.WellFormed`), kept by every step and by
adding tallies.
-/

namespace LogSieve

/-- What becomes of a line. -/
inductive LineFate where
  /-- The line gives no record. -/
  | skipped
  /-- The line gives a record that is not selected. -/
  | passed
  /-- The line is selected. -/
  | selected
  deriving DecidableEq, Repr

/-- The counts of a scan. -/
structure Tally where
  /-- All lines. -/
  read : Nat := 0
  /-- Lines with a record. -/
  parsed : Nat := 0
  /-- Lines without a record. -/
  skipped : Nat := 0
  /-- Selected lines. -/
  matched : Nat := 0
  deriving DecidableEq, Repr

namespace Tally

/-- The sum of two tallies. -/
def add (x y : Tally) : Tally where
  read := x.read + y.read
  parsed := x.parsed + y.parsed
  skipped := x.skipped + y.skipped
  matched := x.matched + y.matched

/-- The tally after one more line. -/
def count (tally : Tally) : LineFate → Tally
  | .skipped => { tally with read := tally.read + 1, skipped := tally.skipped + 1 }
  | .passed => { tally with read := tally.read + 1, parsed := tally.parsed + 1 }
  | .selected =>
    { tally with
      read := tally.read + 1, parsed := tally.parsed + 1, matched := tally.matched + 1 }

/-- Every line is parsed or skipped, and only parsed lines are matched. -/
structure WellFormed (tally : Tally) : Prop where
  /-- No line is lost. -/
  read_eq : tally.read = tally.parsed + tally.skipped
  /-- Only lines with a record are selected. -/
  matched_le : tally.matched ≤ tally.parsed

theorem WellFormed.count {tally : Tally} (h : tally.WellFormed) (fate : LineFate) :
    (tally.count fate).WellFormed := by
  obtain ⟨h₁, h₂⟩ := h
  cases fate <;> constructor <;> simp only [Tally.count] <;> omega

theorem WellFormed.add {x y : Tally} (hx : x.WellFormed) (hy : y.WellFormed) :
    (x.add y).WellFormed := by
  obtain ⟨hx₁, hx₂⟩ := hx
  obtain ⟨hy₁, hy₂⟩ := hy
  constructor <;> simp only [Tally.add] <;> omega

end Tally

end LogSieve
