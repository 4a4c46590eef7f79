import LogSieve.Filter.Token
import LogSieve.Text.Blank

/-!
# How the classes of characters lie to each other

The lexer of the filter language decides by the first character what stands before it, so its
classes of characters must not overlap where it matters: no character of a word is blank
(`isBlank_eq_false_of_isWordChar`), and every digit can stand in a word
(`isWordChar_of_isDigit`). The punctuation is in none of the classes.

Both classes are tables of ranges of code points. `Ranges.disjointFrom` compares two tables range
by range, and `Ranges.has_eq_false_of_disjointFrom` reads the comparison as a fact about
characters, so that the tables are gone through once and by evaluation.
-/

namespace LogSieve

namespace Ranges

/-- Whether no range of one table meets a range of the other. -/
def disjointFrom (xs ys : Ranges) : Bool :=
  xs.all fun x => ys.all fun y => x.2 < y.1 || y.2 < x.1

theorem has_eq_false_of_disjointFrom {xs ys : Ranges} (h : xs.disjointFrom ys = true)
    {c : Char} (hc : xs.has c = true) : ys.has c = false := by
  rw [Bool.eq_false_iff]
  intro hc'
  rw [has_iff] at hc hc'
  obtain ⟨x, hx, hx₁, hx₂⟩ := hc
  obtain ⟨y, hy, hy₁, hy₂⟩ := hc'
  simp only [disjointFrom, List.all_eq_true, Bool.or_eq_true, decide_eq_true_eq] at h
  -- the code point would lie in both ranges
  rcases h x hx y hy with h | h <;> omega

end Ranges

/-! ### Blanks, digits and words -/

/-- No character of a word is in a table that the letters and digits, the underscore and the dot do
not meet. -/
theorem has_eq_false_of_isWordChar {ranges : Ranges}
    (halphanumeric : ranges.disjointFrom Text.alphanumericRanges = true)
    (hother : ranges.has '_' = false ∧ ranges.has '.' = false) {c : Char}
    (h : isWordChar c = true) : ranges.has c = false := by
  unfold isWordChar at h
  simp only [Bool.or_eq_true, decide_eq_true_eq] at h
  -- a letter or a digit, the underscore or the dot
  rcases h with (h | rfl) | rfl
  · rw [Bool.eq_false_iff]
    intro hc
    have halpha : Text.alphanumericRanges.has c = true := h
    rw [Ranges.has_eq_false_of_disjointFrom halphanumeric hc] at halpha
    cases halpha
  · exact hother.1
  · exact hother.2

theorem isBlank_eq_false_of_isWordChar {c : Char} (h : isWordChar c = true) :
    Text.isBlank c = false := by
  have halphanumeric : Text.blankRanges.disjointFrom Text.alphanumericRanges = true := by
    decide +kernel
  exact has_eq_false_of_isWordChar halphanumeric (by decide) h

/-- The characters of ASCII that stand in no word: all but letters, digits, the underscore and the
dot. -/
def asciiSigns : Ranges :=
  [(0x0, 0x2D), (0x2F, 0x2F), (0x3A, 0x40), (0x5B, 0x5E), (0x60, 0x60), (0x7B, 0x7F)]

theorem has_asciiSigns_eq_false {c : Char} (h : isWordChar c = true) :
    asciiSigns.has c = false := by
  have halphanumeric : asciiSigns.disjointFrom Text.alphanumericRanges = true := by
    decide +kernel
  exact has_eq_false_of_isWordChar halphanumeric (by decide) h

theorem isWordChar_eq_false_of_ascii {c : Char} (h : asciiSigns.has c = true) :
    isWordChar c = false := by
  rw [Bool.eq_false_iff]
  intro hword
  rw [has_asciiSigns_eq_false hword] at h
  cases h

/-- No character of a word is a sign of ASCII. -/
theorem ne_of_isWordChar {c sign : Char} (h : isWordChar c = true)
    (hsign : asciiSigns.has sign = true) : c ≠ sign := by
  rintro rfl
  rw [has_asciiSigns_eq_false h] at hsign
  cases hsign

/-- No character of a word is a control character of ASCII. -/
theorem le_toNat_of_isWordChar {c : Char} (h : isWordChar c = true) : 0x20 ≤ c.toNat := by
  rw [Nat.le_iff_lt_add_one, ← Nat.not_le]
  intro hle
  have hhas : asciiSigns.has c = true :=
    Ranges.has_iff.mpr ⟨_, List.mem_cons_self, Nat.zero_le _, by omega⟩
  rw [has_asciiSigns_eq_false h] at hhas
  cases hhas

theorem isWordChar_of_isDigit {c : Char} (h : Text.isDigit c = true) : isWordChar c = true := by
  have hmem : ((0x30, 0x39) : Nat × Nat) ∈ Text.alphanumericRanges := List.mem_cons_self
  have halnum : Text.isAlphanumeric c = true := by
    refine Ranges.has_iff.mpr ⟨_, hmem, ?_⟩
    simp only [Text.isDigit, Bool.and_eq_true, decide_eq_true_eq, Char.le_def,
      UInt32.le_iff_toNat_le] at h
    exact h
  simp [isWordChar, halnum]

theorem isBlank_eq_false_of_isDigit {c : Char} (h : Text.isDigit c = true) :
    Text.isBlank c = false :=
  isBlank_eq_false_of_isWordChar (isWordChar_of_isDigit h)

/-! ### Punctuation -/

@[simp] theorem isBlank_space : Text.isBlank ' ' = true := by decide

@[simp] theorem isBlank_openParen : Text.isBlank '(' = false := by decide

@[simp] theorem isBlank_closeParen : Text.isBlank ')' = false := by decide

@[simp] theorem isBlank_equals : Text.isBlank '=' = false := by decide

@[simp] theorem isWordChar_space : isWordChar ' ' = false :=
  isWordChar_eq_false_of_ascii (by decide)

@[simp] theorem isWordChar_openParen : isWordChar '(' = false :=
  isWordChar_eq_false_of_ascii (by decide)

@[simp] theorem isWordChar_closeParen : isWordChar ')' = false :=
  isWordChar_eq_false_of_ascii (by decide)

@[simp] theorem isWordChar_equals : isWordChar '=' = false :=
  isWordChar_eq_false_of_ascii (by decide)

end LogSieve
