import LogSieve.Json.Writer
import LogSieve.Filter.Verdict
import LogSieve.Proofs.Number.Compared
import LogSieve.Record.Scalar

/-!
# Numerals that keep their text

A word of a log line that is written as a number is kept as that number, and a filter compares it by
the text that the number is printed with. `Numeral.Stable` says for which numerals this is the text
that was written, without mentioning how a number is read or printed, but for the one question
which floating-point number is nearest. `equals_string_coerce_iff` is the equivalence.

What a numeral looks like is said first (`numeral?_eq_some_iff`), so that the rest is about numerals
and not about texts.
-/

namespace LogSieve.Scalar

open Text

/-! ### What a numeral looks like -/

theorem isDigits_iff {text : Text} : isDigits text = true ↔ AllDigits text ∧ text ≠ [] := by
  unfold isDigits AllDigits
  rw [Bool.and_eq_true, List.all_eq_true, Bool.not_eq_true', List.isEmpty_eq_false_iff]
  exact and_comm

namespace Numeral

/-- The text of a numeral. -/
def text (numeral : Numeral) : Text :=
  (if numeral.negative then ['-'] else []) ++
    (numeral.whole ++ numeral.fraction.elim [] ('.' :: ·))

/-- There are digits before the point, and behind it if there is one. -/
structure WellFormed (numeral : Numeral) : Prop where
  /-- The digits before the point. -/
  whole : AllDigits numeral.whole ∧ numeral.whole ≠ []
  /-- The digits behind the point. -/
  fraction : ∀ digits ∈ numeral.fraction, AllDigits digits ∧ digits ≠ []

/-- All digits as one number. -/
def digits (numeral : Numeral) : Nat :=
  numeralValue (numeral.whole ++ numeral.fraction.getD [])

/-- The number of places behind the point. -/
def places (numeral : Numeral) : Nat :=
  (numeral.fraction.getD []).length

/-- The magnitude that is written. -/
def magnitude (numeral : Numeral) : ℚ :=
  numeral.digits / 10 ^ numeral.places

end Numeral

theorem point_notMem {digits : Text} (h : AllDigits digits) : '.' ∉ digits := fun hmem =>
  absurd (h '.' hmem) (by decide)

/-- A numeral's sign is read off its text. -/
theorem readSign_text {numeral : Numeral} (h : numeral.WellFormed) :
    readSign numeral.text =
      (numeral.negative, numeral.whole ++ numeral.fraction.elim [] ('.' :: ·)) := by
  obtain ⟨negative, whole, fraction⟩ := numeral
  obtain ⟨hdigits, hne⟩ := h.whole
  cases negative with
  | true => rfl
  | false =>
    cases whole with
    | nil => exact absurd rfl hne
    | cons c rest =>
      have hc : c ≠ '-' := by
        rintro rfl
        exact absurd (hdigits '-' List.mem_cons_self) (by decide)
      simp only [Numeral.text, Bool.false_eq_true, if_false, List.nil_append, List.cons_append]
      unfold readSign
      split
      · next heq => exact absurd (List.cons.inj heq).1 hc
      · rfl

/-- The sign and what follows it make up the text. -/
theorem sign_append_readSign (text : Text) :
    (if (readSign text).1 then ['-'] else []) ++ (readSign text).2 = text := by
  unfold readSign
  split
  · rfl
  · rfl

/-- **Numerals are read by their form.** -/
theorem numeral?_eq_some_iff {text : Text} {numeral : Numeral} :
    numeral? text = some numeral ↔ numeral.WellFormed ∧ numeral.text = text := by
  constructor
  · intro h
    have hsign := sign_append_readSign text
    unfold numeral? at h
    generalize readSign text = read at h hsign
    obtain ⟨negative, body⟩ := read
    simp only at h hsign
    -- putting the pieces between the points together again undoes the splitting
    have hbody : ['.'].intercalate (body.splitOn '.') = body := List.intercalate_splitOn '.'
    split at h
    · next whole hsplit =>
      split at h
      · next hdigits =>
        obtain rfl := Option.some.inj h
        rw [hsplit] at hbody
        refine ⟨⟨isDigits_iff.mp hdigits, fun _ h => nomatch h⟩, ?_⟩
        rw [← hsign, ← hbody]
        simp [Numeral.text]
      · cases h
    · next whole fraction hsplit =>
      split at h
      · next hdigits =>
        obtain rfl := Option.some.inj h
        rw [Bool.and_eq_true] at hdigits
        rw [hsplit] at hbody
        refine ⟨⟨isDigits_iff.mp hdigits.1, ?_⟩, ?_⟩
        · rintro digits ⟨⟩
          exact isDigits_iff.mp hdigits.2
        · rw [← hsign, ← hbody]
          simp [Numeral.text]
      · cases h
    · cases h
  · rintro ⟨h, rfl⟩
    unfold numeral?
    rw [readSign_text h]
    obtain ⟨negative, whole, fraction⟩ := numeral
    have hwhole := isDigits_iff.mpr h.whole
    -- digits hold no point, so the text is split at its own point and nowhere else
    have hpoint := point_notMem h.whole.1
    cases fraction with
    | none =>
      simp only [Option.elim_none, List.append_nil, List.splitOn_eq_singleton hpoint]
      rw [if_pos hwhole]
    | some fraction =>
      have hfraction := h.fraction fraction rfl
      simp only [Option.elim_some, List.splitOn_append_cons_self_of_not_mem hpoint,
        List.splitOn_eq_singleton (point_notMem hfraction.1)]
      rw [if_pos (by rw [hwhole, isDigits_iff.mpr hfraction]; rfl)]

/-! ### Numerals that keep their text -/

/-- Whether a numeral without a point fits into 64 bits. -/
def Numeral.Fits (numeral : Numeral) : Prop :=
  if numeral.negative then numeral.digits ≤ Nat.pow 2 63 else numeral.digits < Nat.pow 2 64

/-- **Which numerals are printed as they are written.** -/
inductive Numeral.Stable (numeral : Numeral) : Prop where
  /-- What is too large for a floating-point number stays a text. -/
  | tooLarge (hlarge : Binary64.overflow ≤ numeral.magnitude)
  /-- Without a point, there is no needless zero in front and no sign in front of a zero, and the
  number fits into 64 bits, or it is below `10 ^ 21` and a floating-point number. -/
  | whole (hfraction : numeral.fraction = none) (hzero : ¬LeadingZero numeral.whole)
      (hsign : ¬(numeral.negative = true ∧ numeral.digits = 0))
      (hexact : numeral.Fits ∨
        numeral.digits < Nat.pow 10 21 ∧ ∃ x : Binary64, x.magnitude = numeral.digits)
  /-- With a point, there is no needless zero in front, the number is not below a
  hundred-thousandth, and of the decimals with the same nearest floating-point number `x` it has
  the fewest places and, among those with as many places, is the nearest to `x`, or as near as
  another one with an even last digit. -/
  | point (x : Binary64) (hfraction : numeral.fraction ≠ none) (hzero : ¬LeadingZero numeral.whole)
      (hsmall : 1 / 10 ^ 5 ≤ numeral.magnitude) (hread : numeral.binary? = some x)
      (hshortest : ∀ digits places : Nat,
        Binary64.ofDecimal? numeral.negative digits (-places) = some x → numeral.places ≤ places)
      (hnearest : ∀ digits : Nat,
        Binary64.ofDecimal? numeral.negative digits (-numeral.places) = some x →
        digits ≠ numeral.digits →
        |x.magnitude - numeral.magnitude| < |x.magnitude - digits / 10 ^ numeral.places| ∨
          |x.magnitude - numeral.magnitude| = |x.magnitude - digits / 10 ^ numeral.places| ∧
            numeral.digits % 2 = 0)

namespace Numeral

variable {numeral : Numeral}

theorem magnitude_eq (numeral : Numeral) :
    numeral.magnitude = numeral.digits * 10 ^ (-numeral.places : ℤ) := by
  rw [magnitude, zpow_neg, zpow_natCast, div_eq_mul_inv]

theorem binary?_eq (numeral : Numeral) :
    numeral.binary? =
      Binary64.ofDecimal? numeral.negative numeral.digits (-numeral.places) := rfl

theorem whole?_eq_some_iff {value : Int} :
    numeral.whole? = some value ↔ numeral.fraction = none ∧ numeral.Fits ∧
      value = if numeral.negative then -(numeral.digits : Int) else numeral.digits := by
  obtain ⟨negative, whole, fraction⟩ := numeral
  unfold whole? Fits digits
  cases fraction with
  | some fraction => simp
  | none =>
    simp only [Option.isSome_none, Bool.false_eq_true, if_false, Option.getD_none, List.append_nil,
      true_and]
    cases negative with
    | true =>
      simp only [if_true, Option.ite_none_right_eq_some, Option.some.injEq]
      rw [eq_comm (a := value)]
    | false =>
      simp only [Bool.false_eq_true, if_false, Option.ite_none_right_eq_some, Option.some.injEq]
      rw [eq_comm (a := value)]

/-- A numeral that fits into 64 bits is not too large. -/
theorem Fits.magnitude_lt (h : numeral.Fits) (hfraction : numeral.fraction = none) :
    numeral.magnitude < Binary64.overflow := by
  have hlt : numeral.digits < Nat.pow 2 64 := by
    unfold Fits at h
    split at h
    · exact h.trans_lt (by decide)
    · exact h
  have hplaces : numeral.places = 0 := by rw [places, hfraction]; rfl
  have hltQ : (numeral.digits : ℚ) < (Nat.pow 2 64 : Nat) := Nat.cast_lt.mpr hlt
  -- the largest place is far above, and the power of two is not to be computed
  have hpow : ((Nat.pow 2 64 : Nat) : ℚ) ≤ 2 ^ 52 * 2 ^ (971 : ℤ) := by
    have hstep : (2 : ℚ) ^ (12 : ℤ) ≤ 2 ^ (971 : ℤ) := zpow_le_zpow_right₀ one_le_two (by norm_num)
    calc ((Nat.pow 2 64 : Nat) : ℚ) = 2 ^ 52 * 2 ^ (12 : ℤ) := by norm_num
      _ ≤ 2 ^ 52 * 2 ^ (971 : ℤ) := mul_le_mul_of_nonneg_left hstep (by norm_num)
  rw [magnitude, hplaces, pow_zero, div_one, Binary64.overflow]
  generalize (2 : ℚ) ^ (971 : ℤ) = place at *
  linarith

/-- Whole numbers print as they are written but for needless zeros and the sign of zero. -/
theorem wholeText_eq_text_iff (h : numeral.WellFormed) (hfraction : numeral.fraction = none) :
    Number.wholeText (if numeral.negative then -(numeral.digits : Int) else numeral.digits) =
        numeral.text ↔
      ¬LeadingZero numeral.whole ∧ ¬(numeral.negative = true ∧ numeral.digits = 0) := by
  have hdigits : numeral.digits = numeralValue numeral.whole := by
    rw [digits, hfraction, Option.getD_none, List.append_nil]
  -- the one sign that the integer loses is that of zero
  have hsign : (if (if numeral.negative then -(numeral.digits : Int) else numeral.digits) < 0
        then ['-'] else []) =
      (if numeral.negative && numeral.digits ≠ 0 then ['-'] else [] : Text) := by
    cases numeral.negative with
    | true =>
      simp only [if_true, Bool.true_and, decide_eq_true_eq]
      by_cases hzero : numeral.digits = 0
      · simp [hzero]
      · rw [if_pos (by omega), if_pos hzero]
    | false =>
      simp only [Bool.false_eq_true, if_false, Bool.false_and]
      rw [if_neg (by omega)]
  have habs : (if numeral.negative then -(numeral.digits : Int) else numeral.digits).natAbs =
      numeral.digits := by
    split
    · rw [Int.natAbs_neg, Int.natAbs_natCast]
    · rw [Int.natAbs_natCast]
  have htext : numeral.text = (if numeral.negative then ['-'] else []) ++ numeral.whole := by
    rw [text, hfraction, Option.elim_none, List.append_nil]
  rw [Number.wholeText, hsign, habs, htext,
    signed_numeral_eq_iff h.whole.1 h.whole.2 numeral.negative, hdigits]
  constructor
  · rintro ⟨hzero, -, hminus⟩
    exact ⟨hzero, hminus⟩
  · rintro ⟨hzero, hminus⟩
    exact ⟨hzero, rfl, hminus⟩

/-- What is read is the number in whose basin the magnitude lies that is written. -/
theorem binary?_eq_some_iff {x : Binary64} :
    numeral.binary? = some x ↔
      x.negative = numeral.negative ∧ x.basin.Holds numeral.magnitude := by
  rw [binary?_eq, Binary64.ofDecimal?_eq_some_iff, ← magnitude_eq]

/-- A numeral that fits into 64 bits keeps its text if nothing in it is needless. -/
theorem comparedText_whole_eq_text_iff (h : numeral.WellFormed) {value : Int}
    (hwhole : numeral.whole? = some value) :
    (Number.whole value).comparedText = numeral.text ↔ numeral.Stable := by
  obtain ⟨hfraction, hfits, rfl⟩ := whole?_eq_some_iff.mp hwhole
  rw [Number.comparedText, wholeText_eq_text_iff h hfraction]
  constructor
  · rintro ⟨hzero, hsign⟩
    exact .whole hfraction hzero hsign (.inl hfits)
  · intro hstable
    cases hstable with
    | tooLarge hlarge => exact absurd hlarge (hfits.magnitude_lt hfraction).not_ge
    | whole _ hzero hsign _ => exact ⟨hzero, hsign⟩
    | point _ hpoint _ _ _ _ _ => exact absurd hfraction hpoint

/-- A numeral without a point that does not fit into 64 bits is read as a floating-point number. It
keeps its text if moreover that number is what was written, and is printed without an exponent. -/
theorem comparedText_binary_eq_text_iff_of_no_point (h : numeral.WellFormed)
    (hfraction : numeral.fraction = none) (hwhole : numeral.whole? = none) {x : Binary64}
    (hread : numeral.binary? = some x) :
    (Number.binary x).comparedText = numeral.text ↔ numeral.Stable := by
  obtain ⟨hnegative, hholds⟩ := binary?_eq_some_iff.mp hread
  have hdigits : numeralValue numeral.whole = numeral.digits := by
    rw [digits, hfraction, Option.getD_none, List.append_nil]
  have hmagnitude : numeral.magnitude = numeral.digits := by
    rw [magnitude, places, hfraction, Option.getD_none, List.length_nil, pow_zero, div_one]
  have htext : numeral.text = (if x.negative then ['-'] else []) ++ numeral.whole := by
    rw [text, hfraction, Option.elim_none, List.append_nil, hnegative]
  rw [htext, Number.comparedText_binary_eq_whole_iff h.whole.1 h.whole.2, hdigits, hnegative]
  constructor
  · rintro ⟨hzero, hlt, hexact, hsign⟩
    exact .whole hfraction hzero hsign (.inr ⟨hlt, x, hexact⟩)
  · intro hstable
    cases hstable with
    | tooLarge hlarge => exact absurd hlarge hholds.lt_overflow.not_ge
    | whole _ hzero hsign hexact =>
      rcases hexact with hfits | ⟨hlt, y, hy⟩
      · -- with 64 bits it would have been read as an integer
        rw [whole?_eq_some_iff.mpr ⟨hfraction, hfits, rfl⟩] at hwhole
        cases hwhole
      · -- `y` is the number that is written, so that it is the nearest one
        have hself : y.basin.Holds numeral.magnitude := by
          rw [hmagnitude, ← hy]
          exact y.holds_magnitude
        obtain ⟨hsignificand, hexponent⟩ := hholds.unique hself
        refine ⟨hzero, hlt, ?_, hsign⟩
        rw [← hy, Binary64.magnitude, Binary64.magnitude, hsignificand, hexponent]
    | point _ hpoint _ _ _ _ _ => exact absurd hfraction hpoint

/-- A numeral with a point is read as a floating-point number. It keeps its text if these are the
digits that the number is printed with, as many and as large. -/
theorem comparedText_binary_eq_text_iff_of_point (h : numeral.WellFormed) {fraction : Text}
    (hfraction : numeral.fraction = some fraction) {x : Binary64}
    (hread : numeral.binary? = some x) :
    (Number.binary x).comparedText = numeral.text ↔ numeral.Stable := by
  obtain ⟨hnegative, hholds⟩ := binary?_eq_some_iff.mp hread
  rw [binary?_eq] at hread
  obtain ⟨hdigits, hne⟩ := h.fraction fraction hfraction
  have hnotNone : numeral.fraction ≠ none := by
    rw [hfraction]
    exact Option.some_ne_none fraction
  -- the parts of the numeral in the words of the lemma on what is printed
  have htext : numeral.text =
      (if x.negative then ['-'] else []) ++ (numeral.whole ++ '.' :: fraction) := by
    rw [text, hfraction, Option.elim_some, hnegative]
  have hvalue : numeralValue (numeral.whole ++ fraction) = numeral.digits := by
    rw [digits, hfraction, Option.getD_some]
  have hplaces : fraction.length = numeral.places := by
    rw [places, hfraction, Option.getD_some]
  have hpositive : 0 < numeral.places := hplaces ▸ List.length_pos_iff.mpr hne
  have hsmall : (10 : ℚ) ^ (-5 : ℤ) = 1 / 10 ^ 5 := by norm_num
  rw [htext, Number.comparedText_binary_eq_point_iff h.whole.1 h.whole.2 hdigits hne, hvalue,
    hplaces, ← magnitude_eq, hsmall, Binary64.isShortest_iff hpositive hread]
  constructor
  · rintro ⟨hzero, hlarge, hshortest, hnearest⟩
    exact .point x hnotNone hzero hlarge hread hshortest hnearest
  · intro hstable
    cases hstable with
    | tooLarge hlarge => exact absurd hlarge hholds.lt_overflow.not_ge
    | whole hnone _ _ _ => exact absurd hnone hnotNone
    | point y _ hzero hlarge hread' hshortest hnearest =>
      -- a numeral is read as one number only
      obtain rfl : x = y := Option.some.inj (hread.symm.trans hread')
      exact ⟨hzero, hlarge, hshortest, hnearest⟩

/-- **A number is compared by the text of its numeral if and only if the numeral is stable.** -/
theorem comparedText_eq_text_iff (h : numeral.WellFormed) {number : Number}
    (hnumber : numeral.number? = some number) :
    number.comparedText = numeral.text ↔ numeral.Stable := by
  unfold number? at hnumber
  cases hwhole : numeral.whole? with
  | some value =>
    rw [hwhole] at hnumber
    obtain rfl := Option.some.inj hnumber
    exact comparedText_whole_eq_text_iff h hwhole
  | none =>
    rw [hwhole] at hnumber
    obtain ⟨x, hread, rfl⟩ := Option.map_eq_some_iff.mp hnumber
    cases hfraction : numeral.fraction with
    | none => exact comparedText_binary_eq_text_iff_of_no_point h hfraction hwhole hread
    | some fraction => exact comparedText_binary_eq_text_iff_of_point h hfraction hread

end Numeral

/-! ### Comparing a value with its own text -/

/-- A text of characters that are their own lower-case forms is its own lower-case form. -/
theorem lower_eq_self {text : Text} (h : ∀ c ∈ text, c ≠ 'Σ' ∧ lowerChar c = [c]) :
    lower text = text := by
  -- what comes before matters to a capital sigma alone, and there is none
  have hafter : ∀ before : Text, lowerAfter before text = text := by
    induction text with
    | nil =>
      intro before
      rfl
    | cons c rest ih =>
      intro before
      rw [List.forall_mem_cons] at h
      rw [lowerAfter, if_neg h.1.1, h.1.2, ih h.2]
      rfl
  exact hafter []

/-- The characters of numbers are their own lower-case forms. -/
theorem lowerChar_eq_self {c : Char} (h : isDigit c = true ∨ c ∈ ['.', '-', '+', 'e']) :
    c ≠ 'Σ' ∧ lowerChar c = [c] := by
  have hmem : c ∈ ".-+e0123456789".toList := by
    rcases h with hdigit | hother
    · obtain ⟨hlt, hc⟩ := digitChar_of_isDigit hdigit
      have hdigits : ∀ value < 10, Nat.digitChar value ∈ "0123456789".toList := by decide
      exact List.mem_append_right ['.', '-', '+', 'e'] (hc ▸ hdigits _ hlt)
    · exact List.mem_append_left "0123456789".toList hother
  -- a table of fourteen characters
  have hall : ".-+e0123456789".toList.all (fun d => decide (d ≠ 'Σ' ∧ lowerChar d = [d])) =
      true := rfl
  exact of_decide_eq_true (List.all_eq_true.mp hall c hmem)

theorem mem_text {numeral : Numeral} (h : numeral.WellFormed) {c : Char} (hc : c ∈ numeral.text) :
    isDigit c = true ∨ c ∈ ['.', '-', '+', 'e'] := by
  rcases mem_sign_append hc with rfl | hc
  · decide
  rcases List.mem_append.mp hc with hwhole | hfraction
  · exact .inl (h.whole.1 c hwhole)
  · cases hpoint : numeral.fraction with
    | none =>
      rw [hpoint] at hfraction
      cases hfraction
    | some fraction =>
      rw [hpoint, Option.elim_some] at hfraction
      rcases List.mem_cons.mp hfraction with rfl | hdigit
      · decide
      · exact .inl ((h.fraction fraction hpoint).1 c hdigit)

/-- Case makes no difference to the text of a number. -/
theorem foldedText_number (number : Number) :
    (Json.number number).foldedText = number.comparedText :=
  lower_eq_self fun _ hc => lowerChar_eq_self (Number.mem_comparedText hc)

/-- Case makes no difference between the texts of numbers. -/
theorem foldedText_eq_iff {numeral : Numeral} (h : numeral.WellFormed) (number : Number) :
    (Json.number number).foldedText = (Json.string numeral.text).foldedText ↔
      number.comparedText = numeral.text := by
  have hnumeral : lower numeral.text = numeral.text :=
    lower_eq_self fun _ hc => lowerChar_eq_self (mem_text h hc)
  rw [foldedText_number, Json.foldedText, Json.comparedText, hnumeral]

theorem stripOpening_eq_self {text : Text} (h : ∀ c ∈ text, isQuote c = false) :
    stripOpening text = text := by
  cases text with
  | nil => rfl
  | cons c rest => rw [stripOpening, h c List.mem_cons_self, if_neg Bool.false_ne_true]

theorem stripQuotes_eq_self {text : Text} (h : ∀ c ∈ text, isQuote c = false) :
    stripQuotes text = text := by
  rw [stripQuotes, stripOpening_eq_self h,
    stripOpening_eq_self fun c hc => h c (List.mem_reverse.mp hc), List.reverse_reverse]

theorem equals_string_self (text : Text) : (Json.string text).equals (.string text) = true := by
  simp [Json.equals, Json.agrees]

/-- A numeral without a number is too large. -/
theorem Numeral.stable_of_number?_eq_none {numeral : Numeral} (h : numeral.number? = none) :
    numeral.Stable := by
  unfold number? at h
  split at h
  · cases h
  · refine .tooLarge ?_
    rw [Option.map_eq_none_iff, binary?_eq, Binary64.ofDecimal?_eq_none_iff] at h
    rwa [magnitude_eq]

/-- A number is equal to a text if it is compared by it. -/
theorem equals_number_string_iff {numeral : Numeral} (h : numeral.WellFormed) (number : Number) :
    (Json.number number).equals (.string numeral.text) = true ↔
      number.comparedText = numeral.text := by
  have hagrees : (Json.number number).agrees (.string numeral.text) = false := rfl
  rw [Json.equals, hagrees, Bool.false_or, beq_iff_eq, foldedText_eq_iff h]

/-- **Which values are equal to their own text.** A value without quotes is, whatever it is read as,
unless it is a numeral that is not stable. -/
theorem equals_string_coerce_iff {text : Text} (hquotes : ∀ c ∈ text, isQuote c = false) :
    (coerce text).equals (.string text) = true ↔
      ∀ numeral : Numeral, numeral.WellFormed → numeral.text = text → numeral.Stable := by
  -- what is no numeral has nothing to be stable
  have hnone : numeral? text = none →
      ∀ numeral : Numeral, numeral.WellFormed → numeral.text = text → numeral.Stable := by
    intro hnone numeral h htext
    rw [numeral?_eq_some_iff.mpr ⟨h, htext⟩] at hnone
    cases hnone
  unfold coerce
  rw [stripQuotes_eq_self hquotes]
  split
  case isTrue htrue =>
    subst htrue
    exact iff_of_true rfl (hnone (by decide))
  split
  case isTrue hfalse =>
    subst hfalse
    exact iff_of_true rfl (hnone (by decide))
  cases hnumeral : numeral? text with
  | none => exact iff_of_true (equals_string_self text) (hnone hnumeral)
  | some numeral =>
    obtain ⟨h, rfl⟩ := numeral?_eq_some_iff.mp hnumeral
    -- a text is written by one numeral
    have hunique : (∀ other : Numeral, other.WellFormed → other.text = numeral.text →
        other.Stable) ↔ numeral.Stable := by
      refine ⟨fun hall => hall numeral h rfl, fun hstable other h' htext => ?_⟩
      have hother := numeral?_eq_some_iff.mpr ⟨h', htext⟩
      rw [hnumeral] at hother
      exact Option.some.inj hother ▸ hstable
    rw [hunique, Option.bind_some]
    cases hnumber : numeral.number? with
    | none =>
      exact iff_of_true (equals_string_self _) (Numeral.stable_of_number?_eq_none hnumber)
    | some number =>
      exact (equals_number_string_iff h number).trans (Numeral.comparedText_eq_text_iff h hnumber)

end LogSieve.Scalar
