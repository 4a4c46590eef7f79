import LogSieve.Proofs.Number.Nearest
import LogSieve.Proofs.Record.Whole

/-!
# The types of values

The text behind the equals sign of a word has a type by its form alone. It is a truth value, an
integer that fits into 64 bits (`WritesWhole`), the floating-point number nearest to a decimal
(`WritesBinary`) or a text, without a quote at either end (`Unquoted`). The forms of numbers admit
ASCII digits only, so that a character of another script makes a text.

A numeral without a point is both an integer and a decimal. It is an integer as long as it fits, and
so the bounds of the integers separate the two (`bind_whole?_eq_some_iff`). The other bound is that
of the floating-point numbers: a decimal that would be rounded to something greater than all of them
is none, and stays a text (`Numeral.binary?_eq_some_iff_isNearest`).

The main statement is `coerce_by_form`.
-/

namespace LogSieve.Scalar

variable {raw : Text} {numeral : Numeral} {x : Binary64}

/-! ### Quotes at the ends -/

/-- The character at the edge of a text if that is a quote, and nothing otherwise. -/
inductive EdgeQuote : Option Char → Text → Prop where
  | quote {c : Char} (h : IsQuote c) : EdgeQuote (some c) [c]
  | none {edge : Option Char} (h : ∀ c ∈ edge, ¬IsQuote c) : EdgeQuote edge []

/-- The value is the text without the quote that it starts with, if it does, and without the quote
that what remains ends with, if it does. -/
def Unquoted (raw value : Text) : Prop :=
  ∃ opening closing, raw = opening ++ (value ++ closing) ∧ EdgeQuote raw.head? opening ∧
    EdgeQuote (value ++ closing).getLast? closing

theorem exists_stripOpening (text : Text) :
    ∃ opening, text = opening ++ stripOpening text ∧ EdgeQuote text.head? opening := by
  cases text with
  | nil => exact ⟨[], rfl, .none fun _ h => nomatch h⟩
  | cons c rest =>
    rw [stripOpening]
    split
    · next h => exact ⟨[c], rfl, .quote (isQuote_iff.mp h)⟩
    · next h =>
      -- the first character is no quote, and so it stays
      refine ⟨[], rfl, .none ?_⟩
      rintro _ ⟨⟩
      exact fun hquote => h (isQuote_iff.mpr hquote)

/-- An edge has one quote at most, which is the same from both sides. -/
theorem EdgeQuote.reverse_eq {edge : Option Char} {quote : Text} (h : EdgeQuote edge quote) :
    quote.reverse = quote := by
  cases h <;> rfl

/-- **Stripping takes the quotes at the ends off.** -/
theorem unquoted_stripQuotes (raw : Text) : Unquoted raw (stripQuotes raw) := by
  obtain ⟨opening, hopening, hstart⟩ := exists_stripOpening raw
  obtain ⟨closing, hclosing, hend⟩ := exists_stripOpening (stripOpening raw).reverse
  -- the quote at the end was taken off the start of the reversed text
  have hremains : stripOpening raw = stripQuotes raw ++ closing := by
    rw [stripQuotes, ← hend.reverse_eq, ← List.reverse_append, ← hclosing, List.reverse_reverse]
  refine ⟨opening, closing, ?_, hstart, ?_⟩
  · rwa [← hremains]
  · rwa [← hremains, ← List.head?_reverse]

/-! ### Integers -/

/-- The text is ASCII digits, with or without a minus sign, and writes an integer that fits into 64
bits. -/
def WritesWhole (raw : Text) (value : Int) : Prop :=
  ∃ negative digits, Text.AllDigits digits ∧ digits ≠ [] ∧ raw = Text.signed negative digits ∧
    value = Text.signedValue negative digits ∧ -2 ^ 63 ≤ value ∧ value < 2 ^ 64

/-- **A numeral is an integer** if it has no point and fits. -/
theorem bind_whole?_eq_some_iff {value : Int} :
    (numeral? raw).bind (·.whole?) = some value ↔ WritesWhole raw value := by
  rw [Option.bind_eq_some_iff]
  constructor
  · rintro ⟨⟨negative, digits, fraction⟩, hnumeral, hwhole⟩
    obtain ⟨h, rfl⟩ := numeral?_eq_some_iff.mp hnumeral
    -- a point would make it a decimal
    obtain rfl : fraction = none := (Numeral.whole?_eq_some_iff.mp hwhole).1
    refine ⟨negative, digits, h.whole.1, h.whole.2, ?_, Numeral.whole?_signed_iff.mp hwhole⟩
    rw [Numeral.text, Option.elim_none, List.append_nil, Text.signed]
  · rintro ⟨negative, digits, hdigits, hne, rfl, hvalue⟩
    exact ⟨_, numeral?_signed hdigits hne, Numeral.whole?_signed_iff.mpr hvalue⟩

/-! ### Decimals -/

namespace Numeral

/-- The decimal that is written, with its sign. -/
def value (numeral : Numeral) : ℚ :=
  Binary64.withSign numeral.negative numeral.magnitude

theorem magnitude_nonneg (numeral : Numeral) : 0 ≤ numeral.magnitude :=
  div_nonneg (Nat.cast_nonneg _) (pow_nonneg (by norm_num) _)

/-- **A decimal is rounded to the nearest number**, with its sign, unless it is too large. -/
theorem binary?_eq_some_iff_isNearest :
    numeral.binary? = some x ↔
      numeral.magnitude < Binary64.overflow ∧ x.negative = numeral.negative ∧
        x.IsNearest numeral.value := by
  have hnonneg := numeral.magnitude_nonneg
  constructor
  · intro h
    obtain ⟨hsign, hbasin⟩ := binary?_eq_some_iff.mp h
    exact ⟨hbasin.lt_overflow, hsign, Binary64.isNearest_of_holds hnonneg hsign hbasin⟩
  · rintro ⟨hlt, hsign, hnearest⟩
    cases hread : numeral.binary? with
    | none =>
      -- what is not read is too large
      rw [binary?_eq, Binary64.ofDecimal?_eq_none_iff, ← magnitude_eq] at hread
      exact absurd hlt hread.not_gt
    | some y =>
      -- there is one number with this sign that is nearest
      obtain ⟨hsign', hbasin⟩ := binary?_eq_some_iff.mp hread
      rw [hnearest.eq_of_holds hnonneg hsign hsign' hbasin]

theorem number?_eq_whole_iff {value : Int} :
    numeral.number? = some (.whole value) ↔ numeral.whole? = some value := by
  unfold number?
  cases numeral.whole? with
  | some other => rw [Option.some.injEq, Option.some.injEq, Number.whole.injEq]
  | none =>
    -- a numeral that does not fit is read as a floating-point number
    refine iff_of_false (fun h => ?_) nofun
    obtain ⟨_, -, heq⟩ := Option.map_eq_some_iff.mp h
    cases heq

theorem number?_eq_binary_iff :
    numeral.number? = some (.binary x) ↔ numeral.whole? = none ∧ numeral.binary? = some x := by
  unfold number?
  cases numeral.whole? with
  | some other => exact iff_of_false nofun fun h => nomatch h.1
  | none => simp

end Numeral

/-- The text is a numeral, and the number is the nearest one to the decimal that it writes, with its
sign. The decimal is less than what lies half a step above the greatest number, and so would not be
rounded to infinity. -/
def WritesBinary (raw : Text) (x : Binary64) : Prop :=
  ∃ numeral : Numeral, numeral.WellFormed ∧ numeral.text = raw ∧
    numeral.magnitude < Binary64.overflow ∧ x.negative = numeral.negative ∧
    x.IsNearest numeral.value

/-! ### The order of the types -/

theorem bind_number?_eq_whole_iff {value : Int} :
    (numeral? raw).bind (·.number?) = some (.whole value) ↔ WritesWhole raw value := by
  rw [← bind_whole?_eq_some_iff, Option.bind_eq_some_iff, Option.bind_eq_some_iff]
  exact exists_congr fun numeral => and_congr_right' Numeral.number?_eq_whole_iff

/-- **A numeral is a floating-point number** if it is no integer and not too large. -/
theorem bind_number?_eq_binary_iff :
    (numeral? raw).bind (·.number?) = some (.binary x) ↔
      (∀ value, ¬WritesWhole raw value) ∧ WritesBinary raw x := by
  -- with a numeral at hand, the bounds of integers are those of `whole?`
  have hwhole : ∀ {numeral : Numeral}, numeral? raw = some numeral →
      (numeral.whole? = none ↔ ∀ value, ¬WritesWhole raw value) := by
    intro numeral hnumeral
    rw [Option.eq_none_iff_forall_ne_some]
    refine forall_congr' fun value => not_congr ?_
    rw [← bind_whole?_eq_some_iff, hnumeral, Option.bind_some]
  rw [Option.bind_eq_some_iff]
  constructor
  · rintro ⟨numeral, hnumeral, hnumber⟩
    obtain ⟨hnone, hbinary⟩ := Numeral.number?_eq_binary_iff.mp hnumber
    obtain ⟨h, htext⟩ := numeral?_eq_some_iff.mp hnumeral
    exact ⟨(hwhole hnumeral).mp hnone, numeral, h, htext,
      Numeral.binary?_eq_some_iff_isNearest.mp hbinary⟩
  · rintro ⟨hnone, numeral, h, htext, hbinary⟩
    have hnumeral := numeral?_eq_some_iff.mpr ⟨h, htext⟩
    exact ⟨numeral, hnumeral, Numeral.number?_eq_binary_iff.mpr
      ⟨(hwhole hnumeral).mpr hnone, Numeral.binary?_eq_some_iff_isNearest.mpr hbinary⟩⟩

/-- What is neither a truth value nor a number is a text without quotes at its ends. -/
theorem exists_coerce_eq_string (htrue : raw ≠ ['t', 'r', 'u', 'e'])
    (hfalse : raw ≠ ['f', 'a', 'l', 's', 'e']) (hnone : (numeral? raw).bind (·.number?) = none) :
    ∃ value, Unquoted raw value ∧ coerce raw = .string value := by
  refine ⟨stripQuotes raw, unquoted_stripQuotes raw, ?_⟩
  unfold coerce
  rw [if_neg htrue, if_neg hfalse, hnone]

/-- The two words for truth values are no numerals. -/
theorem coerce_eq_number_iff {number : Number} :
    coerce raw = .number number ↔ (numeral? raw).bind (·.number?) = some number := by
  refine ⟨fun h => ?_, coerce_of_number?⟩
  cases hfound : (numeral? raw).bind (·.number?) with
  | some other =>
    rw [coerce_of_number? hfound, Json.number.injEq] at h
    rw [h]
  | none =>
    unfold coerce at h
    rw [hfound] at h
    split at h
    · cases h
    split at h
    · cases h
    · cases h

theorem coerce_eq_bool_iff {value : Bool} :
    coerce raw = .bool value ↔ raw = if value then "true".toList else "false".toList := by
  constructor
  · intro h
    unfold coerce at h
    split at h
    · next htrue =>
      cases h
      exact htrue
    split at h
    · next hfalse =>
      cases h
      exact hfalse
    · split at h <;> cases h
  · rintro rfl
    cases value <;> rfl

/-- Every character of a numeral is ASCII. -/
theorem numeral?_eq_none_of_mem {c : Char} (hmem : c ∈ raw) (hc : 0x80 ≤ c.toNat) :
    numeral? raw = none := by
  rw [Option.eq_none_iff_forall_ne_some]
  intro numeral hnumeral
  obtain ⟨h, rfl⟩ := numeral?_eq_some_iff.mp hnumeral
  -- each character of a numeral is a digit or one of four others
  suffices hascii : c.toNat < 0x80 from absurd hc hascii.not_ge
  rcases mem_text h hmem with hdigit | hother
  · obtain ⟨hlt, hdigit⟩ := Text.digitChar_of_isDigit hdigit
    have hdigits : ∀ value < 10, (Nat.digitChar value).toNat < 0x80 := by decide
    exact hdigit ▸ hdigits _ hlt
  · have hothers : ['.', '-', '+', 'e'].all (·.toNat < 0x80) = true := rfl
    exact of_decide_eq_true (List.all_eq_true.mp hothers c hother)

/-- **The types of values.** For every text, whether it is typed as a truth value, as an integer, as
a floating-point number or as a text, and as which, is said by its form.

* It is a truth value if it is one of the words for them.
* It is an integer if it writes one that fits into 64 bits, and then it is that integer.
* It is a floating-point number if it writes a decimal that is no such integer and is not too large,
  and then it is the number nearest to that.
* In all other cases it is a text, without a quote at the start and one at the end. This is so
  whenever there is a character in it that is not ASCII, be it a digit of another script. -/
theorem coerce_by_form (raw : Text) :
    (coerce raw = .bool true ↔ raw = "true".toList) ∧
    (coerce raw = .bool false ↔ raw = "false".toList) ∧
    (∀ value, coerce raw = .number (.whole value) ↔ WritesWhole raw value) ∧
    (∀ x, coerce raw = .number (.binary x) ↔
      (∀ value, ¬WritesWhole raw value) ∧ WritesBinary raw x) ∧
    ((∃ value, Unquoted raw value ∧ coerce raw = .string value) ↔
      raw ≠ "true".toList ∧ raw ≠ "false".toList ∧
        (∀ value, ¬WritesWhole raw value) ∧ ∀ x, ¬WritesBinary raw x) ∧
    ((∃ c ∈ raw, 0x80 ≤ c.toNat) → ∃ value, Unquoted raw value ∧ coerce raw = .string value) := by
  refine ⟨coerce_eq_bool_iff, coerce_eq_bool_iff,
    fun value => coerce_eq_number_iff.trans bind_number?_eq_whole_iff,
    fun x => coerce_eq_number_iff.trans bind_number?_eq_binary_iff, ⟨?_, ?_⟩, ?_⟩
  · rintro ⟨value, -, hstring⟩
    -- a text is no value of another type
    have hnumber : ∀ number, (numeral? raw).bind (·.number?) ≠ some number := fun number h =>
      nomatch hstring.symm.trans (coerce_eq_number_iff.mpr h)
    have hbool : ∀ truth : Bool, raw ≠ if truth then "true".toList else "false".toList :=
      fun truth h => nomatch hstring.symm.trans (coerce_eq_bool_iff.mpr h)
    have hwhole : ∀ value, ¬WritesWhole raw value := fun value h =>
      hnumber _ (bind_number?_eq_whole_iff.mpr h)
    exact ⟨hbool true, hbool false, hwhole, fun x h =>
      hnumber _ (bind_number?_eq_binary_iff.mpr ⟨hwhole, h⟩)⟩
  · rintro ⟨htrue, hfalse, hwhole, hbinary⟩
    refine exists_coerce_eq_string htrue hfalse (Option.eq_none_iff_forall_ne_some.mpr ?_)
    -- a number is of one of the two kinds, and neither is written
    rintro (value | x) hnumber
    · exact hwhole value (bind_number?_eq_whole_iff.mp hnumber)
    · exact hbinary x (bind_number?_eq_binary_iff.mp hnumber).2
  · rintro ⟨c, hmem, hc⟩
    -- the words for truth values and the numerals are ASCII
    have hascii : raw.all (·.toNat < 0x80) = false := List.all_eq_false.mpr
      ⟨c, hmem, fun hlt => absurd hc (of_decide_eq_true hlt).not_ge⟩
    refine exists_coerce_eq_string ?_ ?_ ?_
    · rintro rfl
      cases hascii
    · rintro rfl
      cases hascii
    · rw [numeral?_eq_none_of_mem hmem hc, Option.bind_none]

/-- Digits of another script are a text. -/
example : coerce "-٣".toList = .string "-٣".toList := rfl

end LogSieve.Scalar
