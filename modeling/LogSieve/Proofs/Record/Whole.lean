import LogSieve.Proofs.Record.OwnText

/-!
# Whole numbers

Whole numbers are read in three places: in a filter, where they have no sign; as values, where they
have no needless zeros; and behind the equals sign of a word, where they may have both. Each place
has its own bounds. The three agree: the filter `name = digits` holds of a line with the one field
if and only if the two numbers are the same.

A comparison goes by the numbers first and by their texts after that. The second adds nothing, since
the text of a whole number says which number it is (`Number.wholeText_injective`).

The main statement is `holds_whole_iff`.
-/

namespace LogSieve

/-! ### Words -/

/-- There is no blank among digits and their sign. -/
theorem Text.isBlank_eq_false_of_mem_signed {negative : Bool} {digits : Text}
    (hdigits : AllDigits digits) : ∀ c ∈ signed negative digits, isBlank c = false := by
  intro c hc
  rcases mem_sign_append hc with rfl | hdigit
  · decide
  · exact isBlank_eq_false_of_isDigit (hdigits c hdigit)

namespace Scalar

theorem coerce_of_number? {text : Text} {number : Number}
    (h : (numeral? text).bind (·.number?) = some number) : coerce text = .number number := by
  unfold coerce
  split
  case isTrue htrue =>
    rw [htrue] at h
    cases h
  split
  case isTrue hfalse =>
    rw [hfalse] at h
    cases h
  rw [h]

/-- Digits with a sign are the integer that they write, within the bounds of 64 bits. -/
theorem Numeral.whole?_signed_iff {negative : Bool} {digits : Text} {value : Int} :
    whole? ⟨negative, digits, none⟩ = some value ↔
      value = Text.signedValue negative digits ∧ -2 ^ 63 ≤ value ∧ value < 2 ^ 64 := by
  have hmagnitude : Numeral.digits ⟨negative, digits, none⟩ = Text.numeralValue digits := by
    rw [Numeral.digits, Option.getD_none, List.append_nil]
  rw [whole?_eq_some_iff, Fits, hmagnitude, Text.signedValue]
  -- with a minus sign the lower bound matters, and without one the upper bound
  cases negative with
  | true =>
    simp only [if_true, true_and, Nat.pow_eq]
    omega
  | false =>
    simp only [Bool.false_eq_true, if_false, true_and, Nat.pow_eq]
    omega

section Signed

variable {negative : Bool} {digits : Text} (hdigits : Text.AllDigits digits) (hne : digits ≠ [])

include hdigits hne

theorem numeral?_signed :
    numeral? (Text.signed negative digits) = some ⟨negative, digits, none⟩ := by
  refine numeral?_eq_some_iff.mpr ⟨⟨⟨hdigits, hne⟩, fun _ h => nomatch h⟩, ?_⟩
  rw [Numeral.text, Option.elim_none, List.append_nil, Text.signed]

/-- **Digits behind an equals sign** are the integer that they write, if it fits into 64 bits. -/
theorem coerce_signed (hlow : -2 ^ 63 ≤ Text.signedValue negative digits)
    (hhigh : Text.signedValue negative digits < 2 ^ 64) :
    coerce (Text.signed negative digits) =
      .number (.whole (Text.signedValue negative digits)) := by
  have hwhole : Numeral.whole? ⟨negative, digits, none⟩ =
      some (Text.signedValue negative digits) := Numeral.whole?_signed_iff.mpr ⟨rfl, hlow, hhigh⟩
  apply coerce_of_number?
  rw [numeral?_signed hdigits hne, Option.bind_some, Numeral.number?, hwhole]

end Signed

end Scalar

/-! ### Lines -/

/-- The record of a line that is an object with one whole number. -/
theorem Record.ofLine?_objectText {name : Text} {value : Int}
    (hname : ∀ c ∈ name, isWordChar c = true) (hlow : -2 ^ 63 ≤ value) (hhigh : value < 2 ^ 64) :
    ofLine? {} (Json.objectText name (Number.wholeText value)) =
      some [(name, .number (.whole value))] := by
  have hvalue : ∀ c ∈ Number.wholeText value, Text.isBlank c = false := by
    rw [Number.wholeText_eq_signed]
    exact Text.isBlank_eq_false_of_mem_signed (Text.allDigits_numeral _)
  -- there are no blanks to be cut off at the ends of the line
  have hblank : ∀ c ∈ Json.objectText name (Number.wholeText value), Text.isBlank c = false := by
    intro c hc
    simp only [Json.objectText, List.mem_cons, List.mem_append, List.not_mem_nil, or_false] at hc
    rcases hc with rfl | rfl | hc | rfl | rfl | hc | rfl
    · decide
    · decide
    · exact isBlank_eq_false_of_isWordChar (hname c hc)
    · decide
    · decide
    · exact hvalue c hc
    · decide
  -- behind the integer comes the brace
  have hends : Json.Numeral.Ends ['\x7d'] := by
    intro c hc
    cases hc
    decide
  have hparse := Json.parse?_objectText (fun c hc => Json.isPlain_of_isWordChar (hname c hc))
    (Json.readValue?_wholeText hlow hhigh hends)
  unfold ofLine?
  simp only [Text.trim_eq_self hblank, if_true, hparse]

/-! ### Comparisons -/

/-- **The text of a whole number says which number it is.** -/
theorem Number.wholeText_injective {x y : Int} (h : wholeText x = wholeText y) : x = y := by
  -- the reader of words knows the text of an integer
  have hread : ∀ value : Int, Scalar.numeral? (wholeText value) =
      some ⟨decide (value < 0), Text.numeral value.natAbs, none⟩ := by
    intro value
    rw [wholeText_eq_signed]
    exact Scalar.numeral?_signed (Text.allDigits_numeral _) (Text.numeral_ne_nil _)
  -- both are read as the same digits with the same sign
  have hsame := hread x
  rw [h, hread y, Option.some.injEq, Scalar.Numeral.mk.injEq] at hsame
  obtain ⟨hsign, hdigits, -⟩ := hsame
  rw [← Text.signedValue_numeral x, ← Text.signedValue_numeral y, hsign, hdigits]

/-- Whole numbers are equal if they are the same. -/
theorem Json.equals_whole_iff {x y : Int} :
    (number (.whole x)).equals (number (.whole y)) = true ↔ x = y := by
  rw [equals, Bool.or_eq_true, Scalar.foldedText_number, Scalar.foldedText_number, beq_iff_eq]
  -- the numbers are compared, and then their texts once more
  constructor
  · rintro (hagrees | htext)
    · exact beq_iff_eq.mp hagrees
    · exact Number.wholeText_injective htext
  · rintro rfl
    exact .inl (beq_self_eq_true x)

/-- **Whole numbers agree in filters, values and words.** For every name that a filter can ask for
without a dot, all digits that write a number below `2 ^ 64` and every integer that fits into 64
bits with or without a sign, the filter `name = digits` compiles. The line that is an object with
the integer under the name gives a record, and so does the line `name=written` for all digits that
write the integer, with or without a minus sign in front. Either record satisfies the filter if and
only if the number of the filter is the integer. -/
theorem holds_whole_iff {name digits : Text} {value : Int} (hname : Lexeme name (.identifier name))
    (hdot : '.' ∉ name) (hdigits : Text.AllDigits digits) (hne : digits ≠ [])
    (hlt : Text.numeralValue digits < 2 ^ 64) (hlow : -2 ^ 63 ≤ value) (hhigh : value < 2 ^ 64) :
    ∃ filter, compile (fieldTest name digits) = .ok filter ∧
      (∃ record, Record.ofLine? {} (Json.objectText name (Number.wholeText value)) = some record ∧
        (filter.holds record = true ↔ (Text.numeralValue digits : Int) = value)) ∧
      ∀ (negative : Bool) (written : Text), Text.AllDigits written → written ≠ [] →
        Text.signedValue negative written = value →
        ∃ record, Record.ofLine? {} (name ++ '=' :: Text.signed negative written) = some record ∧
          (filter.holds record = true ↔ (Text.numeralValue digits : Int) = value) := by
  -- in a filter the digits are one number, with any zeros in front
  have hlexeme : Lexeme digits (.number (Text.numeralValue digits)) := by
    cases digits with
    | nil => exact absurd rfl hne
    | cons c rest => exact .number hdigits hlt
  have hconstant : Derives .rightOperand [.number (Text.numeralValue digits)]
      (.literal (.number (Text.numeralValue digits))) 0 :=
    Derives.number.rightOperand_of_ne_field fun path h => nomatch h
  let asked : Expr := .equals (.field ⟨[name]⟩) (.literal (.number (Text.numeralValue digits)))
  have hholds : asked.holds [(name, .number (.whole value))] = true ↔
      (Text.numeralValue digits : Int) = value := by
    -- there is one field in the record
    have hfield : Fields.get? name [(name, Json.number (.whole value))] =
        some (.number (.whole value)) := if_pos rfl
    rw [holds_fieldTest hfield, Literal.value, Json.equals_whole_iff, eq_comm]
  obtain ⟨-, -, -, hword, -⟩ := hname.exists_cons_of_identifier
  -- both lines give the same record, and so the same answer
  refine ⟨_, compile_fieldTest hname hdot hlexeme hconstant, ?_, ?_⟩
  · exact ⟨_, Record.ofLine?_objectText hword hlow hhigh, hholds⟩
  · rintro negative written hwritten hnonempty rfl
    have hblank : ∀ c ∈ Text.signed negative written, Text.isBlank c = false :=
      Text.isBlank_eq_false_of_mem_signed hwritten
    have hrecord := Record.ofLine?_name_value hname hblank
    rw [Scalar.coerce_signed hwritten hnonempty hlow hhigh] at hrecord
    exact ⟨_, hrecord, hholds⟩

/-- The greatest number, which no integer with a sign reaches, with zeros in front on both sides. -/
theorem holds_whole_two_pow_64_sub_one :
    ∃ filter record record', compile "k = 0018446744073709551615".toList = .ok filter ∧
      Record.ofLine? {} "\x7b\"k\":18446744073709551615\x7d".toList = some record ∧
      Record.ofLine? {} "k=00018446744073709551615".toList = some record' ∧
      filter.holds record = true ∧ filter.holds record' = true := by
  have hdigits : Text.AllDigits "0018446744073709551615".toList :=
    List.all_eq_true.mp (by decide)
  have hwritten : Text.AllDigits "00018446744073709551615".toList :=
    List.all_eq_true.mp (by decide)
  have hvalue : Text.numeralValue "0018446744073709551615".toList = 18446744073709551615 := by
    decide +kernel
  have hlt : Text.numeralValue "0018446744073709551615".toList < 2 ^ 64 := by
    rw [hvalue]
    decide
  have hlow : (-2 ^ 63 : Int) ≤ 18446744073709551615 := by decide
  have hhigh : (18446744073709551615 : Int) < 2 ^ 64 := by decide
  obtain ⟨filter, hcompile, ⟨record, hrecord, hholds⟩, hwords⟩ :=
    holds_whole_iff lexeme_k (by decide) hdigits (by decide) hlt hlow hhigh
  obtain ⟨record', hrecord', hholds'⟩ := hwords false _ hwritten (by decide) (by decide +kernel)
  have hsame : (Text.numeralValue "0018446744073709551615".toList : Int) = 18446744073709551615 :=
    congrArg Int.ofNat hvalue
  have hline : Json.objectText ['k'] (Number.wholeText 18446744073709551615) =
      "\x7b\"k\":18446744073709551615\x7d".toList := by decide +kernel
  rw [hline] at hrecord
  exact ⟨filter, record, record', hcompile, hrecord, hrecord', hholds.mpr hsame, hholds'.mpr hsame⟩

end LogSieve
