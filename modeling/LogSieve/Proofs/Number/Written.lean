import LogSieve.Proofs.Number.Nearest
import LogSieve.Proofs.Record.Whole

/-!
# What the text of a number says

Numbers that are compared by the same text have the same value
(`Number.value_eq_of_comparedText_eq`). So the comparison of texts never makes two numbers equal
that differ, though there is more than one way in which a number is written.

A floating-point number is not printed exactly: its text is that of the shortest decimal that rounds
to it. Two numbers with one text therefore share a decimal that rounds to both, and no magnitude
rounds to two numbers (`Basin.Holds.unique`). It remains to read the decimal's magnitude off its
text, with all places (`NumberLayout.exists_plain`) or with an exponent
(`NumberLayout.scientific_injective`).
-/

namespace LogSieve

open Text

namespace NumberLayout

/-! ### The decimal of a text -/

/-- A decimal with all its places consists of digits on both sides of a point, and they write its
magnitude. -/
theorem exists_plain (d : Decimal) : ∃ whole fraction : Text,
    json.plain d = whole ++ '.' :: fraction ∧ AllDigits whole ∧ whole ≠ [] ∧ AllDigits fraction ∧
      d.magnitude = numeralValue (whole ++ fraction) * 10 ^ (-fraction.length : ℤ) := by
  obtain ⟨digits, exponent⟩ := d
  rcases le_or_gt 0 exponent with hnonneg | hneg
  · obtain ⟨zeros, rfl⟩ := Int.eq_ofNat_of_zero_le hnonneg
    refine ⟨numeral digits ++ List.replicate zeros '0', ['0'], ?_,
      (allDigits_numeral digits).append (allDigits_zeros zeros),
      List.append_ne_nil_of_left_ne_nil (numeral_ne_nil digits) _, allDigits_zeros 1, ?_⟩
    · -- a whole number is written with a point and one zero behind it
      simp [plain, json, hnonneg]
    · -- the zero behind the point is made good by the place that it takes
      have hzeros : List.replicate zeros '0' ++ ['0'] = List.replicate (zeros + 1) '0' :=
        List.replicate_succ'.symm
      rw [Decimal.magnitude, List.append_assoc, hzeros, numeralValue_append_zeros,
        numeralValue_numeral, List.length_singleton]
      push_cast
      rw [zpow_neg, zpow_one, zpow_natCast, pow_succ]
      ring
  · obtain ⟨places, rfl⟩ : ∃ places : Nat, exponent = -places := ⟨exponent.natAbs, by omega⟩
    -- places behind the point: filled up with zeros, the digits reach beyond them
    have hlong : places < (padded digits places).length := by
      rw [length_padded]
      omega
    refine ⟨_, _, plain_eq_padded json digits (by omega), ?_, ?_, ?_, ?_⟩
    · exact fun c hc => allDigits_padded _ _ c (List.mem_of_mem_take hc)
    · rw [Ne, List.take_eq_nil_iff, not_or]
      refine ⟨by omega, List.ne_nil_of_length_pos (by omega)⟩
    · exact fun c hc => allDigits_padded _ _ c (List.mem_of_mem_drop hc)
    · have hlength : (padded digits places).length -
          ((padded digits places).length - places) = places := by omega
      rw [Decimal.magnitude, List.take_append_drop, numeralValue_padded, List.length_drop, hlength]

/-- The digits of a decimal that is written with an exponent, one of them before the point. -/
def mantissa (digits : Text) : Text :=
  digits.take 1 ++ if (digits.drop 1).isEmpty then [] else '.' :: digits.drop 1

/-- The sign of an exponent and its digits. -/
def exponentText (exponent : ℤ) : Text :=
  (if exponent < 0 then '-' else '+') :: numeral exponent.natAbs

theorem scientific_eq (d : Decimal) :
    json.scientific d = mantissa (numeral d.digits) ++ 'e' :: exponentText (leading d) := by
  have hsign : (if leading d < 0 then ['-'] else ['+']) = [if leading d < 0 then '-' else '+'] := by
    split
    · rfl
    · rfl
  simp only [scientific, mantissa, exponentText, json, hsign, List.append_assoc, List.cons_append,
    List.nil_append]

/-- Without the point the digits are what they were. -/
theorem filter_mantissa {digits : Text} (h : AllDigits digits) :
    (mantissa digits).filter isDigit = digits := by
  cases digits with
  | nil => rfl
  | cons c rest =>
    have hself : (c :: rest).filter isDigit = c :: rest := List.filter_eq_self.mpr h
    cases rest with
    | nil => exact hself
    | cons d rest => exact hself

theorem mark_notMem_mantissa {digits : Text} (h : AllDigits digits) : 'e' ∉ mantissa digits := by
  have hdigits : 'e' ∉ digits := fun hmem => absurd (h _ hmem) (by decide)
  rw [mantissa, List.mem_append, not_or]
  refine ⟨fun hmem => hdigits (List.mem_of_mem_take hmem), fun hmem => ?_⟩
  split at hmem
  · cases hmem
  · rcases List.mem_cons.mp hmem with heq | hmem
    · cases heq
    · exact hdigits (List.mem_of_mem_drop hmem)

theorem mark_notMem_exponentText (exponent : ℤ) : 'e' ∉ exponentText exponent := by
  rw [exponentText, List.mem_cons, not_or]
  refine ⟨?_, fun hmem => absurd (isDigit_of_mem_numeral hmem) (by decide)⟩
  split <;> decide

theorem numeral_injective {m n : Nat} (h : numeral m = numeral n) : m = n := by
  rw [← numeralValue_numeral m, h, numeralValue_numeral]

theorem exponentText_injective {x y : ℤ} (h : exponentText x = exponentText y) : x = y := by
  obtain ⟨hsign, hnumeral⟩ := List.cons.inj h
  have habs : x.natAbs = y.natAbs := numeral_injective hnumeral
  by_cases hx : x < 0
  · have hy : y < 0 := by
      by_contra hy
      rw [if_pos hx, if_neg hy] at hsign
      cases hsign
    omega
  · have hy : ¬y < 0 := by
      intro hy
      rw [if_neg hx, if_pos hy] at hsign
      cases hsign
    omega

/-- **A decimal written with an exponent is read off its text.** -/
theorem scientific_injective {d d' : Decimal} (h : json.scientific d = json.scientific d') :
    d = d' := by
  rw [scientific_eq, scientific_eq] at h
  -- there is one mark in the text, between the digits and the exponent
  obtain ⟨hmantissa, -, hexponent⟩ := (List.append_cons_inj_of_notMem
    (mark_notMem_mantissa (allDigits_numeral _)) (mark_notMem_exponentText _)).mp h
  have hdigits : d.digits = d'.digits := by
    have hnumeral := congrArg (List.filter isDigit) hmantissa
    rw [filter_mantissa (allDigits_numeral _), filter_mantissa (allDigits_numeral _)] at hnumeral
    exact numeral_injective hnumeral
  -- the digits are the same, so the place of the first one settles the exponent
  have hleading := exponentText_injective hexponent
  obtain ⟨digits, exponent⟩ := d
  obtain ⟨digits', exponent'⟩ := d'
  simp only at hdigits
  subst hdigits
  simp only [leading] at hleading
  rw [Decimal.mk.injEq]
  exact ⟨rfl, by omega⟩

theorem mark_notMem_plain (d : Decimal) : 'e' ∉ json.plain d := by
  obtain ⟨whole, fraction, hplain, hwhole, -, hfraction, -⟩ := exists_plain d
  rw [hplain, List.mem_append, List.mem_cons, not_or, not_or]
  exact ⟨fun hmem => absurd (hwhole _ hmem) (by decide), by decide,
    fun hmem => absurd (hfraction _ hmem) (by decide)⟩

/-- Decimals with all their places that are written in the same way have the same magnitude. -/
theorem magnitude_eq_of_plain_eq {d d' : Decimal} (h : json.plain d = json.plain d') :
    d.magnitude = d'.magnitude := by
  obtain ⟨whole, fraction, hplain, hwhole, -, hfraction, hmagnitude⟩ := exists_plain d
  obtain ⟨whole', fraction', hplain', -, -, -, hmagnitude'⟩ := exists_plain d'
  rw [hplain, hplain'] at h
  have hpoint : ∀ {digits : Text}, AllDigits digits → '.' ∉ digits := fun hdigits hmem =>
    absurd (hdigits _ hmem) (by decide)
  obtain ⟨rfl, -, rfl⟩ :=
    (List.append_cons_inj_of_notMem (hpoint hwhole) (hpoint hfraction)).mp h
  rw [hmagnitude, hmagnitude']

/-- **The text of a decimal says its magnitude.** -/
theorem magnitude_eq_of_write_eq {d d' : Decimal} (h : json.write d = json.write d') :
    d.magnitude = d'.magnitude := by
  unfold write at h
  -- both with all their places, both with an exponent, or one of each, which the mark tells apart
  split at h
  · split at h
    · exact magnitude_eq_of_plain_eq h
    · exact absurd (h ▸ mark_mem_scientific d') (mark_notMem_plain d)
  · split at h
    · exact absurd (h ▸ mark_mem_scientific d) (mark_notMem_plain d')
    · rw [scientific_injective h]

/-- A decimal starts with a digit. -/
theorem isDigit_of_mem_head?_write (d : Decimal) :
    ∀ c ∈ (json.write d).head?, isDigit c = true := by
  intro c hc
  unfold write at hc
  split at hc
  · obtain ⟨whole, fraction, hplain, hwhole, hne, -, -⟩ := exists_plain d
    rw [hplain, List.head?_append_of_ne_nil _ hne] at hc
    exact hwhole c (List.mem_of_mem_head? hc)
  · -- with an exponent, the first digit stands before the point
    have hne : (numeral d.digits).take 1 ≠ [] := by
      rw [Ne, List.take_eq_nil_iff, not_or]
      exact ⟨one_ne_zero, numeral_ne_nil _⟩
    rw [scientific_eq, mantissa, List.append_assoc, List.head?_append_of_ne_nil _ hne] at hc
    exact isDigit_of_mem_numeral (List.mem_of_mem_take (List.mem_of_mem_head? hc))

end NumberLayout

/-! ### The number of a text -/

namespace Binary64

/-- The shortest decimal of a number rounds to it. -/
theorem holds_shortest (x : Binary64) : x.basin.Holds x.shortest.magnitude := by
  -- zero is written apart from the search for the shortest decimal
  by_cases hzero : x.significand = 0
  · have hshortest : x.shortest = ⟨0, 0⟩ := if_pos (beq_iff_eq.mpr hzero)
    have hself := x.holds_magnitude
    rw [magnitude, hzero, Nat.cast_zero, zero_mul] at hself
    rw [hshortest, Decimal.magnitude, Nat.cast_zero, zero_mul]
    exact hself
  · exact (isShortest_shortest hzero).best.holds

/-- **The text of a floating-point number says its value.** -/
theorem value_eq_of_text_eq {x y : Binary64} (h : x.text .json = y.text .json) :
    x.value = y.value := by
  have hsign : x.negative = y.negative ∧
      NumberLayout.json.write x.shortest = NumberLayout.json.write y.shortest := by
    -- a decimal starts with a digit, so a minus can only be the sign
    have hminus : ∀ d d' : Decimal,
        NumberLayout.json.write d ≠ '-' :: NumberLayout.json.write d' := by
      intro d d' heq
      exact absurd (NumberLayout.isDigit_of_mem_head?_write d '-' (by rw [heq]; rfl)) (by decide)
    unfold text at h
    cases hx : x.negative <;> cases hy : y.negative <;>
      simp only [hx, hy, if_true, Bool.false_eq_true, if_false, List.nil_append,
        List.singleton_append] at h
    · exact ⟨rfl, h⟩
    · exact absurd h (hminus _ _)
    · exact absurd h.symm (hminus _ _)
    · exact ⟨rfl, (List.cons.inj h).2⟩
  -- both share a decimal that rounds to them
  have hshared := x.holds_shortest
  rw [NumberLayout.magnitude_eq_of_write_eq hsign.2] at hshared
  obtain ⟨hsignificand, hexponent⟩ := hshared.unique y.holds_shortest
  rw [value, value, magnitude, magnitude, hsign.1, hsignificand, hexponent]

/-- A whole number below `10 ^ 21` is printed as the integer that it is. -/
theorem exists_of_wholeText? {x : Binary64} {text : Text} (h : x.wholeText? = some text) :
    ∃ n : ℤ, text = Number.wholeText n ∧ x.value = n := by
  obtain ⟨n, hmagnitude, -, rfl⟩ := wholeText?_eq_some_iff.mp h
  rw [value, hmagnitude]
  cases hx : x.negative with
  | false =>
    refine ⟨n, ?_, by simp⟩
    simp [Number.wholeText]
  | true =>
    refine ⟨-n, ?_, by simp⟩
    -- the sign of zero is not printed
    by_cases hzero : n = 0
    · simp [Number.wholeText, hzero]
    · simp [Number.wholeText, hzero, Nat.pos_of_ne_zero hzero]

end Binary64

namespace Number

/-- The number exactly. -/
def value : Number → ℚ
  | whole n => n
  | binary x => x.value

/-- The text that a number is compared by is that of an integer, the number itself, or that of a
floating-point number that is not written without a point. -/
theorem comparedText_cases (number : Number) :
    (∃ n : ℤ, number.comparedText = wholeText n ∧ number.value = n) ∨
      ∃ x : Binary64, number.comparedText = x.text .json ∧ number.value = x.value := by
  cases number with
  | whole n => exact .inl ⟨n, rfl, rfl⟩
  | binary x =>
    rw [comparedText]
    cases htext : x.wholeText? with
    | some text => exact .inl (Binary64.exists_of_wholeText? htext)
    | none => exact .inr ⟨x, rfl, rfl⟩

/-- The text of an integer has neither a point nor an exponent. -/
theorem wholeText_ne_text (n : ℤ) (x : Binary64) : wholeText n ≠ x.text .json := fun h =>
  x.text_ne_sign_append (allDigits_numeral n.natAbs) h.symm

/-- **The text that a number is compared by says its value.** -/
theorem value_eq_of_comparedText_eq {a b : Number} (h : a.comparedText = b.comparedText) :
    a.value = b.value := by
  rcases comparedText_cases a with ⟨n, ha, hvalue⟩ | ⟨x, ha, hvalue⟩
  · rcases comparedText_cases b with ⟨m, hb, hvalue'⟩ | ⟨y, hb, hvalue'⟩
    · rw [ha, hb] at h
      rw [hvalue, hvalue', wholeText_injective h]
    · rw [ha, hb] at h
      exact absurd h (wholeText_ne_text n y)
  · rcases comparedText_cases b with ⟨m, hb, hvalue'⟩ | ⟨y, hb, hvalue'⟩
    · rw [ha, hb] at h
      exact absurd h.symm (wholeText_ne_text m x)
    · rw [ha, hb] at h
      rw [hvalue, hvalue', Binary64.value_eq_of_text_eq h]

end Number

end LogSieve
