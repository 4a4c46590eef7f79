import LogSieve.Number.Layout
import LogSieve.Proofs.Number.Shortest
import LogSieve.Proofs.Text.Digits

/-!
# What the texts of numbers look like

A decimal with places is written with all of them exactly as its digits read, with a point before
the last places and no needless zero in front (`NumberLayout.plain_eq_iff`); with an exponent, the
text has a mark that is no digit. When it is written in which way is a matter of its magnitude
(`NumberLayout.le_leading_iff`).
-/

namespace LogSieve

open Text

namespace NumberLayout

/-! ### Magnitude and first digit -/

/-- The first digit of a decimal is at the greatest power of ten that is not above it. -/
theorem le_leading_iff {d : Decimal} (hd : d.digits ≠ 0) (exponent : ℤ) :
    exponent ≤ leading d ↔ (10 : ℚ) ^ exponent ≤ d.magnitude := by
  have hlength := length_numeral_pos d.digits
  have hlow : 10 ^ ((numeral d.digits).length - 1) ≤ d.digits := by
    by_contra hlt
    -- one digit is no zero, and more digits would not be needed for less
    by_cases hone : (numeral d.digits).length = 1
    · rw [hone] at hlt
      omega
    · have := (length_numeral_le_iff (by omega)).mpr (Nat.lt_of_not_le hlt)
      omega
  have hhigh : d.digits < 10 ^ (numeral d.digits).length :=
    (length_numeral_le_iff hlength).mp le_rfl
  -- the same two bounds in units of the last place
  have hgrid : (0 : ℚ) < 10 ^ d.exponent := Binary64.ten_zpow_pos _
  have hsplit : ∀ (i : ℤ) (count : Nat), i = count + d.exponent →
      (10 : ℚ) ^ i = 10 ^ count * 10 ^ d.exponent := by
    rintro _ count rfl
    rw [zpow_add₀ (by norm_num), zpow_natCast]
  have hlowQ : (10 : ℚ) ^ leading d ≤ d.magnitude := by
    rw [hsplit _ ((numeral d.digits).length - 1) (by unfold leading; omega)]
    exact mul_le_mul_of_nonneg_right (by exact_mod_cast hlow) hgrid.le
  have hhighQ : d.magnitude < 10 ^ (leading d + 1) := by
    rw [hsplit _ (numeral d.digits).length (by unfold leading; omega)]
    exact mul_lt_mul_of_pos_right (by exact_mod_cast hhigh) hgrid
  constructor
  · intro h
    exact (zpow_le_zpow_right₀ (by norm_num) h).trans hlowQ
  · intro h
    by_contra hlt
    have hnext : (10 : ℚ) ^ (leading d + 1) ≤ 10 ^ exponent :=
      zpow_le_zpow_right₀ (by norm_num) (by omega)
    exact absurd (hnext.trans h) hhighQ.not_ge

/-! ### All places -/

/-- The digits of a decimal with zeros in front, so that one of them stands before the point. -/
def padded (digits places : Nat) : Text :=
  List.replicate (places + 1 - (numeral digits).length) '0' ++ numeral digits

theorem allDigits_padded (digits places : Nat) : AllDigits (padded digits places) :=
  (allDigits_zeros _).append (allDigits_numeral _)

theorem length_padded (digits places : Nat) :
    (padded digits places).length = max (places + 1) (numeral digits).length := by
  rw [padded, List.length_append, List.length_replicate]
  omega

theorem numeralValue_padded (digits places : Nat) :
    numeralValue (padded digits places) = digits := by
  rw [padded, numeralValue_zeros_append, numeralValue_numeral]

/-- Digits in two parts, the first without a needless zero, are what is written for their number
with as many places as the second has. -/
theorem padded_eq_iff {whole fraction : Text} (hwhole : AllDigits whole) (hne : whole ≠ [])
    (hfraction : AllDigits fraction) {digits : Nat} :
    padded digits fraction.length = whole ++ fraction ↔
      ¬LeadingZero whole ∧ digits = numeralValue (whole ++ fraction) := by
  have hall : AllDigits (whole ++ fraction) := hwhole.append hfraction
  have hpos := List.length_pos_iff.mpr hne
  constructor
  · intro h
    refine ⟨?_, by rw [← h, numeralValue_padded]⟩
    rintro ⟨d, rest, rfl⟩
    -- nothing was filled in, so that the zero is the first digit of a numeral
    have hlength := congrArg List.length h
    rw [length_padded, List.length_append, List.length_cons, List.length_cons] at hlength
    have hcount : fraction.length + 1 - (numeral digits).length = 0 := by omega
    rw [padded, hcount, List.replicate_zero, List.nil_append] at h
    exact not_leadingZero_numeral digits ⟨d, rest ++ fraction, h⟩
  · rintro ⟨hzero, rfl⟩
    -- the number is the same, so the length is all that has to be seen
    refine eq_of_numeralValue_eq (allDigits_padded _ _) hall ?_ (numeralValue_padded _ _)
    rw [length_padded, List.length_append]
    have hle : (numeral (numeralValue (whole ++ fraction))).length ≤ (whole ++ fraction).length :=
      (length_numeral_le_iff (by rw [List.length_append]; omega)).mpr (numeralValue_lt hall)
    rw [List.length_append] at hle
    by_cases hone : whole.length = 1
    · omega
    · -- more than one digit before the point, the first of them no zero
      have hlong : ¬LeadingZero (whole ++ fraction) := by
        rintro ⟨d, rest, h⟩
        match whole, hone with
        | [], _ => exact hne rfl
        | [c], hone => exact hone rfl
        | c :: e :: more, _ =>
          obtain ⟨rfl, -⟩ := List.cons.inj h
          exact hzero ⟨e, more, rfl⟩
      rw [(numeral_numeralValue_iff hall (by simp [hne])).mpr hlong, List.length_append]
      omega

/-- A decimal with places is its digits with a point before the last ones. -/
theorem plain_eq_padded (layout : NumberLayout) (digits : Nat) {places : Nat}
    (hplaces : 0 < places) :
    layout.plain ⟨digits, -places⟩ =
      (padded digits places).take ((padded digits places).length - places) ++ '.' ::
        (padded digits places).drop ((padded digits places).length - places) := by
  have hneg : ¬0 ≤ (-places : ℤ) := by omega
  have hcount : (- -(places : ℤ)).toNat = places := by omega
  simp only [plain, hneg, if_false, hcount, List.append_assoc, List.cons_append, List.nil_append]
  rfl

/-- **A decimal written with all its places**: the text reads as the decimal, digit for digit, and
has no needless zero in front. -/
theorem plain_eq_iff (layout : NumberLayout) {whole fraction : Text} (hwhole : AllDigits whole)
    (hne : whole ≠ []) (hfraction : AllDigits fraction) {d : Decimal} (hd : d.exponent < 0) :
    layout.plain d = whole ++ '.' :: fraction ↔
      ¬LeadingZero whole ∧ d = ⟨numeralValue (whole ++ fraction), -fraction.length⟩ := by
  obtain ⟨digits, exponent⟩ := d
  simp only at hd
  obtain ⟨places, rfl⟩ : ∃ places : Nat, exponent = -places := ⟨exponent.natAbs, by omega⟩
  -- there is one point in the text, so the two parts can be compared one by one
  have hpoint : '.' ∉ padded digits places := fun hmem =>
    absurd (allDigits_padded digits places '.' hmem) (by decide)
  have hcut := plain_eq_padded layout digits (by omega : 0 < places)
  have hlong : places < (padded digits places).length := by
    rw [length_padded]
    omega
  constructor
  · intro h
    rw [hcut] at h
    obtain ⟨hleft, -, hright⟩ :=
      (List.append_cons_inj_of_notMem (fun h => hpoint (List.mem_of_mem_take h))
        fun h => hpoint (List.mem_of_mem_drop h)).mp h
    -- the part after the point is as long as there are places, and both parts are the digits
    have hjoin : padded digits places = whole ++ fraction := by
      rw [← hleft, ← hright, List.take_append_drop]
    obtain rfl : places = fraction.length := by
      rw [← hright, List.length_drop]
      omega
    obtain ⟨hzero, hdigits⟩ := (padded_eq_iff hwhole hne hfraction).mp hjoin
    exact ⟨hzero, congrArg (Decimal.mk · _) hdigits⟩
  · rintro ⟨hzero, h⟩
    obtain ⟨hdigits, hexponent⟩ := Decimal.mk.inj h
    obtain rfl : places = fraction.length := by omega
    rw [hcut, (padded_eq_iff hwhole hne hfraction).mpr ⟨hzero, hdigits⟩, List.length_append,
      Nat.add_sub_cancel, List.take_left, List.drop_left]

/-- All places are written with a point, also if there are none behind it. -/
theorem point_mem_plain (layout : NumberLayout) (d : Decimal) : '.' ∈ layout.plain d := by
  simp only [plain]
  split
  · simp only [List.mem_append, List.mem_singleton, or_true, true_or]
  · simp only [List.mem_append, List.mem_singleton, or_true, true_or]

/-- An exponent is marked with a letter. -/
theorem mark_mem_scientific (d : Decimal) : 'e' ∈ json.scientific d := by
  simp only [scientific, json, List.mem_append, List.mem_singleton, or_true, true_or]

/-- No decimal is written with digits alone. -/
theorem mark_mem_write (d : Decimal) : '.' ∈ json.write d ∨ 'e' ∈ json.write d := by
  unfold write
  split
  · exact .inl (point_mem_plain json d)
  · exact .inr (mark_mem_scientific d)

/-- A text without the mark of an exponent is that of a decimal written with all its places. -/
theorem write_eq_iff {text : Text} (h : 'e' ∉ text) (d : Decimal) :
    json.write d = text ↔ (-5 ≤ leading d ∧ leading d ≤ 15) ∧ json.plain d = text := by
  unfold write
  split
  case isTrue hplain => exact ⟨fun heq => ⟨hplain, heq⟩, And.right⟩
  case isFalse hnot =>
    constructor
    · -- the text has the mark that it was said not to have
      rintro rfl
      exact absurd (mark_mem_scientific d) h
    · rintro ⟨hplain, -⟩
      exact absurd hplain hnot

/-- The characters that decimals are written with. -/
theorem mem_write {d : Decimal} {c : Char} (h : c ∈ json.write d) :
    isDigit c = true ∨ c ∈ ['.', '-', '+', 'e'] := by
  have hnumeral : ∀ {n : Nat}, c ∈ numeral n → isDigit c = true := isDigit_of_mem_numeral
  unfold write at h
  split at h
  · unfold plain at h
    simp only at h
    split at h
    · simp only [json, List.mem_append, List.mem_singleton] at h
      rcases h with ((h | h) | rfl) | rfl
      · exact .inl (hnumeral h)
      · exact .inl (allDigits_zeros _ c h)
      · decide
      · decide
    · rw [List.append_assoc, List.mem_append, List.mem_append, List.mem_singleton] at h
      rcases h with h | rfl | h
      · exact .inl (allDigits_padded _ _ c (List.mem_of_mem_take h))
      · decide
      · exact .inl (allDigits_padded _ _ c (List.mem_of_mem_drop h))
  · unfold scientific at h
    simp only [json, List.mem_append, List.mem_singleton] at h
    rcases h with (((h | h) | rfl) | h) | h
    · exact .inl (hnumeral (List.mem_of_mem_take h))
    · split at h
      · cases h
      · rcases List.mem_cons.mp h with rfl | h
        · decide
        · exact .inl (hnumeral (List.mem_of_mem_drop h))
    · decide
    · split at h
      · rw [List.mem_singleton.mp h]
        decide
      · rw [List.mem_singleton.mp h]
        decide
    · exact .inl (hnumeral h)

end NumberLayout

end LogSieve
