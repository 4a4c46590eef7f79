import LogSieve.Number
import LogSieve.Proofs.Number.Layout

/-!
# The text by which a floating-point number is compared

Which digits a floating-point number is compared by: without a point, those of the number itself, if
it is whole and below `10 ^ 21` (`comparedText_binary_eq_whole_iff`); with a point, those of its
shortest decimal, if that has places and is not written with an exponent
(`comparedText_binary_eq_point_iff`). Nothing else consists of digits, a point and a sign.
-/

namespace LogSieve

open Text

namespace Binary64

/-! ### Whole numbers -/

theorem natural?_eq_some_iff {x : Binary64} {n : Nat} : x.natural? = some n ↔ x.magnitude = n := by
  unfold natural? magnitude
  split
  case isTrue h =>
    obtain ⟨places, hplaces⟩ := Int.eq_ofNat_of_zero_le h
    rw [hplaces, Option.some.injEq, Int.toNat_natCast, zpow_natCast]
    -- without places after the point both sides are the same product
    have hcast : ((x.significand * Nat.pow 2 places : Nat) : ℚ) = x.significand * 2 ^ places := by
      rw [Nat.cast_mul, Nat.pow_eq, Nat.cast_pow, Nat.cast_two]
    rw [← hcast, Nat.cast_inj]
  case isFalse h =>
    obtain ⟨places, hplaces⟩ : ∃ places : Nat, x.exponent = -places :=
      ⟨x.exponent.natAbs, by omega⟩
    -- with places after the point the number is whole if they are all zero
    have hpos : 0 < 2 ^ places := Nat.pow_pos two_pos
    have hunit : (- -(places : ℤ)).toNat = places := by omega
    simp only [hplaces, hunit, Nat.pow_eq]
    rw [zpow_neg, zpow_natCast, ← div_eq_mul_inv, div_eq_iff (by positivity)]
    have hcast : (x.significand : ℚ) = n * 2 ^ places ↔ x.significand = n * 2 ^ places := by
      exact_mod_cast Iff.rfl
    rw [hcast]
    constructor
    · intro h
      split at h
      · next hzero =>
        rw [← Option.some.inj h, Nat.div_mul_cancel (Nat.dvd_of_mod_eq_zero hzero)]
      · cases h
    · intro h
      rw [h, Nat.mul_mod_left, if_pos rfl, Nat.mul_div_cancel n hpos]

/-- A number that is not whole is no natural number. -/
theorem natural?_eq_none_iff {x : Binary64} : x.natural? = none ↔ ∀ n : Nat, x.magnitude ≠ n := by
  constructor
  · intro h n hn
    rw [natural?_eq_some_iff.mpr hn] at h
    cases h
  · intro h
    cases hn : x.natural? with
    | none => rfl
    | some n => exact absurd (natural?_eq_some_iff.mp hn) (h n)

/-- Zero is whole. -/
theorem significand_ne_zero_of_natural? {x : Binary64} (h : x.natural? = none) :
    x.significand ≠ 0 := by
  intro hzero
  refine natural?_eq_none_iff.mp h 0 ?_
  rw [magnitude, hzero, Nat.cast_zero, zero_mul]

/-- A whole number of last places that rounds to a number is that number. -/
theorem magnitude_eq_of_holds_mul_step {x : Binary64} {n : Nat} (h : x.basin.Holds (n * x.step)) :
    x.magnitude = n * x.step := by
  rw [holds_basin_iff, mul_div_cancel_right₀ _ x.step_pos.ne'] at h
  obtain ⟨hlow, hhigh⟩ := h.le
  -- two integers at most a half apart
  have hle : n ≤ x.significand := le_of_sub_half_le (sub_le_iff_le_add.mpr hhigh)
  have hge : x.significand ≤ n := le_of_sub_half_le (x.sub_half_le_lower.trans hlow)
  rw [magnitude, ← step, le_antisymm hge hle]

/-- A whole number that rounds to a number with places after the point is that number. -/
theorem magnitude_eq_of_holds {x : Binary64} {n : Nat} (h : x.basin.Holds n)
    (hexponent : x.exponent < 0) : x.magnitude = n := by
  obtain ⟨places, hplaces⟩ : ∃ places : Nat, x.exponent = -places :=
    ⟨x.exponent.natAbs, by omega⟩
  have hstep : x.step = (2 ^ places)⁻¹ := by rw [step, hplaces, zpow_neg, zpow_natCast]
  -- the places after the point are more than enough for a whole number
  have hunits : (n : ℚ) = (n * 2 ^ places : Nat) * x.step := by
    rw [hstep]
    push_cast
    rw [mul_inv_cancel_right₀ (pow_ne_zero _ two_ne_zero)]
  rw [hunits] at h ⊢
  exact magnitude_eq_of_holds_mul_step h

/-- A number that is not whole has places after the point, and is less than ten quadrillion. -/
theorem lt_of_natural?_eq_none {x : Binary64} (h : x.natural? = none) :
    x.exponent < 0 ∧ ∀ q : ℚ, x.basin.Holds q → q < 10 ^ (16 : ℤ) := by
  have hexponent : x.exponent < 0 := by
    unfold natural? at h
    by_contra hge
    rw [if_pos (by omega)] at h
    cases h
  refine ⟨hexponent, fun q hq => ?_⟩
  have hhigh := hq.bounds.2
  have hstep : x.step ≤ 1 := zpow_le_one_of_nonpos₀ (by norm_num) hexponent.le
  -- a significand has 53 bits, which is less than sixteen digits
  have hmax := x.significand_le
  have hproduct : ((x.significand : ℚ) + 1 / 2) * x.step ≤ (x.significand + 1 / 2) * 1 :=
    mul_le_mul_of_nonneg_left hstep (by linarith)
  linarith

/-- What a whole number is written with, and when. -/
theorem wholeText?_eq_some_iff {x : Binary64} {text : Text} :
    x.wholeText? = some text ↔ ∃ n : Nat, x.magnitude = n ∧ n < Nat.pow 10 21 ∧
      text = (if x.negative && n ≠ 0 then ['-'] else []) ++ numeral n := by
  unfold wholeText?
  constructor
  · intro h
    obtain ⟨n, hn, htext⟩ := Option.bind_eq_some_iff.mp h
    split at htext
    · next hlt => exact ⟨n, natural?_eq_some_iff.mp hn, hlt, (Option.some.inj htext).symm⟩
    · cases htext
  · rintro ⟨n, hn, hlt, rfl⟩
    rw [natural?_eq_some_iff.mpr hn, Option.bind_some, if_pos hlt]

/-- A whole number has neither a point nor the mark of an exponent. -/
theorem allDigits_or_minus_of_wholeText? {x : Binary64} {text : Text}
    (h : x.wholeText? = some text) {c : Char} (hc : c ∈ text) : c = '-' ∨ isDigit c = true := by
  obtain ⟨n, -, -, rfl⟩ := wholeText?_eq_some_iff.mp h
  exact (mem_sign_append hc).imp_right isDigit_of_mem_numeral

/-- Any other text of a number has one of the two. -/
theorem mark_mem_text (x : Binary64) : '.' ∈ x.text .json ∨ 'e' ∈ x.text .json := by
  unfold text
  exact (NumberLayout.mark_mem_write x.shortest).imp (List.mem_append_right _)
    (List.mem_append_right _)

/-- So it never consists of digits and a sign. -/
theorem text_ne_sign_append (x : Binary64) {p : Prop} [Decidable p] {digits : Text}
    (hdigits : AllDigits digits) : x.text .json ≠ (if p then ['-'] else []) ++ digits := by
  intro h
  have hchars : ∀ c ∈ x.text .json, c = '-' ∨ isDigit c = true := by
    intro c hc
    rw [h] at hc
    exact (mem_sign_append hc).imp_right (hdigits c)
  rcases x.mark_mem_text with hpoint | hmark
  · exact absurd (hchars _ hpoint) (by decide)
  · exact absurd (hchars _ hmark) (by decide)

/-! ### Decimals with places -/

/-- A number whose shortest decimal has sixteen digits before the point at most, and which is not
written as a whole number, is not whole. -/
theorem natural?_eq_none_of_leading_le {x : Binary64} (hwhole : x.wholeText? = none)
    (hleading : NumberLayout.leading x.shortest ≤ 15) : x.natural? = none := by
  rw [natural?_eq_none_iff]
  intro n hmagnitude
  -- a whole number is written as one unless it is too large
  have hlarge : Nat.pow 10 21 ≤ n := by
    by_contra hlt
    have := wholeText?_eq_some_iff.mpr ⟨n, hmagnitude, Nat.lt_of_not_le hlt, rfl⟩
    rw [hwhole] at this
    cases this
  have hlargeQ : (10 : ℚ) ^ (21 : ℤ) ≤ x.magnitude := by
    rw [hmagnitude]
    exact_mod_cast hlarge
  have hx : x.significand ≠ 0 := by
    intro hzero
    rw [magnitude, hzero, Nat.cast_zero, zero_mul] at hlargeQ
    exact absurd hlargeQ (not_le.mpr (ten_zpow_pos 21))
  -- the shortest decimal is at least half as large
  have hholds := (isShortest_shortest hx).best.holds
  have hlow := hholds.bounds.1
  have hone : (1 : ℚ) ≤ x.significand := by exact_mod_cast Nat.pos_of_ne_zero hx
  have hlower := x.sub_half_le_lower
  have hhalf : x.magnitude / 2 ≤ x.lower * x.step := by
    rw [magnitude, ← step, mul_div_right_comm]
    exact mul_le_mul_of_nonneg_right (by linarith) x.step_pos.le
  have hten : (10 : ℚ) ^ (16 : ℤ) ≤ x.shortest.magnitude := by linarith
  -- so the first digit is in the seventeenth place before the point, or further to the left
  have hdigits : x.shortest.digits ≠ 0 := by
    intro hzero
    rw [Decimal.magnitude, hzero, Nat.cast_zero, zero_mul] at hten
    exact absurd hten (not_le.mpr (ten_zpow_pos 16))
  have := (NumberLayout.le_leading_iff hdigits 16).mpr hten
  omega

variable {x : Binary64}

/-- A number whose shortest decimal has places is not whole, since it would have a decimal with
fewer. -/
theorem IsShortest.natural?_eq_none {d : Decimal} (h : x.IsShortest d) (hplaces : d.exponent < 0) :
    x.natural? = none := by
  rw [natural?_eq_none_iff]
  intro n hn
  refine h.coarsest n 0 hplaces ?_
  rw [zpow_zero, mul_one, ← hn]
  exact x.holds_magnitude

/-- A number that is not whole has a shortest decimal with places. -/
theorem exponent_shortest_neg (h : x.natural? = none) : x.shortest.exponent < 0 := by
  -- otherwise the decimal is whole and rounds to the number, which would be whole itself
  by_contra hge
  obtain ⟨places, hplaces⟩ := Int.eq_ofNat_of_zero_le (not_lt.mp hge)
  have hholds := (isShortest_shortest (significand_ne_zero_of_natural? h)).best.holds
  have hnatural : x.shortest.magnitude = (x.shortest.digits * 10 ^ places : Nat) := by
    rw [Decimal.magnitude, hplaces, zpow_natCast]
    push_cast
    rfl
  rw [hnatural] at hholds
  have hmagnitude := magnitude_eq_of_holds hholds (lt_of_natural?_eq_none h).1
  exact natural?_eq_none_iff.mp h _ hmagnitude

/-- Zero would be a decimal without places. -/
theorem digits_shortest_ne_zero (h : x.natural? = none) : x.shortest.digits ≠ 0 := by
  intro hdigits
  have hbest := isShortest_shortest (significand_ne_zero_of_natural? h)
  refine hbest.coarsest 0 0 (exponent_shortest_neg h) ?_
  have hholds := hbest.best.holds
  rwa [Decimal.magnitude, hdigits, Nat.cast_zero, zero_mul, ← zero_mul (10 ^ (0 : ℤ)),
    ← Nat.cast_zero] at hholds

/-- A number that is not whole has sixteen digits before the point at most. -/
theorem leading_shortest_le (h : x.natural? = none) :
    NumberLayout.leading x.shortest ≤ 15 := by
  by_contra hlong
  have hholds := (isShortest_shortest (significand_ne_zero_of_natural? h)).best.holds
  have hsmall := (lt_of_natural?_eq_none h).2 _ hholds
  have hlarge := (NumberLayout.le_leading_iff (digits_shortest_ne_zero h) 16).mp (by omega)
  exact absurd hsmall hlarge.not_gt

end Binary64

namespace Number

/-- The characters of the texts that numbers are compared by. -/
theorem mem_comparedText {number : Number} {c : Char} (h : c ∈ number.comparedText) :
    isDigit c = true ∨ c ∈ ['.', '-', '+', 'e'] := by
  cases number with
  | whole value =>
    rcases mem_sign_append h with rfl | hdigit
    · decide
    · exact .inl (isDigit_of_mem_numeral hdigit)
  | binary x =>
    rw [comparedText] at h
    cases htext : x.wholeText? with
    | some text =>
      rw [htext, Option.getD_some] at h
      rcases Binary64.allDigits_or_minus_of_wholeText? htext h with rfl | hdigit
      · decide
      · exact .inl hdigit
    | none =>
      rw [htext, Option.getD_none, Binary64.text] at h
      rcases mem_sign_append h with rfl | hdecimal
      · decide
      · exact NumberLayout.mem_write hdecimal

variable {x : Binary64} {whole fraction : Text} (hwhole : AllDigits whole)

include hwhole in
/-- **Digits without a point** are what a number is compared by if it is the number that they
write, below `10 ^ 21`, and they have no needless zero in front; a zero has no sign. -/
theorem comparedText_binary_eq_whole_iff (hne : whole ≠ []) :
    (binary x).comparedText = (if x.negative then ['-'] else []) ++ whole ↔
      ¬LeadingZero whole ∧ numeralValue whole < Nat.pow 10 21 ∧
        x.magnitude = numeralValue whole ∧ ¬(x.negative = true ∧ numeralValue whole = 0) := by
  have hsigned := signed_numeral_eq_iff hwhole hne x.negative
  constructor
  · intro h
    cases htext : x.wholeText? with
    | none =>
      rw [comparedText, htext, Option.getD_none] at h
      exact absurd h (x.text_ne_sign_append hwhole)
    | some text =>
      obtain ⟨n, hmagnitude, hlt, rfl⟩ := Binary64.wholeText?_eq_some_iff.mp htext
      rw [comparedText, htext, Option.getD_some] at h
      obtain ⟨hzero, rfl, hsign⟩ := (hsigned n).mp h
      exact ⟨hzero, hlt, hmagnitude, hsign⟩
  · rintro ⟨hzero, hlt, hmagnitude, hsign⟩
    have htext := Binary64.wholeText?_eq_some_iff.mpr ⟨_, hmagnitude, hlt, rfl⟩
    rw [comparedText, htext, Option.getD_some]
    exact (hsigned _).mpr ⟨hzero, rfl, hsign⟩

/-- A text with a point and without the mark of an exponent is that of a number which is not whole,
written with all the places of its shortest decimal. -/
theorem comparedText_binary_eq_plain_iff {text : Text} (hpoint : '.' ∈ text) (hmark : 'e' ∉ text) :
    (binary x).comparedText = (if x.negative then ['-'] else []) ++ text ↔
      x.natural? = none ∧ -5 ≤ NumberLayout.leading x.shortest ∧
        NumberLayout.json.plain x.shortest = text := by
  constructor
  · intro h
    have hnone : x.wholeText? = none := by
      cases htext : x.wholeText? with
      | none => rfl
      | some whole =>
        -- a whole number is written without a point
        rw [comparedText, htext, Option.getD_some] at h
        have hmem : '.' ∈ whole := by
          rw [h]
          exact List.mem_append_right _ hpoint
        rcases Binary64.allDigits_or_minus_of_wholeText? htext hmem with hminus | hdigit
        · exact absurd hminus (by decide)
        · exact absurd hdigit (by decide)
    rw [comparedText, hnone, Option.getD_none, Binary64.text, List.append_cancel_left_eq,
      NumberLayout.write_eq_iff hmark] at h
    obtain ⟨⟨hleast, hgreatest⟩, hplain⟩ := h
    exact ⟨Binary64.natural?_eq_none_of_leading_le hnone hgreatest, hleast, hplain⟩
  · rintro ⟨hnatural, hleast, hplain⟩
    have hnone : x.wholeText? = none := by rw [Binary64.wholeText?, hnatural, Option.bind_none]
    rw [comparedText, hnone, Option.getD_none, Binary64.text, List.append_cancel_left_eq,
      NumberLayout.write_eq_iff hmark]
    exact ⟨⟨hleast, Binary64.leading_shortest_le hnatural⟩, hplain⟩

include hwhole in
/-- **Digits on both sides of a point** are what a number is compared by if they are its shortest
decimal, not below a hundred-thousandth, and have no needless zero in front. -/
theorem comparedText_binary_eq_point_iff (hne : whole ≠ []) (hfraction : AllDigits fraction)
    (hplaces : fraction ≠ []) :
    (binary x).comparedText = (if x.negative then ['-'] else []) ++ (whole ++ '.' :: fraction) ↔
      ¬LeadingZero whole ∧
        (10 : ℚ) ^ (-5 : ℤ) ≤ numeralValue (whole ++ fraction) * 10 ^ (-fraction.length : ℤ) ∧
        x.IsShortest ⟨numeralValue (whole ++ fraction), -fraction.length⟩ := by
  have hmark : 'e' ∉ whole ++ '.' :: fraction := by
    rw [List.mem_append, List.mem_cons, not_or, not_or]
    exact ⟨fun h => absurd (hwhole _ h) (by decide), by decide,
      fun h => absurd (hfraction _ h) (by decide)⟩
  have hpoint : '.' ∈ whole ++ '.' :: fraction := List.mem_append_right _ List.mem_cons_self
  have hpositive : 0 < fraction.length := List.length_pos_iff.mpr hplaces
  rw [comparedText_binary_eq_plain_iff hpoint hmark]
  constructor
  · rintro ⟨hnatural, hleast, hplain⟩
    have hlarge :=
      (NumberLayout.le_leading_iff (Binary64.digits_shortest_ne_zero hnatural) (-5)).mp hleast
    have hbest :=
      Binary64.isShortest_shortest (Binary64.significand_ne_zero_of_natural? hnatural)
    -- the text tells which decimal it is
    obtain ⟨hzero, hshortest⟩ := (NumberLayout.plain_eq_iff _ hwhole hne hfraction
      (Binary64.exponent_shortest_neg hnatural)).mp hplain
    rw [hshortest] at hbest hlarge
    exact ⟨hzero, hlarge, hbest⟩
  · rintro ⟨hzero, hlarge, hbest⟩
    have hnatural := hbest.natural?_eq_none (by simp only; omega)
    have hshortest :=
      (Binary64.shortest_eq_iff (Binary64.significand_ne_zero_of_natural? hnatural)).mpr hbest
    refine ⟨hnatural,
      (NumberLayout.le_leading_iff (Binary64.digits_shortest_ne_zero hnatural) (-5)).mpr ?_,
      (NumberLayout.plain_eq_iff _ hwhole hne hfraction
        (Binary64.exponent_shortest_neg hnatural)).mpr ⟨hzero, hshortest⟩⟩
    rw [hshortest]
    exact hlarge

end Number

end LogSieve
