import LogSieve.Proofs.Number.Compared
import Mathlib.Algebra.Order.Ring.Abs

/-!
# The nearest floating-point number

`IsNearest x q` says which number a rational is rounded to, without a word about how: no other
number is nearer, and if another one is as near, then `x` has the even significand. Rounding the
magnitude and keeping the sign finds a number of this kind (`isNearest_of_holds`), and there is no
second one with another value (`IsNearest.value_eq_of_holds`). For integers these are
`isNearest_of_ofInt?` and `IsNearest.value_eq`.

That there is no second one rests on one fact about neighbours: of two numbers without another one
between them not both have an even significand (`not_both_even_above`, `not_both_even_below`). The
two directions differ, since below a power of two the numbers lie twice as dense.

Everything about distances is known for magnitudes already (`Basin.Holds.nearest`). The sign comes
in only through `abs_sub_magnitude_le`: with another sign a number is not nearer.
-/

namespace LogSieve.Binary64

/-! ### Values -/

/-- The number with its sign, exactly. -/
def value (x : Binary64) : ℚ :=
  if x.negative then -x.magnitude else x.magnitude

theorem magnitude_nonneg (x : Binary64) : 0 ≤ x.magnitude :=
  mul_nonneg (Nat.cast_nonneg _) x.step_pos.le

theorem abs_value (x : Binary64) : |x.value| = x.magnitude := by
  rw [value]
  split
  · rw [abs_neg, abs_of_nonneg x.magnitude_nonneg]
  · exact abs_of_nonneg x.magnitude_nonneg

/-- A magnitude is written in one way. -/
theorem magnitude_inj {x y : Binary64} (h : x.magnitude = y.magnitude) :
    x.significand = y.significand ∧ x.exponent = y.exponent := by
  have hx : x.basin.Holds y.magnitude := h ▸ x.holds_magnitude
  exact hx.unique y.holds_magnitude

/-- A number is its magnitude and its sign. -/
theorem eq_of_magnitude_eq {x y : Binary64} (hsign : x.negative = y.negative)
    (h : x.magnitude = y.magnitude) : x = y := by
  obtain ⟨hsignificand, hexponent⟩ := magnitude_inj h
  cases x
  cases y
  simp only at hsign hsignificand hexponent
  subst hsign hsignificand hexponent
  rfl

theorem magnitude_eq_zero_iff {x : Binary64} : x.magnitude = 0 ↔ x.isZero = true := by
  rw [magnitude, mul_eq_zero, or_iff_left (zpow_ne_zero _ two_ne_zero), Nat.cast_eq_zero, isZero,
    beq_iff_eq]

/-- **Two numbers are compared by their values**: the zeros are the only ones that share one. -/
theorem sameValue_iff {x y : Binary64} : x.sameValue y = true ↔ x.value = y.value := by
  rw [sameValue, Bool.or_eq_true, Bool.and_eq_true, beq_iff_eq]
  constructor
  · rintro (⟨hx, hy⟩ | rfl)
    · rw [value, value, magnitude_eq_zero_iff.mpr hx, magnitude_eq_zero_iff.mpr hy, neg_zero,
        ite_self, ite_self]
    · rfl
  · intro h
    have hmagnitude : x.magnitude = y.magnitude := by rw [← abs_value, h, abs_value]
    by_cases hzero : x.magnitude = 0
    · exact .inl ⟨magnitude_eq_zero_iff.mp hzero, magnitude_eq_zero_iff.mp (hmagnitude ▸ hzero)⟩
    -- the magnitude is not its own opposite, so that the signs are the same
    have hsign : x.negative = y.negative := by
      rw [value, value, ← hmagnitude] at h
      cases hx : x.negative <;> cases hy : y.negative <;> simp only [hx, hy] at h ⊢
      · exact absurd (self_eq_neg.mp h) hzero
      · exact absurd (neg_eq_self.mp h) hzero
    exact .inr (eq_of_magnitude_eq hsign hmagnitude)

/-! ### Neighbours -/

section Neighbours

variable {x y : Binary64}

/-- The next number above is one more, in units of the last place. -/
theorem exists_units_above (hle : x.exponent ≤ y.exponent)
    (h : y.magnitude = x.magnitude + x.step) :
    ∃ places, y.significand * 2 ^ places = x.significand + 1 := by
  -- counted in the smaller places of `x`, both are whole
  obtain ⟨places, -, hunits⟩ := exists_units hle
  have hnext : ((y.significand * 2 ^ places : Nat) : ℚ) * x.step =
      (x.significand + 1 : Nat) * x.step := by
    rw [← hunits, h, magnitude, ← step]
    push_cast
    ring
  exact ⟨places, by exact_mod_cast mul_right_cancel₀ x.step_pos.ne' hnext⟩

/-- A number and the next one above are not both even. -/
theorem not_both_even_above (h : y.magnitude = x.magnitude + x.step)
    (hx : x.significand % 2 = 0) : y.significand % 2 ≠ 0 := by
  intro hy
  rcases le_or_gt x.exponent y.exponent with hle | hlt
  · obtain ⟨places, hnext⟩ := exists_units_above hle h
    -- an even number times a power of two is not one more than an even number
    have heven : 2 ∣ y.significand * 2 ^ places := (Nat.dvd_of_mod_eq_zero hy).mul_right _
    omega
  · -- above a number the last places are not smaller
    have hstep := x.step_pos
    have hless := magnitude_lt_of_exponent_lt hlt
    linarith

/-- Below a number the reals that round to it reach for half a place, and below a power of two for a
quarter. -/
theorem lower_cases (hpositive : 0 < x.significand) :
    x.lower = x.significand - 1 / 2 ∨
      x.significand = Nat.pow 2 52 ∧ x.lower = 2 ^ 52 - 1 / 4 := by
  by_cases hbottom : x.significand = Nat.pow 2 52 ∧ -1074 < x.exponent
  · exact .inr ⟨hbottom.1, lower_bottom hbottom.1 hbottom.2⟩
  · exact .inl (lower_eq hpositive hbottom)

theorem cast_two_pow_52 : ((Nat.pow 2 52 : Nat) : ℚ) = 2 ^ 52 := by norm_num

/-- The next number below is one less in units of the last place, if its own last place is not
smaller. -/
theorem exists_units_below (hle : x.exponent ≤ y.exponent) (hpositive : 0 < x.significand)
    (h : y.magnitude = (2 * x.lower - x.significand) * x.step) :
    ∃ places, y.significand * 2 ^ places + 1 = x.significand := by
  obtain ⟨places, -, hunits⟩ := exists_units hle
  refine ⟨places, ?_⟩
  generalize y.significand * 2 ^ places = n at hunits ⊢
  have hn : (n : ℚ) = 2 * x.lower - x.significand :=
    mul_right_cancel₀ x.step_pos.ne' (hunits.symm.trans h)
  rcases lower_cases hpositive with hlow | ⟨hbottom, hlow⟩
  · have hnext : ((n + 1 : Nat) : ℚ) = (x.significand : Nat) := by
      push_cast
      linarith
    exact Nat.cast_injective hnext
  · -- below a power of two the next number is not whole in these units
    rw [hbottom, cast_two_pow_52] at hn
    have hodd : ((2 * n + 1 : Nat) : ℚ) = (2 ^ 53 : Nat) := by
      push_cast
      linarith
    have : 2 * n + 1 = 2 ^ 53 := Nat.cast_injective hodd
    omega

/-- The next number below has a smaller last place only below a power of two. -/
theorem lower_eq_of_below (hgt : y.exponent < x.exponent) (hpositive : 0 < x.significand)
    (h : y.magnitude = (2 * x.lower - x.significand) * x.step) :
    x.significand = Nat.pow 2 52 ∧ x.lower = 2 ^ 52 - 1 / 4 := by
  refine (lower_cases hpositive).resolve_left fun hlow => ?_
  have hleast : -1074 < x.exponent := y.canonical.2.1.trans_lt hgt
  have hnotBottom : x.significand ≠ Nat.pow 2 52 := by
    intro hbottom
    rw [lower_bottom hbottom hleast, hbottom] at hlow
    norm_num at hlow
  -- otherwise it has 53 bits in the places of the number above, too many for smaller ones
  have hstep := x.step_pos
  have hsucc := full_succ_le_significand hleast hnotBottom
  have hbelow : 2 ^ 52 * x.step ≤ y.magnitude := by
    rw [h]
    exact mul_le_mul_of_nonneg_right (by linarith) hstep.le
  have hbits := two_mul_magnitude_le hgt
  linarith

/-- The next number below a power of two has all 53 bits set. -/
theorem significand_eq_of_below (hgt : y.exponent < x.exponent) (hpositive : 0 < x.significand)
    (h : y.magnitude = (2 * x.lower - x.significand) * x.step) :
    y.significand = 2 ^ 53 - 1 := by
  obtain ⟨hbottom, hlow⟩ := lower_eq_of_below hgt hpositive h
  obtain ⟨places, hplaces, -⟩ := exists_units hgt.le
  obtain ⟨more, rfl⟩ : ∃ more, places = more + 1 := ⟨places - 1, by omega⟩
  have hxstep : x.step = 2 ^ (more + 1) * y.step := by
    rw [step, step, hplaces, zpow_add₀ two_ne_zero, zpow_natCast, mul_comm]
  have hunits : y.significand = (2 ^ 53 - 1) * 2 ^ more := by
    have : ((y.significand : Nat) : ℚ) * y.step = ((2 ^ 53 - 1) * 2 ^ more : Nat) * y.step := by
      calc ((y.significand : Nat) : ℚ) * y.step = y.magnitude := rfl
        _ = (2 ^ 53 - 1) / 2 * x.step := by
          rw [h, hlow, hbottom, cast_two_pow_52]
          ring
        _ = ((2 ^ 53 - 1) * 2 ^ more : Nat) * y.step := by
          rw [hxstep]
          push_cast
          ring
    exact_mod_cast mul_right_cancel₀ y.step_pos.ne' this
  -- more places do not fit
  have hmax : y.significand < 2 ^ 53 := y.canonical.1
  have hpositive : 0 < 2 ^ more := Nat.pow_pos two_pos
  generalize 2 ^ more = factor at hunits hpositive
  have hfactor : factor = 1 := by omega
  rw [hunits, hfactor, mul_one]

/-- A number and the next one below are not both even. -/
theorem not_both_even_below (hlt : y.magnitude < x.magnitude)
    (h : y.magnitude = (2 * x.lower - x.significand) * x.step) (hx : x.significand % 2 = 0) :
    y.significand % 2 ≠ 0 := by
  intro hy
  -- below zero there is nothing
  have hpositive : 0 < x.significand := by
    rw [Nat.pos_iff_ne_zero]
    intro hzero
    rw [magnitude, magnitude, hzero, Nat.cast_zero, zero_mul] at hlt
    exact absurd hlt (mul_nonneg (Nat.cast_nonneg _) y.step_pos.le).not_gt
  rcases le_or_gt x.exponent y.exponent with hle | hgt
  · obtain ⟨places, hnext⟩ := exists_units_below hle hpositive h
    have heven : 2 ∣ y.significand * 2 ^ places := (Nat.dvd_of_mod_eq_zero hy).mul_right _
    omega
  · rw [significand_eq_of_below hgt hpositive h] at hy
    cases hy

/-- **No magnitude is as near to two even numbers**, if it rounds to one of them. -/
theorem Basin.Holds.eq_of_tie {q : ℚ} (h : x.basin.Holds q)
    (htie : |q - x.magnitude| = |q - y.magnitude|) (hx : x.significand % 2 = 0)
    (hy : y.significand % 2 = 0) : x.magnitude = y.magnitude := by
  have hself : x.magnitude = x.significand * x.step := rfl
  obtain ⟨hlow, hhigh⟩ := h.bounds
  by_contra hne
  -- `q` is in the middle between the two, and they are neighbours
  have hmiddle : 2 * q = x.magnitude + y.magnitude := by
    rcases abs_eq_abs.mp htie with heq | heq
    · exact absurd (sub_right_injective heq) hne
    · linarith
  rcases lt_or_gt_of_ne hne with hlt | hgt
  · have hgap := add_step_le hlt
    exact not_both_even_above (by linarith) hx hy
  · have hgap := le_sub_lower hgt
    exact not_both_even_below hgt (by linarith) hx hy

end Neighbours

/-! ### Rounding with a sign -/

/-- Of all floating-point numbers `x` is nearest to `q`, and has an even significand if another one
is as near. -/
structure IsNearest (x : Binary64) (q : ℚ) : Prop where
  /-- No number is nearer. -/
  nearest : ∀ y : Binary64, |q - x.value| ≤ |q - y.value|
  /-- If one with another value is as near, the significand is even. -/
  even : ∀ y : Binary64, y.value ≠ x.value → |q - x.value| = |q - y.value| →
    x.significand % 2 = 0

/-- A magnitude with a sign. -/
def withSign (negative : Bool) (q : ℚ) : ℚ :=
  if negative then -q else q

theorem abs_withSign (negative : Bool) {q : ℚ} (hq : 0 ≤ q) : |withSign negative q| = q := by
  rw [withSign]
  split
  · rw [abs_neg, abs_of_nonneg hq]
  · exact abs_of_nonneg hq

section Signed

variable {negative : Bool} {q : ℚ} {x y : Binary64}

/-- With another sign a number is not nearer. -/
theorem abs_sub_magnitude_le (hq : 0 ≤ q) (negative : Bool) (y : Binary64) :
    |q - y.magnitude| ≤ |withSign negative q - y.value| := by
  calc |q - y.magnitude| = |(|withSign negative q| - |y.value|)| := by
        rw [abs_withSign negative hq, abs_value]
    _ ≤ |withSign negative q - y.value| := abs_abs_sub_abs_le_abs_sub _ _

theorem abs_sub_magnitude_eq (h : x.negative = negative) :
    |q - x.magnitude| = |withSign negative q - x.value| := by
  rw [value, withSign, h]
  split
  · rw [← abs_neg]
    congr 1
    ring
  · rfl

/-- The number that a magnitude rounds to and its opposite are not as near. -/
theorem value_eq_of_magnitude_eq (hq : 0 ≤ q) (hholds : x.basin.Holds q)
    (hmagnitude : x.magnitude = y.magnitude)
    (htie : |withSign negative q - x.value| = |withSign negative q - y.value|) :
    x.value = y.value := by
  rcases abs_eq_abs.mp (by rw [abs_value, abs_value, hmagnitude] : |x.value| = |y.value|) with
    heq | hopposite
  · exact heq
  -- only zero is as near to a number as to its opposite, and zero rounds to zero
  have hzero : x.value = 0 := by
    rcases abs_eq_abs.mp htie with heq | heq
    · linarith
    · have hsigned : withSign negative q = 0 := by linarith
      have hnearest := (hholds.nearest (zero false)).1
      have hzero : (zero false).magnitude = 0 := magnitude_eq_zero_iff.mpr rfl
      rw [← abs_withSign negative hq, hsigned, abs_zero, hzero, sub_self, abs_zero, zero_sub,
        abs_neg] at hnearest
      rw [← abs_eq_zero, abs_value]
      exact abs_nonpos_iff.mp hnearest
  linarith

/-- **Rounding the magnitude gives the nearest number.** -/
theorem isNearest_of_holds (hq : 0 ≤ q) (hsign : x.negative = negative)
    (hholds : x.basin.Holds q) : x.IsNearest (withSign negative q) := by
  have hnearest : ∀ y : Binary64, |q - x.magnitude| ≤ |q - y.magnitude| :=
    fun y => (hholds.nearest y).1
  refine ⟨fun y => ?_, fun y hne htie => ?_⟩
  · rw [← abs_sub_magnitude_eq hsign]
    exact (hnearest y).trans (abs_sub_magnitude_le hq negative y)
  · have hmagnitude : x.magnitude ≠ y.magnitude := fun heq =>
      hne (value_eq_of_magnitude_eq hq hholds heq htie).symm
    refine (hholds.nearest y).2 hmagnitude (le_antisymm (hnearest y) ?_)
    rw [abs_sub_magnitude_eq hsign, htie]
    exact abs_sub_magnitude_le hq negative y

/-- **There is one nearest value.** -/
theorem IsNearest.value_eq_of_holds (h : x.IsNearest (withSign negative q)) (hq : 0 ≤ q)
    (hsign : y.negative = negative) (hholds : y.basin.Holds q) : x.value = y.value := by
  have hy := isNearest_of_holds hq hsign hholds
  by_contra hne
  -- both are as near, and so both are even
  have htie : |withSign negative q - y.value| = |withSign negative q - x.value| :=
    le_antisymm (hy.nearest x) (h.nearest y)
  have heven : x.significand % 2 = 0 := h.even y (Ne.symm hne) htie.symm
  have heven' : y.significand % 2 = 0 := hy.even x hne htie
  -- the same tie for the magnitudes, for which `eq_of_tie` is stated
  have htie' : |q - y.magnitude| = |q - x.magnitude| := by
    refine le_antisymm (hholds.nearest x).1 ?_
    rw [abs_sub_magnitude_eq hsign, htie]
    exact abs_sub_magnitude_le hq negative x
  have hmagnitude := hholds.eq_of_tie htie' heven' heven
  exact hne (value_eq_of_magnitude_eq hq hholds hmagnitude htie).symm

/-- **The nearest number and the sign** say which number a magnitude with a sign rounds to. -/
theorem IsNearest.eq_of_holds (h : x.IsNearest (withSign negative q)) (hq : 0 ≤ q)
    (hx : x.negative = negative) (hy : y.negative = negative) (hholds : y.basin.Holds q) :
    x = y := by
  refine eq_of_magnitude_eq (hx.trans hy.symm) ?_
  rw [← abs_value, h.value_eq_of_holds hq hy hholds, abs_value]

end Signed

/-! ### Rounding an integer -/

section Integer

variable {n : ℤ} {x y : Binary64}

/-- An integer is its absolute value with its sign. -/
theorem withSign_natAbs (n : ℤ) : withSign (decide (n < 0)) n.natAbs = n := by
  rw [withSign]
  by_cases hn : n < 0
  · rw [decide_eq_true hn, if_pos rfl, Nat.cast_natAbs, abs_of_neg hn, Int.cast_neg, neg_neg]
  · rw [decide_eq_false hn, if_neg Bool.false_ne_true, Nat.cast_natAbs,
      abs_of_nonneg (not_lt.mp hn)]

theorem ofInt?_eq_some_iff :
    ofInt? n = some x ↔ x.negative = decide (n < 0) ∧ x.basin.Holds n.natAbs := by
  rw [ofInt?, ofRatio?_eq_some_iff one_ne_zero, Nat.cast_one, div_one]

/-- Every integer that fits into 64 bits with or without a sign has a nearest number. -/
theorem exists_ofInt? (hlow : -2 ^ 63 ≤ n) (hhigh : n < 2 ^ 64) : ∃ x, ofInt? n = some x := by
  cases h : ofInt? n with
  | some x => exact ⟨x, rfl⟩
  | none =>
    -- otherwise it would reach the bound above which nothing is read
    rw [ofInt?, ofRatio?_eq_none_iff one_ne_zero, Nat.cast_one, div_one] at h
    have hlt : n.natAbs < 2 ^ 64 := by omega
    have hltQ : (n.natAbs : ℚ) < 2 ^ 64 := by exact_mod_cast hlt
    have hpow : (2 : ℚ) ^ (12 : ℤ) ≤ 2 ^ (971 : ℤ) := zpow_le_zpow_right₀ one_le_two (by norm_num)
    rw [overflow] at h
    -- the bound is far off, and its power is not to be computed
    generalize (2 : ℚ) ^ (971 : ℤ) = place at h hpow
    norm_num at hpow
    linarith

/-- **Rounding an integer gives the nearest number.** -/
theorem isNearest_of_ofInt? (h : ofInt? n = some x) : x.IsNearest n := by
  obtain ⟨hsign, hholds⟩ := ofInt?_eq_some_iff.mp h
  rw [← withSign_natAbs n]
  exact isNearest_of_holds (Nat.cast_nonneg _) hsign hholds

theorem IsNearest.value_eq (h : x.IsNearest n) (hy : ofInt? n = some y) : x.value = y.value := by
  obtain ⟨hsign, hholds⟩ := ofInt?_eq_some_iff.mp hy
  rw [← withSign_natAbs n] at h
  exact h.value_eq_of_holds (Nat.cast_nonneg _) hsign hholds

/-- Of the integers up to `2 ^ 53` only that one itself rounds to a number whose last place is more
than one, and then it is two. -/
theorem Basin.Holds.eq_of_exponent_pos {n : Nat} (h : x.basin.Holds n) (hpos : 0 < x.exponent)
    (hle : n ≤ 2 ^ 53) : n = 2 ^ 53 ∧ x.step = 2 := by
  have hsteps : 2 ≤ x.step := by
    have hone : (2 : ℚ) ^ (1 : ℤ) ≤ 2 ^ x.exponent := zpow_le_zpow_right₀ one_le_two hpos
    rwa [zpow_one] at hone
  have hleQ : (n : ℚ) ≤ 2 ^ 53 := by exact_mod_cast hle
  -- a last place of two or more: what rounds to the number begins a half below `2 ^ 53` at least
  have hlow := h.bounds.1
  have hproduct : (2 ^ 52 - 1 / 4) * x.step ≤ x.lower * x.step :=
    mul_le_mul_of_nonneg_right (bottom_le_lower (by omega)) x.step_pos.le
  constructor
  · have hge : 2 ^ 53 ≤ n := by
      refine le_of_sub_half_le ?_
      push_cast
      linarith
    exact le_antisymm hle hge
  · by_contra hne
    -- with the next larger place the number would be at least `2 ^ 54 - 1`
    have hexponent : (2 : ℤ) ≤ x.exponent := by
      by_contra hlt
      have hone : x.exponent = 1 := by omega
      exact hne (by rw [step, hone, zpow_one])
    have hfour : (2 : ℚ) ^ (2 : ℤ) ≤ x.step := zpow_le_zpow_right₀ one_le_two hexponent
    norm_num at hfour
    linarith

/-- **Up to `2 ^ 53` an integer is a floating-point number itself.** -/
theorem value_eq_of_natAbs_le (hx : ofInt? n = some x) (h : n.natAbs ≤ 2 ^ 53) : x.value = n := by
  obtain ⟨hsign, hholds⟩ := ofInt?_eq_some_iff.mp hx
  suffices hmagnitude : x.magnitude = n.natAbs by
    rw [value, hmagnitude, hsign]
    exact withSign_natAbs n
  -- by the last place of `x`: below one the integer is a multiple of it, at one it is the unit, and
  -- above one only `2 ^ 53` is left
  rcases lt_trichotomy x.exponent 0 with hneg | hzero | hpos
  · exact magnitude_eq_of_holds hholds hneg
  · have hstep : x.step = 1 := by rw [step, hzero, zpow_zero]
    have hself := magnitude_eq_of_holds_mul_step (n := n.natAbs) (by rwa [hstep, mul_one])
    rwa [hstep, mul_one] at hself
  · obtain ⟨hn, hstep⟩ := hholds.eq_of_exponent_pos hpos h
    have hunits : (n.natAbs : ℚ) = (2 ^ 52 : Nat) * x.step := by
      rw [hn, hstep]
      norm_num
    rw [hunits] at hholds ⊢
    exact magnitude_eq_of_holds_mul_step hholds

end Integer

end LogSieve.Binary64
