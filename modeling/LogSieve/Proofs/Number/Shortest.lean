import LogSieve.Proofs.Number.Rounding
import Mathlib.Data.Rat.Floor

/-!
# The decimal a number is written with

`IsShortest x d` says what `d` has to be to stand for the magnitude of `x`: a decimal that rounds to
`x`, on the coarsest grid of decimals that has one, and there the nearest to `x`, with an even last
digit on a tie. There is only one such decimal (`IsShortest.unique`), and `shortest` finds it
(`isShortest_shortest`).

On one grid only the two neighbours of the number matter, since the magnitudes that round to it
form an interval (`Basin.onGrid?_spec`). The search ends in time because its first grid is
coarser than the number but by less than a factor of a thousand (`powerAbove_spec`).
-/

namespace LogSieve

theorem Within.convex {closed : Bool} {low high p q r : ℚ} (hp : Within closed low high p)
    (hr : Within closed low high r) (hpq : p ≤ q) (hqr : q ≤ r) : Within closed low high q := by
  cases closed with
  | true => exact ⟨hp.1.trans hpq, hqr.trans hr.2⟩
  | false => exact ⟨hp.1.trans_le hpq, hqr.trans_lt hr.2⟩

/-- The magnitude of a decimal. -/
def Decimal.magnitude (d : Decimal) : ℚ :=
  d.digits * 10 ^ d.exponent

namespace Binary64

theorem ten_zpow_pos (exponent : ℤ) : (0 : ℚ) < 10 ^ exponent :=
  zpow_pos (by norm_num) _

namespace Basin

/-- The number in the middle of a basin. -/
def center (basin : Basin) : ℚ :=
  basin.mid * basin.unit

/-- What a decimal has to be to be taken on its grid. -/
structure IsBest (basin : Basin) (d : Decimal) : Prop where
  /-- The decimal lies in the basin. -/
  holds : basin.Holds d.magnitude
  /-- None on the same grid that does is nearer to the number. -/
  nearest : ∀ digits : Nat, basin.Holds (digits * 10 ^ d.exponent) →
    |basin.center - d.magnitude| ≤ |basin.center - digits * 10 ^ d.exponent|
  /-- If another one is as near, the last digit is even. -/
  even : ∀ digits : Nat, basin.Holds (digits * 10 ^ d.exponent) → digits ≠ d.digits →
    |basin.center - d.magnitude| = |basin.center - digits * 10 ^ d.exponent| → d.digits % 2 = 0

/-! ### One grid -/

section Grid

variable {basin : Basin} {floor : Nat} {exponent : ℤ}

/-- The distance to a grid point below the number, past the lower neighbour. -/
theorem dist_of_le_floor (hfloor : floor * 10 ^ exponent ≤ basin.center) {digits : Nat}
    (h : digits ≤ floor) :
    |basin.center - digits * 10 ^ exponent| =
      |basin.center - floor * 10 ^ exponent| + (floor - digits : Nat) * 10 ^ exponent := by
  have hnonneg : (0 : ℚ) ≤ (floor - digits : Nat) * 10 ^ exponent :=
    mul_nonneg (Nat.cast_nonneg _) (ten_zpow_pos _).le
  have hsplit : basin.center - digits * 10 ^ exponent =
      basin.center - floor * 10 ^ exponent + (floor - digits : Nat) * 10 ^ exponent := by
    rw [Nat.cast_sub h]
    ring
  rw [hsplit, abs_of_nonneg (sub_nonneg.mpr hfloor)]
  exact abs_of_nonneg (by linarith)

/-- The distance to a grid point above the number, past the upper neighbour. -/
theorem dist_of_floor_lt (hceil : basin.center ≤ (floor + 1 : Nat) * 10 ^ exponent) {digits : Nat}
    (h : floor + 1 ≤ digits) :
    |basin.center - digits * 10 ^ exponent| =
      |basin.center - (floor + 1 : Nat) * 10 ^ exponent| +
        (digits - (floor + 1) : Nat) * 10 ^ exponent := by
  have hnonneg : (0 : ℚ) ≤ (digits - (floor + 1) : Nat) * 10 ^ exponent :=
    mul_nonneg (Nat.cast_nonneg _) (ten_zpow_pos _).le
  have hsplit : basin.center - digits * 10 ^ exponent =
      basin.center - (floor + 1 : Nat) * 10 ^ exponent -
        (digits - (floor + 1) : Nat) * 10 ^ exponent := by
    rw [Nat.cast_sub h]
    ring
  rw [hsplit, abs_of_nonpos (sub_nonpos.mpr hceil), abs_of_nonpos (by linarith)]
  ring

variable (hcenter : basin.Holds basin.center) (hfloor : floor * 10 ^ exponent ≤ basin.center)
  (hceil : basin.center ≤ (floor + 1 : Nat) * 10 ^ exponent)

include hcenter hfloor hceil in
/-- **Only the two neighbours matter**: any other decimal on the grid that lies in the basin is
farther away than the neighbour on its side, which then lies there too. -/
theorem exists_neighbour {digits : Nat} (h : basin.Holds (digits * 10 ^ exponent)) :
    ∃ near, (near = floor ∨ near = floor + 1) ∧ basin.Holds (near * 10 ^ exponent) ∧
      |basin.center - near * 10 ^ exponent| ≤ |basin.center - digits * 10 ^ exponent| ∧
      (digits ≠ near →
        |basin.center - near * 10 ^ exponent| < |basin.center - digits * 10 ^ exponent|) := by
  have hgrid := ten_zpow_pos exponent
  have hpast : ∀ {count : Nat}, count ≠ 0 → (0 : ℚ) < count * 10 ^ exponent := fun hcount =>
    mul_pos (Nat.cast_pos.mpr (Nat.pos_of_ne_zero hcount)) hgrid
  -- the neighbour on the side of the decimal lies between it and the number
  rcases Nat.lt_or_ge floor digits with habove | hbelow
  · have hle : ((floor + 1 : Nat) : ℚ) * 10 ^ exponent ≤ digits * 10 ^ exponent :=
      mul_le_mul_of_nonneg_right (Nat.cast_le.mpr habove) hgrid.le
    have hdist := dist_of_floor_lt hceil habove
    refine ⟨floor + 1, .inr rfl, hcenter.convex h hceil hle, ?_, fun hne => ?_⟩
    · rw [hdist]
      exact le_add_of_nonneg_right (mul_nonneg (Nat.cast_nonneg _) hgrid.le)
    · rw [hdist]
      exact lt_add_of_pos_right _ (hpast (by omega))
  · have hle : (digits : ℚ) * 10 ^ exponent ≤ floor * 10 ^ exponent :=
      mul_le_mul_of_nonneg_right (Nat.cast_le.mpr hbelow) hgrid.le
    have hdist := dist_of_le_floor hfloor hbelow
    refine ⟨floor, .inl rfl, h.convex hcenter hle hfloor, ?_, fun hne => ?_⟩
    · rw [hdist]
      exact le_add_of_nonneg_right (mul_nonneg (Nat.cast_nonneg _) hgrid.le)
    · rw [hdist]
      exact lt_add_of_pos_right _ (hpast (by omega))

include hcenter hfloor hceil in
/-- A neighbour is best if the other one is farther, or as far and this one is even. -/
theorem isBest_of_neighbours {digits : Nat} (hholds : basin.Holds (digits * 10 ^ exponent))
    (hother : ∀ near, near = floor ∨ near = floor + 1 → near ≠ digits →
      basin.Holds (near * 10 ^ exponent) →
      |basin.center - digits * 10 ^ exponent| < |basin.center - near * 10 ^ exponent| ∨
        |basin.center - digits * 10 ^ exponent| = |basin.center - near * 10 ^ exponent| ∧
          digits % 2 = 0) :
    basin.IsBest ⟨digits, exponent⟩ := by
  refine ⟨hholds, fun other h => ?_, fun other h hne heq => ?_⟩
  · -- any decimal is compared with the neighbour on its side, and that one with this one
    obtain ⟨near, hnear, hnearHolds, hle, -⟩ := exists_neighbour hcenter hfloor hceil h
    by_cases heq : near = digits
    · rwa [heq] at hle
    · rcases hother near hnear heq hnearHolds with hlt | ⟨htie, -⟩
      · exact hlt.le.trans hle
      · exact htie.le.trans hle
  · -- as far away can only be that neighbour itself
    obtain ⟨near, hnear, hnearHolds, hle, hlt⟩ := exists_neighbour hcenter hfloor hceil h
    by_cases hdigits : near = digits
    · rw [hdigits] at hlt
      exact absurd heq (hlt hne).ne
    · rcases hother near hnear hdigits hnearHolds with hcloser | ⟨-, heven⟩
      · exact absurd heq (hcloser.trans_le hle).ne
      · exact heven

end Grid

/-- The units in which `onGrid?` compares: those of the basin and of the grid have a common
multiple. -/
theorem exists_commonUnit {basin : Basin} (hden : basin.den ≠ 0) (exponent : ℤ) :
    ∃ scale : ℚ, 0 < scale ∧
      ((basin.num * Nat.pow 10 (-exponent).toNat : Nat) : ℚ) = basin.unit * scale ∧
      ((basin.den * Nat.pow 10 exponent.toNat : Nat) : ℚ) = 10 ^ exponent * scale := by
  have hdenQ : (0 : ℚ) < basin.den := Nat.cast_pos.mpr (Nat.pos_of_ne_zero hden)
  have hplaces : (0 : ℚ) < (Nat.pow 10 (-exponent).toNat : Nat) := natPow_pos (by norm_num) _
  -- the common unit clears the denominators of both
  refine ⟨basin.den * (Nat.pow 10 (-exponent).toNat : Nat), mul_pos hdenQ hplaces, ?_, ?_⟩
  · rw [unit, Nat.cast_mul, ← mul_assoc, div_mul_cancel₀ _ hdenQ.ne']
  · have hpow : (10 : ℚ) ^ exponent = (Nat.pow 10 exponent.toNat : Nat) /
        (Nat.pow 10 (-exponent).toNat : Nat) := (natPow_div_natPow 10 exponent).symm
    rw [hpow, Nat.cast_mul, mul_left_comm, div_mul_cancel₀ _ hplaces.ne']

section CommonUnit

variable {basin : Basin} {exponent : ℤ} {scale : ℚ} {left step : Nat} (hscale : 0 < scale)
  (hleft : (left : ℚ) = basin.unit * scale) (hstep : (step : ℚ) = 10 ^ exponent * scale)

include hscale hleft hstep

/-- In the common unit a decimal is in the basin if natural numbers compare so. -/
theorem inside_iff (digits : Nat) :
    (if basin.closed then
        decide (basin.low * left ≤ digits * step) && decide (digits * step ≤ basin.high * left)
      else decide (basin.low * left < digits * step) && decide (digits * step < basin.high * left))
        = true ↔ basin.Holds (digits * 10 ^ exponent) := by
  have hscaled : basin.Holds (digits * 10 ^ exponent) ↔
      Within basin.closed ((basin.low * left : Nat) : ℚ) ((basin.high * left : Nat) : ℚ)
        ((digits * step : Nat) : ℚ) := by
    rw [Holds, ← Within.mul_right_iff hscale]
    push_cast
    rw [hleft, hstep, ← mul_assoc, ← mul_assoc, ← mul_assoc]
  rw [hscaled, Within]
  split
  · rw [Bool.and_eq_true, decide_eq_true_iff, decide_eq_true_iff, Nat.cast_le, Nat.cast_le]
  · rw [Bool.and_eq_true, decide_eq_true_iff, decide_eq_true_iff, Nat.cast_lt, Nat.cast_lt]

omit hscale hstep in
theorem cast_mid_mul : ((basin.mid * left : Nat) : ℚ) = basin.center * scale := by
  rw [center, Nat.cast_mul, hleft, mul_assoc]

omit hscale hleft in
theorem cast_digits_mul (digits : Nat) :
    ((digits * step : Nat) : ℚ) = digits * 10 ^ exponent * scale := by
  rw [Nat.cast_mul, hstep, mul_assoc]

/-- A decimal below the number, and its distance in the common unit. -/
theorem dist_floor_eq {floor : Nat} (h : floor * step ≤ basin.mid * left) :
    floor * 10 ^ exponent ≤ basin.center ∧
      ((basin.mid * left - floor * step : Nat) : ℚ) =
        |basin.center - floor * 10 ^ exponent| * scale := by
  have hmid := cast_mid_mul hleft
  have hpoint := cast_digits_mul hstep floor
  have hfloor : floor * 10 ^ exponent ≤ basin.center := by
    rw [← mul_le_mul_iff_of_pos_right hscale, ← hmid, ← hpoint]
    exact Nat.cast_le.mpr h
  refine ⟨hfloor, ?_⟩
  rw [abs_of_nonneg (sub_nonneg.mpr hfloor), sub_mul, ← hmid, ← hpoint, Nat.cast_sub h]

/-- A decimal above the number, and its distance in the common unit. -/
theorem dist_ceil_eq {ceil : Nat} (h : basin.mid * left ≤ ceil * step) :
    basin.center ≤ ceil * 10 ^ exponent ∧
      ((ceil * step - basin.mid * left : Nat) : ℚ) =
        |basin.center - ceil * 10 ^ exponent| * scale := by
  have hmid := cast_mid_mul hleft
  have hpoint := cast_digits_mul hstep ceil
  have hceil : basin.center ≤ ceil * 10 ^ exponent := by
    rw [← mul_le_mul_iff_of_pos_right hscale, ← hmid, ← hpoint]
    exact Nat.cast_le.mpr h
  refine ⟨hceil, ?_⟩
  rw [abs_sub_comm, abs_of_nonneg (sub_nonneg.mpr hceil), sub_mul, ← hmid, ← hpoint,
    Nat.cast_sub h]

end CommonUnit

/-- A result of `onGrid?` that is right: what was found is best on the grid, and only if nothing
was found, nothing on the grid lies in the basin. -/
def RightOnGrid (basin : Basin) (exponent : ℤ) (result : Option Decimal) : Prop :=
  (∀ d, result = some d → d.exponent = exponent ∧ basin.IsBest d) ∧
    (result = none → ∀ digits : Nat, ¬basin.Holds (digits * 10 ^ exponent))

theorem rightOnGrid_some {basin : Basin} {exponent : ℤ} {digits : Nat}
    (h : basin.IsBest ⟨digits, exponent⟩) :
    basin.RightOnGrid exponent (some ⟨digits, exponent⟩) := by
  refine ⟨fun d hd => ?_, fun hnone => nomatch hnone⟩
  obtain rfl := Option.some.inj hd
  exact ⟨rfl, h⟩

/-- **What `onGrid?` finds** is best on its grid; if it finds nothing, nothing on the grid lies in
the basin. -/
theorem onGrid?_spec {basin : Basin} (hden : basin.den ≠ 0) (hcenter : basin.Holds basin.center)
    (exponent : ℤ) : basin.RightOnGrid exponent (basin.onGrid? exponent) := by
  obtain ⟨scale, hscale, hleft, hstep⟩ := exists_commonUnit hden exponent
  have hstepPos : 0 < basin.den * Nat.pow 10 exponent.toNat :=
    Nat.mul_pos (Nat.pos_of_ne_zero hden) (Nat.pow_pos (by norm_num))
  have hinside := inside_iff hscale hleft hstep
  unfold onGrid?
  simp only
  generalize basin.num * Nat.pow 10 (-exponent).toNat = left at *
  generalize basin.den * Nat.pow 10 exponent.toNat = step at *
  -- the number lies between its two neighbours, and the distances are those that are compared
  have hfloorLe : basin.mid * left / step * step ≤ basin.mid * left := Nat.div_mul_le_self _ _
  have hceilGe : basin.mid * left ≤ (basin.mid * left / step + 1) * step :=
    (Nat.lt_mul_of_div_lt (Nat.lt_succ_self _) hstepPos).le
  generalize basin.mid * left / step = floor at *
  obtain ⟨hfloor, hdown⟩ := dist_floor_eq hscale hleft hstep hfloorLe
  obtain ⟨hceil, hup⟩ := dist_ceil_eq hscale hleft hstep hceilGe
  have hless : basin.mid * left - floor * step < (floor + 1) * step - basin.mid * left ↔
      |basin.center - floor * 10 ^ exponent| <
        |basin.center - (floor + 1 : Nat) * 10 ^ exponent| := by
    rw [← Nat.cast_lt (α := ℚ), hdown, hup, mul_lt_mul_iff_of_pos_right hscale]
  have htie : basin.mid * left - floor * step = (floor + 1) * step - basin.mid * left ↔
      |basin.center - floor * 10 ^ exponent| =
        |basin.center - (floor + 1 : Nat) * 10 ^ exponent| := by
    rw [← Nat.cast_inj (R := ℚ), hdown, hup, mul_left_inj' hscale.ne']
  have hbest := @isBest_of_neighbours basin floor exponent hcenter hfloor hceil
  split
  case h_1 hfloorIn hceilIn =>
    -- both neighbours round to the number: the nearer one is taken, and the even one on a tie
    rw [hinside] at hfloorIn hceilIn
    split
    case isTrue h =>
      refine rightOnGrid_some (hbest hfloorIn fun near hnear hne _ => ?_)
      rw [hless, htie] at h
      rwa [hnear.resolve_left hne]
    case isFalse h =>
      refine rightOnGrid_some (hbest hceilIn fun near hnear hne _ => ?_)
      rw [hless, htie, not_or, not_lt] at h
      rw [hnear.resolve_right hne]
      rcases h.1.lt_or_eq with hlt | heq
      · exact .inl hlt
      · have hodd : ¬floor % 2 = 0 := fun heven => h.2 ⟨heq.symm, heven⟩
        exact .inr ⟨heq, by omega⟩
  -- where only one of them does, there is no other to compare it with
  case h_2 hfloorIn hceilOut =>
    rw [hinside] at hfloorIn
    refine rightOnGrid_some (hbest hfloorIn fun near hnear hne h => ?_)
    rw [hnear.resolve_left hne] at h
    exact absurd ((hinside _).mpr h) (Bool.eq_false_iff.mp hceilOut)
  case h_3 hfloorOut hceilIn =>
    rw [hinside] at hceilIn
    refine rightOnGrid_some (hbest hceilIn fun near hnear hne h => ?_)
    rw [hnear.resolve_right hne] at h
    exact absurd ((hinside _).mpr h) (Bool.eq_false_iff.mp hfloorOut)
  case h_4 hfloorOut hceilOut =>
    -- and where neither does, no other decimal of the grid does either
    refine ⟨fun d hd => (nomatch hd), fun _ digits h => ?_⟩
    obtain ⟨near, rfl | rfl, hnear, -⟩ := exists_neighbour hcenter hfloor hceil h
    · exact Bool.eq_false_iff.mp hfloorOut ((hinside _).mpr hnear)
    · exact Bool.eq_false_iff.mp hceilOut ((hinside _).mpr hnear)

end Basin

/-- What the decimal of a number has to be. -/
structure IsShortest (x : Binary64) (d : Decimal) : Prop where
  /-- On its grid it is best. -/
  best : x.basin.IsBest d
  /-- No decimal with fewer places rounds to the number. -/
  coarsest : ∀ (digits : Nat) (exponent : ℤ), d.exponent < exponent →
    ¬x.basin.Holds (digits * 10 ^ exponent)

/-- Of two best decimals on one grid, neither is less than the other. -/
theorem Basin.IsBest.not_lt {basin : Basin} {d d' : Decimal} (h : basin.IsBest d)
    (h' : basin.IsBest d') (hexponent : d.exponent = d'.exponent) : ¬d.digits < d'.digits := by
  obtain ⟨digits, exponent⟩ := d
  obtain ⟨digits', exponent'⟩ := d'
  obtain rfl : exponent = exponent' := hexponent
  intro (hlt : digits < digits')
  have hgrid := ten_zpow_pos exponent
  -- both are even and equally far away, so that there is a decimal between them
  have hdist : |basin.center - digits * 10 ^ exponent| = |basin.center - digits' * 10 ^ exponent| :=
    le_antisymm (h.nearest digits' h'.holds) (h'.nearest digits h.holds)
  have heven : digits % 2 = 0 := h.even digits' h'.holds hlt.ne' hdist
  have heven' : digits' % 2 = 0 := h'.even digits h.holds hlt.ne hdist.symm
  have hlow : (digits : ℚ) * 10 ^ exponent + 10 ^ exponent =
      (digits + 1 : Nat) * 10 ^ exponent := by
    push_cast
    ring
  have hhigh : ((digits + 1 : Nat) : ℚ) * 10 ^ exponent + 10 ^ exponent ≤
      digits' * 10 ^ exponent := by
    have hgap : digits + 1 + 1 ≤ digits' := by omega
    have hgapQ : ((digits + 1 : Nat) : ℚ) + 1 ≤ digits' := by exact_mod_cast hgap
    calc ((digits + 1 : Nat) : ℚ) * 10 ^ exponent + 10 ^ exponent
        = (((digits + 1 : Nat) : ℚ) + 1) * 10 ^ exponent := by ring
      _ ≤ digits' * 10 ^ exponent := mul_le_mul_of_nonneg_right hgapQ hgrid.le
  have hbetween : basin.Holds ((digits + 1 : Nat) * 10 ^ exponent) :=
    h.holds.convex h'.holds (by rw [Decimal.magnitude]; linarith)
      (by rw [Decimal.magnitude]; linarith)
  have hcloser := h.nearest (digits + 1) hbetween
  simp only [Decimal.magnitude] at hcloser
  generalize ((digits + 1 : Nat) : ℚ) * 10 ^ exponent = between at *
  generalize (digits : ℚ) * 10 ^ exponent = low at *
  generalize (digits' : ℚ) * 10 ^ exponent = high at *
  -- the number is in the middle of the two, so that the decimal between them is nearer to it
  rcases abs_eq_abs.mp hdist with heq | hmiddle
  · linarith
  · rw [abs_of_pos (by linarith : 0 < basin.center - low)] at hcloser
    refine absurd hcloser (abs_lt.mpr ⟨?_, ?_⟩).not_ge
    · linarith
    · linarith

/-- **A number has one shortest decimal.** -/
theorem IsShortest.unique {x : Binary64} {d d' : Decimal} (h : x.IsShortest d)
    (h' : x.IsShortest d') : d = d' := by
  have hexponent : d.exponent = d'.exponent :=
    le_antisymm (not_lt.mp fun hlt => h'.coarsest _ _ hlt h.best.holds)
      (not_lt.mp fun hlt => h.coarsest _ _ hlt h'.best.holds)
  have hdigits : d.digits = d'.digits :=
    le_antisymm (not_lt.mp (h'.best.not_lt h.best hexponent.symm))
      (not_lt.mp (h.best.not_lt h'.best hexponent))
  cases d
  cases d'
  simp only at hexponent hdigits
  rw [hexponent, hdigits]

/-- The shortest decimal does not end with a zero. -/
theorem IsShortest.stripZeros {x : Binary64} {d : Decimal} (h : x.IsShortest d) (count : Nat) :
    d.stripZeros count = d := by
  cases count with
  | zero => rfl
  | succ count =>
    rw [Decimal.stripZeros, if_neg]
    rintro ⟨-, hzero⟩
    -- without the zero the same decimal would be on a coarser grid
    have hmagnitude : d.magnitude = (d.digits / 10 : Nat) * 10 ^ (d.exponent + 1) := by
      have hdigits : (d.digits : ℚ) = (d.digits / 10 : Nat) * 10 := by
        exact_mod_cast (Nat.div_mul_cancel (Nat.dvd_of_mod_eq_zero hzero)).symm
      rw [Decimal.magnitude, zpow_add_one₀ (by norm_num), hdigits]
      ring
    exact h.coarsest _ _ (Int.lt_succ _) (hmagnitude ▸ h.best.holds)

/-- The search finds the shortest decimal if it starts above all decimals that round to the number
and goes on until there is one. -/
theorem isShortest_search {x : Binary64} (hcenter : x.basin.Holds x.basin.center) (grids : Nat) :
    ∀ exponent : ℤ,
      (∀ (digits : Nat) (coarser : ℤ), exponent < coarser →
        ¬x.basin.Holds (digits * 10 ^ coarser)) →
      (∃ (steps digits : Nat), steps < grids ∧ x.basin.Holds (digits * 10 ^ (exponent - steps))) →
      x.IsShortest (x.basin.search grids exponent) := by
  induction grids with
  | zero =>
    rintro exponent - ⟨steps, _, hsteps, -⟩
    exact absurd hsteps (Nat.not_lt_zero _)
  | succ grids ih =>
    -- on this grid there is a decimal, or the search goes on with one grid less
    rintro exponent hcoarser ⟨steps, digits, hsteps, hholds⟩
    have hden : x.basin.den ≠ 0 := (Nat.pow_pos two_pos).ne'
    obtain ⟨hsome, hnone⟩ := Basin.onGrid?_spec hden hcenter exponent
    rw [Basin.search]
    cases h : x.basin.onGrid? exponent with
    | some d =>
      obtain ⟨hexponent, hbest⟩ := hsome d h
      rw [Option.getD_some]
      exact ⟨hbest, fun digits coarser hlt => hcoarser digits coarser (hexponent ▸ hlt)⟩
    | none =>
      have hnothing := hnone h
      refine ih (exponent - 1) (fun digits coarser hlt => ?_) ?_
      · rcases (show exponent ≤ coarser by omega).lt_or_eq with hlt | rfl
        · exact hcoarser digits coarser hlt
        · exact hnothing digits
      · -- the grid with a decimal is not this one
        cases steps with
        | zero => exact absurd (by simpa using hholds) (hnothing digits)
        | succ steps =>
          refine ⟨steps, digits, by omega, ?_⟩
          rwa [sub_sub, add_comm, ← Nat.cast_succ]

/-! ### Where the search starts and ends -/

/-- Powers of two and of ten compare like their exponents, given bounds for the logarithm. -/
theorem two_zpow_lt_ten_zpow_of (unit low high : Nat) (hlow : Nat.pow 10 low ≤ Nat.pow 2 unit)
    (hhigh : Nat.pow 2 unit ≤ Nat.pow 10 high) {i k : ℤ} (hi : i * low < k * unit)
    (hi' : i * high < k * unit) : (2 : ℚ) ^ i < 10 ^ k := by
  have hone : (1 : ℚ) < 10 := by norm_num
  have hlowQ : (10 : ℚ) ^ low ≤ 2 ^ unit := by exact_mod_cast hlow
  have hhighQ : (2 : ℚ) ^ unit ≤ 10 ^ high := by exact_mod_cast hhigh
  -- raised to the power `unit` both sides can be compared by the given bounds; for a negative
  -- exponent the bounds change places
  have hpow : ((2 : ℚ) ^ i) ^ unit < ((10 : ℚ) ^ k) ^ unit := by
    rw [← zpow_natCast, ← zpow_natCast, ← zpow_mul, ← zpow_mul]
    obtain ⟨n, rfl | rfl⟩ := i.eq_nat_or_neg
    · calc (2 : ℚ) ^ ((n : ℤ) * unit) = (2 ^ unit) ^ n := by
            rw [mul_comm, zpow_mul, zpow_natCast, zpow_natCast]
        _ ≤ (10 ^ high) ^ n := pow_le_pow_left₀ (by positivity) hhighQ n
        _ = 10 ^ ((n : ℤ) * high) := by
            rw [mul_comm, zpow_mul, zpow_natCast, zpow_natCast]
        _ < 10 ^ (k * unit) := zpow_lt_zpow_right₀ hone hi'
    · calc (2 : ℚ) ^ (-(n : ℤ) * unit) = ((2 ^ unit) ^ n)⁻¹ := by
            rw [mul_comm, mul_neg, zpow_neg, zpow_mul, zpow_natCast, zpow_natCast]
        _ ≤ ((10 ^ low) ^ n)⁻¹ :=
            inv_anti₀ (by positivity) (pow_le_pow_left₀ (by positivity) hlowQ n)
        _ = 10 ^ (-(n : ℤ) * low) := by
            rw [mul_comm (-(n : ℤ)), mul_neg, zpow_neg, zpow_mul, zpow_natCast, zpow_natCast]
        _ < 10 ^ (k * unit) := zpow_lt_zpow_right₀ hone hi
  exact lt_of_pow_lt_pow_left₀ unit (zpow_pos (by norm_num) _).le hpow

/-- The logarithm of two to the base ten lies between 0.30102 and 0.30103. -/
theorem two_zpow_lt_ten_zpow {i k : ℤ} (hlow : i * 30102 < k * 100000)
    (hhigh : i * 30103 < k * 100000) : (2 : ℚ) ^ i < 10 ^ k :=
  two_zpow_lt_ten_zpow_of 100000 30102 30103 (by decide +kernel) (by decide +kernel) hlow hhigh

/-- The number of bits before the point, counting down from zero behind it. -/
def bits (x : Binary64) : ℤ :=
  (x.significand.log2 : ℤ) + 1 + x.exponent

theorem log2_significand_le (x : Binary64) : x.significand.log2 ≤ 52 := by
  by_cases hzero : x.significand = 0
  · rw [hzero]
    decide
  · exact Nat.le_of_lt_succ ((Nat.log2_lt hzero).mpr x.canonical.1)

/-- **Where the search starts**: at a power of ten above the number, by less than a factor of a
thousand. -/
theorem powerAbove_spec (x : Binary64) :
    (2 : ℚ) ^ x.bits < 10 ^ x.powerAbove ∧ (10 : ℚ) ^ (x.powerAbove - 2) < 2 ^ x.bits := by
  have hlog := x.log2_significand_le
  obtain ⟨-, hleast, hgreatest, -⟩ := x.canonical
  have hpower : x.powerAbove =
      (if 0 ≤ x.bits then x.bits * 30103 / 100000 else x.bits * 30102 / 100000) + 1 := rfl
  have hrange : -1074 < x.bits ∧ x.bits ≤ 1024 := by
    rw [bits]
    omega
  rw [hpower]
  generalize x.bits = bits at *
  constructor
  · apply two_zpow_lt_ten_zpow
    · split <;> omega
    · split <;> omega
  · -- the other bound is the same fact about the inverses
    rw [← inv_lt_inv₀ (zpow_pos (by norm_num) _) (zpow_pos (by norm_num) _), ← zpow_neg, ← zpow_neg]
    apply two_zpow_lt_ten_zpow
    · split <;> omega
    · split <;> omega

/-- A number is less than the power of two with its bits, which is at most its last place with 53
bits more. -/
theorem magnitude_lt_two_zpow (x : Binary64) :
    x.magnitude < 2 ^ x.bits ∧ (2 : ℚ) ^ x.bits ≤ 2 ^ 53 * x.step := by
  have hsplit : (2 : ℚ) ^ x.bits = 2 ^ (x.significand.log2 + 1) * x.step := by
    rw [bits, zpow_add₀ two_ne_zero, step]
    norm_cast
  have hlog : (x.significand : ℚ) < 2 ^ (x.significand.log2 + 1) := by
    exact_mod_cast Nat.lt_log2_self
  rw [hsplit]
  refine ⟨mul_lt_mul_of_pos_right hlog x.step_pos, ?_⟩
  refine mul_le_mul_of_nonneg_right ?_ x.step_pos.le
  exact pow_le_pow_right₀ one_le_two (Nat.succ_le_succ x.log2_significand_le)

theorem center_basin (x : Binary64) : x.basin.center = x.magnitude := by
  have hmid : x.basin.mid = 4 * x.significand := rfl
  rw [Basin.center, hmid, magnitude, ← step, ← four_mul_unit]
  push_cast
  ring

/-- The lower end of the basin lies between half a step and a quarter of a step below. -/
theorem lower_pos_and_le {x : Binary64} (hx : x.significand ≠ 0) :
    0 < x.lower ∧ x.lower ≤ x.significand - 1 / 4 := by
  have hone : (1 : ℚ) ≤ x.significand := by exact_mod_cast Nat.pos_of_ne_zero hx
  have hlower := x.sub_half_le_lower
  refine ⟨by linarith, ?_⟩
  by_cases hbottom : x.significand = Nat.pow 2 52 ∧ -1074 < x.exponent
  · rw [lower_bottom hbottom.1 hbottom.2, hbottom.1]
    norm_num
  · rw [lower_eq (Nat.pos_of_ne_zero hx) hbottom]
    linarith

/-- A number rounds to itself. -/
theorem holds_magnitude (x : Binary64) : x.basin.Holds x.magnitude := by
  rw [holds_basin_iff, magnitude, ← step, mul_div_cancel_right₀ _ x.step_pos.ne']
  by_cases hx : x.significand = 0
  · rw [lower_zero hx, hx]
    exact ⟨Nat.cast_zero.ge, by norm_num⟩
  · have hlower := (lower_pos_and_le hx).2
    exact .of_lt (by linarith) (by linarith)

section Nonzero

variable {x : Binary64} (hx : x.significand ≠ 0)

include hx

/-- Above the power of ten where the search starts no decimal rounds to the number. -/
theorem not_holds_of_powerAbove_lt (digits : Nat) {exponent : ℤ} (h : x.powerAbove < exponent) :
    ¬x.basin.Holds (digits * 10 ^ exponent) := by
  intro hholds
  rw [holds_basin_iff] at hholds
  obtain ⟨hlow, hhigh⟩ := hholds.le
  have hpos := (lower_pos_and_le hx).1
  have hstep := x.step_pos
  have hone : (1 : ℚ) ≤ x.significand := by exact_mod_cast Nat.pos_of_ne_zero hx
  -- zero does not round to a number other than zero, and any other decimal is ten times too large
  have hdigits : digits ≠ 0 := by
    rintro rfl
    rw [Nat.cast_zero, zero_mul, zero_div] at hlow
    linarith
  have hmagnitude : x.magnitude < 10 ^ x.powerAbove :=
    x.magnitude_lt_two_zpow.1.trans x.powerAbove_spec.1
  have hten : (10 : ℚ) ^ x.powerAbove * 10 ≤ digits * 10 ^ exponent := by
    calc (10 : ℚ) ^ x.powerAbove * 10 = 10 ^ (x.powerAbove + 1) :=
          (zpow_add_one₀ (by norm_num) _).symm
      _ ≤ 10 ^ exponent := zpow_le_zpow_right₀ (by norm_num) h
      _ ≤ digits * 10 ^ exponent :=
          le_mul_of_one_le_left (ten_zpow_pos _).le
            (by exact_mod_cast Nat.pos_of_ne_zero hdigits)
  rw [div_le_iff₀ hstep] at hhigh
  have hhalf : ((x.significand : ℚ) + 1 / 2) * x.step ≤ x.magnitude * 2 := by
    rw [magnitude, ← step, mul_right_comm]
    exact mul_le_mul_of_nonneg_right (by linarith) hstep.le
  have hpower := ten_zpow_pos x.powerAbove
  linarith

/-- Twenty grids below the power of ten where the search starts are enough. -/
theorem exists_holds_below_powerAbove :
    ∃ steps digits : Nat, steps < 20 ∧
      x.basin.Holds (digits * 10 ^ (x.powerAbove - (steps : ℤ))) := by
  have hstep := x.step_pos
  obtain ⟨hlower, hquarter⟩ := lower_pos_and_le hx
  generalize hgrid : (10 : ℚ) ^ (x.powerAbove - ((19 : Nat) : ℤ)) = grid
  have hgridPos : 0 < grid := hgrid ▸ ten_zpow_pos _
  -- a grid point cannot jump over the basin, which is three quarters of a step wide
  have hnarrow : grid < 1 / 2 * x.step := by
    have hpower : (10 : ℚ) ^ (x.powerAbove - 2) = 10 ^ 17 * grid := by
      rw [← hgrid, ← zpow_natCast, ← zpow_add₀ (by norm_num)]
      congr 1
      omega
    have hbelow : 10 ^ 17 * grid < 2 ^ 53 * x.step :=
      hpower ▸ x.powerAbove_spec.2.trans_le x.magnitude_lt_two_zpow.2
    linarith
  refine ⟨19, ⌊x.lower * x.step / grid⌋₊ + 1, by norm_num, ?_⟩
  have hnonneg : 0 ≤ x.lower * x.step / grid := by positivity
  have hfloor : (⌊x.lower * x.step / grid⌋₊ : ℚ) * grid ≤ x.lower * x.step :=
    (le_div_iff₀ hgridPos).mp (Nat.floor_le hnonneg)
  have hceil : x.lower * x.step < ((⌊x.lower * x.step / grid⌋₊ : ℚ) + 1) * grid :=
    (div_lt_iff₀ hgridPos).mp (Nat.lt_floor_add_one _)
  rw [hgrid, holds_basin_iff]
  push_cast
  refine .of_lt ?_ ?_
  · rwa [lt_div_iff₀ hstep]
  · rw [div_lt_iff₀ hstep]
    have hupper : x.lower * x.step ≤ (x.significand - 1 / 4) * x.step :=
      mul_le_mul_of_nonneg_right hquarter hstep.le
    linarith

/-- **The shortest decimal** is the one that `shortest` gives. -/
theorem isShortest_shortest : x.IsShortest x.shortest := by
  have hcenter : x.basin.Holds x.basin.center := x.center_basin ▸ x.holds_magnitude
  have hsearch : x.IsShortest (x.basin.search 20 x.powerAbove) :=
    isShortest_search hcenter 20 x.powerAbove
      (fun digits _ h => not_holds_of_powerAbove_lt hx digits h) (exists_holds_below_powerAbove hx)
  have hzero : x.isZero = false := beq_false_of_ne hx
  rw [shortest, hzero, if_neg Bool.false_ne_true, hsearch.stripZeros]
  exact hsearch

/-- What `shortest` gives is the only decimal of its kind. -/
theorem shortest_eq_iff {d : Decimal} : x.shortest = d ↔ x.IsShortest d := by
  constructor
  · rintro rfl
    exact isShortest_shortest hx
  · exact (isShortest_shortest hx).unique

end Nonzero

/-- **The shortest decimal, said by reading decimals.** A decimal that reads as `x` is the shortest
if none with fewer places does and none with as many places that does is nearer to `x`, or as near
while this one has an odd last digit. -/
theorem isShortest_iff {negative : Bool} {x : Binary64} {digits places : Nat} (hplaces : 0 < places)
    (hread : ofDecimal? negative digits (-places) = some x) :
    x.IsShortest ⟨digits, -places⟩ ↔
      (∀ other fewer : Nat, ofDecimal? negative other (-fewer) = some x → places ≤ fewer) ∧
      ∀ other : Nat, ofDecimal? negative other (-places) = some x → other ≠ digits →
        |x.magnitude - digits / 10 ^ places| < |x.magnitude - other / 10 ^ places| ∨
          |x.magnitude - digits / 10 ^ places| = |x.magnitude - other / 10 ^ places| ∧
            digits % 2 = 0 := by
  obtain ⟨hnegative, hholds⟩ := ofDecimal?_eq_some_iff.mp hread
  -- to be read as `x` is to lie in its basin, so both sides speak of the basin alone
  have hreads : ∀ (other : Nat) (exponent : ℤ),
      ofDecimal? negative other exponent = some x ↔ x.basin.Holds (other * 10 ^ exponent) :=
    fun other exponent => ofDecimal?_eq_some_iff.trans (and_iff_right hnegative)
  have hquotient : ∀ other : Nat, (other : ℚ) / 10 ^ places = other * 10 ^ (-places : ℤ) := by
    intro other
    rw [zpow_neg, zpow_natCast, div_eq_mul_inv]
  simp only [hreads, hquotient, ← center_basin]
  constructor
  · rintro ⟨hbest, hcoarsest⟩
    refine ⟨fun other fewer h => ?_, fun other h hne => ?_⟩
    · by_contra hlt
      exact hcoarsest other (-fewer) (by simp only; omega) h
    · rcases (hbest.nearest other h).lt_or_eq with hlt | heq
      · exact .inl hlt
      · exact .inr ⟨heq, hbest.even other h hne heq⟩
  · rintro ⟨hfewest, hnearest⟩
    refine ⟨⟨hholds, fun other h => ?_, fun other h hne heq => ?_⟩, fun other exponent hlt h => ?_⟩
    · by_cases hne : other = digits
      · rw [hne]
        exact le_rfl
      · exact (hnearest other h hne).elim le_of_lt fun htie => htie.1.le
    · exact (hnearest other h hne).elim (fun hlt => absurd heq hlt.ne) And.right
    · -- a decimal on a coarser grid has fewer places, or none
      simp only at hlt
      by_cases hwhole : exponent ≤ 0
      · obtain ⟨fewer, rfl⟩ : ∃ fewer : Nat, exponent = -fewer := ⟨exponent.natAbs, by omega⟩
        have := hfewest other fewer h
        omega
      · obtain ⟨zeros, rfl⟩ := Int.eq_ofNat_of_zero_le (not_le.mp hwhole).le
        have hshift : (other : ℚ) * 10 ^ (zeros : ℤ) =
            (other * 10 ^ zeros : Nat) * 10 ^ (-(0 : Nat) : ℤ) := by
          rw [zpow_natCast, Nat.cast_zero, neg_zero, zpow_zero, mul_one]
          push_cast
          rfl
        rw [hshift] at h
        have := hfewest _ 0 h
        omega

end Binary64

end LogSieve
