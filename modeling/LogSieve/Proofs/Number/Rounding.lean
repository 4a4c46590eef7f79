import LogSieve.Number.Shortest
import Mathlib.Algebra.Order.Field.Power
import Mathlib.Data.Rat.Cast.Order
import Mathlib.Tactic.FieldSimp
import Mathlib.Tactic.Linarith
import Mathlib.Tactic.NormNum
import Mathlib.Tactic.Positivity
import Mathlib.Tactic.Ring

/-!
# Correct rounding

A magnitude rounds to a number when it lies in the number's basin: at most half a step away from
it, and less than that if the significand is odd. `ofRatio?_eq_some_iff` says that `ofRatio?` finds
the number in whose basin the quotient lies, and `ofRatio?_eq_none_iff` that it finds none exactly
from half a step above the greatest number on.

The step depends on the exponent, so all comparisons are made in units of the last place of the
number: there the ends of a basin are half-integers, but for the quarter below a power of two. What
`scale` and `roundDiv` do is said once in those units (`scale_spec`, `roundDiv_spec`); that no
magnitude lies in two basins (`Basin.Holds.unique`) then turns soundness into an equivalence. That
the basins are the right ones is `Basin.Holds.nearest`: the number of a basin is the nearest to all
magnitudes in it, and the even one of two that are as near.
-/

namespace LogSieve

/-- Whether `q` lies between `low` and `high`, the ends being allowed if `closed`. -/
def Within (closed : Bool) (low high q : ℚ) : Prop :=
  if closed then low ≤ q ∧ q ≤ high else low < q ∧ q < high

namespace Within

variable {closed : Bool} {low high q : ℚ}

theorem le (h : Within closed low high q) : low ≤ q ∧ q ≤ high := by
  cases closed with
  | true => exact h
  | false => exact ⟨h.1.le, h.2.le⟩

theorem of_lt (hlow : low < q) (hhigh : q < high) : Within closed low high q := by
  cases closed with
  | true => exact ⟨hlow.le, hhigh.le⟩
  | false => exact ⟨hlow, hhigh⟩

/-- Only a closed interval reaches its upper end. -/
theorem closed_of_high_le (h : Within closed low high q) (hq : high ≤ q) : closed = true := by
  cases closed with
  | true => rfl
  | false => exact absurd hq h.2.not_ge

/-- Only a closed interval reaches its lower end. -/
theorem closed_of_le_low (h : Within closed low high q) (hq : q ≤ low) : closed = true := by
  cases closed with
  | true => rfl
  | false => exact absurd hq h.1.not_ge

/-- The unit in which everything is measured does not matter. -/
theorem mul_right_iff {unit : ℚ} (hunit : 0 < unit) :
    Within closed (low * unit) (high * unit) (q * unit) ↔ Within closed low high q := by
  simp only [Within, mul_le_mul_iff_of_pos_right hunit, mul_lt_mul_iff_of_pos_right hunit]

end Within

/-- A power with any exponent, as a quotient of powers with natural exponents. -/
theorem natPow_div_natPow (base : Nat) (i : ℤ) :
    ((Nat.pow base i.toNat : Nat) : ℚ) / (Nat.pow base (-i).toNat : Nat) = (base : ℚ) ^ i := by
  -- one of the two natural exponents is zero
  obtain ⟨n, rfl | rfl⟩ := i.eq_nat_or_neg
  · simp
  · simp

theorem natPow_pos {base : Nat} (hbase : base ≠ 0) (n : Nat) :
    (0 : ℚ) < (Nat.pow base n : Nat) := by
  exact_mod_cast Nat.pow_pos (Nat.pos_of_ne_zero hbase)

/-- Natural numbers do not differ by as little as a half. -/
theorem le_of_sub_half_le {m n : Nat} (h : (m : ℚ) - 1 / 2 ≤ n) : m ≤ n := by
  have hlt : (m : ℚ) < (n + 1 : Nat) := by
    rw [Nat.cast_succ]
    linarith
  exact Nat.le_of_lt_succ (Nat.cast_lt.mp hlt)

namespace Binary64

/-- The magnitude of a number. -/
def magnitude (x : Binary64) : ℚ :=
  x.significand * 2 ^ x.exponent

/-- The size of the last place of a number. -/
def step (x : Binary64) : ℚ :=
  2 ^ x.exponent

theorem step_pos (x : Binary64) : 0 < x.step :=
  zpow_pos two_pos _

/-- The unit in which a basin is measured. -/
def Basin.unit (basin : Basin) : ℚ :=
  basin.num / basin.den

/-- Whether a magnitude lies in a basin. -/
def Basin.Holds (basin : Basin) (q : ℚ) : Prop :=
  Within basin.closed (basin.low * basin.unit) (basin.high * basin.unit) q

theorem four_mul_unit (x : Binary64) : 4 * x.basin.unit = x.step := by
  have hunit : x.basin.unit = 2 ^ (x.exponent - 2) := natPow_div_natPow 2 _
  rw [hunit, zpow_sub₀ two_ne_zero, step]
  norm_num
  ring

/-- The lower end of the basin in units of the last place. -/
def lower (x : Binary64) : ℚ :=
  x.basin.low / 4

/-- **The basin in units of the last place.** -/
theorem holds_basin_iff (x : Binary64) (q : ℚ) :
    x.basin.Holds q ↔
      Within (x.significand % 2 = 0) x.lower (x.significand + 1 / 2) (q / x.step) := by
  have hunit := x.four_mul_unit
  have hstep := x.step_pos
  -- a unit of the basin is a quarter of the last place
  have hlow : (x.basin.low : ℚ) * x.basin.unit = x.lower * x.step := by
    rw [lower, ← hunit]
    ring
  have hhigh : (x.basin.high : ℚ) * x.basin.unit = (x.significand + 1 / 2) * x.step := by
    have hdef : x.basin.high = 4 * x.significand + 2 := rfl
    rw [← hunit, hdef]
    push_cast
    ring
  have hq : q = q / x.step * x.step := (div_mul_cancel₀ _ hstep.ne').symm
  rw [Basin.Holds, hlow, hhigh, hq, Within.mul_right_iff hstep, ← hq]
  rfl

/-- The ends of a basin, whether they belong to it or not. -/
theorem Basin.Holds.bounds {x : Binary64} {q : ℚ} (h : x.basin.Holds q) :
    x.lower * x.step ≤ q ∧ q ≤ (x.significand + 1 / 2) * x.step := by
  rw [holds_basin_iff] at h
  exact ⟨(le_div_iff₀ x.step_pos).mp h.le.1, (div_le_iff₀ x.step_pos).mp h.le.2⟩

theorem lower_zero {x : Binary64} (h : x.significand = 0) : x.lower = 0 := by
  simp [lower, basin, h]

theorem lower_bottom {x : Binary64} (h : x.significand = Nat.pow 2 52) (he : -1074 < x.exponent) :
    x.lower = 2 ^ 52 - 1 / 4 := by
  have hlow : x.basin.low = 4 * Nat.pow 2 52 - 1 := by
    simp only [basin, h, he, and_self, if_true]
  rw [lower, hlow]
  norm_num

theorem lower_eq {x : Binary64} (hpos : 0 < x.significand)
    (h : ¬(x.significand = Nat.pow 2 52 ∧ -1074 < x.exponent)) :
    x.lower = x.significand - 1 / 2 := by
  have hlow : x.basin.low = 4 * x.significand - 2 := by
    simp only [basin, if_neg h]
  have hcast : ((4 * x.significand - 2 : Nat) : ℚ) = 4 * x.significand - 2 := by
    rw [Nat.cast_sub (by omega)]
    push_cast
    ring
  rw [lower, hlow, hcast]
  ring

/-- The lower end is at most half a unit below. -/
theorem sub_half_le_lower (x : Binary64) : x.significand - 1 / 2 ≤ x.lower := by
  -- zero has nothing below it, a power of two a quarter, and all others a half
  by_cases hzero : x.significand = 0
  · rw [lower_zero hzero, hzero]
    norm_num
  by_cases hbottom : x.significand = Nat.pow 2 52 ∧ -1074 < x.exponent
  · rw [lower_bottom hbottom.1 hbottom.2, hbottom.1]
    norm_num
  · rw [lower_eq (Nat.pos_of_ne_zero hzero) hbottom]

/-- A number whose exponent is not the least has 53 bits. -/
theorem full_le_significand {x : Binary64} (he : -1074 < x.exponent) :
    2 ^ 52 ≤ (x.significand : ℚ) := by
  have hs : Nat.pow 2 52 ≤ x.significand := x.canonical.2.2.2.resolve_right he.ne'
  exact_mod_cast hs

/-- The next number after the first one with 53 bits. -/
theorem full_succ_le_significand {x : Binary64} (he : -1074 < x.exponent)
    (hbottom : x.significand ≠ Nat.pow 2 52) : 2 ^ 52 + 1 ≤ (x.significand : ℚ) := by
  have hs : Nat.pow 2 52 ≤ x.significand := x.canonical.2.2.2.resolve_right he.ne'
  have hnext : Nat.pow 2 52 + 1 ≤ x.significand := by omega
  exact_mod_cast hnext

/-- The basin of a number with the full 53 bits starts at most a quarter below them. -/
theorem bottom_le_lower {x : Binary64} (he : -1074 < x.exponent) : 2 ^ 52 - 1 / 4 ≤ x.lower := by
  by_cases hbottom : x.significand = Nat.pow 2 52
  · rw [lower_bottom hbottom he]
  · have hnext := full_succ_le_significand he hbottom
    have hlower := x.sub_half_le_lower
    linarith

theorem significand_le (x : Binary64) : (x.significand : ℚ) ≤ 2 ^ 53 - 1 := by
  have h : x.significand + 1 ≤ Nat.pow 2 53 := x.canonical.1
  have hcast : ((x.significand + 1 : Nat) : ℚ) ≤ (Nat.pow 2 53 : Nat) := by exact_mod_cast h
  push_cast at hcast
  norm_num at hcast ⊢
  linarith

/-! ### No magnitude rounds to two numbers -/

/-- The basin of a number ends before the 54th bit: the greatest significand is odd, so that the end
of its basin rounds to the next number. -/
theorem Basin.Holds.units_lt {x : Binary64} {q : ℚ} (h : x.basin.Holds q) :
    q / x.step < 2 ^ 53 - 1 / 2 := by
  rw [holds_basin_iff] at h
  have hmax := x.significand_le
  have hhigh := h.le.2
  by_contra hge
  -- from there on only the closed end of the greatest basin is left, and its number is odd
  have heven : x.significand % 2 = 0 :=
    of_decide_eq_true (h.closed_of_high_le (by linarith))
  have hodd : x.significand + 1 = 2 ^ 53 := by
    have : ((x.significand + 1 : Nat) : ℚ) = (2 ^ 53 : Nat) := by
      push_cast
      linarith
    exact_mod_cast this
  omega

/-- A magnitude that rounds to a number lies below the ones that round to numbers with a greater
exponent. -/
theorem Basin.Holds.not_lt_exponent {x y : Binary64} {q : ℚ} (hx : x.basin.Holds q)
    (hy : y.basin.Holds q) : ¬x.exponent < y.exponent := by
  intro hlt
  have hunits := hx.units_lt
  rw [holds_basin_iff] at hy
  have hcanonical := x.canonical.2.1
  have hbottom : 2 ^ 52 - 1 / 4 ≤ y.lower := bottom_le_lower (by omega)
  -- in units of the smaller place the other basin starts at twice the 53 bits or higher
  have hsteps : 2 * x.step ≤ y.step := by
    have hsucc : (2 : ℚ) ^ (x.exponent + 1) ≤ 2 ^ y.exponent :=
      zpow_le_zpow_right₀ (by norm_num) (by omega)
    rwa [zpow_add_one₀ two_ne_zero, mul_comm] at hsucc
  have hratio : 2 ≤ y.step / x.step := (le_div_iff₀ x.step_pos).mpr hsteps
  have hqx : q / x.step = q / y.step * (y.step / x.step) := by
    rw [div_mul_div_cancel₀ y.step_pos.ne']
  have hq : 2 ^ 53 - 1 / 2 ≤ q / x.step := by
    have hlow : 2 ^ 52 - 1 / 4 ≤ q / y.step := hbottom.trans hy.le.1
    calc (2 ^ 53 - 1 / 2 : ℚ) = (2 ^ 52 - 1 / 4) * 2 := by norm_num
      _ ≤ q / y.step * (y.step / x.step) := mul_le_mul hlow hratio (by norm_num) (by linarith)
      _ = q / x.step := hqx.symm
  exact absurd hunits hq.not_gt

/-- Of two numbers with the same last place only one can have a magnitude in its basin. -/
theorem Basin.Holds.not_lt_significand {x y : Binary64} {q : ℚ} (hx : x.basin.Holds q)
    (hy : y.basin.Holds q) (hexponent : x.exponent = y.exponent) :
    ¬x.significand < y.significand := by
  intro hlt
  have hstep : y.step = x.step := by rw [step, step, hexponent]
  rw [holds_basin_iff] at hx hy
  rw [hstep] at hy
  have hnext : (x.significand : ℚ) + 1 ≤ y.significand := by exact_mod_cast hlt
  have hlower := y.sub_half_le_lower
  have hhigh := hx.le.2
  have hlow := hy.le.1
  -- the upper end of one basin is the lower end of the other, and belongs to neither or one
  have hx2 : x.significand % 2 = 0 := of_decide_eq_true (hx.closed_of_high_le (by linarith))
  have hy2 : y.significand % 2 = 0 := of_decide_eq_true (hy.closed_of_le_low (by linarith))
  -- so the two are neighbours and both even
  have heq : y.significand = x.significand + 1 := by
    have : (y.significand : ℚ) = x.significand + 1 := by linarith
    exact_mod_cast this
  omega

/-- **No magnitude rounds to two numbers.** -/
theorem Basin.Holds.unique {x y : Binary64} {q : ℚ} (hx : x.basin.Holds q)
    (hy : y.basin.Holds q) : x.significand = y.significand ∧ x.exponent = y.exponent := by
  have hexponent : x.exponent = y.exponent :=
    le_antisymm (not_lt.mp (hy.not_lt_exponent hx)) (not_lt.mp (hx.not_lt_exponent hy))
  have hsignificand : x.significand = y.significand :=
    le_antisymm (not_lt.mp (hy.not_lt_significand hx hexponent.symm))
      (not_lt.mp (hx.not_lt_significand hy hexponent))
  exact ⟨hsignificand, hexponent⟩

/-- Half a step above the greatest number, from where on nothing is rounded. -/
def overflow : ℚ :=
  (2 ^ 53 - 1 / 2) * 2 ^ (971 : ℤ)

theorem Basin.Holds.lt_overflow {x : Binary64} {q : ℚ} (h : x.basin.Holds q) : q < overflow := by
  have hunits := h.units_lt
  have hstep : x.step ≤ 2 ^ (971 : ℤ) := zpow_le_zpow_right₀ (by norm_num) x.canonical.2.2.1
  calc q = q / x.step * x.step := (div_mul_cancel₀ _ x.step_pos.ne').symm
    _ < (2 ^ 53 - 1 / 2) * x.step := mul_lt_mul_of_pos_right hunits x.step_pos
    _ ≤ (2 ^ 53 - 1 / 2) * 2 ^ (971 : ℤ) := mul_le_mul_of_nonneg_left hstep (by norm_num)

/-! ### The number of a basin is the nearest one -/

/-- With the last place of a number as the unit, a number with a last place that is not smaller is
whole. -/
theorem exists_units {x y : Binary64} (h : x.exponent ≤ y.exponent) :
    ∃ places : Nat, y.exponent = x.exponent + places ∧
      y.magnitude = (y.significand * 2 ^ places : Nat) * x.step := by
  obtain ⟨places, hplaces⟩ := Int.le.dest h
  refine ⟨places, hplaces.symm, ?_⟩
  rw [magnitude, ← hplaces, zpow_add₀ two_ne_zero, zpow_natCast, ← step, Nat.cast_mul, Nat.cast_pow,
    Nat.cast_two]
  ring

/-- A number with a smaller last place is less than every one that has 53 bits. -/
theorem two_mul_magnitude_le {x y : Binary64} (h : y.exponent < x.exponent) :
    2 * y.magnitude ≤ (2 ^ 53 - 1) * x.step := by
  have hsteps : y.step * 2 ≤ x.step := by
    rw [step, ← zpow_add_one₀ two_ne_zero]
    exact zpow_le_zpow_right₀ one_le_two h
  have hmax := y.significand_le
  calc 2 * y.magnitude = y.significand * (y.step * 2) := by rw [magnitude, ← step]; ring
    _ ≤ (2 ^ 53 - 1) * (y.step * 2) := mul_le_mul_of_nonneg_right hmax (by linarith [y.step_pos])
    _ ≤ (2 ^ 53 - 1) * x.step := mul_le_mul_of_nonneg_left hsteps (by norm_num)

/-- A number with a smaller last place is the smaller one. -/
theorem magnitude_lt_of_exponent_lt {x y : Binary64} (h : y.exponent < x.exponent) :
    y.magnitude < x.magnitude := by
  have hstep := x.step_pos
  have hbits := two_mul_magnitude_le h
  have hfull : 2 ^ 52 * x.step ≤ x.magnitude :=
    mul_le_mul_of_nonneg_right (full_le_significand (y.canonical.2.1.trans_lt h)) hstep.le
  linarith

/-- Above a number there is none for a whole step. -/
theorem add_step_le {x y : Binary64} (h : x.magnitude < y.magnitude) :
    x.magnitude + x.step ≤ y.magnitude := by
  have hstep := x.step_pos
  -- with no smaller last place the other number is a whole number of these steps
  rcases le_or_gt x.exponent y.exponent with hle | hlt
  · obtain ⟨places, -, hn⟩ := exists_units hle
    rw [hn, magnitude, ← step] at h ⊢
    generalize y.significand * 2 ^ places = n at h ⊢
    have hnext : x.significand + 1 ≤ n := by
      exact_mod_cast (mul_lt_mul_iff_of_pos_right hstep).mp h
    calc (x.significand : ℚ) * x.step + x.step = (x.significand + 1 : Nat) * x.step := by
          push_cast
          ring
      _ ≤ n * x.step := mul_le_mul_of_nonneg_right (Nat.cast_le.mpr hnext) hstep.le
  · exact absurd h (magnitude_lt_of_exponent_lt hlt).not_gt

/-- Below a number there is none for twice as much as its basin reaches down. -/
theorem le_sub_lower {x y : Binary64} (h : y.magnitude < x.magnitude) :
    y.magnitude ≤ (2 * x.lower - x.significand) * x.step := by
  have hstep := x.step_pos
  have hself : x.magnitude = x.significand * x.step := rfl
  have hpositive : 0 < x.significand := by
    rw [Nat.pos_iff_ne_zero]
    intro hzero
    rw [magnitude, magnitude, hzero, Nat.cast_zero, zero_mul] at h
    exact absurd h (mul_nonneg (Nat.cast_nonneg _) y.step_pos.le).not_gt
  rcases le_or_gt x.exponent y.exponent with hle | hlt
  · -- a whole step below, and the basin reaches half a step at most
    have hy := add_step_le h
    have hsteps : x.step ≤ y.step := zpow_le_zpow_right₀ one_le_two hle
    have hlower : (x.significand - 1) * x.step ≤ (2 * x.lower - x.significand) * x.step :=
      mul_le_mul_of_nonneg_right (by linarith [x.sub_half_le_lower]) hstep.le
    linarith
  · -- the greatest number with a smaller last place is half a step below a power of two
    have hbits := two_mul_magnitude_le hlt
    have hleast : -1074 < x.exponent := y.canonical.2.1.trans_lt hlt
    have hlower : (2 ^ 53 - 1) / 2 * x.step ≤ (2 * x.lower - x.significand) * x.step := by
      refine mul_le_mul_of_nonneg_right ?_ hstep.le
      by_cases hbottom : x.significand = Nat.pow 2 52
      · rw [lower_bottom hbottom hleast, hbottom]
        norm_num
      · rw [lower_eq hpositive fun h => hbottom h.1]
        have hnext := full_succ_le_significand hleast hbottom
        linarith
    linarith

/-- **A magnitude rounds to the nearest number**, and if another one is as near, the number has an
even significand. -/
theorem Basin.Holds.nearest {x : Binary64} {q : ℚ} (h : x.basin.Holds q) (y : Binary64) :
    |q - x.magnitude| ≤ |q - y.magnitude| ∧
      (x.magnitude ≠ y.magnitude → |q - x.magnitude| = |q - y.magnitude| →
        x.significand % 2 = 0) := by
  have hstep := x.step_pos
  have hself : x.magnitude = x.significand * x.step := rfl
  obtain ⟨hlow, hhigh⟩ := h.bounds
  rw [holds_basin_iff] at h
  rcases lt_trichotomy x.magnitude y.magnitude with hlt | heq | hgt
  · -- `q` lies on this side of the middle, which is the end of the basin or beyond it
    have hgap := add_step_le hlt
    have hy : |q - y.magnitude| = y.magnitude - q := by
      rw [abs_sub_comm]
      exact abs_of_nonneg (by linarith)
    rw [hy]
    refine ⟨abs_le.mpr ⟨by linarith, by linarith⟩, fun _ htie => ?_⟩
    refine of_decide_eq_true (h.closed_of_high_le ((le_div_iff₀ hstep).mpr ?_))
    rcases abs_cases (q - x.magnitude) with ⟨habs, -⟩ | ⟨habs, -⟩
    · linarith
    · linarith
  · rw [heq]
    exact ⟨le_rfl, fun hne => absurd rfl hne⟩
  · -- the same on the other side, where the basin may end earlier
    have hgap := le_sub_lower hgt
    have hy : |q - y.magnitude| = q - y.magnitude := abs_of_nonneg (by linarith)
    rw [hy]
    refine ⟨abs_le.mpr ⟨by linarith, by linarith⟩, fun _ htie => ?_⟩
    refine of_decide_eq_true (h.closed_of_le_low ((div_le_iff₀ hstep).mpr ?_))
    rcases abs_cases (q - x.magnitude) with ⟨habs, -⟩ | ⟨habs, -⟩
    · linarith
    · linarith

/-! ### Rounding a quotient -/

/-- **Rounding to a natural number** takes the nearest one, and the even one on a tie. -/
theorem roundDiv_spec (num : Nat) {den : Nat} (hden : 0 < den) :
    Within (roundDiv num den % 2 = 0) (roundDiv num den - 1 / 2) (roundDiv num den + 1 / 2)
      ((num : ℚ) / den) := by
  have hdenQ : (0 : ℚ) < den := by exact_mod_cast hden
  -- the quotient is the integer part and a rest below one
  have hquotient : (num : ℚ) / den = (num / den : Nat) + (num % den : Nat) / den := by
    have hdiv : ((den * (num / den) + num % den : Nat) : ℚ) = num := by rw [Nat.div_add_mod]
    rw [← hdiv, Nat.cast_add, Nat.cast_mul, add_div, mul_div_cancel_left₀ _ hdenQ.ne']
  have hrestNonneg : (0 : ℚ) ≤ (num % den : Nat) / den :=
    div_nonneg (Nat.cast_nonneg _) hdenQ.le
  have hrestLt : ((num % den : Nat) : ℚ) / den < 1 := by
    rw [div_lt_iff₀ hdenQ, one_mul]
    exact_mod_cast Nat.mod_lt num hden
  rw [hquotient]
  -- twice the rest is compared with the divisor: less, more, or just as much
  unfold roundDiv
  generalize num / den = quotient
  generalize num % den = rest at *
  simp only
  split
  case isTrue hless =>
    have : (rest : ℚ) / den < 1 / 2 := by
      rw [div_lt_div_iff₀ hdenQ two_pos]
      exact_mod_cast (by omega : rest * 2 < 1 * den)
    exact .of_lt (by linarith) (by linarith)
  case isFalse hnotLess =>
    split
    case isTrue hmore =>
      have : 1 / 2 < (rest : ℚ) / den := by
        rw [div_lt_div_iff₀ two_pos hdenQ]
        exact_mod_cast (by omega : 1 * den < rest * 2)
      push_cast
      exact .of_lt (by linarith) (by linarith)
    case isFalse hnotMore =>
      have hhalf : (rest : ℚ) / den = 1 / 2 := by
        rw [div_eq_div_iff hdenQ.ne' two_ne_zero]
        exact_mod_cast (by omega : rest * 2 = 1 * den)
      -- a tie goes to the even one of the two, which is not farther than half
      have heven : (quotient + quotient % 2) % 2 = 0 := by omega
      have hle : quotient % 2 ≤ 1 := by omega
      have hleQ : ((quotient % 2 : Nat) : ℚ) ≤ 1 := by exact_mod_cast hle
      rw [Within, if_pos (decide_eq_true heven), hhalf]
      push_cast
      exact ⟨by linarith, by linarith⟩

/-- The powers of two around a positive quotient. -/
theorem two_zpow_le_div {num den : Nat} (hnum : num ≠ 0) (hden : den ≠ 0) :
    (2 : ℚ) ^ ((num.log2 : ℤ) - den.log2 - 1) ≤ num / den ∧
      (num : ℚ) / den < 2 ^ ((num.log2 : ℤ) - den.log2 + 1) := by
  have hdenQ : (0 : ℚ) < den := by exact_mod_cast Nat.pos_of_ne_zero hden
  -- both are known up to a factor of two, and so is their quotient, up to one of four
  have hnumLow : (2 : ℚ) ^ num.log2 ≤ num := by exact_mod_cast Nat.log2_self_le hnum
  have hnumHigh : (num : ℚ) < 2 ^ (num.log2 + 1) := by exact_mod_cast Nat.lt_log2_self
  have hdenLow : (2 : ℚ) ^ den.log2 ≤ den := by exact_mod_cast Nat.log2_self_le hden
  have hdenHigh : (den : ℚ) < 2 ^ (den.log2 + 1) := by exact_mod_cast Nat.lt_log2_self
  constructor
  · have hpow : (2 : ℚ) ^ ((num.log2 : ℤ) - den.log2 - 1) = 2 ^ num.log2 / 2 ^ (den.log2 + 1) := by
      rw [sub_sub, zpow_sub₀ two_ne_zero]
      norm_cast
    rw [hpow]
    exact div_le_div₀ (by positivity) hnumLow hdenQ hdenHigh.le
  · have hpow : (2 : ℚ) ^ ((num.log2 : ℤ) - den.log2 + 1) = 2 ^ (num.log2 + 1) / 2 ^ den.log2 := by
      rw [sub_add_eq_add_sub, zpow_sub₀ two_ne_zero]
      norm_cast
    rw [hpow]
    exact div_lt_div₀ hnumHigh hdenLow (by positivity) (by positivity)

/-- The test of `scale` compares the quotient with a power of two. -/
theorem scaled_lt_iff (num : Nat) {den : Nat} (hden : den ≠ 0) (exponent : ℤ) :
    num * Nat.pow 2 (-exponent).toNat < den * Nat.pow 2 exponent.toNat * Nat.pow 2 53 ↔
      (num : ℚ) / den < 2 ^ (exponent + 53) := by
  have hdenQ : (0 : ℚ) < den := by exact_mod_cast Nat.pos_of_ne_zero hden
  have hpow : (2 : ℚ) ^ (exponent + 53) = (Nat.pow 2 exponent.toNat : Nat) /
      (Nat.pow 2 (-exponent).toNat : Nat) * (Nat.pow 2 53 : Nat) := by
    rw [zpow_add₀ two_ne_zero, natPow_div_natPow 2]
    norm_num
  rw [hpow, div_mul_eq_mul_div, div_lt_div_iff₀ hdenQ (natPow_pos two_ne_zero _)]
  -- what is left is to put the factors in the same order
  constructor
  · intro h
    calc (num : ℚ) * (Nat.pow 2 (-exponent).toNat : Nat)
        < (den : ℚ) * (Nat.pow 2 exponent.toNat : Nat) * (Nat.pow 2 53 : Nat) := by exact_mod_cast h
      _ = _ := by ring
  · intro h
    have h' : (num : ℚ) * (Nat.pow 2 (-exponent).toNat : Nat)
        < (den : ℚ) * (Nat.pow 2 exponent.toNat : Nat) * (Nat.pow 2 53 : Nat) :=
      h.trans_eq (by ring)
    exact_mod_cast h'

/-- **The exponent of a quotient**: the quotient has at most 53 bits before the point, and has that
many unless the exponent is the least. -/
theorem scale_spec {num den : Nat} (hnum : num ≠ 0) (hden : den ≠ 0) :
    -1074 ≤ scale num den ∧ (num : ℚ) / den < 2 ^ (scale num den + 53) ∧
      (scale num den = -1074 ∨ 2 ^ (scale num den + 52) ≤ (num : ℚ) / den) := by
  obtain ⟨hlow, hhigh⟩ := two_zpow_le_div hnum hden
  unfold scale
  simp only [scaled_lt_iff num hden]
  -- the guess is one too small or right, and the test finds out which
  generalize hguess : max (-1074) ((num.log2 : ℤ) - den.log2 - 53) = guess
  split
  case isTrue hless =>
    refine ⟨by omega, hless, ?_⟩
    by_cases hleast : guess = -1074
    · exact .inl hleast
    · refine .inr (le_trans (zpow_le_zpow_right₀ one_le_two ?_) hlow)
      omega
  case isFalse hnotLess =>
    refine ⟨by omega, hhigh.trans_le (zpow_le_zpow_right₀ one_le_two ?_), .inr ?_⟩
    · omega
    · rw [not_lt] at hnotLess
      rwa [add_assoc]

/-- **The steps of `ofRatio?`.** The quotient in units of the place that `scale` gives is rounded to
`rounded`, which has at most 53 bits or is the first number with 54. -/
theorem exists_rounded {num den : Nat} (hnum : num ≠ 0) (hden : den ≠ 0) (negative : Bool) :
    ∃ (exponent : ℤ) (rounded : Nat),
      ofRatio? negative num den =
        (if rounded = Nat.pow 2 53 then ofParts? negative (Nat.pow 2 52) (exponent + 1)
          else ofParts? negative rounded exponent) ∧
      Within (rounded % 2 = 0) (rounded - 1 / 2) (rounded + 1 / 2)
        ((num : ℚ) / den / 2 ^ exponent) ∧
      -1074 ≤ exponent ∧ (num : ℚ) / den / 2 ^ exponent < 2 ^ 53 ∧
      (exponent = -1074 ∨ 2 ^ 52 ≤ (num : ℚ) / den / 2 ^ exponent) := by
  obtain ⟨hleast, hhigh, hlow⟩ := scale_spec hnum hden
  -- the place is the one that `scale` gives, and what is rounded is the quotient in its units
  refine ⟨scale num den, _, if_neg hnum, ?_, hleast, ?_, ?_⟩
  · have hquotient : (num : ℚ) / den / 2 ^ scale num den =
        ((num * Nat.pow 2 (-scale num den).toNat : Nat) : ℚ) /
          ((den * Nat.pow 2 (scale num den).toNat : Nat) : ℚ) := by
      rw [← Nat.cast_two, ← natPow_div_natPow 2, Nat.cast_mul, Nat.cast_mul, div_div_div_eq,
        mul_div_mul_comm, div_mul_div_comm]
    rw [hquotient]
    exact roundDiv_spec _ (Nat.mul_pos (Nat.pos_of_ne_zero hden) (Nat.pow_pos two_pos))
  · rw [div_lt_iff₀ (zpow_pos two_pos _)]
    exact hhigh.trans_eq (by rw [zpow_add₀ two_ne_zero]; exact mul_comm _ _)
  · refine hlow.imp id fun h => ?_
    rw [le_div_iff₀ (zpow_pos two_pos _)]
    exact (by rw [zpow_add₀ two_ne_zero]; exact mul_comm _ _ : (2 : ℚ) ^ 52 * _ = _).trans_le h

/-- A magnitude lies in the basin of the number whose significand it rounds to. -/
theorem holds_of_rounded {x : Binary64} {q : ℚ} (hnonneg : 0 ≤ q)
    (hrounded : Within (x.significand % 2 = 0) (x.significand - 1 / 2) (x.significand + 1 / 2)
      (q / x.step))
    (hlow : x.exponent = -1074 ∨ 2 ^ 52 ≤ q / x.step) : x.basin.Holds q := by
  rw [holds_basin_iff]
  by_cases hzero : x.significand = 0
  · -- there is nothing below zero
    rw [lower_zero hzero]
    rw [hzero] at hrounded ⊢
    exact ⟨div_nonneg hnonneg x.step_pos.le, hrounded.2⟩
  by_cases hbottom : x.significand = Nat.pow 2 52 ∧ -1074 < x.exponent
  · -- the basin of a power of two is smaller below it, but no quotient of 53 bits lies there
    have hlow52 : 2 ^ 52 ≤ q / x.step := hlow.resolve_left (by omega)
    have heven : x.significand % 2 = 0 := by rw [hbottom.1]
    rw [lower_bottom hbottom.1 hbottom.2, Within, if_pos (decide_eq_true heven)]
    exact ⟨by linarith, hrounded.le.2⟩
  · rwa [lower_eq (Nat.pos_of_ne_zero hzero) hbottom]

/-- A magnitude that rounds up to 54 bits lies in the basin of the power of two that these are. -/
theorem holds_of_carry {x : Binary64} {q : ℚ} (hsignificand : x.significand = Nat.pow 2 52)
    (hexponent : -1074 < x.exponent) (hlow : 2 ^ 53 - 1 / 2 ≤ q / x.step * 2)
    (hhigh : q / x.step * 2 < 2 ^ 53) : x.basin.Holds q := by
  have heven : x.significand % 2 = 0 := by rw [hsignificand]
  have hcast : ((Nat.pow 2 52 : Nat) : ℚ) = 2 ^ 52 := by norm_num
  rw [holds_basin_iff, lower_bottom hsignificand hexponent, Within, if_pos (decide_eq_true heven),
    hsignificand, hcast]
  constructor
  · linarith
  · linarith

theorem ofParts?_eq_some_iff {negative : Bool} {significand : Nat} {exponent : ℤ} {x : Binary64} :
    ofParts? negative significand exponent = some x ↔
      x.negative = negative ∧ x.significand = significand ∧ x.exponent = exponent := by
  unfold ofParts?
  split
  case isTrue hcanonical =>
    rw [Option.some.injEq]
    constructor
    · rintro rfl
      exact ⟨rfl, rfl, rfl⟩
    · rintro ⟨rfl, rfl, rfl⟩
      rfl
  case isFalse hcanonical =>
    constructor
    · intro h
      cases h
    · rintro ⟨-, rfl, rfl⟩
      exact absurd x.canonical hcanonical

theorem ofParts?_eq_none_iff {negative : Bool} {significand : Nat} {exponent : ℤ} :
    ofParts? negative significand exponent = none ↔ ¬CanonicalBinary64 significand exponent := by
  unfold ofParts?
  split
  case isTrue hcanonical => exact iff_of_false (Option.some_ne_none _) (not_not_intro hcanonical)
  case isFalse hcanonical => exact iff_of_true rfl hcanonical

/-- What `ofRatio?` finds has the quotient in its basin. -/
theorem holds_of_ofRatio? {negative : Bool} {num den : Nat} (hden : den ≠ 0) {x : Binary64}
    (h : ofRatio? negative num den = some x) :
    x.negative = negative ∧ x.basin.Holds ((num : ℚ) / den) := by
  by_cases hnum : num = 0
  · rw [ofRatio?, if_pos hnum] at h
    obtain rfl := Option.some.inj h
    have hzero : (zero negative).significand = 0 := rfl
    refine ⟨rfl, ?_⟩
    rw [holds_basin_iff, hnum, lower_zero hzero, hzero, Nat.cast_zero, zero_div, zero_div]
    exact ⟨le_rfl, by norm_num⟩
  obtain ⟨exponent, rounded, heq, hrounded, hleast, hhigh, hlow⟩ :=
    exists_rounded hnum hden negative
  have hnonneg : (0 : ℚ) ≤ (num : ℚ) / den := div_nonneg (Nat.cast_nonneg _) (Nat.cast_nonneg _)
  rw [heq] at h
  split at h
  case isTrue hcarry =>
    obtain ⟨hnegative, hsignificand, hexponent⟩ := ofParts?_eq_some_iff.mp h
    -- the carry makes the last place twice as large
    have hunits : (num : ℚ) / den / x.step * 2 = num / den / 2 ^ exponent := by
      rw [step, hexponent, zpow_add_one₀ two_ne_zero, ← div_div, div_mul_cancel₀ _ two_ne_zero]
    have hlow54 := hrounded.le.1
    rw [hcarry] at hlow54
    refine ⟨hnegative, holds_of_carry hsignificand (by omega) ?_ ?_⟩
    · rw [hunits]
      norm_num at hlow54 ⊢
      exact hlow54
    · rwa [hunits]
  case isFalse =>
    obtain ⟨hnegative, rfl, rfl⟩ := ofParts?_eq_some_iff.mp h
    exact ⟨hnegative, holds_of_rounded hnonneg hrounded hlow⟩

/-- A quotient of half a unit less than 54 bits is too large if its last place is that of the
greatest number. -/
theorem overflow_le_of_carry {q : ℚ} {exponent : ℤ} (hexponent : 971 ≤ exponent)
    (h : 2 ^ 53 - 1 / 2 ≤ q / 2 ^ exponent) : overflow ≤ q := by
  rw [le_div_iff₀ (zpow_pos two_pos _)] at h
  refine le_trans ?_ h
  exact mul_le_mul_of_nonneg_left (zpow_le_zpow_right₀ one_le_two hexponent) (by norm_num)

/-- A quotient of 53 bits is too large if its last place is greater than that of any number. -/
theorem overflow_le_of_place {q : ℚ} {exponent : ℤ} (hexponent : 972 ≤ exponent)
    (h : 2 ^ 52 ≤ q / 2 ^ exponent) : overflow ≤ q := by
  rw [le_div_iff₀ (zpow_pos two_pos _)] at h
  -- one place more is twice the unit
  have hplace : (2 : ℚ) ^ (971 : ℤ) * 2 ≤ 2 ^ exponent := by
    rw [← zpow_add_one₀ two_ne_zero]
    exact zpow_le_zpow_right₀ one_le_two hexponent
  calc overflow ≤ 2 ^ 52 * (2 ^ (971 : ℤ) * 2) := by
        have hpos : (0 : ℚ) < 2 ^ (971 : ℤ) := zpow_pos two_pos _
        rw [overflow]
        generalize (2 : ℚ) ^ (971 : ℤ) = place at hpos
        linarith
    _ ≤ 2 ^ 52 * 2 ^ exponent := mul_le_mul_of_nonneg_left hplace (by positivity)
    _ ≤ q := h

/-- A quotient for which `ofRatio?` finds nothing is too large. -/
theorem overflow_le_of_ofRatio? {negative : Bool} {num den : Nat} (hden : den ≠ 0)
    (h : ofRatio? negative num den = none) : overflow ≤ (num : ℚ) / den := by
  by_cases hnum : num = 0
  · rw [ofRatio?, if_pos hnum] at h
    cases h
  obtain ⟨exponent, rounded, heq, hrounded, hleast, hhigh, hlow⟩ :=
    exists_rounded hnum hden negative
  -- what was rounded is in the range of a significand, so only its place can be refused
  have hle : rounded ≤ Nat.pow 2 53 := by
    refine le_of_sub_half_le (hrounded.le.1.trans (hhigh.le.trans_eq ?_))
    norm_num
  have hge : exponent = -1074 ∨ Nat.pow 2 52 ≤ rounded := by
    refine hlow.imp id fun h52 => le_of_sub_half_le (sub_le_iff_le_add.mpr ?_)
    refine le_trans ?_ (h52.trans hrounded.le.2)
    norm_num
  rw [heq] at h
  split at h
  case isTrue hcarry =>
    -- after a carry the number has a place that is one greater
    have hexponent : 971 ≤ exponent := by
      by_contra hlt
      exact ofParts?_eq_none_iff.mp h ⟨by decide, by omega, by omega, .inl le_rfl⟩
    have hlow54 := hrounded.le.1
    rw [hcarry] at hlow54
    refine overflow_le_of_carry hexponent ?_
    norm_num at hlow54 ⊢
    exact hlow54
  case isFalse hcarry =>
    have hexponent : 972 ≤ exponent := by
      by_contra hlt
      exact ofParts?_eq_none_iff.mp h ⟨by omega, hleast, by omega, hge.symm⟩
    exact overflow_le_of_place hexponent (hlow.resolve_left (by omega))

/-- **Rounding is correct**: `ofRatio?` finds the number in whose basin the quotient lies. -/
theorem ofRatio?_eq_some_iff {negative : Bool} {num den : Nat} (hden : den ≠ 0) {x : Binary64} :
    ofRatio? negative num den = some x ↔
      x.negative = negative ∧ x.basin.Holds ((num : ℚ) / den) := by
  refine ⟨holds_of_ofRatio? hden, fun ⟨hnegative, hx⟩ => ?_⟩
  cases h : ofRatio? negative num den with
  | none => exact absurd hx.lt_overflow (overflow_le_of_ofRatio? hden h).not_gt
  | some y =>
    -- what is found has the quotient in its basin too, and there are no two such numbers
    obtain ⟨hnegative', hy⟩ := holds_of_ofRatio? hden h
    obtain ⟨hsignificand, hexponent⟩ := hy.unique hx
    have hxy : y = x := by
      cases x
      cases y
      simp only at hnegative hnegative' hsignificand hexponent
      subst hnegative hnegative' hsignificand hexponent
      rfl
    rw [hxy]

/-- **Rounding fails only for what is too large.** -/
theorem ofRatio?_eq_none_iff {negative : Bool} {num den : Nat} (hden : den ≠ 0) :
    ofRatio? negative num den = none ↔ overflow ≤ (num : ℚ) / den := by
  refine ⟨overflow_le_of_ofRatio? hden, fun hle => ?_⟩
  cases h : ofRatio? negative num den with
  | none => rfl
  | some x => exact absurd hle (holds_of_ofRatio? hden h).2.lt_overflow.not_ge

/-- The quotient that `ofDecimal?` rounds. -/
theorem natCast_ofDecimal (digits : Nat) (exponent : ℤ) :
    ((digits * Nat.pow 10 exponent.toNat : Nat) : ℚ) / (Nat.pow 10 (-exponent).toNat : Nat) =
      digits * 10 ^ exponent := by
  rw [Nat.cast_mul, mul_div_assoc, natPow_div_natPow]
  rfl

theorem ofDecimal?_eq_some_iff {negative : Bool} {digits : Nat} {exponent : ℤ} {x : Binary64} :
    ofDecimal? negative digits exponent = some x ↔
      x.negative = negative ∧ x.basin.Holds (digits * 10 ^ exponent) := by
  have hden : Nat.pow 10 (-exponent).toNat ≠ 0 := (Nat.pow_pos (by norm_num)).ne'
  rw [ofDecimal?, ofRatio?_eq_some_iff hden, natCast_ofDecimal]

theorem ofDecimal?_eq_none_iff {negative : Bool} {digits : Nat} {exponent : ℤ} :
    ofDecimal? negative digits exponent = none ↔ overflow ≤ digits * 10 ^ exponent := by
  have hden : Nat.pow 10 (-exponent).toNat ≠ 0 := (Nat.pow_pos (by norm_num)).ne'
  rw [ofDecimal?, ofRatio?_eq_none_iff hden, natCast_ofDecimal]

end Binary64

end LogSieve
