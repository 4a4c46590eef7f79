import LogSieve.Proofs.Filter.Growth
import Mathlib.Order.Nat
import Mathlib.Tactic.Ring

/-!
# How deep a filter is

The levels of the parser bound the depth of the tree, though not by their number. A chain gives the
levels of its operators back at its end, and while it is read its tree grows on top of the first
operand, which may have used all of the levels before. So a tree is deeper by the length of the
chain than what its levels pay for, once for `and` and once for `or`, and parentheses do it again a
level further down.

* `Expr.logicalDepth` — the greatest number of `and`, `or` and `not` nodes on a path of a tree.
* `Symbol.depthBound` — how deep the tree of a stretch can be, by its symbol and its levels.
* `Derives.logicalDepth_le` — no derivation is deeper: its rules one by one, and for chains that
  they grow by their levels at most (`measure_chain_le`).
* `reaches_disjunction` — every depth up to the bound is derived: the two chains stand on the
  deepest tree of a level less, and their lengths fill the gap.

With `n` levels the deepest filter has `n * n + n + 1` of the nodes on a path. The main statement,
`exists_logicalDepth_iff`, says so for the 256 levels of `compile`, and says for which numbers of
levels no path would have more than 256 of them.
-/

namespace LogSieve

/-- The greatest number of `and`, `or` and `not` nodes on a path from the root to a leaf. -/
def Expr.logicalDepth : Expr → Nat
  | field _ | literal _ => 0
  | equals left right | contains left right => max left.logicalDepth right.logicalDepth
  | and left right | or left right => 1 + max left.logicalDepth right.logicalDepth
  | not operand => 1 + operand.logicalDepth

/-- A node that is one level deeper than the deeper of its operands. -/
def IsLogical (node : Expr → Expr → Expr) : Prop :=
  ∀ left right, (node left right).logicalDepth = 1 + max left.logicalDepth right.logicalDepth

theorem isLogical_and : IsLogical .and := fun _ _ => rfl

theorem isLogical_or : IsLogical .or := fun _ _ => rfl

/-- How deep a tree can be without a chain outside of parentheses: a level is one for a `not`, or
one for parentheses around a chain of chains, each with as many operators as there are levels
left. -/
def innerBound : (levels : Nat) → Nat
  | 0 => 0
  | levels + 1 => max 1 (2 * levels + innerBound levels)

/-- How deep the tree of a stretch can be. Either chain adds as many nodes as there are levels. -/
def Symbol.depthBound : Symbol → (levels : Nat) → Nat
  | disjunction, levels => 2 * levels + innerBound levels
  | conjunction, levels => levels + innerBound levels
  | negation, levels | comparison, levels | rightOperand, levels | operand, levels =>
    innerBound levels

theorem innerBound_mono {m n : Nat} (h : m ≤ n) : innerBound m ≤ innerBound n := by
  -- a level more is two operators more at least
  induction n, h using Nat.le_induction with
  | base => exact Nat.le_refl _
  | succ n _ ih =>
    rw [innerBound]
    omega

theorem one_add_innerBound_le (levels : Nat) : 1 + innerBound levels ≤ innerBound (1 + levels) := by
  rw [Nat.add_comm 1 levels, innerBound]
  cases levels with
  | zero => decide
  | succ levels => omega

theorem depthBound_disjunction_le (levels : Nat) :
    Symbol.disjunction.depthBound levels ≤ innerBound (1 + levels) := by
  rw [Nat.add_comm, innerBound]
  exact Nat.le_max_right ..

theorem depthBound_disjunction_mono {m n : Nat} (h : m ≤ n) :
    Symbol.disjunction.depthBound m ≤ Symbol.disjunction.depthBound n :=
  Nat.add_le_add (Nat.mul_le_mul_left 2 h) (innerBound_mono h)

/-- The bound in closed form. -/
theorem depthBound_disjunction_succ (levels : Nat) : Symbol.disjunction.depthBound (levels + 1)
    = (levels + 1) * (levels + 1) + (levels + 1) + 1 := by
  induction levels with
  | zero => decide
  | succ levels ih =>
    -- the deepest tree inside is more than a lone `not`, but for the first level
    have hpos : 1 ≤ (levels + 1) * (levels + 1) + (levels + 1) + 1 := Nat.le_add_left ..
    calc Symbol.disjunction.depthBound (levels + 1 + 1)
        = 2 * (levels + 1 + 1) + max 1 (Symbol.disjunction.depthBound (levels + 1)) := rfl
      _ = 2 * (levels + 1 + 1) + ((levels + 1) * (levels + 1) + (levels + 1) + 1) := by
        rw [ih, Nat.max_eq_right hpos]
      _ = (levels + 1 + 1) * (levels + 1 + 1) + (levels + 1 + 1) + 1 := by ring

/-! ### No tree is deeper -/

/-- **No derivation is deeper than its levels allow.** -/
theorem Derives.logicalDepth_le {symbol : Symbol} {kinds : List TokenKind} {expr : Expr}
    {cost : Nat} (h : Derives symbol kinds expr cost) :
    expr.logicalDepth ≤ symbol.depthBound cost := by
  -- rule by rule: a comparison is as deep as its deeper side, and a chain grows by its levels
  induction h with
  | @disjunction first links _ ih =>
    have hchain : (linksExpr .or first.expr links).logicalDepth ≤ _ + (_ + innerBound _) :=
      measure_chain_le isLogical_or
        (fun _ _ hle => Nat.add_le_add hle (innerBound_mono hle)) ih
    rwa [← Nat.add_assoc, ← Nat.two_mul] at hchain
  | @conjunction first links _ ih =>
    exact measure_chain_le isLogical_and (fun _ _ => innerBound_mono) ih
  | not _ ih => exact (Nat.add_le_add_left ih 1).trans (one_add_innerBound_le _)
  | affirmation _ ih | single _ ih | other _ _ ih => exact ih
  | @equals _ _ _ _ leftCost rightCost _ _ ihl ihr
  | @contains _ _ _ _ leftCost rightCost _ _ ihl ihr =>
    refine Nat.max_le.mpr ⟨ihl.trans (innerBound_mono ?_), ihr.trans (innerBound_mono ?_)⟩
    · exact Nat.le_max_left ..
    · exact Nat.le_max_right ..
  | word | string | number | field => exact Nat.zero_le _
  | group _ ih => exact ih.trans (depthBound_disjunction_le _)

/-! ### Every depth up to the bound is derived -/

theorem growsByChains_logicalDepth : GrowsByChains Expr.logicalDepth where
  and := isLogical_and
  or := isLogical_or
  letter := rfl

theorem reaches_not {levels depth : Nat} (h : Reaches Expr.logicalDepth .negation levels depth) :
    Reaches Expr.logicalDepth .negation (1 + levels) (1 + depth) := by
  obtain ⟨kinds, expr, cost, hkinds, hder, hcost, rfl⟩ := h
  refine ⟨_, _, _, ?_, hder.not, Nat.add_le_add_left hcost 1, rfl⟩
  rw [Lexical, List.forall_mem_cons]
  exact ⟨⟨['n', 'o', 't'], lexeme_not⟩, hkinds⟩

theorem reaches_negation {levels depth : Nat} (h : depth ≤ innerBound levels) :
    Reaches Expr.logicalDepth .negation levels depth := by
  -- on the levels: a group holds what a level less can reach
  induction levels generalizing depth with
  | zero =>
    obtain rfl := Nat.le_zero.mp h
    exact .negation .operand_letter
  | succ levels ih =>
    rw [Nat.add_comm]
    by_cases hdepth : depth ≤ Symbol.disjunction.depthBound levels
    · exact .negation (.group
        (.disjunction_of_negation growsByChains_logicalDepth (fun _ => ih) hdepth))
    · -- only at the first level does a `not` reach further than the chains in a group
      obtain rfl : depth = 1 := by
        rw [innerBound] at h
        rw [Symbol.depthBound] at hdepth
        omega
      exact reaches_not (.negation .operand_letter)

/-- **Every depth up to the bound is the depth of a filter.** -/
theorem reaches_disjunction {levels depth : Nat}
    (h : depth ≤ Symbol.disjunction.depthBound levels) :
    Reaches Expr.logicalDepth .disjunction levels depth :=
  .disjunction_of_negation growsByChains_logicalDepth (fun _ => reaches_negation) h

/-! ### The depths of filters -/

/-- **The depths of filters at a limit.** -/
theorem exists_compilesWithin_iff (levels depth : Nat) :
    (∃ source expr, CompilesWithin levels source expr ∧ expr.logicalDepth = depth) ↔
      depth ≤ Symbol.disjunction.depthBound levels := by
  constructor
  · rintro ⟨source, expr, hcompiles, rfl⟩
    obtain ⟨kinds, -, cost, hcost, hder⟩ := hcompiles.exists_derives
    exact hder.logicalDepth_le.trans (depthBound_disjunction_mono hcost)
  · intro hdepth
    exact (reaches_disjunction hdepth).exists_compilesWithin

/-- **How deep filters are.** The greatest number of `and`, `or` and `not` nodes on a path of a
compiled filter can be any number up to 65793 and no other. It would stay within 256 for all
filters if and only if the parser were given at most 15 levels. -/
theorem exists_logicalDepth_iff :
    (∀ depth, (∃ source expr, compile source = .ok expr ∧ expr.logicalDepth = depth) ↔
      depth ≤ 256 * 256 + 256 + 1) ∧
    (∀ levels, (∀ source expr, CompilesWithin levels source expr → expr.logicalDepth ≤ 256) ↔
      levels ≤ 15) := by
  refine ⟨fun depth => ?_, fun levels => ⟨fun h => ?_, fun hle source expr hcompiles => ?_⟩⟩
  · simp only [compile_eq_ok_iff]
    -- 256 levels, the bound in closed form
    rw [exists_compilesWithin_iff, depthBound_disjunction_succ 255]
  · -- a filter with 257 nodes on a path as soon as there are 16 levels
    by_contra hlt
    have hbound : 257 ≤ Symbol.disjunction.depthBound levels := by
      refine le_trans ?_ (depthBound_disjunction_mono (Nat.lt_of_not_le hlt))
      decide
    obtain ⟨source, expr, hcompiles, hdepth⟩ := (exists_compilesWithin_iff levels 257).mpr hbound
    have := h source expr hcompiles
    omega
  · have hdepth := (exists_compilesWithin_iff levels _).mp ⟨source, expr, hcompiles, rfl⟩
    refine hdepth.trans ((depthBound_disjunction_mono hle).trans ?_)
    decide

end LogSieve
