import LogSieve.Proofs.Filter.Balance
import LogSieve.Proofs.Filter.Growth
import Mathlib.Algebra.Order.Ring.Nat
import Mathlib.Tactic.Ring

/-!
# How high the tree of a filter is

The height counts all nodes above a leaf, comparisons included. A comparison takes no level, but
it does not chain either: its operands are leaves or groups, so only one comparison fits between
two levels of parentheses. With `n` levels

* an operand is `n ^ 2` high, as it is a leaf or a group around a filter with a level less;
* a comparison, and with it a negation, is one higher;
* a chain of negations is higher by `n`, and a chain of such chains once more, which comes to
  `(n + 1) ^ 2`.

A `not` costs a level and is one node only, so it is never worth it. That no tree is higher is
`Derives.height_le`, and that every height up to the bound occurs `reaches_disjunction_height`. The
main statement is `exists_height_iff`.
-/

namespace LogSieve

/-- The number of edges on the longest path from the root to a leaf. -/
def Expr.height : Expr → Nat
  | field _ | literal _ => 0
  | equals left right | contains left right | and left right | or left right =>
    1 + max left.height right.height
  | not operand => 1 + operand.height

theorem growsByChains_height : GrowsByChains Expr.height where
  and _ _ := rfl
  or _ _ := rfl
  letter := rfl

/-- How high the tree of a stretch can be. Either chain adds as many nodes as there are levels. -/
def Symbol.heightBound : Symbol → (levels : Nat) → Nat
  | disjunction, levels => levels + (levels + (levels ^ 2 + 1))
  | conjunction, levels => levels + (levels ^ 2 + 1)
  | negation, levels | comparison, levels => levels ^ 2 + 1
  | rightOperand, levels | operand, levels => levels ^ 2

theorem heightBound_disjunction (levels : Nat) :
    Symbol.disjunction.heightBound levels = (levels + 1) ^ 2 := by
  show levels + (levels + (levels ^ 2 + 1)) = (levels + 1) ^ 2
  ring

theorem heightBound_mono (symbol : Symbol) {m n : Nat} (h : m ≤ n) :
    symbol.heightBound m ≤ symbol.heightBound n := by
  have hsquare : m ^ 2 ≤ n ^ 2 := Nat.pow_le_pow_left h 2
  cases symbol <;> simp only [Symbol.heightBound] <;> omega

/-! ### No tree is higher -/

/-- **No derivation is higher than its levels allow.** -/
theorem Derives.height_le {symbol : Symbol} {kinds : List TokenKind} {expr : Expr} {cost : Nat}
    (h : Derives symbol kinds expr cost) : expr.height ≤ symbol.heightBound cost := by
  -- rule by rule: the chains are the only ones that repeat, and they grow by their levels
  induction h with
  | disjunction _ ih =>
    exact measure_chain_le growsByChains_height.or
      (fun _ _ => heightBound_mono .conjunction) ih
  | conjunction _ ih =>
    exact measure_chain_le growsByChains_height.and (fun _ _ => heightBound_mono .negation) ih
  | @not _ expr cost _ ih =>
    -- a level is worth many nodes, and this is one
    calc (Expr.not expr).height
        ≤ 1 + (cost ^ 2 + 1) := Nat.add_le_add_left ih 1
      _ ≤ 1 + (cost ^ 2 + 1) + 2 * cost := Nat.le_add_right ..
      _ = (1 + cost) ^ 2 + 1 := by ring
  | affirmation _ ih | other _ _ ih => exact ih
  | single _ ih => exact Nat.le_succ_of_le ih
  | @equals _ _ left right leftCost rightCost _ _ ihl ihr
  | @contains _ _ left right leftCost rightCost _ _ ihl ihr =>
    -- the comparison is the one node that no level pays for
    show 1 + max left.height right.height ≤ max leftCost rightCost ^ 2 + 1
    rw [Nat.add_comm]
    refine Nat.succ_le_succ (Nat.max_le.mpr ⟨ihl.trans ?_, ihr.trans ?_⟩)
    · exact Nat.pow_le_pow_left (Nat.le_max_left ..) 2
    · exact Nat.pow_le_pow_left (Nat.le_max_right ..) 2
  | word | string | number | field => exact Nat.zero_le _
  | @group _ expr cost _ ih =>
    -- the filter inside has a level less, and the parentheses are no node
    show expr.height ≤ (1 + cost) ^ 2
    rwa [heightBound_disjunction, Nat.add_comm] at ih

/-! ### Every height up to the bound is derived -/

section Reaches

variable {levels height : Nat}

/-- The comparison of an operand with a letter is one higher than the operand. -/
theorem Reaches.equals (h : Reaches Expr.height .operand levels height) :
    Reaches Expr.height .negation levels (1 + height) := by
  obtain ⟨kinds, expr, cost, hkinds, hder, hcost, rfl⟩ := h
  have hletter : Derives .rightOperand [.identifier ['a']] (.literal (.string ['a'])) 0 :=
    @Derives.word ['a'] 0 fun hne => absurd rfl hne
  refine ⟨_, _, _, ?_, .affirmation (hder.equals hletter), ?_, ?_⟩
  · rw [Lexical, List.forall_mem_append, List.forall_mem_cons, List.forall_mem_singleton]
    exact ⟨hkinds, ⟨['='], .equals⟩, ['a'], lexeme_letter⟩
  · -- the letter costs nothing
    rwa [Nat.max_zero]
  · show 1 + max expr.height 0 = 1 + expr.height
    rw [Nat.max_zero]

theorem reaches_negation_height {inner : Nat}
    (h : ∀ v ≤ inner, Reaches Expr.height .operand levels v) (hheight : height ≤ inner + 1) :
    Reaches Expr.height .negation levels height := by
  cases height with
  | zero =>
    -- a comparison would be too high
    exact .negation (h 0 (Nat.zero_le _))
  | succ height =>
    rw [Nat.add_comm]
    exact .equals (h height (Nat.le_of_succ_le_succ hheight))

theorem reaches_disjunction_of_operand
    (h : ∀ v ≤ levels ^ 2, Reaches Expr.height .operand levels v)
    (hheight : height ≤ (levels + 1) ^ 2) : Reaches Expr.height .disjunction levels height := by
  refine .disjunction_of_negation growsByChains_height (fun v => reaches_negation_height h) ?_
  calc height
      ≤ (levels + 1) ^ 2 := hheight
    _ = 2 * levels + (levels ^ 2 + 1) := by ring

/-- A group with one level more is as high as a filter. -/
theorem reaches_operand_height (h : height ≤ levels ^ 2) :
    Reaches Expr.height .operand levels height := by
  -- on the levels: without any there is the letter alone
  induction levels generalizing height with
  | zero =>
    obtain rfl := Nat.le_zero.mp h
    exact .operand_letter
  | succ levels ih =>
    rw [Nat.add_comm levels]
    exact .group (reaches_disjunction_of_operand (fun v => ih) h)

/-- **Every height up to the bound is the height of a filter.** -/
theorem reaches_disjunction_height (h : height ≤ (levels + 1) ^ 2) :
    Reaches Expr.height .disjunction levels height :=
  reaches_disjunction_of_operand (fun _ => reaches_operand_height) h

end Reaches

/-! ### The heights of filters -/

theorem Derives.height_le_of_cost_le {kinds : List TokenKind} {expr : Expr} {cost levels : Nat}
    (h : Derives .disjunction kinds expr cost) (hcost : cost ≤ levels) :
    expr.height ≤ (levels + 1) ^ 2 := by
  rw [← heightBound_disjunction]
  exact h.height_le.trans (heightBound_mono .disjunction hcost)

/-- **The heights at a number of levels.** -/
theorem exists_disjunction_height_iff (finish levels height : Nat) :
    (∃ tokens expr rest, disjunction finish levels tokens = .ok (expr, rest) ∧
      expr.height = height) ↔ height ≤ (levels + 1) ^ 2 := by
  constructor
  · rintro ⟨tokens, expr, rest, hread, rfl⟩
    obtain ⟨used, cost, -, hder, hcost⟩ := sound finish levels .disjunction tokens expr rest hread
    exact hder.height_le_of_cost_le hcost
  · intro h
    obtain ⟨kinds, expr, cost, -, hder, hcost, hheight⟩ := reaches_disjunction_height h
    have hkinds : (kinds.map fun kind => (⟨kind, 0⟩ : Token)).map (·.kind) = kinds := by
      rw [List.map_map]
      exact List.map_id _
    have hread : Reading cost levels expr [] (disjunction finish levels (_ ++ [])) :=
      hder.recognised levels _ [] hkinds fun token htoken => nomatch htoken
    exact ⟨_, expr, [], hread.ok hcost, hheight⟩

/-- A run of the parser with a counter has the levels that are not taken. -/
theorem Counted.height_le {tokens : List Token} {budget : Nat} {state state' : State} {expr : Expr}
    (hdepth : state.depth ≤ deepestNesting) (hposition : state.position ≤ tokens.length)
    (hbudget : 6 * (deepestNesting - state.depth) + 6 ≤ budget)
    (hrun : (production tokens budget .disjunction).run.run state = some (.ok expr, state')) :
    expr.height ≤ (deepestNesting - state.depth + 1) ^ 2 := by
  have hfollows := follows_production tokens .disjunction state hdepth hposition
  -- the counted run and the parser read the same
  have hread := hfollows.eq_ok hrun hbudget
  exact (exists_disjunction_height_iff _ _ _).mp ⟨_, expr, _, hread, rfl⟩

/-- **How high filters are.** With some levels left, a disjunction has a tree of any height up to
the square of one more than the levels, and of no other. So what a run reads that starts when
`depth` levels are taken is at most `(257 - depth) ^ 2` high, and a filter that compiles can have
any height up to 66049 and no other. -/
theorem exists_height_iff :
    (∀ finish levels height,
      (∃ tokens expr rest, disjunction finish levels tokens = .ok (expr, rest) ∧
        expr.height = height) ↔ height ≤ (levels + 1) ^ 2) ∧
    (∀ tokens (state state' : Counted.State) expr,
      state.depth ≤ 256 → state.position ≤ tokens.length → ∀ budget, 1542 ≤ budget →
      (Counted.production tokens budget .disjunction).run.run state = some (.ok expr, state') →
      expr.height ≤ (257 - state.depth) ^ 2) ∧
    ∀ height, (∃ source expr, compile source = .ok expr ∧ expr.height = height) ↔
      height ≤ 66049 := by
  refine ⟨exists_disjunction_height_iff, ?_, fun height => ⟨?_, fun h => ?_⟩⟩
  · intro tokens state state' expr hdepth hposition budget hbudget hrun
    -- the budget is enough for 256 levels, and so for those that are left
    have hneed : 6 * (deepestNesting - state.depth) + 6 ≤ budget :=
      Nat.le_trans (Nat.add_le_add_right (Nat.mul_le_mul_left 6 (Nat.sub_le ..)) 6) hbudget
    rw [Nat.succ_sub hdepth]
    exact Counted.height_le hdepth hposition hneed hrun
  · rintro ⟨source, expr, hcompile, rfl⟩
    obtain ⟨kinds, -, cost, hcost, hder⟩ := (compile_eq_ok_iff.mp hcompile).exists_derives
    exact hder.height_le_of_cost_le hcost
  · simp only [compile_eq_ok_iff]
    have hreaches : Reaches Expr.height .disjunction 256 height := reaches_disjunction_height h
    exact hreaches.exists_compilesWithin

end LogSieve
