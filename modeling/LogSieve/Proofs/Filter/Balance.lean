import LogSieve.Proofs.Filter.Counted

/-!
# The counter is in balance

Every run of a production of `LogSieve.Counted` ends. It reads what the production of the grammar
reads with as many levels as are left, and fails with the same error (`Agrees`), so the parser with
a counter is the parser (`run_whole`). If it succeeds, as many levels are taken as before and at
least one more token is used; and on the way there are never more than 256 levels taken, nor more
productions under way than six for each level and six at the start (`production_ends`).

Six, because a production that calls another one without a level in between calls a tighter one
(`Symbol.reach`). The same order makes the runs end (`Symbol.induction`).

The loop of a chain takes levels without giving any back, so the equality of the levels before and
after does not hold inside it. What holds is that what is taken and what is left make up the limit
(`Ready`), and the chain itself still has the number of levels that it started with.
-/

namespace LogSieve

/-- How many productions can be under way from that of the symbol on while no level is taken. -/
def Symbol.reach : Symbol → Nat
  | disjunction => 6
  | conjunction => 5
  | negation => 4
  | comparison => 3
  | rightOperand => 2
  | operand => 1

theorem Symbol.reach_pos (symbol : Symbol) : 0 < symbol.reach := by
  cases symbol <;> decide

theorem Symbol.reach_le (symbol : Symbol) : symbol.reach ≤ 6 := by
  cases symbol <;> decide

namespace Counted

variable {tokens rest : List Token} {state state' : State} {base depth levels position need : Nat}
  {kind : TokenKind} {token : Token} {symbol : Symbol}

/-! ### What a run passes through -/

/-- Between two states the numbers of levels are at least the base and within the limit, and the
second state keeps to the limit if the first one does. -/
structure Passes (base : Nat) (state state' : State) : Prop where
  depths : ∃ depths, state'.depths = depths ++ state.depths ∧
    ∀ depth ∈ depths, base ≤ depth ∧ depth ≤ deepestNesting
  depth_le : state.depth ≤ deepestNesting → state'.depth ≤ deepestNesting

theorem Passes.refl : Passes base state state :=
  ⟨⟨[], rfl, fun _ h => nomatch h⟩, id⟩

theorem Passes.next : Passes base state state.next :=
  ⟨⟨[], rfl, fun _ h => nomatch h⟩, id⟩

theorem Passes.withDepth (hbase : base ≤ depth) (hdepth : depth ≤ deepestNesting) :
    Passes base state (state.withDepth depth) := by
  refine ⟨⟨[depth], rfl, fun d hmem => ?_⟩, fun _ => hdepth⟩
  rw [List.mem_singleton.mp hmem]
  exact ⟨hbase, hdepth⟩

theorem Passes.trans {state'' : State} (h : Passes base state state')
    (h' : Passes base state' state'') : Passes base state state'' := by
  obtain ⟨⟨depths, hdepths, hwithin⟩, hdepth⟩ := h
  obtain ⟨⟨depths', hdepths', hwithin'⟩, hdepth'⟩ := h'
  -- the trace grows in front, so the later numbers stand first
  refine ⟨⟨depths' ++ depths, by rw [hdepths', hdepths, List.append_assoc], ?_⟩,
    fun hle => hdepth' (hdepth hle)⟩
  rw [List.forall_mem_append]
  exact ⟨hwithin', hwithin⟩

/-- The run ends as the grammar does: with the same expression in a good state in front of the same
tokens, or stopped by the same error. -/
inductive Answers (tokens : List Token) (good : State → Prop) :
    Parsed → Except Halt Expr → State → Prop where
  | ok {expr : Expr} {state : State} (h : good state) :
      Answers tokens good (.ok (expr, tokens.drop state.position)) (.ok expr) state
  | error {error : SyntaxError} {state : State} :
      Answers tokens good (.error error) (.error (.syntactic error)) state

/-- From the state the run ends as the grammar does, with any budget of at least `need`, and passes
only through numbers of levels within the bounds. -/
def Follows (tokens : List Token) (base : Nat) (good : State → Prop) (result : Parsed) (need : Nat)
    (run : (budget : Nat) → Run Expr) (state : State) : Prop :=
  ∃ outcome state', (∀ budget, need ≤ budget →
      (run budget).run.run state = some (outcome, state')) ∧
    Passes base state state' ∧ Answers tokens good result outcome state'

namespace Follows

variable {good good' : State → Prop} {result : Parsed} {expr : Expr} {error : SyntaxError}
  {run : (budget : Nat) → Run Expr}

/-- The run ends with a value. -/
theorem pure (h : good state) :
    Follows tokens base good (.ok (expr, tokens.drop state.position)) need
      (fun _ => Pure.pure expr) state :=
  ⟨_, state, fun _ _ => run_pure, .refl, .ok h⟩

theorem throw : Follows tokens base good (.error error) need
    (fun _ => MonadExcept.throw (.syntactic error)) state :=
  ⟨_, state, fun _ _ => run_throw, .refl, .error⟩

/-- One step that cannot fail. -/
theorem step {α : Type} {first : Run α} {next : (budget : Nat) → α → Run Expr} {value : α}
    (hfirst : first.run.run state = some (.ok value, state')) (hpasses : Passes base state state')
    (h : Follows tokens base good result need (fun budget => next budget value) state') :
    Follows tokens base good result need (fun budget => first >>= next budget) state := by
  obtain ⟨outcome, state'', hnext, hpasses', hanswers⟩ := h
  exact ⟨outcome, state'', fun budget hle => (run_bind_of_ok hfirst).trans (hnext budget hle),
    hpasses.trans hpasses', hanswers⟩

/-- One step that fails. -/
theorem stop {α : Type} {first : Run α} {next : (budget : Nat) → α → Run Expr}
    (hfirst : first.run.run state = some (.error (.syntactic error), state)) :
    Follows tokens base good (.error error) need (fun budget => first >>= next budget) state :=
  ⟨_, state, fun _ _ => run_bind_of_error hfirst, .refl, .error⟩

/-- A run and what comes after it, if it ends with a value. -/
theorem bind {next : (budget : Nat) → Expr → Run Expr} {more : Expr × List Token → Parsed}
    (h : Follows tokens base good' result need run state)
    (hnext : ∀ expr state', good' state' →
      Follows tokens base good (more (expr, tokens.drop state'.position)) need
        (fun budget => next budget expr) state') :
    Follows tokens base good (result.bind more) need (fun budget => run budget >>= next budget)
      state := by
  obtain ⟨outcome, state', hrun, hpasses, hanswers⟩ := h
  -- only a run that ends with a value is followed by the next one
  cases hanswers with
  | ok hgood =>
    obtain ⟨outcome, state'', hnext, hpasses', hanswers⟩ := hnext _ state' hgood
    exact ⟨outcome, state'',
      fun budget hle => (run_bind_of_ok (hrun budget hle)).trans (hnext budget hle),
      hpasses.trans hpasses', hanswers⟩
  | error =>
    exact ⟨_, state', fun budget hle => run_bind_of_error (hrun budget hle), hpasses, .error⟩

/-- A run and what ends it. -/
theorem andThen {next : (budget : Nat) → Expr → Run Expr}
    (h : Follows tokens base good' result need run state)
    (hnext : ∀ expr state', good' state' →
      Follows tokens base good (.ok (expr, tokens.drop state'.position)) need
        (fun budget => next budget expr) state') :
    Follows tokens base good result need (fun budget => run budget >>= next budget) state := by
  -- what comes after reads nothing more, which is a step of the grammar that changes nothing
  rw [show result = result.bind .ok by cases result <;> rfl]
  exact h.bind hnext

theorem mono (h : Follows tokens base good' result need run state)
    (hgood : ∀ state', good' state' → good state') :
    Follows tokens base good result need run state := by
  obtain ⟨outcome, state', hrun, hpasses, hanswers⟩ := h
  refine ⟨outcome, state', hrun, hpasses, ?_⟩
  cases hanswers with
  | ok h => exact .ok (hgood _ h)
  | error => exact .error

/-- The run is given another budget. -/
theorem withBudget {need' : Nat} (budgetOf : Nat → Nat)
    (h : Follows tokens base good result need run state)
    (hbudget : ∀ budget, need' ≤ budget → need ≤ budgetOf budget) :
    Follows tokens base good result need' (fun budget => run (budgetOf budget)) state := by
  obtain ⟨outcome, state', hrun, hends⟩ := h
  exact ⟨outcome, state', fun budget hle => hrun _ (hbudget budget hle), hends⟩

/-- What a run does first takes one of its budget. -/
theorem succ (h : Follows tokens base good result need (fun budget => run (budget + 1)) state) :
    Follows tokens base good result (need + 1) run state := by
  obtain ⟨outcome, state', hrun, hends⟩ := h
  refine ⟨outcome, state', fun budget hle => ?_, hends⟩
  -- a budget that is large enough is not zero
  rw [← Nat.sub_add_cancel (Nat.le_trans (Nat.succ_le_succ (Nat.zero_le need)) hle)]
  exact hrun _ (Nat.le_sub_of_add_le hle)

/-- What a run comes to is what the grammar reads. -/
theorem eq_ok (h : Follows tokens base good result need run state) {budget : Nat}
    (hrun : (run budget).run.run state = some (.ok expr, state')) (hbudget : need ≤ budget) :
    result = .ok (expr, tokens.drop state'.position) := by
  obtain ⟨outcome, _, hends, -, hanswers⟩ := h
  cases hrun.symm.trans (hends budget hbudget)
  cases hanswers
  rfl

end Follows

/-! ### Productions -/

/-- A production may start at the position with so many levels taken. -/
structure Ready (tokens : List Token) (base levels position depth : Nat) : Prop where
  depth_add : depth + levels = deepestNesting
  position_le : position ≤ tokens.length
  base_le : base ≤ depth

/-- A production that started at the position with so many levels taken has ended. -/
structure Done (tokens : List Token) (position depth : Nat) (state : State) : Prop where
  depth_eq : state.depth = depth
  position_lt : position < state.position
  position_le : state.position ≤ tokens.length

/-- With some levels left, the production of the symbol follows the grammar, and it needs a budget
of six for each level. -/
def Agrees (tokens : List Token) (levels : Nat) (symbol : Symbol) : Prop :=
  ∀ base state, Ready tokens base levels state.position state.depth →
    Follows tokens base (Done tokens state.position state.depth)
      (symbol.read (finishOf tokens) levels (tokens.drop state.position))
      (6 * levels + symbol.reach) (fun budget => production tokens budget symbol) state

/-- With fewer levels, and a budget of at least `need`, the run follows the production of the
symbol. -/
def FollowsBelow (tokens : List Token) (base levels need : Nat) (symbol : Symbol)
    (run : (budget : Nat) → Run Expr) : Prop :=
  ∀ l < levels, ∀ state, Ready tokens base l state.position state.depth →
    Follows tokens base (Done tokens state.position state.depth)
      (symbol.read (finishOf tokens) l (tokens.drop state.position)) need run state

namespace Ready

theorem depth_le (h : Ready tokens base levels position depth) : depth ≤ deepestNesting := by
  rw [← h.depth_add]
  exact Nat.le_add_right ..

theorem depth_lt (h : Ready tokens base (levels + 1) position depth) : depth < deepestNesting := by
  rw [← h.depth_add]
  exact Nat.lt_add_of_pos_right (Nat.succ_pos levels)

/-- Elsewhere in the tokens. -/
theorem elsewhere {position' : Nat} (h : Ready tokens base levels position depth)
    (hposition : position' ≤ tokens.length) : Ready tokens base levels position' depth :=
  ⟨h.depth_add, hposition, h.base_le⟩

/-- A level can be taken. -/
theorem below (h : Ready tokens base (levels + 1) position depth) :
    Ready tokens base levels position (depth + 1) := by
  refine ⟨?_, h.position_le, Nat.le_succ_of_le h.base_le⟩
  rw [← h.depth_add, Nat.add_right_comm, Nat.add_assoc]

end Ready

/-- A production that is called has at least the budget that it needs. -/
theorem Agrees.follows (h : Agrees tokens levels symbol)
    (hready : Ready tokens base levels state.position state.depth)
    (hneed : 6 * levels + symbol.reach ≤ need) :
    Follows tokens base (Done tokens state.position state.depth)
      (symbol.read (finishOf tokens) levels (tokens.drop state.position)) need
      (fun budget => production tokens budget symbol) state :=
  (h base state hready).withBudget id fun _ hle => Nat.le_trans hneed hle

/-- A level is worth six productions, so each of them may be called below it. -/
theorem followsBelow_production (base : Nat) (h : ∀ l < levels, Agrees tokens l symbol)
    (hneed : 6 * levels ≤ need) : FollowsBelow tokens base levels need symbol fun budget =>
      production tokens budget symbol := by
  intro l hl state hready
  have hreach := symbol.reach_le
  exact (h l hl).follows hready (by omega)

theorem kind_nextToken_ne (hkind : kind ≠ .endOfInput)
    (h : ∀ token ∈ rest.head?, token.kind ≠ kind) (finish : Nat) :
    (nextToken finish rest).kind ≠ kind := by
  cases rest with
  | nil => exact hkind.symm
  | cons token rest => exact h token rfl

section Productions

variable {good : State → Prop} {result : Parsed}

/-- **Below a level.** The next token takes a level, and a production reads what is behind it. -/
theorem follows_below (read : (levels : Nat) → Parsed) {symbol : Symbol}
    {run : (budget : Nat) → Run Expr} {next : (budget : Nat) → Expr → Run Expr}
    {more : (levels : Nat) → Expr × List Token → Parsed}
    (h : Ready tokens base levels state.position state.depth)
    (hrun : FollowsBelow tokens base levels need symbol run)
    (hrest : tokens.drop state.position = token :: rest)
    (hzero : read 0 = .error (.nestingTooDeep token.position))
    (hsucc : ∀ l, read (l + 1) = (symbol.read (finishOf tokens) l rest).bind (more l))
    (hnext : ∀ l expr state', levels = l + 1 →
      Done tokens (state.position + 1) (state.depth + 1) state' →
      Follows tokens base good (more l (expr, tokens.drop state'.position)) need
        (fun budget => next budget expr) state') :
    Follows tokens base good (read levels) need
      (fun budget => descend tokens >>= fun _ => advance tokens >>= fun _ =>
        run budget >>= next budget) state := by
  cases levels with
  | zero =>
    -- all levels are taken, and both fail at the token that would take one more
    rw [hzero]
    have hdeep : deepestNesting ≤ state.depth := Nat.le_of_eq h.depth_add.symm
    refine .stop ?_
    rw [run_descend_of_le hdeep, hrest]
    rfl
  | succ levels =>
    -- one level is taken, one token is passed, and the production has what is left
    rw [hsucc, ← drop_next hrest]
    have hready := h.below.elsewhere (position_lt_of_drop hrest)
    refine .step (run_descend_of_lt h.depth_lt) (.withDepth hready.base_le hready.depth_le) ?_
    refine .step (run_advance hrest) .next ?_
    have hread := hrun levels (Nat.lt_succ_self levels)
      (state.withDepth (state.depth + 1)).next hready
    exact hread.bind fun expr state' => hnext levels expr state' rfl

/-! ### Chains -/

/-- The loop of a chain takes levels and gives none back. -/
structure Further (tokens : List Token) (position depth : Nat) (state : State) : Prop where
  depth_le : depth ≤ state.depth
  position_ge : position ≤ state.position
  position_le : state.position ≤ tokens.length

/-- A round and the rounds after it. -/
theorem Done.further (hdone : Done tokens (position + 1) (depth + 1) state)
    (hfurther : Further tokens state.position state.depth state') :
    Further tokens position depth state' where
  -- the operand gave back what it took, but not the level of its operator
  depth_le := by
    rw [hdone.depth_eq] at hfurther
    exact Nat.le_of_succ_le hfurther.depth_le
  position_ge :=
    calc position
        ≤ position + 1 := Nat.le_succ position
      _ ≤ state.position := Nat.le_of_lt hdone.position_lt
      _ ≤ state'.position := hfurther.position_ge
  position_le := hfurther.position_le

section Chains

variable {operator : TokenKind} {node : Expr → Expr → Expr} {link : Symbol}
  {loop : (levels : Nat) → Expr → List Token → Parsed}

/-- Every round of the loop leaves one level less and takes one of the budget. The operands have a
budget of their own, the same in every round. -/
theorem follows_moreLinks (left : Expr) (budgetOf : Nat → Nat)
    (hloop : ChainLoop operator node (link.read (finishOf tokens)) loop)
    (hoperator : operator ≠ .endOfInput) (hlink : ∀ l < levels, Agrees tokens l link)
    (h : Ready tokens base levels state.position state.depth) (hneed : levels ≤ need)
    (hbudget : ∀ budget, need < budget → 6 * levels ≤ budgetOf budget) :
    Follows tokens base (Further tokens state.position state.depth)
      (loop levels left (tokens.drop state.position)) (need + 1)
      (fun budget => moreLinks tokens (production tokens (budgetOf budget) link) operator node
        budget left) state := by
  -- on the levels, of which every round takes one; the budget of the operands shrinks with them
  induction levels using Nat.strongRecOn generalizing state left budgetOf need with
  | _ levels ih =>
  refine .succ ?_
  simp only [moreLinks]
  refine .step run_current .refl ?_
  rcases starts_or_not operator (tokens.drop state.position) with ⟨position, rest, hrest⟩ | hno
  · rw [hrest]
    simp only [nextToken, if_true]
    -- the operands have six productions for each level that is left to them
    have hright : FollowsBelow tokens base levels need link fun budget =>
        production tokens (budgetOf (budget + 1)) link := by
      intro l hl state' hready
      refine (hlink l hl base state' hready).withBudget (fun b => budgetOf (b + 1)) fun b hle => ?_
      have hlevels := hbudget (b + 1) (Nat.lt_succ_of_le hle)
      have hreach := link.reach_le
      omega
    refine follows_below (fun l => loop l left (⟨operator, position⟩ :: rest)) h hright hrest
      (hloop.zero ..) (fun l => hloop.succ l ..) ?_
    rintro l right state' rfl hdone
    -- the next round starts with a level less and where the operand ended
    obtain ⟨need, rfl⟩ := Nat.exists_eq_add_of_le' (Nat.lt_of_lt_of_le (Nat.succ_pos l) hneed)
    have hready : Ready tokens base l state'.position state'.depth :=
      hdone.depth_eq ▸ h.below.elsewhere hdone.position_le
    have hmore := ih l (Nat.lt_succ_self l) (node left right) (fun b => budgetOf (b + 1))
      (fun l' hl' => hlink l' (Nat.lt_succ_of_lt hl')) hready (Nat.le_of_succ_le_succ hneed)
      fun b hlt => by
        have hlevels := hbudget (b + 1) (Nat.succ_lt_succ hlt)
        omega
    exact hmore.mono fun state'' => hdone.further
  · -- without an operator the chain is at its end
    simp only [if_neg (kind_nextToken_ne hoperator hno _)]
    rw [hloop.stop _ _ _ hno]
    exact .pure ⟨Nat.le_refl _, Nat.le_refl _, h.position_le⟩

theorem agrees_chain (hchain : ChainProduction (finishOf tokens) link symbol operator node loop)
    (hproduction : ∀ budget, production tokens (budget + 1) symbol =
      chain tokens budget (production tokens budget link) operator node)
    (hoperator : operator ≠ .endOfInput) (hreach : symbol.reach = link.reach + 1)
    (hlink : ∀ l ≤ levels, Agrees tokens l link) : Agrees tokens levels symbol := by
  intro base state h
  rw [hreach, hchain.read]
  refine .succ ?_
  simp only [hproduction, chain]
  refine .step run_get .refl ?_
  -- the first operand has all levels, and the loop goes on where it ended
  have hfirst := (hlink levels (Nat.le_refl levels)).follows h (Nat.le_refl _)
  refine hfirst.bind fun left state' hdone => ?_
  have hready : Ready tokens base levels state'.position state'.depth :=
    hdone.depth_eq ▸ h.elsewhere hdone.position_le
  -- the loop has the budget of the operands, which is more than a round for each level
  have hpos : 0 < link.reach := link.reach_pos
  have hmore := follows_moreLinks left id hchain.chainLoop hoperator
    (fun l hl => hlink l (Nat.le_of_lt hl)) hready
    (show levels ≤ 6 * levels + (link.reach - 1) by omega) fun budget hlt => by
      show 6 * levels ≤ budget
      omega
  rw [Nat.add_assoc, Nat.sub_add_cancel hpos] at hmore
  refine hmore.andThen fun expr state'' hfurther => ?_
  -- the levels of the chain are given back all at once
  refine .step run_setDepth (.withDepth h.base_le h.depth_le) ?_
  exact .pure ⟨rfl, Nat.lt_of_lt_of_le hdone.position_lt hfurther.position_ge,
    hfurther.position_le⟩

end Chains

/-! ### The other productions -/

theorem agrees_negation (hc : Agrees tokens levels .comparison)
    (hn : ∀ l < levels, Agrees tokens l .negation) : Agrees tokens levels .negation := by
  intro base state h
  show Follows tokens base _ (LogSieve.negation (finishOf tokens) levels _) (6 * levels + 3 + 1) _ _
  refine .succ ?_
  show Follows tokens base _ _ _ (fun budget => negation tokens _ _) state
  refine .step run_current .refl ?_
  rcases starts_or_not .not (tokens.drop state.position) with ⟨position, rest, hrest⟩ | hno
  · rw [hrest]
    simp only [nextToken, if_true]
    have hoperand := followsBelow_production base hn (show 6 * levels ≤ 6 * levels + 3 by omega)
    refine follows_below (fun l => LogSieve.negation _ l (⟨.not, position⟩ :: rest)) h hoperand
      hrest negation_zero (fun _ => negation_succ) ?_
    intro l operand state' hlevels hdone
    -- the level of the `not` is the last one that is taken
    refine .step (run_release hdone.depth_eq) (.withDepth h.base_le h.depth_le) ?_
    exact .pure ⟨rfl, Nat.lt_of_succ_lt hdone.position_lt, hdone.position_le⟩
  · simp only [if_neg (kind_nextToken_ne TokenKind.noConfusion hno _)]
    rw [negation_eq_comparison hno]
    exact hc.follows h (Nat.le_refl _)

theorem compares_of_comparisonNode?_eq_some {node : Expr → Expr → Expr}
    (h : comparisonNode? kind = some node) : Compares kind node := by
  cases kind <;> cases h
  · exact .equals
  · exact .contains

theorem nextToken_eq_of_mem_head? {finish : Nat} (h : token ∈ rest.head?) :
    nextToken finish rest = token := by
  cases rest with
  | nil => cases h
  | cons token' rest =>
    cases h
    rfl

/-- Where no operator follows, the left operand is the whole. -/
theorem comparedWith_of_comparisonNode?_eq_none {finish : Nat} {left : Expr}
    (h : comparisonNode? (nextToken finish rest).kind = none) :
    comparedWith finish levels left rest = .ok (left, rest) := by
  refine comparedWith_stop fun token htoken => ?_
  rw [nextToken_eq_of_mem_head? htoken] at h
  refine ⟨fun hkind => ?_, fun hkind => ?_⟩
  · rw [hkind] at h
    cases h
  · rw [hkind] at h
    cases h

theorem agrees_comparison (ho : Agrees tokens levels .operand)
    (hr : Agrees tokens levels .rightOperand) : Agrees tokens levels .comparison := by
  intro base state h
  show Follows tokens base _ (LogSieve.comparison (finishOf tokens) levels _) (6 * levels + 2 + 1) _
    _
  rw [comparison_eq]
  refine .succ ?_
  show Follows tokens base _ _ _ (fun budget => comparison tokens _ _) state
  -- the left operand, and then what stands behind it decides
  have hleft := ho.follows h (show 6 * levels + 1 ≤ 6 * levels + 2 from Nat.le_succ _)
  refine hleft.bind fun left state' hdone => ?_
  refine .step run_current .refl ?_
  cases hnode :
    comparisonNode? (nextToken (finishOf tokens) (tokens.drop state'.position)).kind with
  | none =>
    rw [comparedWith_of_comparisonNode?_eq_none hnode]
    exact .pure hdone
  | some node =>
    -- the node is that of an operator, so there is a token to pass, and it is not the end
    have hcompares := compares_of_comparisonNode?_eq_some hnode
    obtain ⟨following, hrest⟩ := exists_eq_cons_of_nextToken rfl fun hend => by
      rw [hend] at hnode
      cases hnode
    rw [hrest, hcompares.comparedWith_eq, ← drop_next hrest]
    refine .step (run_advance hrest) .next ?_
    have hready : Ready tokens base levels state'.next.position state'.next.depth :=
      hdone.depth_eq ▸ h.elsewhere (position_lt_of_drop hrest)
    have hright := hr.follows hready (Nat.le_refl (6 * levels + 2))
    refine hright.bind fun right state'' hdone' => ?_
    exact .pure ⟨hdone'.depth_eq.trans hdone.depth_eq,
      Nat.lt_trans hdone.position_lt (Nat.lt_of_succ_lt hdone'.position_lt), hdone'.position_le⟩

theorem agrees_rightOperand (ho : Agrees tokens levels .operand) :
    Agrees tokens levels .rightOperand := by
  intro base state h
  show Follows tokens base _ (LogSieve.rightOperand (finishOf tokens) levels _)
    (6 * levels + 1 + 1) _ _
  refine .succ ?_
  show Follows tokens base _ _ _ (fun budget => rightOperand tokens _) state
  refine .step run_current .refl ?_
  rcases starts_word_or_not (tokens.drop state.position) with
    ⟨word, position, rest, hrest⟩ | hno
  · -- a bare word is taken as it stands
    rw [hrest, rightOperand_identifier, ← drop_next hrest]
    refine .step (run_advance hrest) .next ?_
    exact .pure ⟨rfl, Nat.lt_succ_self _, position_lt_of_drop hrest⟩
  · rw [rightOperand_eq hno]
    split
    · next word hword =>
      -- the next token would be a word
      obtain ⟨following, hrest⟩ := exists_eq_cons_of_nextToken rfl (by rw [hword]; simp)
      exact absurd hword (hno _ (by rw [hrest]; rfl) word)
    · have hoperand := ho.follows h (Nat.le_refl (6 * levels + 1))
      exact hoperand.bind fun operand state' hdone => .pure hdone

/-- The end of a group gives back the level that its start took. -/
theorem follows_closeGroup {inner : Expr} (h : Ready tokens base levels position depth)
    (hdone : Done tokens (position + 1) (depth + 1) state) :
    Follows tokens base (Done tokens position depth)
      (closeGroup (finishOf tokens) inner (tokens.drop state.position)) need
      (fun _ => expect tokens .closeParen >>= fun _ => release >>= fun _ => Pure.pure inner)
      state := by
  rcases starts_or_not .closeParen (tokens.drop state.position) with ⟨close, rest, hrest⟩ | hno
  · -- the parenthesis is passed and then the level is free again, as it was taken
    rw [hrest, closeGroup, ← drop_next hrest]
    refine .step (run_expect hrest) .next ?_
    refine .step (run_release hdone.depth_eq) (.withDepth h.base_le h.depth_le) ?_
    exact .pure ⟨rfl, Nat.lt_succ_of_lt (Nat.lt_of_succ_lt hdone.position_lt),
      position_lt_of_drop hrest⟩
  · rw [closeGroup_eq_error hno]
    exact .stop (run_expect_of_ne (kind_nextToken_ne TokenKind.noConfusion hno _))

theorem agrees_operand (hd : ∀ l < levels, Agrees tokens l .disjunction) :
    Agrees tokens levels .operand := by
  intro base state h
  show Follows tokens base _ (LogSieve.operand (finishOf tokens) levels _) (6 * levels + 0 + 1) _ _
  refine .succ ?_
  show Follows tokens base _ _ _ (fun budget => operand tokens _) state
  refine .step run_current .refl ?_
  rcases hrest : tokens.drop state.position with _ | ⟨⟨kind, position⟩, rest⟩
  · -- the end of the filter starts no operand
    rw [operand_unexpected (by simp)]
    exact .throw
  -- an operand of one token takes no level
  have hnext : Done tokens state.position state.depth state.next :=
    ⟨rfl, Nat.lt_succ_self _, position_lt_of_drop hrest⟩
  cases kind with
  | openParen =>
    -- the group is read with a level less, and its end gives the level back
    have hinner := followsBelow_production base hd (Nat.le_refl (6 * levels))
    refine follows_below (fun l => LogSieve.operand _ l (⟨.openParen, position⟩ :: rest)) h hinner
      hrest operand_zero (fun _ => operand_succ) ?_
    exact fun l inner state' hlevels hdone => follows_closeGroup h hdone
  | string value =>
    rw [operand_string, ← drop_next hrest]
    refine .step (run_advance hrest) .next ?_
    exact .pure hnext
  | number value =>
    rw [operand_number, ← drop_next hrest]
    refine .step (run_advance hrest) .next ?_
    exact .pure hnext
  | identifier word =>
    by_cases hpath : IsPath word
    · rw [operand_path hpath, ← drop_next hrest]
      simp only [nextToken, parse?_of_isPath hpath]
      refine .step (run_advance hrest) .next ?_
      exact .pure hnext
    · rw [operand_not_path hpath]
      simp only [nextToken, parse?_of_not_isPath hpath]
      exact .throw
  | _ =>
    -- nothing else starts an operand
    rw [operand_unexpected (by simp [TokenKind.StartsOperand])]
    exact .throw

/-- **The run of every production follows the grammar.** -/
theorem agrees (tokens : List Token) (levels : Nat) (symbol : Symbol) :
    Agrees tokens levels symbol := by
  induction levels, symbol using Symbol.induction with
  | operand _ hd => exact agrees_operand hd
  | rightOperand _ ho => exact agrees_rightOperand ho
  | comparison _ ho hr => exact agrees_comparison ho hr
  | negation _ hc hn => exact agrees_negation hc hn
  | conjunction _ hlink =>
    exact agrees_chain (chainProduction_conjunction _) (fun _ => rfl) TokenKind.noConfusion rfl
      hlink
  | disjunction _ hlink =>
    exact agrees_chain (chainProduction_disjunction _) (fun _ => rfl) TokenKind.noConfusion rfl
      hlink

end Productions

/-- From any state within the limit, the productions of the grammar have as many levels as are not
taken. -/
theorem follows_production (tokens : List Token) (symbol : Symbol) (state : State)
    (hdepth : state.depth ≤ deepestNesting) (hposition : state.position ≤ tokens.length) :
    Follows tokens state.depth (Done tokens state.position state.depth)
      (symbol.read (finishOf tokens) (deepestNesting - state.depth) (tokens.drop state.position))
      (6 * (deepestNesting - state.depth) + 6) (fun budget => production tokens budget symbol)
      state :=
  (agrees tokens _ symbol).follows ⟨Nat.add_sub_cancel' hdepth, hposition, Nat.le_refl _⟩
    (Nat.add_le_add_left symbol.reach_le _)

/-- **Every production ends, in balance and further on.** From any state within the limit a run of
the production of a symbol ends, with a budget of six productions for each level that is left and
six more. If it succeeds, as many levels are taken as before, at least one more token is used, and
what is read is what the grammar reads; otherwise the error is the one of the grammar, so no level
is ever given back that was not taken. All the while at least as many levels are taken as before,
and at most 256. -/
theorem production_ends (tokens : List Token) (symbol : Symbol) (state : State)
    (hdepth : state.depth ≤ deepestNesting) (hposition : state.position ≤ tokens.length) :
    ∃ outcome state',
      (∀ budget, 6 * (deepestNesting - state.depth) + 6 ≤ budget →
        (production tokens budget symbol).run.run state = some (outcome, state')) ∧
      state'.depth ≤ deepestNesting ∧
      (∃ depths, state'.depths = depths ++ state.depths ∧
        ∀ depth ∈ depths, state.depth ≤ depth ∧ depth ≤ deepestNesting) ∧
      ((∃ expr, outcome = .ok expr ∧
          symbol.read (finishOf tokens) (deepestNesting - state.depth) (tokens.drop state.position)
            = .ok (expr, tokens.drop state'.position) ∧
          state'.depth = state.depth ∧ state.position < state'.position ∧
          state'.position ≤ tokens.length) ∨
        ∃ error, outcome = .error (.syntactic error) ∧
          symbol.read (finishOf tokens) (deepestNesting - state.depth) (tokens.drop state.position)
            = .error error) := by
  obtain ⟨outcome, state', hrun, ⟨hdepths, hle⟩, hanswers⟩ :=
    follows_production tokens symbol state hdepth hposition
  refine ⟨outcome, state', hrun, hle hdepth, hdepths, ?_⟩
  -- whether there is a value or an error, the grammar has the same
  generalize symbol.read (finishOf tokens) _ _ = result at hanswers
  cases hanswers with
  | ok hdone => exact .inl ⟨_, rfl, rfl, hdone.depth_eq, hdone.position_lt, hdone.position_le⟩
  | error => exact .inr ⟨_, rfl, rfl⟩

/-- At the last level but one a group can still be read, and its level is free again afterwards. -/
theorem production_ends_group : (255 : Nat) ≤ deepestNesting ∧ 0 ≤ 3 ∧ ∃ state',
    (production [⟨.openParen, 0⟩, ⟨.identifier ['a'], 1⟩, ⟨.closeParen, 2⟩] 12 .disjunction).run.run
      ⟨0, 255, []⟩ = some (.ok (.field ⟨[['a']]⟩), state') ∧
    state'.depth = 255 ∧ state'.position = 3 := by
  -- one level is left, and the grammar needs no other
  have hread : Symbol.disjunction.read 2 1
      [⟨.openParen, 0⟩, ⟨.identifier ['a'], 1⟩, ⟨.closeParen, 2⟩]
        = .ok (.field ⟨[['a']]⟩, []) := by cbv
  refine ⟨by decide, by decide, ?_⟩
  obtain ⟨outcome, state', hrun, -, -, ⟨expr, rfl, hok, hdepth, -, hle⟩ | ⟨error, -, herror⟩⟩ :=
    production_ends [⟨.openParen, 0⟩, ⟨.identifier ['a'], 1⟩, ⟨.closeParen, 2⟩] .disjunction
      ⟨0, 255, []⟩ (by decide) (by decide)
  · obtain ⟨rfl, hdrop⟩ := Prod.mk.injEq .. ▸ Except.ok.inj (hread.symm.trans hok)
    have hge : 3 ≤ state'.position := List.drop_eq_nil_iff.mp hdrop.symm
    exact ⟨state', hrun 12 (Nat.le_refl _), hdepth, Nat.le_antisymm hle hge⟩
  · cases hread.symm.trans herror

/-- **The parser with a counter is the parser.** A budget of 1542 is enough for every filter. -/
theorem run_whole (tokens : List Token) : ∃ state', (∀ depth ∈ state'.depths, depth ≤ 256) ∧
    ∀ budget, 1542 ≤ budget → (whole tokens budget).run.run ⟨0, 0, []⟩
      = some ((parse tokens).mapError .syntactic, state') := by
  obtain ⟨outcome, state', hrun, ⟨⟨depths, hdepths, hwithin⟩, -⟩, hanswers⟩ :=
    follows_production tokens .disjunction ⟨0, 0, []⟩ (Nat.zero_le _) (Nat.zero_le _)
  refine ⟨state', fun depth hmem => ?_, fun budget hbudget => ?_⟩
  · rw [hdepths, List.append_nil] at hmem
    exact (hwithin depth hmem).2
  generalize hread : Symbol.read (finishOf tokens) .disjunction _ _ = result at hanswers
  change disjunction (finishOf tokens) deepestNesting tokens = _ at hread
  rw [parse, whole, hread]
  cases hanswers with
  | ok hdone =>
    -- both look at the next token for the end of the filter
    rw [run_bind_of_ok (hrun budget hbudget), run_bind_of_ok run_current]
    simp only
    split
    · rfl
    · rfl
  | error => exact run_bind_of_error (hrun budget hbudget)

end Counted

end LogSieve
