import LogSieve.Proofs.Filter.Recognition

/-!
# The parser with a counter

The productions of the parser as they run: not with the number of levels left as an argument, but
over a state with the number of tokens used and the number of levels taken. A level is taken by
`descend`, and is given back in two ways: a group and a `not` give back theirs (`release`), a chain
goes back to the number that it started with. A run that fails gives nothing back.

Nothing in the state makes the productions end. Each is written with the runs that it calls as
arguments, and `production` ties them together, as deep as a budget allows; the loop of a chain may
go round as often. A run that is out of budget has no result (`none`), and that one ends means that
with some budget, and with every greater one, it has the same result. A run that ends may be stopped
by an error, or because a level is given back although none is taken (`Halt.underflow`).

That every run ends, that no run is stopped so, and that the parser with a counter is the parser is
shown in `LogSieve.Proofs.Filter.Balance`. For this a run keeps a trace of the numbers of levels.
-/

namespace LogSieve

namespace Counted

/-- Where the parser stands. -/
structure State where
  /-- The number of tokens that are used. -/
  position : Nat
  /-- The number of levels that are taken. -/
  depth : Nat
  /-- All numbers of levels that were ever taken, the last one first. -/
  depths : List Nat

/-- What stops a run. -/
inductive Halt where
  /-- The tokens are not an expression. -/
  | syntactic (error : SyntaxError)
  /-- A level is given back although none is taken. -/
  | underflow

/-- A run goes from state to state. It ends with a value or is stopped, or it is out of budget. -/
abbrev Run := ExceptT Halt (StateT State Option)

/-! ### Steps -/

/-- The next token, or the end of the filter. -/
def current (tokens : List Token) : Run Token := do
  let state ← get
  return (tokens[state.position]?).getD ⟨.endOfInput, finishOf tokens⟩

/-- Goes on to the token after the next one. -/
def advance (tokens : List Token) : Run Unit :=
  modify fun state =>
    if state.position < tokens.length then { state with position := state.position + 1 } else state

/-- Changes the number of levels that are taken. -/
def setDepth (depth : Nat) : Run Unit :=
  modify fun state => { state with depth, depths := depth :: state.depths }

/-- Takes a level, if there is one left. -/
def descend (tokens : List Token) : Run Unit := do
  let token ← current tokens
  let state ← get
  if deepestNesting ≤ state.depth then
    throw (.syntactic (.nestingTooDeep token.position))
  else
    setDepth (state.depth + 1)

/-- Gives a level back. -/
def release : Run Unit := do
  let state ← get
  if state.depth = 0 then throw .underflow else setDepth (state.depth - 1)

/-- Goes on behind a token of the kind. -/
def expect (tokens : List Token) (kind : TokenKind) : Run Unit := do
  let token ← current tokens
  if token.kind = kind then
    advance tokens
  else
    throw (.syntactic (.expected kind token.kind token.position))

/-- Nothing more is done. -/
def outOfBudget : Run Expr :=
  fun _ => none

/-! ### Productions -/

/-- The rest of a chain, after `left`. -/
def moreLinks (tokens : List Token) (link : Run Expr) (operator : TokenKind)
    (node : Expr → Expr → Expr) : (budget : Nat) → (left : Expr) → Run Expr
  | 0, _ => outOfBudget
  | budget + 1, left => do
    let token ← current tokens
    if token.kind = operator then
      descend tokens
      advance tokens
      let right ← link
      moreLinks tokens link operator node budget (node left right)
    else
      return left

/-- A chain of what `link` reads. -/
def chain (tokens : List Token) (budget : Nat) (link : Run Expr) (operator : TokenKind)
    (node : Expr → Expr → Expr) : Run Expr := do
  let outer ← get
  let left ← link
  let expr ← moreLinks tokens link operator node budget left
  -- all the levels of the loop at once
  setDepth outer.depth
  return expr

/-- A comparison after any number of `not`. -/
def negation (tokens : List Token) (negation comparison : Run Expr) : Run Expr := do
  let token ← current tokens
  if token.kind = .not then
    descend tokens
    advance tokens
    let operand ← negation
    release
    return .not operand
  else
    comparison

/-- The node of an operator that compares. -/
def comparisonNode? : TokenKind → Option (Expr → Expr → Expr)
  | .equals => some .equals
  | .contains => some .contains
  | _ => none

/-- One operand, or two around `=` or `contains`. -/
def comparison (tokens : List Token) (operand rightOperand : Run Expr) : Run Expr := do
  let left ← operand
  let token ← current tokens
  match comparisonNode? token.kind with
  | some node =>
    -- no level is taken, since comparisons do not chain
    advance tokens
    let right ← rightOperand
    return node left right
  | none => return left

/-- The operand on the right of a comparison. -/
def rightOperand (tokens : List Token) (operand : Run Expr) : Run Expr := do
  let token ← current tokens
  match token.kind with
  | .identifier word =>
    advance tokens
    return .literal (.string word)
  | _ =>
    let operand ← operand
    return operand.asText

/-- A quoted text, a number, a path, or a disjunction in parentheses. -/
def operand (tokens : List Token) (disjunction : Run Expr) : Run Expr := do
  let token ← current tokens
  match token.kind with
  | .openParen =>
    descend tokens
    advance tokens
    let inner ← disjunction
    expect tokens .closeParen
    release
    return inner
  | .string value =>
    advance tokens
    return .literal (.string value)
  | .number value =>
    advance tokens
    return .literal (.number value)
  | .identifier word =>
    match FieldPath.parse? word with
    | some path =>
      advance tokens
      return .field path
    | none => throw (.syntactic (.invalidFieldPath word token.position))
  | _ => throw (.syntactic (.unexpectedToken token.kind token.position))

/-- The production of a symbol. As many productions as the budget says may be under way at once. -/
def production (tokens : List Token) : (budget : Nat) → Symbol → Run Expr
  | 0, _ => outOfBudget
  | budget + 1, .disjunction =>
    chain tokens budget (production tokens budget .conjunction) .or .or
  | budget + 1, .conjunction =>
    chain tokens budget (production tokens budget .negation) .and .and
  | budget + 1, .negation =>
    negation tokens (production tokens budget .negation) (production tokens budget .comparison)
  | budget + 1, .comparison =>
    comparison tokens (production tokens budget .operand) (production tokens budget .rightOperand)
  | budget + 1, .rightOperand => rightOperand tokens (production tokens budget .operand)
  | budget + 1, .operand => operand tokens (production tokens budget .disjunction)

/-- The expression of a sequence of tokens up to the end of the filter. -/
def whole (tokens : List Token) (budget : Nat) : Run Expr := do
  let expr ← production tokens budget .disjunction
  let token ← current tokens
  if token.kind = .endOfInput then
    return expr
  else
    throw (.syntactic (.unexpectedToken token.kind token.position))

/-! ### Steps of a run -/

variable {tokens rest : List Token} {state state' : State} {depth position : Nat}
  {kind : TokenKind} {token : Token}

/-- The state after a change of the number of levels. -/
def State.withDepth (state : State) (depth : Nat) : State :=
  { state with depth, depths := depth :: state.depths }

/-- The state behind the next token. -/
def State.next (state : State) : State :=
  { state with position := state.position + 1 }

theorem State.next_position : state.next.position = state.position + 1 := rfl

section Steps

variable {α β : Type} {run : Run α} {next : α → Run β} {value : α} {halt : Halt}

theorem run_bind_of_ok (h : run.run.run state = some (.ok value, state')) :
    (run >>= next).run.run state = (next value).run.run state' := by
  simp [ExceptT.run_bind, h]

theorem run_bind_of_error (h : run.run.run state = some (.error halt, state')) :
    (run >>= next).run.run state = some (.error halt, state') := by
  simp [ExceptT.run_bind, h]

theorem run_get : (get : Run State).run.run state = some (.ok state, state) := rfl

theorem run_pure : (pure value : Run α).run.run state = some (.ok value, state) := rfl

theorem run_throw : (throw halt : Run α).run.run state = some (.error halt, state) := rfl

theorem run_setDepth : (setDepth depth).run.run state = some (.ok (), state.withDepth depth) := rfl

theorem run_current : (current tokens).run.run state =
    some (.ok (nextToken (finishOf tokens) (tokens.drop state.position)), state) := by
  have hcurrent : (current tokens).run.run state =
      some (.ok ((tokens[state.position]?).getD ⟨.endOfInput, finishOf tokens⟩), state) := rfl
  -- looking at a position is looking at the first of what is left
  rw [hcurrent, ← List.head?_drop]
  cases tokens.drop state.position <;> rfl

theorem position_lt_of_drop (h : tokens.drop state.position = token :: rest) :
    state.position < tokens.length := by
  rw [← List.drop_eq_nil_iff.not.trans Nat.not_le, h]
  exact List.cons_ne_nil _ _

theorem drop_next (h : tokens.drop state.position = token :: rest) :
    tokens.drop state.next.position = rest := by
  rw [State.next_position, ← List.drop_drop, h, List.drop_one, List.tail_cons]

theorem run_advance (h : tokens.drop state.position = token :: rest) :
    (advance tokens).run.run state = some (.ok (), state.next) := by
  -- past the end the parser would stay where it is
  have hadvance : (advance tokens).run.run state = some (.ok (), if state.position < tokens.length
      then state.next else state) := rfl
  rw [hadvance, if_pos (position_lt_of_drop h)]

theorem run_descend_of_le (h : deepestNesting ≤ state.depth) :
    (descend tokens).run.run state = some (.error (.syntactic (.nestingTooDeep
      (nextToken (finishOf tokens) (tokens.drop state.position)).position)), state) := by
  rw [descend, run_bind_of_ok run_current, run_bind_of_ok run_get, if_pos h, run_throw]

theorem run_descend_of_lt (h : state.depth < deepestNesting) :
    (descend tokens).run.run state = some (.ok (), state.withDepth (state.depth + 1)) := by
  rw [descend, run_bind_of_ok run_current, run_bind_of_ok run_get, if_neg (Nat.not_le.mpr h),
    run_setDepth]

theorem run_release (h : state.depth = depth + 1) :
    release.run.run state = some (.ok (), state.withDepth depth) := by
  rw [release, run_bind_of_ok run_get, if_neg (by omega), run_setDepth, h, Nat.add_sub_cancel]

theorem run_expect (h : tokens.drop state.position = ⟨kind, position⟩ :: rest) :
    (expect tokens kind).run.run state = some (.ok (), state.next) := by
  rw [expect, run_bind_of_ok run_current, if_pos (by rw [h]; rfl), run_advance h]

theorem run_expect_of_ne
    (h : (nextToken (finishOf tokens) (tokens.drop state.position)).kind ≠ kind) :
    (expect tokens kind).run.run state = some (.error (.syntactic (.expected kind
      (nextToken (finishOf tokens) (tokens.drop state.position)).kind
      (nextToken (finishOf tokens) (tokens.drop state.position)).position)), state) := by
  rw [expect, run_bind_of_ok run_current, if_neg h, run_throw]

end Steps

end Counted

end LogSieve
