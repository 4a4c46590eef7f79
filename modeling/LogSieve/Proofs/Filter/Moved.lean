import LogSieve.Proofs.Filter.Viable

/-!
# Tokens at other positions

The parser passes positions on and does not look at them. If every token is moved by one map `f` of
positions, the same expression is read, and an error is the same one at the moved position
(`parse_map_move`). So tokens of the same kinds are read alike wherever they stand: either they have
the same expression, or the same error about the tokens with the same number of tokens before them
(`sameOutcome_of_kinds_eq`).

The proof goes production by production. `move_bind` says that it is enough to move what the parts
of a production read, and every other case is that of a single token.
-/

namespace LogSieve

variable {f : Nat → Nat} {finish levels : Nat} {symbol : Symbol} {tokens : List Token}

/-- The token at another position. -/
def Token.move (f : Nat → Nat) (token : Token) : Token :=
  ⟨token.kind, f token.position⟩

/-- The error at another position. -/
def SyntaxError.move (f : Nat → Nat) : SyntaxError → SyntaxError
  | unexpectedToken found position => unexpectedToken found (f position)
  | expected wanted found position => expected wanted found (f position)
  | invalidFieldPath path position => invalidFieldPath path (f position)
  | nestingTooDeep position => nestingTooDeep (f position)

/-- What is read of tokens at other positions. -/
def moveParsed (f : Nat → Nat) : Parsed → Parsed
  | .error error => .error (error.move f)
  | .ok (expr, rest) => .ok (expr, rest.map (·.move f))

/-! ### One token -/

theorem nextToken_map_move : nextToken (f finish) (tokens.map (·.move f)) =
    (nextToken finish tokens).move f := by
  cases tokens with
  | nil => rfl
  | cons token tokens => rfl

theorem unexpected_map_move : unexpected (f finish) (tokens.map (·.move f)) =
    (unexpected finish tokens).move f := by
  rw [unexpected, unexpected, nextToken_map_move]
  rfl

/-- The kind of the first token stays. -/
theorem forall_head?_map_move (p : TokenKind → Prop) (h : ∀ token ∈ tokens.head?, p token.kind) :
    ∀ token ∈ (tokens.map (·.move f)).head?, p token.kind := by
  intro token htoken
  rw [List.head?_map] at htoken
  obtain ⟨original, horiginal, rfl⟩ := Option.map_eq_some_iff.mp htoken
  exact h original horiginal

/-! ### One production after another -/

/-- If the parts of a production move, it moves. -/
theorem move_bind {result result' : Parsed} {next next' : Expr × List Token → Parsed}
    (hresult : result' = moveParsed f result)
    (hnext : ∀ expr rest, next' (expr, rest.map (·.move f)) = moveParsed f (next (expr, rest))) :
    result'.bind next' = moveParsed f (result.bind next) := by
  rw [hresult]
  -- an error ends both, and otherwise the second parts get tokens that are moved already
  cases result with
  | error error => rfl
  | ok first => exact hnext first.1 first.2

/-- The production of a symbol moves with its tokens. -/
def Moves (f : Nat → Nat) (finish levels : Nat) (symbol : Symbol) : Prop :=
  ∀ tokens, symbol.read (f finish) levels (tokens.map (·.move f)) =
    moveParsed f (symbol.read finish levels tokens)

section Chains

variable {operator : TokenKind} {node : Expr → Expr → Expr}
  {loop loop' : (levels : Nat) → Expr → List Token → Parsed}

theorem ChainLoop.moves (hloop : ChainLoop operator node (symbol.read finish) loop)
    (hloop' : ChainLoop operator node (symbol.read (f finish)) loop')
    (hlink : ∀ l < levels, Moves f finish l symbol) (left : Expr) (tokens : List Token) :
    loop' levels left (tokens.map (·.move f)) = moveParsed f (loop levels left tokens) := by
  induction levels generalizing left tokens with
  | zero =>
    -- whether there is an operator is seen in the kind of the first token, which stays
    rcases starts_or_not operator tokens with ⟨position, rest, rfl⟩ | hstop
    · rw [hloop.zero]
      exact hloop'.zero _ _ _
    · rw [hloop.stop _ _ _ hstop, hloop'.stop _ _ _ (forall_head?_map_move (· ≠ operator) hstop)]
      rfl
  | succ levels ih =>
    rcases starts_or_not operator tokens with ⟨position, rest, rfl⟩ | hstop
    · rw [hloop.succ]
      refine (hloop'.succ _ _ _ _).trans (move_bind (hlink levels (Nat.lt_succ_self _) rest) ?_)
      exact fun right rest => ih (fun l hl => hlink l (Nat.lt_succ_of_lt hl)) (node left right) rest
    · rw [hloop.stop _ _ _ hstop, hloop'.stop _ _ _ (forall_head?_map_move (· ≠ operator) hstop)]
      rfl

theorem ChainProduction.moves {chain : Symbol}
    (hchain : ChainProduction finish symbol chain operator node loop)
    (hchain' : ChainProduction (f finish) symbol chain operator node loop')
    (hlink : ∀ l ≤ levels, Moves f finish l symbol) : Moves f finish levels chain := by
  intro tokens
  rw [hchain.read, hchain'.read]
  refine move_bind (hlink levels (Nat.le_refl _) tokens) fun left rest => ?_
  exact hchain.chainLoop.moves hchain'.chainLoop (fun l hl => hlink l (Nat.le_of_lt hl)) left rest

end Chains

theorem closeGroup_map_move (inner : Expr) (tokens : List Token) :
    closeGroup (f finish) inner (tokens.map (·.move f)) =
      moveParsed f (closeGroup finish inner tokens) := by
  rcases starts_or_not .closeParen tokens with ⟨position, rest, rfl⟩ | hno
  · rfl
  · rw [closeGroup_eq_error hno, closeGroup_eq_error (forall_head?_map_move (· ≠ .closeParen) hno),
      nextToken_map_move]
    rfl

theorem moves_operand (hd : ∀ l < levels, Moves f finish l .disjunction) :
    Moves f finish levels .operand := by
  intro tokens
  change operand (f finish) levels _ = moveParsed f (operand finish levels tokens)
  rcases starts_of_or_not (·.StartsOperand) tokens with
    ⟨kind, position, rest, hstart, rfl⟩ | hno
  case inr =>
    have hmoved := forall_head?_map_move (f := f) (¬ ·.StartsOperand) hno
    rw [operand_unexpected hno, operand_unexpected hmoved, unexpected_map_move]
    rfl
  -- each kind is read in one way, whatever position and rest are
  cases kind with
  | openParen =>
    cases levels with
    | zero =>
      rw [operand_zero]
      exact operand_zero
    | succ levels =>
      rw [operand_succ]
      exact operand_succ.trans (move_bind (hd levels (Nat.lt_succ_self _) rest) closeGroup_map_move)
  | string value =>
    rw [operand_string]
    exact operand_string
  | number value =>
    rw [operand_number]
    exact operand_number
  | identifier word =>
    by_cases hpath : IsPath word
    · rw [operand_path hpath]
      exact operand_path hpath
    · rw [operand_not_path hpath]
      exact operand_not_path hpath
  | _ => exact absurd hstart id

theorem moves_rightOperand (ho : Moves f finish levels .operand) :
    Moves f finish levels .rightOperand := by
  intro tokens
  change rightOperand (f finish) levels _ = moveParsed f (rightOperand finish levels tokens)
  rcases starts_word_or_not tokens with ⟨word, position, rest, rfl⟩ | hno
  · rw [rightOperand_identifier]
    exact rightOperand_identifier
  · rw [rightOperand_eq hno,
      rightOperand_eq (forall_head?_map_move (∀ word, · ≠ .identifier word) hno)]
    exact move_bind (ho tokens) fun right rest => rfl

theorem moves_comparison (ho : Moves f finish levels .operand)
    (hr : Moves f finish levels .rightOperand) : Moves f finish levels .comparison := by
  intro tokens
  change comparison (f finish) levels _ = moveParsed f (comparison finish levels tokens)
  rw [comparison_eq, comparison_eq]
  refine move_bind (ho tokens) fun left rest => ?_
  rcases starts_or_not .equals rest with ⟨position, rest, rfl⟩ | hequals
  · exact move_bind (hr rest) fun right rest => rfl
  rcases starts_or_not .contains rest with ⟨position, rest, rfl⟩ | hcontains
  · exact move_bind (hr rest) fun right rest => rfl
  have hno : ∀ token ∈ rest.head?, token.kind ≠ .equals ∧ token.kind ≠ .contains :=
    fun token htoken => ⟨hequals token htoken, hcontains token htoken⟩
  exact (comparedWith_stop (forall_head?_map_move (fun kind => kind ≠ .equals ∧ kind ≠ .contains)
    hno)).trans (congrArg (moveParsed f) (comparedWith_stop hno).symm)

theorem moves_negation (hc : Moves f finish levels .comparison)
    (hn : ∀ l < levels, Moves f finish l .negation) : Moves f finish levels .negation := by
  intro tokens
  change negation (f finish) levels _ = moveParsed f (negation finish levels tokens)
  rcases starts_or_not .not tokens with ⟨position, rest, rfl⟩ | hno
  · cases levels with
    | zero =>
      rw [negation_zero]
      exact negation_zero
    | succ levels =>
      rw [negation_succ]
      refine negation_succ.trans (move_bind (hn levels (Nat.lt_succ_self _) rest) ?_)
      exact fun operand rest => rfl
  · rw [negation_eq_comparison hno, negation_eq_comparison (forall_head?_map_move (· ≠ .not) hno)]
    exact hc tokens

/-- **Every production moves with its tokens.** -/
theorem moves (f : Nat → Nat) (finish levels : Nat) (symbol : Symbol) :
    Moves f finish levels symbol := by
  induction levels, symbol using Symbol.induction with
  | operand _ hd => exact moves_operand hd
  | rightOperand _ ho => exact moves_rightOperand ho
  | comparison _ ho hr => exact moves_comparison ho hr
  | negation _ hc hn => exact moves_negation hc hn
  | conjunction _ hlink =>
    exact (chainProduction_conjunction finish).moves (chainProduction_conjunction (f finish)) hlink
  | disjunction _ hlink =>
    exact (chainProduction_disjunction finish).moves (chainProduction_disjunction (f finish)) hlink

/-! ### Whole filters -/

theorem wholeFilter_map_move : wholeFilter (f finish) (tokens.map (·.move f)) =
    moveParsed f (wholeFilter finish tokens) := by
  refine move_bind (moves f finish 256 .disjunction tokens) fun expr rest => ?_
  simp only [endOfFilter, nextToken_map_move, unexpected_map_move]
  change (if (nextToken finish rest).kind = .endOfInput then _ else _) = _
  split
  · rfl
  · rfl

theorem finishOf_map_move (hne : tokens ≠ []) :
    finishOf (tokens.map (·.move f)) = f (finishOf tokens) := by
  -- without tokens the end would be at zero, moved or not
  rw [finishOf, finishOf, List.getLast?_map, List.getLast?_eq_some_getLast hne]
  rfl

/-- **Positions are passed on and not looked at.** -/
theorem parse_map_move (f : Nat → Nat) (hne : tokens ≠ []) :
    parse (tokens.map (·.move f)) = (parse tokens).mapError (·.move f) := by
  rw [parse_eq, parse_eq, finishOf_map_move hne, wholeFilter_map_move]
  cases wholeFilter (finishOf tokens) tokens <;> rfl

/-! ### Tokens of the same kinds -/

/-- Two outcomes for two sequences of tokens are the same: the same expression, or the same error at
tokens that stand at the same place of the sequences. -/
inductive SameOutcome (tokens tokens' : List Token) :
    Except SyntaxError Expr → Except SyntaxError Expr → Prop where
  | ok (expr : Expr) : SameOutcome tokens tokens' (.ok expr) (.ok expr)
  | error {index : Nat} {token token' : Token} {error : SyntaxError}
      (htoken : tokens[index]? = some token) (htoken' : tokens'[index]? = some token')
      (hposition : error.position = token.position) :
      SameOutcome tokens tokens' (.error error) (.error (error.move fun _ => token'.position))

theorem SyntaxError.position_move (error : SyntaxError) :
    (error.move f).position = f error.position := by
  cases error <;> rfl

theorem SyntaxError.move_congr {error : SyntaxError} {g : Nat → Nat}
    (h : f error.position = g error.position) : error.move f = error.move g := by
  cases error <;> exact congrArg _ h

theorem SyntaxError.move_move (error : SyntaxError) (g : Nat → Nat) :
    (error.move f).move g = error.move (g ∘ f) := by
  cases error <;> rfl

/-- Tokens of the given kinds, each at the number of tokens before it. -/
def numbered (kinds : List TokenKind) : List Token :=
  kinds.mapIdx fun index kind => ⟨kind, index⟩

/-- The position of the token with a number. -/
def positionOf (tokens : List Token) (index : Nat) : Nat :=
  (tokens[index]?.map (·.position)).getD 0

theorem positionOf_eq {token : Token} {index : Nat} (h : tokens[index]? = some token) :
    positionOf tokens index = token.position := by
  rw [positionOf, h]
  rfl

/-- All tokens are numbered tokens at other positions. -/
theorem numbered_map_move (tokens : List Token) :
    (numbered (tokens.map (·.kind))).map (·.move (positionOf tokens)) = tokens := by
  -- token by token: the number of each is its index
  refine List.ext_getElem? fun index => ?_
  rw [numbered, List.getElem?_map, List.getElem?_mapIdx, List.getElem?_map]
  cases htoken : tokens[index]? with
  | none => rfl
  | some token =>
    simp only [Option.map_some, Token.move, positionOf_eq htoken]

/-- An error in numbered tokens is about one of them, if they say where the filter ends. -/
theorem position_lt_of_numbered {kinds : List TokenKind} {error : SyntaxError}
    (hend : TokenKind.endOfInput ∈ kinds) (h : parse (numbered kinds) = .error error) :
    error.position < kinds.length := by
  obtain ⟨index, hindex, hkind⟩ := List.getElem_of_mem hend
  have hmem : ⟨.endOfInput, index⟩ ∈ numbered kinds := by
    rw [numbered, List.mem_mapIdx]
    exact ⟨index, hindex, by rw [hkind]⟩
  -- the error stands at a token that comes no later than the end
  obtain ⟨before, token, after, hcut, -, hposition, -⟩ :=
    (blamed_of_parse_eq_error h).2 ⟨_, hmem, rfl⟩
  have htoken : token ∈ numbered kinds := by
    rw [hcut]
    exact List.mem_append_right _ List.mem_cons_self
  rw [numbered, List.mem_mapIdx] at htoken
  obtain ⟨index', hindex', rfl⟩ := htoken
  rw [hposition]
  exact hindex'

/-- **Tokens of the same kinds are read alike**, if they say where the filter ends. -/
theorem sameOutcome_of_kinds_eq {tokens tokens' : List Token}
    (hkinds : tokens.map (·.kind) = tokens'.map (·.kind))
    (hend : TokenKind.endOfInput ∈ tokens.map (·.kind)) :
    SameOutcome tokens tokens' (parse tokens) (parse tokens') := by
  have hlength : tokens.length = tokens'.length := by
    simpa only [List.length_map] using congrArg List.length hkinds
  have hne : numbered (tokens.map (·.kind)) ≠ [] := by
    rw [numbered, List.mapIdx_ne_nil_iff]
    exact List.ne_nil_of_mem hend
  -- both are the numbered tokens of the kinds, moved to their own positions
  have hparse := parse_map_move (positionOf tokens) hne
  have hparse' := parse_map_move (positionOf tokens') hne
  rw [numbered_map_move] at hparse
  rw [hkinds, numbered_map_move] at hparse'
  rw [hparse, hparse', ← hkinds]
  cases hread : parse (numbered (tokens.map (·.kind))) with
  | ok expr => exact .ok expr
  | error error =>
    have hlt : error.position < tokens.length := by
      simpa only [List.length_map] using position_lt_of_numbered hend hread
    obtain ⟨token, htoken⟩ : ∃ token, tokens[error.position]? = some token :=
      ⟨_, List.getElem?_eq_getElem hlt⟩
    obtain ⟨token', htoken'⟩ : ∃ token', tokens'[error.position]? = some token' :=
      ⟨_, List.getElem?_eq_getElem (hlength ▸ hlt)⟩
    -- the second error is the first one at the position of the other token
    have herror : error.move (positionOf tokens') =
        (error.move (positionOf tokens)).move fun _ => token'.position := by
      rw [SyntaxError.move_move]
      exact SyntaxError.move_congr (positionOf_eq htoken')
    simp only [Except.mapError, herror]
    exact .error htoken htoken' (by rw [SyntaxError.position_move, positionOf_eq htoken])

end LogSieve
