import LogSieve.Filter.Grammar
import Mathlib.Tactic.Push

/-!
# The productions of the grammar, step by step

What each production of the parser does with the next token, as one equation for each case. What
follows a production that may fail is written with `Except.bind`, so that "the whole fails or goes
on" is the same shape everywhere: `bind_eq_ok` takes any of them apart.

The two chains run the same loop with different operators, nodes and operands. `ChainLoop` says
what the loop does; `chainLoop_moreDisjuncts` and `chainLoop_moreConjuncts` say that both are one,
so that what is true of chains is proved once.
-/

namespace LogSieve

variable {finish levels position : Nat} {tokens rest : List Token}

/-- A next token that is not the end of the filter is the first of the tokens. -/
theorem exists_eq_cons_of_nextToken {token : Token} (h : nextToken finish rest = token)
    (hkind : token.kind ≠ .endOfInput) : ∃ following, rest = token :: following := by
  cases rest with
  | nil => exact absurd (congrArg Token.kind h).symm hkind
  | cons token' following => exact ⟨following, by rw [← h]; rfl⟩

/-- A successful sequence has a successful first part. -/
theorem bind_eq_ok {result : Parsed} {next : Expr × List Token → Parsed} {last : Expr × List Token}
    (h : result.bind next = .ok last) : ∃ first, result = .ok first ∧ next first = .ok last := by
  cases result with
  | error error => cases h
  | ok first => exact ⟨first, rfl, h⟩

/-- A sequence fails in its first part or after it. -/
theorem bind_eq_error {result : Parsed} {next : Expr × List Token → Parsed} {error : SyntaxError}
    (h : result.bind next = .error error) :
    result = .error error ∨ ∃ first, result = .ok first ∧ next first = .error error := by
  cases result with
  | error error' => exact .inl h
  | ok first => exact .inr ⟨first, rfl, h⟩

/-! ### Chains -/

/-- The loop of a chain: after `left` it goes on over every operand that the operator announces,
as long as there are levels left. -/
structure ChainLoop (operator : TokenKind) (node : Expr → Expr → Expr)
    (link : (levels : Nat) → List Token → Parsed)
    (loop : (levels : Nat) → Expr → List Token → Parsed) : Prop where
  /-- The chain ends at any other token. -/
  stop : ∀ levels left tokens, (∀ token ∈ tokens.head?, token.kind ≠ operator) →
    loop levels left tokens = .ok (left, tokens)
  /-- Every operator takes a level. -/
  zero : ∀ left position rest,
    loop 0 left (⟨operator, position⟩ :: rest) = .error (.nestingTooDeep position)
  /-- An operand makes a node on top of what is there. -/
  succ : ∀ levels left position rest,
    loop (levels + 1) left (⟨operator, position⟩ :: rest)
      = (link levels rest).bind fun r => loop levels (node left r.1) r.2

theorem disjunction_eq : disjunction finish levels tokens
    = (conjunction finish levels tokens).bind fun r => moreDisjuncts finish levels r.1 r.2 := by
  rw [disjunction]
  cases conjunction finish levels tokens <;> rfl

theorem conjunction_eq : conjunction finish levels tokens
    = (negation finish levels tokens).bind fun r => moreConjuncts finish levels r.1 r.2 := by
  rw [conjunction]
  cases negation finish levels tokens <;> rfl

theorem chainLoop_moreDisjuncts (finish : Nat) :
    ChainLoop .or .or (conjunction finish) (moreDisjuncts finish) where
  stop levels left tokens h := by
    rw [moreDisjuncts.eq_def]
    split
    · -- the equation for any other token has the operator excluded
      exact absurd rfl (h _ rfl)
    · rfl
  zero left position rest := by rw [moreDisjuncts.eq_def]
  succ levels left position rest := by
    rw [moreDisjuncts.eq_def]
    simp only
    cases conjunction finish levels rest <;> rfl

theorem chainLoop_moreConjuncts (finish : Nat) :
    ChainLoop .and .and (negation finish) (moreConjuncts finish) where
  stop levels left tokens h := by
    rw [moreConjuncts.eq_def]
    split
    · exact absurd rfl (h _ rfl)
    · rfl
  zero left position rest := by rw [moreConjuncts.eq_def]
  succ levels left position rest := by
    rw [moreConjuncts.eq_def]
    simp only
    cases negation finish levels rest <;> rfl

/-! ### Negations and comparisons -/

theorem negation_zero :
    negation finish 0 (⟨.not, position⟩ :: rest) = .error (.nestingTooDeep position) := by
  rw [negation.eq_def]

theorem negation_succ : negation finish (levels + 1) (⟨.not, position⟩ :: rest)
    = (negation finish levels rest).bind fun r => .ok (.not r.1, r.2) := by
  rw [negation.eq_def]
  simp only
  cases negation finish levels rest <;> rfl

theorem negation_eq_comparison (h : ∀ token ∈ tokens.head?, token.kind ≠ .not) :
    negation finish levels tokens = comparison finish levels tokens := by
  rw [negation.eq_def]
  split
  · exact absurd rfl (h _ rfl)
  · rfl

/-- What a comparison does after its left operand. -/
def comparedWith (finish levels : Nat) (left : Expr) : List Token → Parsed
  | ⟨.equals, _⟩ :: rest =>
    (rightOperand finish levels rest).bind fun r => .ok (.equals left r.1, r.2)
  | ⟨.contains, _⟩ :: rest =>
    (rightOperand finish levels rest).bind fun r => .ok (.contains left r.1, r.2)
  | tokens => .ok (left, tokens)

theorem comparedWith_stop {left : Expr}
    (h : ∀ token ∈ tokens.head?, token.kind ≠ .equals ∧ token.kind ≠ .contains) :
    comparedWith finish levels left tokens = .ok (left, tokens) := by
  rw [comparedWith.eq_def]
  split
  · exact absurd rfl (h _ rfl).1
  · exact absurd rfl (h _ rfl).2
  · rfl

theorem comparedWith_eq_ok {left expr : Expr}
    (h : comparedWith finish levels left tokens = .ok (expr, rest)) :
    (∃ position following right, tokens = ⟨.equals, position⟩ :: following ∧
        rightOperand finish levels following = .ok (right, rest) ∧ expr = .equals left right) ∨
      (∃ position following right, tokens = ⟨.contains, position⟩ :: following ∧
        rightOperand finish levels following = .ok (right, rest) ∧ expr = .contains left right) ∨
      expr = left ∧ tokens = rest := by
  rw [comparedWith.eq_def] at h
  split at h
  · obtain ⟨⟨right, rest'⟩, hright, h'⟩ := bind_eq_ok h
    cases h'
    exact .inl ⟨_, _, right, rfl, hright, rfl⟩
  · obtain ⟨⟨right, rest'⟩, hright, h'⟩ := bind_eq_ok h
    cases h'
    exact .inr (.inl ⟨_, _, right, rfl, hright, rfl⟩)
  · cases h
    exact .inr (.inr ⟨rfl, rfl⟩)

/-- The kinds of the operators that compare, with the nodes that they make. -/
inductive Compares : TokenKind → (Expr → Expr → Expr) → Prop where
  | equals : Compares .equals .equals
  | contains : Compares .contains .contains

/-- Both comparisons go on with a right operand. -/
theorem Compares.comparedWith_eq {kind : TokenKind} {node : Expr → Expr → Expr} {left : Expr}
    (h : Compares kind node) :
    comparedWith finish levels left (⟨kind, position⟩ :: rest)
      = (rightOperand finish levels rest).bind fun r => .ok (node left r.1, r.2) := by
  cases h with
  | equals => rfl
  | contains => rfl

/-- After a left operand only the right one can fail. -/
theorem comparedWith_eq_error {left : Expr} {error : SyntaxError}
    (h : comparedWith finish levels left tokens = .error error) :
    ∃ kind node position following, Compares kind node ∧ tokens = ⟨kind, position⟩ :: following ∧
      rightOperand finish levels following = .error error := by
  rw [comparedWith.eq_def] at h
  split at h
  · refine ⟨_, _, _, _, .equals, rfl, (bind_eq_error h).resolve_right ?_⟩
    rintro ⟨first, -, hnext⟩
    cases hnext
  · refine ⟨_, _, _, _, .contains, rfl, (bind_eq_error h).resolve_right ?_⟩
    rintro ⟨first, -, hnext⟩
    cases hnext
  · cases h

theorem comparison_eq : comparison finish levels tokens
    = (operand finish levels tokens).bind fun r => comparedWith finish levels r.1 r.2 := by
  rw [comparison]
  cases operand finish levels tokens with
  | error error => rfl
  | ok r =>
    obtain ⟨left, rest⟩ := r
    simp only [Except.bind]
    -- the parser looks at the next token for itself, and `comparedWith` names what it does then
    split
    · rw [comparedWith]
      cases rightOperand finish levels _ <;> rfl
    · rw [comparedWith]
      cases rightOperand finish levels _ <;> rfl
    · rw [comparedWith]
      · assumption
      · assumption

/-! ### Operands -/

theorem rightOperand_identifier {word : Text} :
    rightOperand finish levels (⟨.identifier word, position⟩ :: rest)
      = .ok (.literal (.string word), rest) := by
  rw [rightOperand.eq_def]

theorem rightOperand_eq (h : ∀ token ∈ tokens.head?, ∀ word, token.kind ≠ .identifier word) :
    rightOperand finish levels tokens
      = (operand finish levels tokens).bind fun r => .ok (r.1.asText, r.2) := by
  rw [rightOperand.eq_def]
  split
  · exact absurd rfl (h _ rfl _)
  · cases operand finish levels tokens <;> rfl

/-- What a group does after the expression inside. -/
def closeGroup (finish : Nat) (inner : Expr) : List Token → Parsed
  | ⟨.closeParen, _⟩ :: rest => .ok (inner, rest)
  | tokens => .error (.expected .closeParen (nextToken finish tokens).kind
      (nextToken finish tokens).position)

theorem closeGroup_eq_ok {inner expr : Expr}
    (h : closeGroup finish inner tokens = .ok (expr, rest)) :
    expr = inner ∧ ∃ position, tokens = ⟨.closeParen, position⟩ :: rest := by
  rw [closeGroup.eq_def] at h
  split at h
  · cases h
    exact ⟨rfl, _, rfl⟩
  · cases h

theorem closeGroup_eq_error {inner : Expr} (h : ∀ token ∈ tokens.head?, token.kind ≠ .closeParen) :
    closeGroup finish inner tokens = .error (.expected .closeParen (nextToken finish tokens).kind
      (nextToken finish tokens).position) := by
  rw [closeGroup.eq_def]
  split
  · exact absurd rfl (h _ rfl)
  · rfl

theorem operand_zero :
    operand finish 0 (⟨.openParen, position⟩ :: rest) = .error (.nestingTooDeep position) := by
  rw [operand.eq_def]

theorem operand_succ : operand finish (levels + 1) (⟨.openParen, position⟩ :: rest)
    = (disjunction finish levels rest).bind fun r => closeGroup finish r.1 r.2 := by
  rw [operand.eq_def]
  simp only
  cases disjunction finish levels rest with
  | error error => rfl
  | ok r =>
    obtain ⟨inner, rest⟩ := r
    simp only [Except.bind]
    -- the parenthesis that closes, or anything else
    split
    · rw [closeGroup]
    · rw [closeGroup]
      assumption

theorem operand_string {value : Text} : operand finish levels (⟨.string value, position⟩ :: rest)
    = .ok (.literal (.string value), rest) := by
  rw [operand.eq_def]

theorem operand_number {value : Nat} : operand finish levels (⟨.number value, position⟩ :: rest)
    = .ok (.literal (.number value), rest) := by
  rw [operand.eq_def]

/-- No segment of the word is empty when it is split at its dots. -/
def IsPath (word : Text) : Prop := ∀ segment ∈ word.splitOn '.', segment ≠ []

theorem parse?_of_isPath {word : Text} (h : IsPath word) :
    FieldPath.parse? word = some ⟨word.splitOn '.'⟩ := by
  -- the test for an empty segment fails
  refine if_neg ?_
  rw [List.any_eq_true]
  rintro ⟨segment, hmem, hempty⟩
  exact h segment hmem (List.isEmpty_iff.mp hempty)

theorem parse?_of_not_isPath {word : Text} (h : ¬ IsPath word) :
    FieldPath.parse? word = none := by
  unfold IsPath at h
  push Not at h
  obtain ⟨segment, hmem, rfl⟩ := h
  exact if_pos (List.any_eq_true.mpr ⟨[], hmem, rfl⟩)

/-- A path is written as the word that it was read from. -/
theorem text_splitOn (word : Text) : FieldPath.text ⟨word.splitOn '.'⟩ = word :=
  List.intercalate_splitOn '.'

theorem operand_path {word : Text} (h : IsPath word) :
    operand finish levels (⟨.identifier word, position⟩ :: rest)
      = .ok (.field ⟨word.splitOn '.'⟩, rest) := by
  rw [operand.eq_def]
  simp only [parse?_of_isPath h]

theorem operand_not_path {word : Text} (h : ¬ IsPath word) :
    operand finish levels (⟨.identifier word, position⟩ :: rest)
      = .error (.invalidFieldPath word position) := by
  rw [operand.eq_def]
  simp only [parse?_of_not_isPath h]

/-- The kinds with which an operand starts. -/
def TokenKind.StartsOperand : TokenKind → Prop
  | identifier _ | string _ | number _ | openParen => True
  | equals | contains | and | or | not | closeParen | endOfInput => False

theorem operand_unexpected (h : ∀ token ∈ tokens.head?, ¬ token.kind.StartsOperand) :
    operand finish levels tokens = .error (unexpected finish tokens) := by
  rw [operand.eq_def]
  -- the first four kinds are those with which an operand starts
  split
  · exact absurd trivial (h _ rfl)
  · exact absurd trivial (h _ rfl)
  · exact absurd trivial (h _ rfl)
  · exact absurd trivial (h _ rfl)
  · rfl

end LogSieve
