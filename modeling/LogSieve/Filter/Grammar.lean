import LogSieve.Filter.Error
import LogSieve.Filter.Expr

/-!
# The expression of a sequence of tokens

The grammar, from the loosest operator to the tightest:

* a disjunction is a chain of conjunctions, a conjunction a chain of negations, and both nest to
  the left;
* a negation is a comparison after any number of `not`;
* a comparison is an operand, or two around `=` or `contains`; it does not chain;
* an operand is a quoted text, a number, a path, or a disjunction in parentheses.

On the right of a comparison a word stands for its own text, also inside parentheses.

Every parenthesis, every `not` and every operator of a chain after its first operand takes one of
the levels that are left, and gives it back at the end of the group, of the operand, or of the
chain. Nothing else lets the productions call each other without end, so the number of levels left
is what they recurse on, and the length of the token list plays no part in it.
-/

namespace LogSieve

/-- An expression and the tokens after it. -/
abbrev Parsed := Except SyntaxError (Expr × List Token)

/-- The next token; after the last one, the end of the filter at position `finish`. -/
def nextToken (finish : Nat) : List Token → Token
  | [] => ⟨.endOfInput, finish⟩
  | token :: _ => token

/-- The error for a token that nothing can start or go on with. -/
def unexpected (finish : Nat) (tokens : List Token) : SyntaxError :=
  .unexpectedToken (nextToken finish tokens).kind (nextToken finish tokens).position

mutual

/-- A chain of conjunctions. -/
def disjunction (finish levels : Nat) (tokens : List Token) : Parsed :=
  match conjunction finish levels tokens with
  | .error error => .error error
  | .ok (left, rest) => moreDisjuncts finish levels left rest
termination_by (levels, 5)

/-- The rest of a chain of conjunctions, after `left`. -/
def moreDisjuncts (finish levels : Nat) (left : Expr) (tokens : List Token) : Parsed :=
  match tokens with
  | ⟨.or, position⟩ :: rest =>
    match levels with
    | 0 => .error (.nestingTooDeep position)
    | levels + 1 =>
      match conjunction finish levels rest with
      | .error error => .error error
      | .ok (right, rest) => moreDisjuncts finish levels (.or left right) rest
  | _ => .ok (left, tokens)
termination_by (levels, 0)

/-- A chain of negations. -/
def conjunction (finish levels : Nat) (tokens : List Token) : Parsed :=
  match negation finish levels tokens with
  | .error error => .error error
  | .ok (left, rest) => moreConjuncts finish levels left rest
termination_by (levels, 4)

/-- The rest of a chain of negations, after `left`. -/
def moreConjuncts (finish levels : Nat) (left : Expr) (tokens : List Token) : Parsed :=
  match tokens with
  | ⟨.and, position⟩ :: rest =>
    match levels with
    | 0 => .error (.nestingTooDeep position)
    | levels + 1 =>
      match negation finish levels rest with
      | .error error => .error error
      | .ok (right, rest) => moreConjuncts finish levels (.and left right) rest
  | _ => .ok (left, tokens)
termination_by (levels, 0)

/-- A comparison after any number of `not`. -/
def negation (finish levels : Nat) (tokens : List Token) : Parsed :=
  match tokens with
  | ⟨.not, position⟩ :: rest =>
    match levels with
    | 0 => .error (.nestingTooDeep position)
    | levels + 1 =>
      match negation finish levels rest with
      | .error error => .error error
      | .ok (operand, rest) => .ok (.not operand, rest)
  | _ => comparison finish levels tokens
termination_by (levels, 3)

/-- One operand, or two around `=` or `contains`. -/
def comparison (finish levels : Nat) (tokens : List Token) : Parsed :=
  match operand finish levels tokens with
  | .error error => .error error
  | .ok (left, rest) =>
    match rest with
    | ⟨.equals, _⟩ :: rest =>
      match rightOperand finish levels rest with
      | .error error => .error error
      | .ok (right, rest) => .ok (.equals left right, rest)
    | ⟨.contains, _⟩ :: rest =>
      match rightOperand finish levels rest with
      | .error error => .error error
      | .ok (right, rest) => .ok (.contains left right, rest)
    | _ => .ok (left, rest)
termination_by (levels, 2)

/-- The operand on the right of a comparison. A word is a text there and may hold any dots. -/
def rightOperand (finish levels : Nat) (tokens : List Token) : Parsed :=
  match tokens with
  | ⟨.identifier word, _⟩ :: rest => .ok (.literal (.string word), rest)
  | _ =>
    match operand finish levels tokens with
    | .error error => .error error
    | .ok (operand, rest) => .ok (operand.asText, rest)
termination_by (levels, 1)

/-- A quoted text, a number, a path, or a disjunction in parentheses. -/
def operand (finish levels : Nat) (tokens : List Token) : Parsed :=
  match tokens with
  | ⟨.openParen, position⟩ :: rest =>
    match levels with
    | 0 => .error (.nestingTooDeep position)
    | levels + 1 =>
      match disjunction finish levels rest with
      | .error error => .error error
      | .ok (inner, rest) =>
        match rest with
        | ⟨.closeParen, _⟩ :: rest => .ok (inner, rest)
        | _ =>
          let found := nextToken finish rest
          .error (.expected .closeParen found.kind found.position)
  | ⟨.string value, _⟩ :: rest => .ok (.literal (.string value), rest)
  | ⟨.number value, _⟩ :: rest => .ok (.literal (.number value), rest)
  | ⟨.identifier word, position⟩ :: rest =>
    match FieldPath.parse? word with
    | some path => .ok (.field path, rest)
    | none => .error (.invalidFieldPath word position)
  | _ => .error (unexpected finish tokens)
termination_by (levels, 0)

end

/-- Where a filter ends whose tokens do not say so: at its last token. -/
def finishOf (tokens : List Token) : Nat :=
  (tokens.getLast?.map (·.position)).getD 0

/-- The expression of a sequence of tokens up to the end of the filter. -/
def parse (tokens : List Token) : Except SyntaxError Expr :=
  let finish := finishOf tokens
  match disjunction finish deepestNesting tokens with
  | .error error => .error error
  | .ok (expr, rest) =>
    if (nextToken finish rest).kind = .endOfInput then .ok expr
    else .error (unexpected finish rest)

end LogSieve
