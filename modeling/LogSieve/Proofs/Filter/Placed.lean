import LogSieve.Proofs.Filter.Recognition
import Mathlib.Data.List.Basic

/-!
# Which tokens the parser gives up at

Two of the errors say more than that a token does not fit. A path with an empty segment is found
where an operand begins: at the start of the filter or after a parenthesis, a `not`, an `and` or an
`or`. After `=` and `contains` a word is a text, so no path is asked for there. And a level too many
is asked for by one of those four kinds of tokens only, which are called opening
(`TokenKind.Opens`).

That is `SyntaxError.Placed`, for the tokens of a production (`places`) and so for those of a filter
(`placed_of_parse_eq_error`). The proof goes production by production. What was read before a
failing part is put back in front of its tokens, and then something has to be said only where a path
could be the first of them (`SyntaxError.Placed.append`): either the token in front is opening, or
the part that fails does not begin with a word.
-/

namespace LogSieve

variable {finish levels : Nat} {symbol : Symbol} {tokens used rest : List Token}
  {error : SyntaxError}

/-- The kinds that take a level. -/
def TokenKind.Opens : TokenKind → Prop
  | openParen | not | and | or => True
  | identifier _ | string _ | number _ | equals | contains | closeParen | endOfInput => False

/-- The next token is no word. -/
def StartsNoWord (tokens : List Token) : Prop :=
  ∀ token ∈ tokens.head?, ∀ word, token.kind ≠ .identifier word

/-- The last token is opening, if there is one. -/
def EndsOpening (tokens : List Token) : Prop :=
  ∀ token ∈ tokens.getLast?, token.kind.Opens

/-- A word that is no path stands among the tokens, and an opening token or nothing before it. A
level too many is asked for by an opening token. -/
def SyntaxError.Placed (tokens : List Token) : SyntaxError → Prop
  | invalidFieldPath word position => ¬ IsPath word ∧ ∃ before after,
      tokens = before ++ ⟨.identifier word, position⟩ :: after ∧ EndsOpening before
  | nestingTooDeep position => ∃ kind, kind.Opens ∧ ⟨kind, position⟩ ∈ tokens
  | unexpectedToken _ _ | expected _ _ _ => True

/-- Other tokens come before those of the part that fails. -/
theorem SyntaxError.Placed.append (h : error.Placed tokens)
    (hstart : StartsNoWord tokens ∨ EndsOpening used) : error.Placed (used ++ tokens) := by
  cases error with
  | invalidFieldPath word position =>
    obtain ⟨hpath, before, after, rfl, hlast⟩ := h
    refine ⟨hpath, used ++ before, after, by rw [List.append_assoc], ?_⟩
    rcases List.eq_nil_or_concat' before with rfl | ⟨before, token, rfl⟩
    · -- the word is the first token of the part
      rw [List.append_nil]
      exact hstart.resolve_left fun hno => hno _ rfl word rfl
    · intro token' htoken'
      rw [← List.append_assoc, List.getLast?_concat] at htoken'
      rw [EndsOpening, List.getLast?_concat] at hlast
      exact hlast token' htoken'
  | nestingTooDeep position =>
    obtain ⟨kind, hopens, hmem⟩ := h
    exact ⟨kind, hopens, List.mem_append_right used hmem⟩
  | unexpectedToken | expected => trivial

theorem SyntaxError.Placed.cons {token : Token} (h : error.Placed tokens)
    (hstart : StartsNoWord tokens ∨ token.kind.Opens) : error.Placed (token :: tokens) := by
  have hends : token.kind.Opens → EndsOpening [token] := by
    rintro hopens _ ⟨⟩
    exact hopens
  exact h.append (hstart.imp_right hends)

/-! ### Production by production -/

/-- The failures of the production of a symbol are placed among the tokens that it was given. -/
def Places (finish levels : Nat) (symbol : Symbol) : Prop :=
  ∀ tokens error, symbol.read finish levels tokens = .error error → error.Placed tokens

section Chains

variable {operator : TokenKind} {node : Expr → Expr → Expr}
  {loop : (levels : Nat) → Expr → List Token → Parsed} {left : Expr}

/-- Where a chain ends, its loop does not fail. -/
theorem ChainLoop.exists_of_eq_error (hloop : ChainLoop operator node (symbol.read finish) loop)
    (h : loop levels left tokens = .error error) :
    ∃ position rest, tokens = ⟨operator, position⟩ :: rest := by
  rcases starts_or_not operator tokens with hstarts | hstop
  · exact hstarts
  · rw [hloop.stop _ _ _ hstop] at h
    cases h

theorem ChainLoop.places (hloop : ChainLoop operator node (symbol.read finish) loop)
    (hop : operator.Opens) (hlink : ∀ l < levels, Places finish l symbol)
    (h : loop levels left tokens = .error error) : error.Placed tokens := by
  induction levels generalizing left tokens with
  | zero =>
    obtain ⟨position, rest, rfl⟩ := hloop.exists_of_eq_error h
    rw [hloop.zero] at h
    cases h
    exact ⟨operator, hop, List.mem_cons_self ..⟩
  | succ levels ih =>
    obtain ⟨position, rest, rfl⟩ := hloop.exists_of_eq_error h
    rw [hloop.succ] at h
    -- the operator is opening, so a path may be the first token of the operand
    refine SyntaxError.Placed.cons ?_ (.inr hop)
    rcases bind_eq_error h with hfirst | ⟨⟨right, rest'⟩, hfirst, hnext⟩
    · exact hlink levels (Nat.lt_succ_self _) _ _ hfirst
    · -- the operand was read, and the next operator stands in front of what fails
      obtain ⟨used, cost, rfl, -⟩ := LogSieve.sound finish levels symbol _ _ _ hfirst
      obtain ⟨position', rest'', rfl⟩ := hloop.exists_of_eq_error hnext
      refine (ih (fun l hl => hlink l (Nat.lt_succ_of_lt hl)) hnext).append (.inl ?_)
      rintro _ ⟨⟩ word rfl
      exact hop

theorem ChainProduction.places {chain : Symbol}
    (hchain : ChainProduction finish symbol chain operator node loop) (hop : operator.Opens)
    (hlink : ∀ l ≤ levels, Places finish l symbol) : Places finish levels chain := by
  intro tokens error h
  rw [hchain.read] at h
  rcases bind_eq_error h with hfirst | ⟨⟨left, rest⟩, hfirst, hnext⟩
  · exact hlink levels (Nat.le_refl _) _ _ hfirst
  · obtain ⟨used, cost, rfl, -⟩ := LogSieve.sound finish levels symbol _ _ _ hfirst
    -- the loop fails at an operator, and with an operator no path begins
    have hplaced := hchain.chainLoop.places hop (fun l hl => hlink l (Nat.le_of_lt hl)) hnext
    obtain ⟨position, rest', rfl⟩ := hchain.chainLoop.exists_of_eq_error hnext
    refine hplaced.append (.inl ?_)
    rintro _ ⟨⟩ word rfl
    exact hop

end Chains

/-- A group that is not closed is an error about the token that should close it. -/
theorem placed_of_closeGroup {inner : Expr} (h : closeGroup finish inner tokens = .error error) :
    error.Placed rest := by
  -- nothing is said of such an error
  rcases starts_or_not .closeParen tokens with ⟨position, following, rfl⟩ | hno
  · cases h
  · rw [closeGroup_eq_error hno] at h
    cases h
    trivial

theorem places_operand (hd : ∀ l < levels, Places finish l .disjunction) :
    Places finish levels .operand := by
  intro tokens error h
  change operand finish levels tokens = _ at h
  rcases starts_of_or_not (·.StartsOperand) tokens with
    ⟨kind, position, rest, hstart, rfl⟩ | hno
  case inr =>
    rw [operand_unexpected hno] at h
    cases h
    trivial
  -- only a group and a word that is no path can fail
  cases kind with
  | openParen =>
    cases levels with
    | zero =>
      rw [operand_zero] at h
      cases h
      exact ⟨.openParen, trivial, List.mem_cons_self ..⟩
    | succ levels =>
      rw [operand_succ] at h
      rcases bind_eq_error h with hinner | ⟨⟨inner, rest'⟩, -, hclose⟩
      · exact (hd levels (Nat.lt_succ_self _) _ _ hinner).cons (.inr trivial)
      · exact placed_of_closeGroup hclose
  | string value =>
    rw [operand_string] at h
    cases h
  | number value =>
    rw [operand_number] at h
    cases h
  | identifier word =>
    by_cases hpath : IsPath word
    · rw [operand_path hpath] at h
      cases h
    · rw [operand_not_path hpath] at h
      cases h
      exact ⟨hpath, [], rest, rfl, by simp [EndsOpening]⟩
  | _ => exact absurd hstart id

/-- A word on the right does not fail. -/
theorem startsNoWord_of_rightOperand (h : rightOperand finish levels tokens = .error error) :
    StartsNoWord tokens := by
  rintro ⟨kind, position⟩ htoken word rfl
  obtain ⟨rest, rfl⟩ := List.head?_eq_some_iff.mp htoken
  rw [rightOperand_identifier] at h
  cases h

theorem places_rightOperand (ho : Places finish levels .operand) :
    Places finish levels .rightOperand := by
  intro tokens error h
  change rightOperand finish levels tokens = _ at h
  rw [rightOperand_eq (startsNoWord_of_rightOperand h)] at h
  rcases bind_eq_error h with hoperand | ⟨first, -, hnext⟩
  · exact ho _ _ hoperand
  · cases hnext

theorem places_comparison (ho : Places finish levels .operand)
    (hr : Places finish levels .rightOperand) : Places finish levels .comparison := by
  intro tokens error h
  change comparison finish levels tokens = _ at h
  rw [comparison_eq] at h
  rcases bind_eq_error h with hleft | ⟨⟨left, rest⟩, hleft, hnext⟩
  · exact ho _ _ hleft
  · obtain ⟨used, cost, rfl, -⟩ := sound finish levels .operand _ _ _ hleft
    obtain ⟨kind, node, position, following, hop, rfl, hright⟩ := comparedWith_eq_error hnext
    -- a word would not fail right after the operator, and the operator is no word
    have hplaced : error.Placed (⟨kind, position⟩ :: following) :=
      (hr _ _ hright).cons (.inl (startsNoWord_of_rightOperand hright))
    refine hplaced.append (.inl ?_)
    rintro _ ⟨⟩ word rfl
    cases hop

theorem places_negation (hc : Places finish levels .comparison)
    (hn : ∀ l < levels, Places finish l .negation) : Places finish levels .negation := by
  intro tokens error h
  change negation finish levels tokens = _ at h
  rcases starts_or_not .not tokens with ⟨position, rest, rfl⟩ | hno
  · cases levels with
    | zero =>
      rw [negation_zero] at h
      cases h
      exact ⟨.not, trivial, List.mem_cons_self ..⟩
    | succ levels =>
      rw [negation_succ] at h
      rcases bind_eq_error h with hoperand | ⟨first, -, hnext⟩
      · exact (hn levels (Nat.lt_succ_self _) _ _ hoperand).cons (.inr trivial)
      · cases hnext
  · rw [negation_eq_comparison hno] at h
    exact hc _ _ h

/-- **Where the productions fail.** -/
theorem places (finish levels : Nat) (symbol : Symbol) : Places finish levels symbol := by
  induction levels, symbol using Symbol.induction with
  | operand _ hd => exact places_operand hd
  | rightOperand _ ho => exact places_rightOperand ho
  | comparison _ ho hr => exact places_comparison ho hr
  | negation _ hc hn => exact places_negation hc hn
  | conjunction _ hlink => exact (chainProduction_conjunction finish).places trivial hlink
  | disjunction _ hlink => exact (chainProduction_disjunction finish).places trivial hlink

/-- **Where a filter fails.** -/
theorem placed_of_parse_eq_error (h : parse tokens = .error error) : error.Placed tokens := by
  unfold parse at h
  simp only at h
  -- the expression fails, or a token is left behind it
  split at h
  · next error' hread =>
    cases h
    exact places _ _ .disjunction _ _ hread
  · split at h
    · cases h
    · cases h
      trivial

end LogSieve
