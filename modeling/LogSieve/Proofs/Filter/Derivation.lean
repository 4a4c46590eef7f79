import LogSieve.Proofs.Filter.Production
import Mathlib.Data.List.Induction

/-!
# The grammar as a relation

What an expression is, said without a parser: `Derives symbol kinds expr cost` holds if the kinds
of a stretch of tokens are derived from a symbol of the grammar

```
disjunction  := conjunction ( OR conjunction )*
conjunction  := negation ( AND negation )*
negation     := NOT negation | comparison
comparison   := operand ( (EQUALS | CONTAINS) rightOperand )?
operand      := IDENTIFIER | STRING | NUMBER | '(' disjunction ')'
```

by a derivation whose tree is `expr` and whose nesting costs `cost` levels. Chains nest to the
left and parentheses leave nothing in the tree. A right operand is an operand, with one exception:
an identifier, bare or inside any number of parentheses, is the text of the word.

The cost counts what nests. A parenthesis and a `not` cost one level each, on top of what they
stand around; a comparison costs as much as the dearer of its operands; and in a chain the operand
after `i` operators costs `i` levels on top of its own.

A word in parentheses (`bracketed`) is recognised both by its tokens and by its tree:
`Derives.eq_field_of_bracketed` and `Derives.eq_bracketed_of_field`.
-/

namespace LogSieve

/-- What the grammar derives stretches of tokens from. -/
inductive Symbol where
  | disjunction
  | conjunction
  | negation
  | comparison
  | rightOperand
  | operand
  deriving DecidableEq

/-! ### Chains -/

/-- An operand of a chain, with what is derived for it. -/
structure Link where
  /-- The kinds of its tokens. -/
  kinds : List TokenKind
  /-- Its tree. -/
  expr : Expr
  /-- The cost of its nesting. -/
  cost : Nat

/-- The kinds of the tokens of a chain after its first operand. -/
def linksKinds (operator : TokenKind) (links : List Link) : List TokenKind :=
  links.flatMap fun link => operator :: link.kinds

/-- The tree of a chain that starts with `first`, nested to the left. -/
def linksExpr (node : Expr → Expr → Expr) (first : Expr) (links : List Link) : Expr :=
  links.foldl (fun left link => node left link.expr) first

/-- The cost of operands in a chain, the first of which has `before` operators before it: the
greatest sum of an operand's cost and the number of operators before it. -/
def linksCost : (before : Nat) → List Link → Nat
  | _, [] => 0
  | before, link :: links => max (before + link.cost) (linksCost (before + 1) links)

/-! ### Words in parentheses -/

/-- A word inside `depth` pairs of parentheses. -/
def bracketed (word : Text) : (depth : Nat) → List TokenKind
  | 0 => [.identifier word]
  | depth + 1 => .openParen :: bracketed word depth ++ [.closeParen]

/-! ### Derivations -/

/-- The stretch of tokens is derived from the symbol, with a tree and the cost of its nesting. -/
inductive Derives : Symbol → List TokenKind → Expr → Nat → Prop where
  | disjunction {first : Link} {links : List Link}
      (h : ∀ link ∈ first :: links, Derives .conjunction link.kinds link.expr link.cost) :
      Derives .disjunction (first.kinds ++ linksKinds .or links)
        (linksExpr .or first.expr links) (linksCost 0 (first :: links))
  | conjunction {first : Link} {links : List Link}
      (h : ∀ link ∈ first :: links, Derives .negation link.kinds link.expr link.cost) :
      Derives .conjunction (first.kinds ++ linksKinds .and links)
        (linksExpr .and first.expr links) (linksCost 0 (first :: links))
  | not {kinds : List TokenKind} {expr : Expr} {cost : Nat}
      (h : Derives .negation kinds expr cost) :
      Derives .negation (.not :: kinds) (.not expr) (1 + cost)
  | affirmation {kinds : List TokenKind} {expr : Expr} {cost : Nat}
      (h : Derives .comparison kinds expr cost) : Derives .negation kinds expr cost
  | single {kinds : List TokenKind} {expr : Expr} {cost : Nat}
      (h : Derives .operand kinds expr cost) : Derives .comparison kinds expr cost
  | equals {leftKinds rightKinds : List TokenKind} {left right : Expr} {leftCost rightCost : Nat}
      (hl : Derives .operand leftKinds left leftCost)
      (hr : Derives .rightOperand rightKinds right rightCost) :
      Derives .comparison (leftKinds ++ .equals :: rightKinds) (.equals left right)
        (max leftCost rightCost)
  | contains {leftKinds rightKinds : List TokenKind} {left right : Expr} {leftCost rightCost : Nat}
      (hl : Derives .operand leftKinds left leftCost)
      (hr : Derives .rightOperand rightKinds right rightCost) :
      Derives .comparison (leftKinds ++ .contains :: rightKinds) (.contains left right)
        (max leftCost rightCost)
  /-- A word on the right is its own text, with any dots if it is bare. -/
  | word {word : Text} {depth : Nat} (h : depth ≠ 0 → IsPath word) :
      Derives .rightOperand (bracketed word depth) (.literal (.string word)) depth
  | other {kinds : List TokenKind} {expr : Expr} {cost : Nat} (h : Derives .operand kinds expr cost)
      (hword : ∀ word depth, kinds ≠ bracketed word depth) :
      Derives .rightOperand kinds expr cost
  | string {value : Text} : Derives .operand [.string value] (.literal (.string value)) 0
  | number {value : Nat} : Derives .operand [.number value] (.literal (.number value)) 0
  | field {word : Text} (h : IsPath word) :
      Derives .operand [.identifier word] (.field ⟨word.splitOn '.'⟩) 0
  | group {kinds : List TokenKind} {expr : Expr} {cost : Nat}
      (h : Derives .disjunction kinds expr cost) :
      Derives .operand (.openParen :: kinds ++ [.closeParen]) expr (1 + cost)

/-- Chains of one symbol are derived from another, with the operator between the operands and the
node for each operator. -/
def ChainRule (link chain : Symbol) (operator : TokenKind) (node : Expr → Expr → Expr) : Prop :=
  ∀ first links, (∀ l ∈ first :: links, Derives link l.kinds l.expr l.cost) →
    Derives chain (first.kinds ++ linksKinds operator links) (linksExpr node first.expr links)
      (linksCost 0 (first :: links))

theorem chainRule_disjunction : ChainRule .conjunction .disjunction .or .or :=
  fun _ _ => .disjunction

theorem chainRule_conjunction : ChainRule .negation .conjunction .and .and :=
  fun _ _ => .conjunction

/-! ### Chains of one operand and of two -/

theorem linksCost_le_iff {before bound : Nat} {link : Link} {links : List Link} :
    linksCost before (link :: links) ≤ bound ↔
      before + link.cost ≤ bound ∧ linksCost (before + 1) links ≤ bound := by
  rw [linksCost]
  omega

section Single

variable {kinds : List TokenKind} {expr : Expr} {cost : Nat}

theorem ChainRule.single {link chain : Symbol} {operator : TokenKind} {node : Expr → Expr → Expr}
    (hrule : ChainRule link chain operator node) (h : Derives link kinds expr cost) :
    Derives chain kinds expr cost := by
  have hchain := hrule ⟨kinds, expr, cost⟩ [] (by rw [List.forall_mem_singleton]; exact h)
  simpa [linksKinds, linksExpr, linksCost] using hchain

theorem ChainRule.pair {link chain : Symbol} {operator : TokenKind} {node : Expr → Expr → Expr}
    {rightKinds : List TokenKind} {right : Expr} {rightCost : Nat}
    (hrule : ChainRule link chain operator node) (hl : Derives link kinds expr cost)
    (hr : Derives link rightKinds right rightCost) :
    Derives chain (kinds ++ operator :: rightKinds) (node expr right)
      (max cost (1 + rightCost)) := by
  -- the second operand stands behind one operator, which is one level more
  have hlinks : ∀ l ∈ [⟨kinds, expr, cost⟩, ⟨rightKinds, right, rightCost⟩],
      Derives link (Link.kinds l) l.expr l.cost := by
    rw [List.forall_mem_cons, List.forall_mem_singleton]
    exact ⟨hl, hr⟩
  simpa [linksKinds, linksExpr, linksCost] using hrule _ _ hlinks

theorem Derives.conjunction_single (h : Derives .negation kinds expr cost) :
    Derives .conjunction kinds expr cost :=
  chainRule_conjunction.single h

theorem Derives.disjunction_single (h : Derives .conjunction kinds expr cost) :
    Derives .disjunction kinds expr cost :=
  chainRule_disjunction.single h

/-- An operand by itself is a whole expression. -/
theorem Derives.disjunction_of_operand (h : Derives .operand kinds expr cost) :
    Derives .disjunction kinds expr cost :=
  .disjunction_single (.conjunction_single (.affirmation (.single h)))

/-- `Connects operator node`: two operands around the operator are an expression whose tree is the
node. The operator takes a level from the right one. -/
def Connects (operator : TokenKind) (node : Expr → Expr → Expr) : Prop :=
  ∀ {leftKinds rightKinds : List TokenKind} {left right : Expr} {leftCost rightCost : Nat},
    Derives .operand leftKinds left leftCost → Derives .operand rightKinds right rightCost →
    Derives .disjunction (leftKinds ++ operator :: rightKinds) (node left right)
      (max leftCost (1 + rightCost))

/-- The operator of any chain connects operands: they are links of the chain, and the chain is an
expression. -/
theorem ChainRule.connects {link chain : Symbol} {operator : TokenKind}
    {node : Expr → Expr → Expr} (hrule : ChainRule link chain operator node)
    (hlink : ∀ {kinds expr cost}, Derives .operand kinds expr cost → Derives link kinds expr cost)
    (hchain : ∀ {kinds expr cost},
      Derives chain kinds expr cost → Derives .disjunction kinds expr cost) :
    Connects operator node :=
  fun hl hr => hchain (hrule.pair (hlink hl) (hlink hr))

theorem connects_and : Connects .and .and :=
  chainRule_conjunction.connects (fun h => h.single.affirmation) .disjunction_single

theorem connects_or : Connects .or .or :=
  chainRule_disjunction.connects (fun h => h.single.affirmation.conjunction_single) id

end Single

/-! ### Where an operand starts and how a word in parentheses is recognised -/

theorem exists_bracketed_eq_cons (word : Text) (depth : Nat) :
    ∃ kind kinds, bracketed word depth = kind :: kinds ∧ kind.StartsOperand := by
  cases depth with
  | zero => exact ⟨_, _, rfl, trivial⟩
  | succ depth => exact ⟨_, _, rfl, trivial⟩

theorem mem_bracketed {word : Text} {depth : Nat} {kind : TokenKind}
    (h : kind ∈ bracketed word depth) :
    kind = .identifier word ∨ kind = .openParen ∨ kind = .closeParen := by
  induction depth with
  | zero => exact .inl (List.mem_singleton.mp h)
  | succ depth ih =>
    simp only [bracketed, List.cons_append, List.mem_cons, List.mem_append, List.not_mem_nil,
      or_false] at h
    rcases h with h | h | h
    · exact .inr (.inl h)
    · exact ih h
    · exact .inr (.inr h)

/-- A chain that is a word in parentheses has one operand. -/
theorem links_eq_nil_of_bracketed {kinds : List TokenKind} {operator : TokenKind}
    {links : List Link} {word : Text} {depth : Nat} (hop : operator ∉ bracketed word depth)
    (h : kinds ++ linksKinds operator links = bracketed word depth) : links = [] := by
  cases links with
  | nil => rfl
  | cons link links =>
    -- the first link begins with the operator
    refine absurd ?_ hop
    rw [← h]
    simp [linksKinds]

/-- A node of a chain is no path. -/
theorem eq_nil_of_linksExpr_eq_field {node : Expr → Expr → Expr} {first : Expr}
    {links : List Link} {path : FieldPath} (hnode : ∀ left right, node left right ≠ .field path)
    (h : linksExpr node first links = .field path) : links = [] := by
  induction links using List.reverseRecOn with
  | nil => rfl
  | append_singleton links link =>
    -- the last operator is the root
    rw [linksExpr, List.foldl_append, List.foldl_cons, List.foldl_nil] at h
    exact absurd h (hnode _ _)

namespace Derives

variable {symbol : Symbol} {kinds : List TokenKind} {expr : Expr} {cost : Nat}

theorem startsOperand (h : Derives symbol kinds expr cost)
    (hs : symbol = .comparison ∨ symbol = .rightOperand ∨ symbol = .operand) :
    ∃ kind rest, kinds = kind :: rest ∧ kind.StartsOperand := by
  -- down to the leftmost operand, which is the start of the stretch
  induction h with
  | single _ ih | other _ _ ih => exact ih (by simp)
  | equals _ _ ih | contains _ _ ih =>
    obtain ⟨kind, rest, rfl, hstart⟩ := ih (by simp)
    exact ⟨kind, _, rfl, hstart⟩
  | word => exact exists_bracketed_eq_cons _ _
  | string | number | field | group => exact ⟨_, _, rfl, trivial⟩
  | disjunction | conjunction | not | affirmation => simp at hs

/-- The tree of a word in parentheses is a path. -/
theorem eq_field_of_bracketed (h : Derives symbol kinds expr cost) (hs : symbol ≠ .rightOperand)
    {word : Text} {depth : Nat} (hk : kinds = bracketed word depth) :
    ∃ path, expr = .field path := by
  induction h generalizing depth with
  | @disjunction first links _ ih | @conjunction first links _ ih =>
    -- an operator would be among the tokens, and there is none in `bracketed`
    have hnil : links = [] :=
      links_eq_nil_of_bracketed (fun hm => by simpa using mem_bracketed hm) hk
    subst hnil
    rw [linksKinds, List.flatMap_nil, List.append_nil] at hk
    exact ih first (List.mem_cons_self ..) (by simp) hk
  | affirmation _ ih | single _ ih => exact ih (by simp) hk
  | not =>
    have hm : TokenKind.not ∈ bracketed word depth := hk ▸ List.mem_cons_self ..
    simpa using mem_bracketed hm
  | equals =>
    have hm : TokenKind.equals ∈ bracketed word depth := by rw [← hk]; simp
    simpa using mem_bracketed hm
  | contains =>
    have hm : TokenKind.contains ∈ bracketed word depth := by rw [← hk]; simp
    simpa using mem_bracketed hm
  | word | other => exact absurd rfl hs
  | string | number => cases depth <;> simp [bracketed] at hk
  | field => exact ⟨_, rfl⟩
  | group _ ih =>
    cases depth with
    | zero => simp [bracketed] at hk
    | succ depth =>
      simp only [bracketed, List.cons_append, List.cons.injEq, true_and] at hk
      -- the outermost pair is that of the group
      exact ih (by simp) (List.append_cancel_right hk)

/-- Only a word in parentheses has a path for its tree. -/
theorem eq_bracketed_of_field {path : FieldPath} (h : Derives symbol kinds expr cost)
    (he : expr = .field path) : IsPath path.text ∧ kinds = bracketed path.text cost := by
  induction h with
  | @disjunction first links _ ih | @conjunction first links _ ih =>
    -- an operator would be a node of the tree
    have hnil : links = [] := eq_nil_of_linksExpr_eq_field (by simp) he
    subst hnil
    have := ih first (List.mem_cons_self ..) he
    simpa [linksKinds, linksCost] using this
  | affirmation _ ih | single _ ih | other _ _ ih => exact ih he
  | @field word hpath =>
    cases he
    rw [text_splitOn]
    exact ⟨hpath, rfl⟩
  | group _ ih =>
    -- one pair more and one level more
    obtain ⟨hpath, rfl⟩ := ih he
    rw [Nat.add_comm]
    exact ⟨hpath, rfl⟩
  | not | equals | contains | word | string | number => cases he

/-- On the right of a comparison stands an operand with its path, if it is one, read as a text. -/
theorem asText (h : Derives .operand kinds expr cost) :
    Derives .rightOperand kinds expr.asText cost := by
  cases expr with
  | field path =>
    obtain ⟨hpath, hk⟩ := h.eq_bracketed_of_field rfl
    rw [hk]
    exact .word fun _ => hpath
  | _ =>
    -- a word in parentheses would have a path for its tree
    refine .other h fun word depth hk => ?_
    obtain ⟨path, hfield⟩ := h.eq_field_of_bracketed (by simp) hk
    cases hfield

/-- No derived stretch goes past the end of the filter. -/
theorem endOfInput_notMem (h : Derives symbol kinds expr cost) :
    TokenKind.endOfInput ∉ kinds := by
  induction h with
  | disjunction _ ih | conjunction _ ih =>
    rw [List.forall_mem_cons] at ih
    simp only [linksKinds, List.mem_append, List.mem_flatMap, List.mem_cons, reduceCtorEq,
      false_or, not_or, not_exists, not_and]
    exact ih
  | not _ ih => simpa using ih
  | affirmation _ ih | single _ ih | other _ _ ih => exact ih
  | equals _ _ ihl ihr | contains _ _ ihl ihr => simp [ihl, ihr]
  | word => exact fun hm => by simpa using mem_bracketed hm
  | string | number | field => simp
  | group _ ih => simpa using ih

end Derives

end LogSieve
