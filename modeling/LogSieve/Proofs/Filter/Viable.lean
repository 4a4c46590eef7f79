import LogSieve.Proofs.Filter.Recognition

/-!
# Where the parser gives up

When a sequence of tokens has no expression, the error is about one of its tokens, and about the
right one: the tokens before it can still be gone on with to an expression, and with it they cannot,
whatever comes after.

The proof takes a production and some tokens and shows two things at once, `Decided`. First, what
the production does depends only on the tokens that it uses and on the next one after them, so that
everything behind that token can be exchanged. Second, if it fails, it fails at that next token, and
the tokens used so far are `Viable`: some kinds of tokens complete them to a stretch that is derived
from the symbol of the production at a cost within the levels left. A failure inside a production
passes to the one around it, and so does the completion, with the closing parenthesis of the group,
the right operand of the comparison or nothing at all added to it. When the production inside
succeeds, what it used is derived (`sound`), and a failure right after it is completed from there.

The levels take care of themselves: what completes the tokens used so far takes no level that the
parser has not given out, and at the token that asks for one level too many the tokens before it
are completed without it.

The main statement is `blamed_of_parse_eq_error`.
-/

namespace LogSieve

variable {finish levels : Nat} {symbol : Symbol} {tokens rest : List Token}

/-- The error is about the token: it names the kind of the token or its word, and of a token that
opens one level too many the position only. Nothing but a closing parenthesis is ever wanted. -/
def SyntaxError.Blames : SyntaxError → Token → Prop
  | unexpectedToken found position, token => token = ⟨found, position⟩
  | expected wanted found position, token => wanted = .closeParen ∧ token = ⟨found, position⟩
  | invalidFieldPath path position, token => token = ⟨.identifier path, position⟩
  | nestingTooDeep position, token => token.position = position

theorem SyntaxError.Blames.position_eq {error : SyntaxError} {token : Token}
    (h : error.Blames token) : error.position = token.position := by
  cases error with
  | unexpectedToken => rw [show token = _ from h]; rfl
  | expected => rw [show token = _ from h.2]; rfl
  | invalidFieldPath => rw [show token = _ from h]; rfl
  | nestingTooDeep => exact Eq.symm h

/-! ### The next token -/

/-- What follows is seen through its first token only. -/
theorem nextToken_append_congr {finish' : Nat} {rest' : List Token}
    (h : nextToken finish' rest' = nextToken finish rest) (used : List Token) :
    nextToken finish' (used ++ rest') = nextToken finish (used ++ rest) := by
  cases used with
  | nil => exact h
  | cons token used => rfl

/-- What is true of the end and of the first token, if there is one, is true of whatever first token
looks the same. -/
theorem forall_head?_congr {finish' : Nat} {rest' : List Token} (p : TokenKind → Prop)
    (hend : p .endOfInput) (hnext : nextToken finish' rest' = nextToken finish rest)
    (h : ∀ token ∈ rest.head?, p token.kind) : ∀ token ∈ rest'.head?, p token.kind := by
  intro token htoken
  obtain ⟨following, rfl⟩ := List.head?_eq_some_iff.mp htoken
  obtain rfl : token = nextToken finish rest := hnext
  cases rest with
  | nil => exact hend
  | cons token' rest => exact h token' rfl

/-! ### Viable kinds -/

/-- The kinds can be gone on with to a stretch that is derived from the symbol at a cost within the
levels. -/
def Viable (symbol : Symbol) (levels : Nat) (kinds : List TokenKind) : Prop :=
  ∃ more expr cost, Derives symbol (kinds ++ more) expr cost ∧ cost ≤ levels

/-- The same for the rest of a chain, after `before` operators. -/
def ViableLinks (symbol : Symbol) (operator : TokenKind) (before levels : Nat)
    (kinds : List TokenKind) : Prop :=
  ∃ more links, kinds ++ more = linksKinds operator links ∧
    (∀ link ∈ links, Derives symbol link.kinds link.expr link.cost) ∧
    linksCost (before + 1) links ≤ before + levels

section Viable

variable {kinds : List TokenKind} {expr : Expr} {cost : Nat}

theorem Viable.of_derives (h : Derives symbol kinds expr cost) (hcost : cost ≤ levels) :
    Viable symbol levels kinds :=
  ⟨[], expr, cost, by rwa [List.append_nil], hcost⟩

/-- Anything can be begun: a quoted text is a whole expression and takes no level. -/
theorem Viable.nil (symbol : Symbol) (levels : Nat) : Viable symbol levels [] := by
  have hoperand : Derives .operand [.string []] _ 0 := .string
  have hconjunction := hoperand.single.affirmation.conjunction_single
  refine ⟨[.string []], .literal (.string []), 0, ?_, Nat.zero_le _⟩
  -- a quoted text is an operand, and an operand is derived from every symbol above it
  cases symbol with
  | disjunction => exact hconjunction.disjunction_single
  | conjunction => exact hconjunction
  | negation => exact hoperand.single.affirmation
  | comparison => exact hoperand.single
  | rightOperand => exact hoperand.asText
  | operand => exact hoperand

theorem Viable.not (h : Viable .negation levels kinds) :
    Viable .negation (levels + 1) (.not :: kinds) := by
  obtain ⟨more, expr, cost, hder, hcost⟩ := h
  exact ⟨more, _, _, hder.not, by omega⟩

theorem Viable.affirmation (h : Viable .comparison levels kinds) :
    Viable .negation levels kinds := by
  obtain ⟨more, expr, cost, hder, hcost⟩ := h
  exact ⟨more, expr, cost, hder.affirmation, hcost⟩

theorem Viable.single (h : Viable .operand levels kinds) : Viable .comparison levels kinds := by
  obtain ⟨more, expr, cost, hder, hcost⟩ := h
  exact ⟨more, expr, cost, hder.single, hcost⟩

theorem Viable.asText (h : Viable .operand levels kinds) : Viable .rightOperand levels kinds := by
  obtain ⟨more, expr, cost, hder, hcost⟩ := h
  exact ⟨more, _, cost, hder.asText, hcost⟩

/-- The group is closed after what completes the expression inside. -/
theorem Viable.group (h : Viable .disjunction levels kinds) :
    Viable .operand (levels + 1) (.openParen :: kinds) := by
  obtain ⟨more, expr, cost, hder, hcost⟩ := h
  refine ⟨more ++ [.closeParen], expr, 1 + cost, ?_, by omega⟩
  have hgroup := hder.group
  rwa [List.cons_append, List.append_assoc] at hgroup

/-- Two operands around the operator are a comparison with the node. -/
def ComparisonRule (operator : TokenKind) (node : Expr → Expr → Expr) : Prop :=
  ∀ {leftKinds rightKinds left right leftCost rightCost},
    Derives .operand leftKinds left leftCost → Derives .rightOperand rightKinds right rightCost →
    Derives .comparison (leftKinds ++ operator :: rightKinds) (node left right)
      (max leftCost rightCost)

/-- Both comparisons go on after their operator in the same way. -/
theorem Viable.compared {operator : TokenKind} {node : Expr → Expr → Expr}
    (hrule : ComparisonRule operator node) {kinds' : List TokenKind}
    (hl : Derives .operand kinds expr cost) (hcost : cost ≤ levels)
    (hr : Viable .rightOperand levels kinds') :
    Viable .comparison levels (kinds ++ operator :: kinds') := by
  obtain ⟨more, right, rightCost, hder, hright⟩ := hr
  refine ⟨more, node expr right, _, ?_, Nat.max_le.mpr ⟨hcost, hright⟩⟩
  rw [List.append_assoc]
  exact hrule hl hder

section Chains

variable {link whole : Symbol} {operator : TokenKind} {node : Expr → Expr → Expr} {before : Nat}

theorem Viable.first (hrule : ChainRule link whole operator node) (h : Viable link levels kinds) :
    Viable whole levels kinds := by
  obtain ⟨more, expr, cost, hder, hcost⟩ := h
  exact ⟨more, expr, cost, hrule.single hder, hcost⟩

theorem ViableLinks.nil : ViableLinks symbol operator before levels [] :=
  ⟨[], [], rfl, by simp, Nat.zero_le _⟩

/-- An operand that is not complete is the last one of its chain. -/
theorem ViableLinks.last (h : Viable symbol levels kinds) :
    ViableLinks symbol operator before (levels + 1) (operator :: kinds) := by
  obtain ⟨more, expr, cost, hder, hcost⟩ := h
  refine ⟨more, [⟨kinds ++ more, expr, cost⟩], ?_, ?_, ?_⟩
  · rw [linksKinds, List.flatMap_singleton]
    rfl
  · rw [List.forall_mem_singleton]
    exact hder
  · -- nothing follows it, so its own cost and its place are all that counts
    rw [linksCost_le_iff, linksCost]
    simp only
    omega

theorem ViableLinks.cons {kinds' : List TokenKind} (hder : Derives symbol kinds expr cost)
    (hcost : cost ≤ levels) (h : ViableLinks symbol operator (before + 1) levels kinds') :
    ViableLinks symbol operator before (levels + 1) (operator :: (kinds ++ kinds')) := by
  obtain ⟨more, links, hk, hders, hcosts⟩ := h
  refine ⟨more, ⟨kinds, expr, cost⟩ :: links, ?_, ?_, ?_⟩
  · rw [linksKinds, List.flatMap_cons, ← linksKinds, ← hk]
    simp
  · rw [List.forall_mem_cons]
    exact ⟨hder, hders⟩
  · -- `before` goes up by one and `levels` down by one, so the bound on the rest is the same number
    rw [linksCost_le_iff]
    simp only
    omega

theorem ViableLinks.chain {kinds' : List TokenKind} (hrule : ChainRule link whole operator node)
    (hder : Derives link kinds expr cost) (hcost : cost ≤ levels)
    (h : ViableLinks link operator 0 levels kinds') : Viable whole levels (kinds ++ kinds') := by
  obtain ⟨more, links, hk, hders, hcosts⟩ := h
  have hchain := hrule ⟨kinds, expr, cost⟩ links
    (by rw [List.forall_mem_cons]; exact ⟨hder, hders⟩)
  -- the first operand stands at place 0, where the place costs nothing
  have htotal : linksCost 0 (⟨kinds, expr, cost⟩ :: links) ≤ levels := by
    rw [linksCost_le_iff]
    rw [Nat.zero_add levels] at hcosts
    exact ⟨by rwa [Nat.zero_add], hcosts⟩
  rw [← hk, ← List.append_assoc] at hchain
  exact ⟨more, _, _, hchain, htotal⟩

end Chains

end Viable

/-! ### Reading is decided by the next token -/

/-- What reading does with the tokens is decided by those that it uses and by the next one: with
any other tokens from there on, it succeeds or fails in the same way. A failure is about that next
token, and the kinds used before it are viable. -/
inductive Decided (finish : Nat) (tokens : List Token) (viable : List TokenKind → Prop)
    (read : (finish : Nat) → List Token → Parsed) : Prop where
  | reads (used rest : List Token) (expr : Expr) (hcut : tokens = used ++ rest)
      (h : ∀ finish' rest', nextToken finish' rest' = nextToken finish rest →
        read finish' (used ++ rest') = .ok (expr, rest'))
  | fails (used rest : List Token) (error : SyntaxError) (hcut : tokens = used ++ rest)
      (hviable : viable (used.map (·.kind))) (hblames : error.Blames (nextToken finish rest))
      (h : ∀ finish' rest', nextToken finish' rest' = nextToken finish rest →
        read finish' (used ++ rest') = .error error)

namespace Decided

variable {viable viable' : List TokenKind → Prop}
  {read read' : (finish : Nat) → List Token → Parsed}

/-- Nothing is used and nothing fails. -/
theorem stop (expr : Expr) (h : ∀ finish' rest', nextToken finish' rest' = nextToken finish tokens →
    read finish' rest' = .ok (expr, rest')) : Decided finish tokens viable read :=
  .reads [] tokens expr rfl h

/-- The first token is refused. -/
theorem refuse (error : SyntaxError) (hviable : viable [])
    (hblames : error.Blames (nextToken finish tokens))
    (h : ∀ finish' rest', nextToken finish' rest' = nextToken finish tokens →
      read finish' rest' = .error error) : Decided finish tokens viable read :=
  .fails [] tokens error rfl hviable hblames h

/-- A first token that is not the end is refused. -/
theorem refuse_token {token : Token} (error : SyntaxError) (hviable : viable [])
    (hblames : error.Blames token) (hkind : token.kind ≠ .endOfInput)
    (h : ∀ finish' rest', read finish' (token :: rest') = .error error) :
    Decided finish (token :: rest) viable read := by
  refine .refuse error hviable hblames fun finish' rest' hnext => ?_
  obtain ⟨following, rfl⟩ := exists_eq_cons_of_nextToken hnext hkind
  exact h finish' following

/-- One token is used. -/
theorem token {token : Token} (expr : Expr)
    (h : ∀ finish' rest', read finish' (token :: rest') = .ok (expr, rest')) :
    Decided finish (token :: rest) viable read :=
  .reads [token] rest expr rfl fun finish' rest' _ => h finish' rest'

/-- The first token is used, and then the rest is decided. -/
theorem cons {token : Token} (h : Decided finish rest viable' read')
    (hread : ∀ finish' rest', read finish' (token :: rest') = read' finish' rest')
    (hviable : ∀ kinds, viable' kinds → viable (token.kind :: kinds)) :
    Decided finish (token :: rest) viable read := by
  cases h with
  | reads used rest expr hcut h =>
    refine .reads (token :: used) rest expr (by rw [hcut]; rfl) fun finish' rest' hnext => ?_
    rw [List.cons_append, hread]
    exact h finish' rest' hnext
  | fails used rest error hcut hv hblames h =>
    refine .fails (token :: used) rest error (by rw [hcut]; rfl) (hviable _ hv) hblames
      fun finish' rest' hnext => ?_
    rw [List.cons_append, hread]
    exact h finish' rest' hnext

/-- Which of two readings is taken depends on the next token alone. -/
theorem congr (h : Decided finish tokens viable' read')
    (hread : ∀ finish' tokens', nextToken finish' tokens' = nextToken finish tokens →
      read finish' tokens' = read' finish' tokens')
    (hviable : ∀ kinds, viable' kinds → viable kinds) : Decided finish tokens viable read := by
  cases h with
  | reads used rest expr hcut h =>
    refine .reads used rest expr hcut fun finish' rest' hnext => ?_
    rw [hread _ _ (by rw [hcut]; exact nextToken_append_congr hnext used)]
    exact h finish' rest' hnext
  | fails used rest error hcut hv hblames h =>
    refine .fails used rest error hcut (hviable _ hv) hblames fun finish' rest' hnext => ?_
    rw [hread _ _ (by rw [hcut]; exact nextToken_append_congr hnext used)]
    exact h finish' rest' hnext

/-- **One reading after another.** The first fails for both, or it has used some tokens and what
comes next is decided on the rest of them. -/
theorem bind (next : (finish : Nat) → Expr → List Token → Parsed)
    (h : Decided finish tokens viable' read') (hviable : ∀ kinds, viable' kinds → viable kinds)
    (hnext : ∀ used rest expr, read' finish (used ++ rest) = .ok (expr, rest) →
      Decided finish rest (fun kinds => viable (used.map (·.kind) ++ kinds))
        fun finish => next finish expr) :
    Decided finish tokens viable
      fun finish tokens => (read' finish tokens).bind fun r => next finish r.1 r.2 := by
  cases h with
  | fails used rest error hcut hv hblames h =>
    refine .fails used rest error hcut (hviable _ hv) hblames fun finish' rest' hsame => ?_
    -- the second reading is never reached
    rw [h finish' rest' hsame]
    rfl
  | reads used rest expr hcut h =>
    cases hnext used rest expr (h finish rest rfl) with
    | reads used' rest' expr' hcut' h' =>
      refine .reads (used ++ used') rest' expr' ?_ fun finish' following hsame => ?_
      · rw [hcut, hcut', List.append_assoc]
      · -- the first reading sees the same next token, be it used by the second one or not
        rw [List.append_assoc, h finish' (used' ++ following)
          (by rw [hcut']; exact nextToken_append_congr hsame used')]
        exact h' finish' following hsame
    | fails used' rest' error hcut' hv hblames h' =>
      refine .fails (used ++ used') rest' error ?_ ?_ hblames fun finish' following hsame => ?_
      · rw [hcut, hcut', List.append_assoc]
      · rw [List.map_append]
        exact hv
      · rw [List.append_assoc, h finish' (used' ++ following)
          (by rw [hcut']; exact nextToken_append_congr hsame used')]
        exact h' finish' following hsame

end Decided

/-! ### Production by production -/

/-- With some levels left, what the production of a symbol does with any tokens is decided. -/
def Settles (finish levels : Nat) (symbol : Symbol) : Prop :=
  ∀ tokens, Decided finish tokens (Viable symbol levels) fun finish => symbol.read finish levels

section Productions

/-- What a production used is derived from its symbol. -/
theorem exists_derives_of_read (symbol : Symbol) {used : List Token} {expr : Expr}
    (h : symbol.read finish levels (used ++ rest) = .ok (expr, rest)) :
    ∃ cost ≤ levels, Derives symbol (used.map (·.kind)) expr cost := by
  obtain ⟨used', cost, hcut, hder, hcost⟩ := sound finish levels symbol _ _ _ h
  obtain rfl := List.append_cancel_right hcut
  exact ⟨cost, hcost, hder⟩

section Chains

variable {operator : TokenKind} {node : Expr → Expr → Expr}
  {loop : (finish levels : Nat) → Expr → List Token → Parsed}

theorem ChainLoop.decided_of_stop
    (hloop : ∀ finish, ChainLoop operator node (symbol.read finish) (loop finish))
    (hop : operator ≠ .endOfInput) {viable : List TokenKind → Prop} (left : Expr)
    (hstop : ∀ token ∈ tokens.head?, token.kind ≠ operator) :
    Decided finish tokens viable fun finish => loop finish levels left :=
  .stop left fun finish' _ hnext =>
    (hloop finish').stop _ _ _ (forall_head?_congr (· ≠ operator) hop.symm hnext hstop)

theorem ChainLoop.settles
    (hloop : ∀ finish, ChainLoop operator node (symbol.read finish) (loop finish))
    (hop : operator ≠ .endOfInput) (hlink : ∀ l < levels, Settles finish l symbol) (before : Nat)
    (left : Expr) (tokens : List Token) :
    Decided finish tokens (ViableLinks symbol operator before levels)
      fun finish => loop finish levels left := by
  induction levels generalizing left tokens before with
  | zero =>
    -- the operator asks for a level that is not there: the chain before it is complete
    rcases starts_or_not operator tokens with ⟨position, rest, rfl⟩ | hstop
    · exact .refuse_token (.nestingTooDeep position) .nil rfl hop
        fun finish' rest' => (hloop finish').zero _ _ _
    · exact decided_of_stop hloop hop left hstop
  | succ levels ih =>
    rcases starts_or_not operator tokens with ⟨position, rest, rfl⟩ | hstop
    · -- the operator is used: then an operand one level down, and the loop again with the longer
      -- expression on the left
      have hmore : Decided finish rest
          (fun kinds => ViableLinks symbol operator before (levels + 1) (operator :: kinds))
          fun finish tokens => (symbol.read finish levels tokens).bind fun r =>
            loop finish levels (node left r.1) r.2 := by
        refine .bind (fun finish right => loop finish levels (node left right))
          (hlink levels (Nat.lt_succ_self _) rest) (fun kinds => .last) ?_
        intro used rest right hread
        -- the operand is complete, so it is one of the links before whatever the loop uses
        obtain ⟨cost, hcost, hder⟩ := exists_derives_of_read symbol hread
        have hloop := ih (fun l hl => hlink l (Nat.lt_succ_of_lt hl)) (before + 1)
          (node left right) rest
        exact hloop.congr (fun _ _ _ => rfl) fun kinds => .cons hder hcost
      exact hmore.cons (fun finish' rest' => (hloop finish').succ _ _ _ _) fun _ h => h
    · exact decided_of_stop hloop hop left hstop

/-- A whole chain: its first operand and then the loop. -/
theorem ChainProduction.settles {chain : Symbol}
    (hchain : ∀ finish, ChainProduction finish symbol chain operator node (loop finish))
    (hop : operator ≠ .endOfInput) (hlink : ∀ l ≤ levels, Settles finish l symbol) :
    Settles finish levels chain := by
  intro tokens
  have hrule : ChainRule symbol chain operator node := (hchain finish).rule
  have hwhole : Decided finish tokens (Viable chain levels) fun finish tokens =>
      (symbol.read finish levels tokens).bind fun r => loop finish levels r.1 r.2 := by
    refine .bind (fun finish left => loop finish levels left) (hlink levels (Nat.le_refl _) tokens)
      (fun kinds => .first hrule) ?_
    intro used rest left hread
    obtain ⟨cost, hcost, hder⟩ := exists_derives_of_read symbol hread
    have hloop := ChainLoop.settles (fun finish => (hchain finish).chainLoop) hop
      (fun l hl => hlink l (Nat.le_of_lt hl)) 0 left rest
    exact hloop.congr (fun _ _ _ => rfl) fun kinds => ViableLinks.chain hrule hder hcost
  exact hwhole.congr (fun finish' tokens' _ => (hchain finish').read levels tokens') fun _ h => h

end Chains

/-- A group fails at the token where its parenthesis should be closed. -/
theorem decided_closeGroup {viable : List TokenKind → Prop} (inner : Expr) (hviable : viable [])
    (tokens : List Token) :
    Decided finish tokens viable fun finish => closeGroup finish inner := by
  rcases starts_or_not .closeParen tokens with ⟨position, rest, rfl⟩ | hno
  · exact .token inner fun finish' rest' => rfl
  · refine .refuse (.expected .closeParen (nextToken finish tokens).kind
      (nextToken finish tokens).position) hviable ⟨rfl, rfl⟩ fun finish' rest' hnext => ?_
    rw [closeGroup_eq_error (forall_head?_congr (· ≠ .closeParen) (by simp) hnext hno), hnext]

theorem settles_operand (hd : ∀ l < levels, Settles finish l .disjunction) :
    Settles finish levels .operand := by
  intro tokens
  change Decided finish tokens (Viable .operand levels) fun finish => operand finish levels
  rcases starts_of_or_not (·.StartsOperand) tokens with
    ⟨kind, position, rest, hstart, rfl⟩ | hno
  case inr =>
    refine .refuse (unexpected finish tokens) (.nil _ _) rfl fun finish' rest' hnext => ?_
    rw [operand_unexpected (forall_head?_congr (fun kind => ¬ kind.StartsOperand) id hnext hno),
      unexpected, unexpected, hnext]
  cases kind with
  | openParen =>
    cases levels with
    | zero =>
      -- in place of the parenthesis there could be a quoted text
      exact .refuse_token (.nestingTooDeep position) (.nil _ _) rfl (by simp)
        fun finish' rest' => operand_zero
    | succ levels =>
      have hinside : Decided finish rest
          (fun kinds => Viable .operand (levels + 1) (.openParen :: kinds))
          fun finish tokens => (disjunction finish levels tokens).bind fun r =>
            closeGroup finish r.1 r.2 := by
        refine .bind closeGroup (hd levels (Nat.lt_succ_self _) rest) (fun kinds => .group) ?_
        intro used rest inner hread
        obtain ⟨cost, hcost, hder⟩ := exists_derives_of_read .disjunction hread
        -- what was used is complete but for the parenthesis
        refine decided_closeGroup inner ?_ rest
        rw [List.append_nil]
        exact (Viable.of_derives hder hcost).group
      exact hinside.cons (fun finish' rest' => operand_succ) fun _ h => h
  | string value => exact .token _ fun finish' rest' => operand_string
  | number value => exact .token _ fun finish' rest' => operand_number
  | identifier word =>
    by_cases hword : IsPath word
    · exact .token _ fun finish' rest' => operand_path hword
    · exact .refuse_token (.invalidFieldPath word position) (.nil _ _) rfl (by simp)
        fun finish' rest' => operand_not_path hword
  | _ => exact absurd hstart id

theorem settles_rightOperand (ho : Settles finish levels .operand) :
    Settles finish levels .rightOperand := by
  intro tokens
  change Decided finish tokens (Viable .rightOperand levels) fun finish =>
    rightOperand finish levels
  rcases starts_word_or_not tokens with ⟨word, position, rest, rfl⟩ | hno
  · exact .token _ fun finish' rest' => rightOperand_identifier
  · have hoperand : Decided finish tokens (Viable .rightOperand levels) fun finish tokens =>
        (operand finish levels tokens).bind fun r => .ok (r.1.asText, r.2) := by
      refine .bind (fun _ right rest => .ok (right.asText, rest)) (ho tokens)
        (fun kinds => .asText) ?_
      exact fun used rest right _ => .stop right.asText fun _ _ _ => rfl
    -- a word is read apart, and so is not the end: whether it comes is seen in the next token
    refine hoperand.congr (fun finish' tokens' hnext => rightOperand_eq ?_) fun _ h => h
    exact forall_head?_congr (fun kind => ∀ word, kind ≠ .identifier word) (by simp) hnext hno

/-- After a left operand and a comparison, the right operand decides. -/
theorem decided_compared (hr : Settles finish levels .rightOperand) {operator : TokenKind}
    {node : Expr → Expr → Expr} (hrule : ComparisonRule operator node)
    (hnode : ∀ finish left position rest,
      comparedWith finish levels left (⟨operator, position⟩ :: rest)
        = (rightOperand finish levels rest).bind fun r => .ok (node left r.1, r.2))
    {kinds : List TokenKind} {left : Expr} {cost position : Nat}
    (hl : Derives .operand kinds left cost) (hcost : cost ≤ levels) (rest : List Token) :
    Decided finish (⟨operator, position⟩ :: rest)
      (fun kinds' => Viable .comparison levels (kinds ++ kinds'))
      fun finish => comparedWith finish levels left := by
  have hright : Decided finish rest
      (fun kinds' => Viable .comparison levels (kinds ++ operator :: kinds'))
      fun finish tokens => (rightOperand finish levels tokens).bind fun r =>
        .ok (node left r.1, r.2) := by
    refine .bind (fun _ right rest => .ok (node left right, rest)) (hr rest)
      (fun kinds' => .compared hrule hl hcost) ?_
    exact fun used rest right _ => .stop (node left right) fun _ _ _ => rfl
  exact hright.cons (fun finish' rest' => hnode finish' left position rest') fun _ h => h

theorem settles_comparison (ho : Settles finish levels .operand)
    (hr : Settles finish levels .rightOperand) : Settles finish levels .comparison := by
  intro tokens
  have hwhole : Decided finish tokens (Viable .comparison levels) fun finish tokens =>
      (operand finish levels tokens).bind fun r => comparedWith finish levels r.1 r.2 := by
    refine .bind (fun finish left => comparedWith finish levels left) (ho tokens)
      (fun kinds => .single) ?_
    intro used rest left hread
    obtain ⟨cost, hcost, hder⟩ := exists_derives_of_read .operand hread
    rcases starts_or_not .equals rest with ⟨position, rest, rfl⟩ | hequals
    · exact decided_compared hr .equals (fun _ _ _ _ => rfl) hder hcost rest
    rcases starts_or_not .contains rest with ⟨position, rest, rfl⟩ | hcontains
    · exact decided_compared hr .contains (fun _ _ _ _ => rfl) hder hcost rest
    -- any other token is left to the productions around the comparison
    refine .stop left fun finish' rest' hnext => comparedWith_stop ?_
    exact forall_head?_congr (fun kind => kind ≠ .equals ∧ kind ≠ .contains) (by simp) hnext
      fun token htoken => ⟨hequals token htoken, hcontains token htoken⟩
  exact hwhole.congr (fun finish' tokens' _ => comparison_eq) fun _ h => h

theorem settles_negation (hc : Settles finish levels .comparison)
    (hn : ∀ l < levels, Settles finish l .negation) : Settles finish levels .negation := by
  intro tokens
  change Decided finish tokens (Viable .negation levels) fun finish => negation finish levels
  rcases starts_or_not .not tokens with ⟨position, rest, rfl⟩ | hno
  · -- the word `not` takes a level before anything after it is read
    cases levels with
    | zero =>
      -- without the word there could be any comparison
      exact .refuse_token (.nestingTooDeep position) (.nil _ _) rfl (by simp)
        fun finish' rest' => negation_zero
    | succ levels =>
      have hoperand : Decided finish rest
          (fun kinds => Viable .negation (levels + 1) (.not :: kinds))
          fun finish tokens => (negation finish levels tokens).bind fun r =>
            .ok (.not r.1, r.2) := by
        refine .bind (fun _ operand rest => .ok (.not operand, rest))
          (hn levels (Nat.lt_succ_self _) rest) (fun kinds => .not) ?_
        exact fun used rest operand _ => .stop operand.not fun _ _ _ => rfl
      exact hoperand.cons (fun finish' rest' => negation_succ) fun _ h => h
  · refine (hc tokens).congr (fun finish' tokens' hnext => negation_eq_comparison ?_)
      fun kinds => Viable.affirmation
    exact forall_head?_congr (· ≠ .not) (by simp) hnext hno

/-- **What every production does is decided by the next token.** -/
theorem settles (finish levels : Nat) (symbol : Symbol) : Settles finish levels symbol := by
  induction levels, symbol using Symbol.induction with
  | operand _ hd => exact settles_operand hd
  | rightOperand _ ho => exact settles_rightOperand ho
  | comparison _ ho hr => exact settles_comparison ho hr
  | negation _ hc hn => exact settles_negation hc hn
  | conjunction _ hlink => exact ChainProduction.settles chainProduction_conjunction (by simp) hlink
  | disjunction _ hlink => exact ChainProduction.settles chainProduction_disjunction (by simp) hlink

end Productions

/-! ### The token that is to blame -/

section Blame

variable {error : SyntaxError} {expr : Expr}

/-- Nothing may follow an expression but the end. -/
def endOfFilter (finish : Nat) (expr : Expr) (tokens : List Token) : Parsed :=
  if (nextToken finish tokens).kind = .endOfInput then .ok (expr, tokens)
  else .error (unexpected finish tokens)

/-- An expression and then the end. -/
def wholeFilter (finish : Nat) (tokens : List Token) : Parsed :=
  (disjunction finish 256 tokens).bind fun r => endOfFilter finish r.1 r.2

theorem parse_eq : parse tokens = (wholeFilter (finishOf tokens) tokens).map (·.1) := by
  rw [wholeFilter, parse, deepestNesting]
  cases disjunction (finishOf tokens) 256 tokens with
  | error error => rfl
  | ok r =>
    simp only [Except.bind, endOfFilter]
    split <;> rfl

theorem decided_endOfFilter {viable : List TokenKind → Prop} (expr : Expr) (hviable : viable [])
    (tokens : List Token) :
    Decided finish tokens viable fun finish => endOfFilter finish expr := by
  by_cases hend : (nextToken finish tokens).kind = .endOfInput
  · refine .stop expr fun finish' rest' hnext => if_pos ?_
    rw [hnext, hend]
  · refine .refuse (unexpected finish tokens) hviable rfl fun finish' rest' hnext => ?_
    rw [endOfFilter, hnext, if_neg hend, unexpected, unexpected, hnext]

theorem decided_wholeFilter (finish : Nat) (tokens : List Token) :
    Decided finish tokens (Viable .disjunction 256) wholeFilter := by
  refine .bind endOfFilter (settles finish 256 .disjunction tokens) (fun _ h => h) ?_
  intro used rest expr hread
  obtain ⟨cost, hcost, hder⟩ := exists_derives_of_read .disjunction hread
  refine decided_endOfFilter expr ?_ rest
  rw [List.append_nil]
  exact .of_derives hder hcost

/-- Whatever keeps tokens from being an expression is decided by a viable stretch of them and the
token after it. -/
theorem exists_blamed (h : parse tokens = .error error) :
    ∃ used rest, tokens = used ++ rest ∧ Viable .disjunction 256 (used.map (·.kind)) ∧
      error.Blames (nextToken (finishOf tokens) rest) ∧
      ∀ rest', nextToken (finishOf (used ++ rest')) rest' = nextToken (finishOf tokens) rest →
        parse (used ++ rest') = .error error := by
  rw [parse_eq] at h
  cases decided_wholeFilter (finishOf tokens) tokens with
  | reads used rest expr hcut hreads =>
    -- the tokens are an expression, against the error
    rw [hcut, hreads _ rest (by rw [hcut])] at h
    cases h
  | fails used rest error' hcut hviable hblames hfails =>
    rw [congrArg (wholeFilter _) hcut, hfails _ rest rfl] at h
    cases h
    refine ⟨used, rest, hcut, hviable, hblames, fun rest' hnext => ?_⟩
    rw [parse_eq, hfails _ rest' hnext]
    rfl

theorem Viable.endOfInput_notMem {kinds : List TokenKind} (h : Viable symbol levels kinds) :
    TokenKind.endOfInput ∉ kinds := by
  obtain ⟨more, expr, cost, hder, -⟩ := h
  exact fun hmem => hder.endOfInput_notMem (List.mem_append_left more hmem)

/-- Viable tokens can be gone on with to tokens that have an expression. -/
theorem Viable.exists_parse {used : List Token}
    (h : Viable .disjunction 256 (used.map (·.kind))) :
    ∃ following expr, parse (used ++ following) = .ok expr := by
  obtain ⟨more, expr, cost, hder, hcost⟩ := h
  set following := more.map (Token.mk · 0) with hfollowing
  have hkinds : (used ++ following).map (·.kind) = used.map (·.kind) ++ more := by
    rw [List.map_append, hfollowing, List.map_map]
    exact congrArg _ (List.map_id _)
  -- a derived stretch holds no end, so all of it comes before the end
  have hbefore : kindsBeforeEnd ((used ++ following) ++ []) = (used ++ following).map (·.kind) :=
    kindsBeforeEnd_append (by rw [hkinds]; exact hder.endOfInput_notMem) (by simp)
  rw [List.append_nil, hkinds] at hbefore
  refine ⟨following, expr, (parse_eq_ok_iff _ _).mpr ⟨cost, hcost, ?_⟩⟩
  rwa [hbefore]

/-- **Errors are found at the earliest token and are final.** Only a closing parenthesis is ever
expected. And if the tokens say where the filter ends, the error is about one of them, not past the
first end: with that token, whatever follows it, the error is the same, and without it the tokens
before it can be gone on with to an expression. -/
theorem blamed_of_parse_eq_error (h : parse tokens = .error error) :
    (∀ wanted found position, error = .expected wanted found position → wanted = .closeParen) ∧
    ((∃ token ∈ tokens, token.kind = .endOfInput) →
      ∃ before token after, tokens = before ++ token :: after ∧
        (∀ earlier ∈ before, earlier.kind ≠ .endOfInput) ∧
        error.position = token.position ∧ error.Blames token ∧
        (∀ following, parse (before ++ token :: following) = .error error) ∧
        ∃ following expr, parse (before ++ following) = .ok expr) := by
  obtain ⟨used, rest, rfl, hviable, hblames, hfinal⟩ := exists_blamed h
  refine ⟨?_, fun ⟨token, hmem, hend⟩ => ?_⟩
  · rintro wanted found position rfl
    exact hblames.1
  -- the end is not among the tokens used, so there is a next one
  have hused : ∀ earlier ∈ used, earlier.kind ≠ .endOfInput := by
    intro earlier hearlier hkind
    exact hviable.endOfInput_notMem (List.mem_map.mpr ⟨earlier, hearlier, hkind⟩)
  obtain ⟨next, after, rfl⟩ : ∃ next after, rest = next :: after := by
    rcases List.mem_append.mp hmem with hmem | hmem
    · exact absurd hend (hused token hmem)
    · exact List.exists_cons_of_ne_nil (List.ne_nil_of_mem hmem)
  exact ⟨used, next, after, rfl, hused, hblames.position_eq, hblames,
    fun following => hfinal _ rfl, hviable.exists_parse⟩

/-- A group in which a word stands where it should be closed. -/
def unclosedGroup : List Token :=
  [⟨.openParen, 0⟩, ⟨.identifier ['a'], 1⟩, ⟨.equals, 3⟩, ⟨.identifier ['b'], 5⟩,
    ⟨.identifier ['c'], 7⟩, ⟨.closeParen, 8⟩, ⟨.endOfInput, 9⟩]

/-- The word is to blame: no closing parenthesis after it helps, and one in its place does. -/
theorem blamed_unclosedGroup :
    parse unclosedGroup = .error (.expected .closeParen (.identifier ['c']) 7) ∧
      ∃ before token after, unclosedGroup = before ++ token :: after ∧
        token = ⟨.identifier ['c'], 7⟩ ∧
        (∀ following, parse (before ++ token :: following)
          = .error (.expected .closeParen (.identifier ['c']) 7)) ∧
        ∃ following expr, parse (before ++ following) = .ok expr := by
  have h : parse unclosedGroup = .error (.expected .closeParen (.identifier ['c']) 7) := by cbv
  obtain ⟨before, token, after, hcut, -, -, hblames, hfinal, hviable⟩ :=
    (blamed_of_parse_eq_error h).2 ⟨⟨.endOfInput, 9⟩, by decide, rfl⟩
  exact ⟨h, before, token, after, hcut, hblames.2, hfinal, hviable⟩

end Blame

end LogSieve
