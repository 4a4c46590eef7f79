import LogSieve.Proofs.Filter.Derivation

/-!
# The parser recognises the derivations

The parser and the relation `Derives` agree, in both directions and with the nesting limit between
them.

* Soundness (`sound`): what a production reads with some levels left is derived from its symbol,
  with the tree that it returns and at a cost within the levels.
* Completeness (`Derives.recognised`): on a derived stretch a production reads exactly the stretch
  and returns its tree if the cost is within the levels left, and fails for the nesting if not.

Both go production by production: completeness along the derivation, and soundness, as whatever else
is said of the productions later, in the order in which they call each other (`Symbol.induction`).
The loop of the chains is where the levels are counted: after `before` operators it has `before`
levels less than the chain was given, and an operand there costs `before` levels more than by
itself, so both sides of the comparison are shifted by the same amount (`ChainLoop.sound`,
`ChainLoop.reading`).

Since a production has one result, the grammar is unambiguous (`Derives.unique`).

The main statement is `parse_eq_ok_iff`, the case of 256 levels of `parsesWithin_iff`. The failing
half of completeness gives `parse_of_derives_lt`: an expression that nests too deep fails for that
and for nothing else.
-/

namespace LogSieve

variable {finish levels : Nat} {symbol : Symbol}

/-- What reads a stretch derived from a symbol. -/
def Symbol.read (finish : Nat) : Symbol → (levels : Nat) → List Token → Parsed
  | disjunction => LogSieve.disjunction finish
  | conjunction => LogSieve.conjunction finish
  | negation => LogSieve.negation finish
  | comparison => LogSieve.comparison finish
  | rightOperand => LogSieve.rightOperand finish
  | operand => LogSieve.operand finish

/-- **Induction over the productions.** They call each other with fewer levels, or with the same
levels and a tighter production, so they are taken up level by level and from the tightest to the
loosest. -/
theorem Symbol.induction {motive : Nat → Symbol → Prop}
    (operand : ∀ n, (∀ m < n, motive m .disjunction) → motive n .operand)
    (rightOperand : ∀ n, motive n .operand → motive n .rightOperand)
    (comparison : ∀ n, motive n .operand → motive n .rightOperand → motive n .comparison)
    (negation : ∀ n, motive n .comparison → (∀ m < n, motive m .negation) → motive n .negation)
    (conjunction : ∀ n, (∀ m ≤ n, motive m .negation) → motive n .conjunction)
    (disjunction : ∀ n, (∀ m ≤ n, motive m .conjunction) → motive n .disjunction)
    (levels : Nat) (symbol : Symbol) : motive levels symbol := by
  induction levels using Nat.strongRecOn generalizing symbol with
  | _ levels ih =>
  -- from the tightest production to the loosest, each with those before it at hand
  have hoperand : motive levels .operand := operand levels fun m hm => ih m hm _
  have hright : motive levels .rightOperand := rightOperand levels hoperand
  have hcomparison : motive levels .comparison := comparison levels hoperand hright
  have hnegation : motive levels .negation := negation levels hcomparison fun m hm => ih m hm _
  have hconjunction : motive levels .conjunction := by
    refine conjunction levels fun m hm => ?_
    -- a chain gives its first operand all levels that are left, and the others fewer
    rcases Nat.lt_or_eq_of_le hm with hm | rfl
    · exact ih m hm _
    · exact hnegation
  have hdisjunction : motive levels .disjunction := by
    refine disjunction levels fun m hm => ?_
    rcases Nat.lt_or_eq_of_le hm with hm | rfl
    · exact ih m hm _
    · exact hconjunction
  cases symbol <;> assumption

/-- The kinds with which a production goes on after a whole stretch of its symbol. -/
def Symbol.goesOnWith : Symbol → List TokenKind
  | disjunction => [.or, .and, .equals, .contains]
  | conjunction => [.and, .equals, .contains]
  | negation | comparison => [.equals, .contains]
  | rightOperand | operand => []

/-- The production of `chain` reads an operand of the symbol `link` and then runs the loop. -/
structure ChainProduction (finish : Nat) (link chain : Symbol) (operator : TokenKind)
    (node : Expr → Expr → Expr) (loop : (levels : Nat) → Expr → List Token → Parsed) : Prop where
  chainLoop : ChainLoop operator node (link.read finish) loop
  read : ∀ levels tokens, chain.read finish levels tokens
    = (link.read finish levels tokens).bind fun r => loop levels r.1 r.2
  rule : ChainRule link chain operator node
  /-- Of the kinds that a chain goes on with, its operator is the only one that its operands do not
  go on with. -/
  goesOn : chain.goesOnWith = operator :: link.goesOnWith
  notMem : operator ∉ link.goesOnWith

theorem chainProduction_disjunction (finish : Nat) :
    ChainProduction finish .conjunction .disjunction .or .or (moreDisjuncts finish) where
  chainLoop := chainLoop_moreDisjuncts finish
  read _ _ := disjunction_eq
  rule := chainRule_disjunction
  goesOn := rfl
  notMem := by simp [Symbol.goesOnWith]

theorem chainProduction_conjunction (finish : Nat) :
    ChainProduction finish .negation .conjunction .and .and (moreConjuncts finish) where
  chainLoop := chainLoop_moreConjuncts finish
  read _ _ := conjunction_eq
  rule := chainRule_conjunction
  goesOn := rfl
  notMem := by simp [Symbol.goesOnWith]

/-- A sequence of tokens starts with a kind of some sort, or it does not. -/
theorem starts_of_or_not (p : TokenKind → Prop) (tokens : List Token) :
    (∃ kind position rest, p kind ∧ tokens = ⟨kind, position⟩ :: rest) ∨
      ∀ token ∈ tokens.head?, ¬p token.kind := by
  by_cases h : ∀ token ∈ tokens.head?, ¬p token.kind
  · exact .inr h
  push Not at h
  obtain ⟨⟨kind, position⟩, htoken, hkind⟩ := h
  obtain ⟨rest, rfl⟩ := List.head?_eq_some_iff.mp htoken
  exact .inl ⟨kind, position, rest, hkind, rfl⟩

theorem starts_or_not (kind : TokenKind) (tokens : List Token) :
    (∃ position rest, tokens = ⟨kind, position⟩ :: rest) ∨
      ∀ token ∈ tokens.head?, token.kind ≠ kind := by
  rcases starts_of_or_not (· = kind) tokens with ⟨_, position, rest, rfl, htokens⟩ | hno
  · exact .inl ⟨position, rest, htokens⟩
  · exact .inr hno

theorem starts_word_or_not (tokens : List Token) :
    (∃ word position rest, tokens = ⟨.identifier word, position⟩ :: rest) ∨
      ∀ token ∈ tokens.head?, ∀ word, token.kind ≠ .identifier word := by
  rcases starts_of_or_not (∃ word, · = .identifier word) tokens with
    ⟨_, position, rest, ⟨word, rfl⟩, htokens⟩ | hno
  · exact .inl ⟨word, position, rest, htokens⟩
  · exact .inr fun token htoken word hword => hno token htoken ⟨word, hword⟩

theorem exists_eq_cons_of_map_kind {tokens : List Token} {kind : TokenKind}
    {kinds : List TokenKind} (h : tokens.map (·.kind) = kind :: kinds) :
    ∃ position rest, tokens = ⟨kind, position⟩ :: rest ∧ rest.map (·.kind) = kinds := by
  obtain ⟨⟨_, position⟩, rest, rfl, rfl, hrest⟩ := List.map_eq_cons_iff.mp h
  exact ⟨position, rest, rfl, hrest⟩

/-! ### Soundness -/

/-- With some levels left, the production of a symbol reads only what is derived from it. -/
def Sound (finish levels : Nat) (symbol : Symbol) : Prop :=
  ∀ tokens expr rest, symbol.read finish levels tokens = .ok (expr, rest) →
    ∃ used cost, tokens = used ++ rest ∧ Derives symbol (used.map (·.kind)) expr cost ∧
      cost ≤ levels

section Soundness

variable {operator : TokenKind} {node : Expr → Expr → Expr}
  {loop : (levels : Nat) → Expr → List Token → Parsed} {left expr : Expr} {tokens rest : List Token}

theorem ChainLoop.sound (hloop : ChainLoop operator node (symbol.read finish) loop)
    (hlink : ∀ l < levels, Sound finish l symbol) (before : Nat)
    (h : loop levels left tokens = .ok (expr, rest)) :
    ∃ used links, tokens = used ++ rest ∧ used.map (·.kind) = linksKinds operator links ∧
      expr = linksExpr node left links ∧
      (∀ link ∈ links, Derives symbol link.kinds link.expr link.cost) ∧
      linksCost (before + 1) links ≤ before + levels := by
  induction levels generalizing left tokens before with
  | zero =>
    -- without a level left the loop fails at an operator and ends at anything else
    rcases starts_or_not operator tokens with ⟨position, rest', rfl⟩ | hstop
    · rw [hloop.zero] at h
      cases h
    · rw [hloop.stop _ _ _ hstop] at h
      cases h
      exact ⟨[], [], rfl, rfl, rfl, by simp, Nat.zero_le _⟩
  | succ levels ih =>
    rcases starts_or_not operator tokens with ⟨position, rest', rfl⟩ | hstop
    · -- one level goes to the operator, so the operand has one less and the loop counts one more
      rw [hloop.succ] at h
      obtain ⟨⟨right, rest''⟩, hright, h'⟩ := bind_eq_ok h
      obtain ⟨used, cost, rfl, hd, hcost⟩ := hlink levels (Nat.lt_succ_self _) _ _ _ hright
      obtain ⟨used', links, rfl, hk, he, hds, hcosts⟩ :=
        ih (fun l hl => hlink l (Nat.lt_succ_of_lt hl)) (before + 1) h'
      refine ⟨⟨operator, position⟩ :: used ++ used', ⟨used.map (·.kind), right, cost⟩ :: links, ?_,
        ?_, he, ?_, ?_⟩
      · simp
      · rw [linksKinds, List.flatMap_cons, List.map_append, hk]
        rfl
      · rw [List.forall_mem_cons]
        exact ⟨hd, hds⟩
      · -- the operand behind `before + 1` operators costs that much more than by itself
        rw [linksCost_le_iff]
        simp only
        omega
    · rw [hloop.stop _ _ _ hstop] at h
      cases h
      exact ⟨[], [], rfl, rfl, rfl, by simp, Nat.zero_le _⟩

/-- A whole chain: its first operand and then the loop. -/
theorem ChainProduction.sound {chain : Symbol}
    (hchain : ChainProduction finish symbol chain operator node loop)
    (hlink : ∀ l ≤ levels, Sound finish l symbol) : Sound finish levels chain := by
  intro tokens expr rest h
  rw [hchain.read] at h
  obtain ⟨⟨left, rest'⟩, hleft, h'⟩ := bind_eq_ok h
  obtain ⟨used, cost, rfl, hder, hcost⟩ := hlink levels (Nat.le_refl _) _ _ _ hleft
  -- no operator stands before the first operand, so the loop starts to count at none
  obtain ⟨used', links, rfl, hk, rfl, hders, hcosts⟩ :=
    hchain.chainLoop.sound (fun l hl => hlink l (Nat.le_of_lt hl)) 0 h'
  have hwhole := hchain.rule ⟨used.map (·.kind), left, cost⟩ links
    (by rw [List.forall_mem_cons]; exact ⟨hder, hders⟩)
  have htotal : linksCost 0 (⟨used.map (·.kind), left, cost⟩ :: links) ≤ levels := by
    rw [linksCost_le_iff]
    rw [Nat.zero_add levels] at hcosts
    exact ⟨by rwa [Nat.zero_add], hcosts⟩
  refine ⟨used ++ used', _, by rw [List.append_assoc], ?_, htotal⟩
  rw [List.map_append, hk]
  exact hwhole

theorem sound_operand (hd : ∀ l < levels, Sound finish l .disjunction) :
    Sound finish levels .operand := by
  intro tokens expr rest h
  change operand finish levels tokens = _ at h
  rcases tokens with _ | ⟨⟨kind, position⟩, tokens⟩
  · rw [operand_unexpected (by simp)] at h
    cases h
  cases kind with
  | openParen =>
    -- the parenthesis takes the level that the expression in it no longer has
    cases levels with
    | zero =>
      rw [operand_zero] at h
      cases h
    | succ levels =>
      rw [operand_succ] at h
      obtain ⟨⟨inner, rest'⟩, hinner, h'⟩ := bind_eq_ok h
      obtain ⟨rfl, position', rfl⟩ := closeGroup_eq_ok h'
      obtain ⟨used, cost, rfl, hder, hcost⟩ := hd levels (Nat.lt_succ_self _) _ _ _ hinner
      refine ⟨⟨.openParen, position⟩ :: used ++ [⟨.closeParen, position'⟩], 1 + cost, by simp, ?_,
        by omega⟩
      simpa using hder.group
  | string value =>
    rw [operand_string] at h
    cases h
    exact ⟨[_], 0, rfl, .string, Nat.zero_le _⟩
  | number value =>
    rw [operand_number] at h
    cases h
    exact ⟨[_], 0, rfl, .number, Nat.zero_le _⟩
  | identifier word =>
    by_cases hw : IsPath word
    · rw [operand_path hw] at h
      cases h
      exact ⟨[_], 0, rfl, .field hw, Nat.zero_le _⟩
    · rw [operand_not_path hw] at h
      cases h
  | _ =>
    -- no other kind starts an operand
    rw [operand_unexpected (by simp [TokenKind.StartsOperand])] at h
    cases h

theorem sound_rightOperand (ho : Sound finish levels .operand) :
    Sound finish levels .rightOperand := by
  intro tokens expr rest h
  change rightOperand finish levels tokens = _ at h
  -- only a word in front makes the right side different from the left
  rcases starts_word_or_not tokens with ⟨word, position, rest', rfl⟩ | hno
  · -- a bare word, whose dots are not looked at
    rw [rightOperand_identifier] at h
    cases h
    exact ⟨[_], 0, rfl, @Derives.word word 0 (by simp), Nat.zero_le _⟩
  · rw [rightOperand_eq hno] at h
    obtain ⟨⟨right, rest'⟩, hright, h'⟩ := bind_eq_ok h
    obtain ⟨used, cost, rfl, hder, hcost⟩ := ho _ _ _ hright
    cases h'
    exact ⟨used, cost, rfl, hder.asText, hcost⟩

theorem sound_comparison (ho : Sound finish levels .operand)
    (hr : Sound finish levels .rightOperand) : Sound finish levels .comparison := by
  intro tokens expr rest h
  change comparison finish levels tokens = _ at h
  rw [comparison_eq] at h
  obtain ⟨⟨left, rest'⟩, hleft, h'⟩ := bind_eq_ok h
  obtain ⟨used, cost, rfl, hder, hcost⟩ := ho _ _ _ hleft
  -- behind the left operand stands `=`, or `contains`, or nothing of this production
  rcases comparedWith_eq_ok h' with
    ⟨position, following, right, rfl, hright, rfl⟩ |
    ⟨position, following, right, rfl, hright, rfl⟩ | ⟨rfl, rfl⟩
  · obtain ⟨used', cost', rfl, hder', hcost'⟩ := hr _ _ _ hright
    refine ⟨used ++ ⟨.equals, position⟩ :: used', max cost cost', by simp, ?_, by omega⟩
    simpa using hder.equals hder'
  · obtain ⟨used', cost', rfl, hder', hcost'⟩ := hr _ _ _ hright
    refine ⟨used ++ ⟨.contains, position⟩ :: used', max cost cost', by simp, ?_, by omega⟩
    simpa using hder.contains hder'
  · exact ⟨used, cost, rfl, hder.single, hcost⟩

theorem sound_negation (hc : Sound finish levels .comparison)
    (hn : ∀ l < levels, Sound finish l .negation) : Sound finish levels .negation := by
  intro tokens expr rest h
  change negation finish levels tokens = _ at h
  rcases starts_or_not .not tokens with ⟨position, rest', rfl⟩ | hno
  · cases levels with
    | zero =>
      rw [negation_zero] at h
      cases h
    | succ levels =>
      rw [negation_succ] at h
      obtain ⟨⟨operand, rest''⟩, hoperand, h'⟩ := bind_eq_ok h
      obtain ⟨used, cost, rfl, hder, hcost⟩ := hn levels (Nat.lt_succ_self _) _ _ _ hoperand
      cases h'
      exact ⟨⟨.not, position⟩ :: used, 1 + cost, rfl, hder.not, by omega⟩
  · -- without a `not` the negation is a comparison
    rw [negation_eq_comparison hno] at h
    obtain ⟨used, cost, rfl, hder, hcost⟩ := hc _ _ _ h
    exact ⟨used, cost, rfl, hder.affirmation, hcost⟩

/-- **Soundness.** -/
theorem sound (finish levels : Nat) (symbol : Symbol) : Sound finish levels symbol := by
  induction levels, symbol using Symbol.induction with
  | operand _ hd => exact sound_operand hd
  | rightOperand _ ho => exact sound_rightOperand ho
  | comparison _ ho hr => exact sound_comparison ho hr
  | negation _ hc hn => exact sound_negation hc hn
  | conjunction _ hlink => exact (chainProduction_conjunction finish).sound hlink
  | disjunction _ hlink => exact (chainProduction_disjunction finish).sound hlink

end Soundness

/-! ### The result of reading a derived stretch -/

/-- A stretch of a cost was read with some levels left: the result is its tree and what comes after
it if the cost is within the levels, and an error for the nesting if it is not. -/
structure Reading (cost levels : Nat) (expr : Expr) (rest : List Token) (result : Parsed) :
    Prop where
  ok : cost ≤ levels → result = .ok (expr, rest)
  tooDeep : levels < cost → ∃ position, result = .error (.nestingTooDeep position)

namespace Reading

variable {cost cost' : Nat} {expr expr' : Expr} {rest rest' : List Token} {result : Parsed}

theorem of_ok : Reading 0 levels expr rest (.ok (expr, rest)) where
  ok _ := rfl
  tooDeep h := absurd h (Nat.not_lt_zero _)

/-- A sequence costs as much as the dearer of its parts. -/
theorem bind {next : Expr × List Token → Parsed} (h : Reading cost levels expr rest result)
    (h' : Reading cost' levels expr' rest' (next (expr, rest))) :
    Reading (max cost cost') levels expr' rest' (result.bind next) where
  ok hle := by
    rw [h.ok (by omega)]
    exact h'.ok (by omega)
  tooDeep hlt := by
    -- if the first part costs too much the second is not read, and otherwise the second does
    rcases Nat.lt_or_ge levels cost with hcost | hcost
    · obtain ⟨position, hresult⟩ := h.tooDeep hcost
      exact ⟨position, by rw [hresult]; rfl⟩
    · rw [h.ok hcost]
      exact h'.tooDeep (by omega)

/-- What follows without a cost leaves the cost as it is. -/
theorem bind_ok {next : Expr × List Token → Parsed} (h : Reading cost levels expr rest result)
    (hnext : next (expr, rest) = .ok (expr', rest')) :
    Reading cost levels expr' rest' (result.bind next) := by
  rw [← Nat.max_eq_left (Nat.zero_le cost)]
  refine h.bind ?_
  rw [hnext]
  exact of_ok

/-- Taking a level costs one. -/
theorem descend {read : (levels : Nat) → Parsed}
    (hzero : ∃ position, read 0 = .error (.nestingTooDeep position))
    (hsucc : ∀ levels, Reading cost levels expr rest (read (levels + 1))) (levels : Nat) :
    Reading (1 + cost) levels expr rest (read levels) := by
  -- with no level left it has to fail; otherwise both sides of the comparison lose one
  cases levels with
  | zero => exact ⟨fun hle => by omega, fun _ => hzero⟩
  | succ levels =>
    exact ⟨fun hle => (hsucc levels).ok (by omega), fun hlt => (hsucc levels).tooDeep (by omega)⟩

/-- Levels that were taken before count on both sides. -/
theorem shift (before : Nat) (h : Reading cost levels expr rest result) :
    Reading (before + cost) (before + levels) expr rest result where
  ok hle := h.ok (by omega)
  tooDeep hlt := h.tooDeep (by omega)

end Reading

/-! ### Completeness -/

/-- A stretch of the symbol ends before the tokens. -/
def Stops (symbol : Symbol) (rest : List Token) : Prop :=
  ∀ token ∈ rest.head?, token.kind ∉ symbol.goesOnWith

/-- The production of the symbol reads the kinds as the tree at the cost, whatever the positions of
their tokens, the levels left and the tokens after them. -/
def Recognised (finish : Nat) (symbol : Symbol) (kinds : List TokenKind) (expr : Expr)
    (cost : Nat) : Prop :=
  ∀ levels tokens rest, tokens.map (·.kind) = kinds → Stops symbol rest →
    Reading cost levels expr rest (symbol.read finish levels (tokens ++ rest))

section Completeness

variable {operator : TokenKind} {node : Expr → Expr → Expr}
  {loop : (levels : Nat) → Expr → List Token → Parsed} {left expr : Expr} {tokens rest : List Token}
  {kinds : List TokenKind} {cost : Nat} {links : List Link}

/-- The stretch of an operand ends before the operator of the next one. -/
theorem stops_linksKinds (hop : operator ∉ symbol.goesOnWith) (hrest : Stops symbol rest)
    (hk : tokens.map (·.kind) = linksKinds operator links) : Stops symbol (tokens ++ rest) := by
  cases tokens with
  | nil => exact hrest
  | cons token tokens =>
    cases links with
    | nil => cases hk
    | cons link links =>
      have hkind : token.kind = operator := (List.cons.inj hk).1
      intro token' h
      cases h
      rwa [hkind]

theorem ChainLoop.reading (hloop : ChainLoop operator node (symbol.read finish) loop)
    (hop : operator ∉ symbol.goesOnWith) (hrest : Stops symbol rest)
    (hstop : ∀ token ∈ rest.head?, token.kind ≠ operator)
    (hlinks : ∀ link ∈ links, Recognised finish symbol link.kinds link.expr link.cost)
    (hk : tokens.map (·.kind) = linksKinds operator links) (before : Nat) :
    Reading (linksCost (before + 1) links) (before + levels) (linksExpr node left links) rest
      (loop levels left (tokens ++ rest)) := by
  induction links generalizing before levels left tokens with
  | nil =>
    obtain rfl : tokens = [] := List.map_eq_nil_iff.mp hk
    rw [List.nil_append, hloop.stop _ _ _ hstop]
    exact .of_ok
  | cons link links ih =>
    rw [List.forall_mem_cons] at hlinks
    rw [linksKinds, List.flatMap_cons, List.cons_append, List.map_eq_cons_iff] at hk
    -- the tokens are cut where the kinds are: an operator, one operand, and the other links
    obtain ⟨⟨_, position⟩, following, rfl, rfl, hk⟩ := hk
    obtain ⟨linkTokens, restTokens, rfl, hlink, hk⟩ := List.map_eq_append_iff.mp hk
    cases levels with
    | zero =>
      -- the operator finds no level, and its operand would cost more than there were
      refine ⟨fun hle => ?_, fun _ => ⟨position, hloop.zero _ _ _⟩⟩
      rw [linksCost_le_iff] at hle
      omega
    | succ levels =>
      rw [List.cons_append, hloop.succ, List.append_assoc]
      -- this operand has one level less, and it stands behind one operator more
      have hfirst := hlinks.1 levels linkTokens _ hlink (stops_linksKinds hop hrest hk)
      rw [linksCost, Nat.add_comm levels 1, ← Nat.add_assoc]
      exact (hfirst.shift (before + 1)).bind (ih hlinks.2 hk (before + 1))

/-- **A chain is read** as far as its last operand, at the cost of its dearest. -/
theorem ChainProduction.recognised {chain : Symbol}
    (hchain : ChainProduction finish symbol chain operator node loop) {first : Link}
    (h : ∀ l ∈ first :: links, Recognised finish symbol l.kinds l.expr l.cost) :
    Recognised finish chain (first.kinds ++ linksKinds operator links)
      (linksExpr node first.expr links) (linksCost 0 (first :: links)) := by
  intro levels tokens rest hk hrest
  rw [Stops, hchain.goesOn] at hrest
  -- what ends the chain ends its last operand, and is not its operator
  have hlink : Stops symbol rest := fun token htoken hmem =>
    hrest token htoken (List.mem_cons_of_mem _ hmem)
  have hstop : ∀ token ∈ rest.head?, token.kind ≠ operator := fun token htoken hkind =>
    hrest token htoken (hkind ▸ List.mem_cons_self ..)
  rw [List.forall_mem_cons] at h
  obtain ⟨firstTokens, restTokens, rfl, hfirst, hk⟩ := List.map_eq_append_iff.mp hk
  -- the operators of the loop are counted from one, the first operand comes before them
  have hleft := h.1 levels firstTokens _ hfirst (stops_linksKinds hchain.notMem hlink hk)
  have hmore : Reading (linksCost 1 links) (0 + levels) (linksExpr node first.expr links) rest
      (loop levels first.expr (restTokens ++ rest)) :=
    hchain.chainLoop.reading hchain.notMem hlink hstop h.2 hk 0
  rw [Nat.zero_add] at hmore
  rw [hchain.read, List.append_assoc, linksCost, Nat.zero_add]
  exact hleft.bind hmore

theorem ChainProduction.recognised_single {chain : Symbol}
    (hchain : ChainProduction finish symbol chain operator node loop)
    (h : Recognised finish symbol kinds expr cost) : Recognised finish chain kinds expr cost := by
  have hlinks : ∀ l ∈ [⟨kinds, expr, cost⟩],
      Recognised finish symbol (Link.kinds l) l.expr l.cost := by
    rw [List.forall_mem_singleton]
    exact h
  simpa [linksKinds, linksExpr, linksCost] using hchain.recognised hlinks

theorem recognised_not (h : Recognised finish .negation kinds expr cost) :
    Recognised finish .negation (.not :: kinds) (.not expr) (1 + cost) := by
  intro levels tokens rest hk hrest
  obtain ⟨position, following, rfl, hfollowing⟩ := exists_eq_cons_of_map_kind hk
  -- `Reading.descend` compares all levels, so the level is made a variable of its own
  suffices hread : ∀ levels, Reading (1 + cost) levels (.not expr) rest
      (negation finish levels (⟨.not, position⟩ :: (following ++ rest))) from hread levels
  refine Reading.descend ⟨position, negation_zero⟩ fun levels => ?_
  rw [negation_succ]
  exact (h levels following rest hfollowing hrest).bind_ok rfl

/-- What starts with an operand starts with no `not`. -/
theorem head?_ne_not (hk : tokens.map (·.kind) = kinds)
    (hstart : ∃ kind rest, kinds = kind :: rest ∧ kind.StartsOperand) :
    ∀ token ∈ (tokens ++ rest).head?, token.kind ≠ .not := by
  obtain ⟨kind, kinds, rfl, hstart⟩ := hstart
  obtain ⟨position, following, rfl, -⟩ := exists_eq_cons_of_map_kind hk
  intro token htoken hnot
  cases htoken
  subst hnot
  exact hstart

theorem recognised_affirmation (hstart : ∃ kind rest, kinds = kind :: rest ∧ kind.StartsOperand)
    (h : Recognised finish .comparison kinds expr cost) :
    Recognised finish .negation kinds expr cost := by
  intro levels tokens rest hk hrest
  change Reading _ _ _ _ (negation finish levels _)
  rw [negation_eq_comparison (head?_ne_not hk hstart)]
  exact h levels tokens rest hk hrest

theorem recognised_single (h : Recognised finish .operand kinds expr cost) :
    Recognised finish .comparison kinds expr cost := by
  intro levels tokens rest hk hrest
  change Reading _ _ _ _ (comparison finish levels _)
  rw [comparison_eq]
  refine (h levels tokens rest hk fun _ _ => List.not_mem_nil).bind_ok ?_
  refine comparedWith_stop fun token htoken => ?_
  simpa [Symbol.goesOnWith] using hrest token htoken

/-- Both comparisons read on after their operator in the same way. -/
theorem recognised_compared {operator : TokenKind} {node : Expr → Expr → Expr}
    (hnode : ∀ levels left position rest,
      comparedWith finish levels left (⟨operator, position⟩ :: rest)
        = (rightOperand finish levels rest).bind fun r => .ok (node left r.1, r.2))
    {left right : Expr} {leftKinds rightKinds : List TokenKind} {leftCost rightCost : Nat}
    (hl : Recognised finish .operand leftKinds left leftCost)
    (hr : Recognised finish .rightOperand rightKinds right rightCost) :
    Recognised finish .comparison (leftKinds ++ operator :: rightKinds) (node left right)
      (max leftCost rightCost) := by
  intro levels tokens rest hk hrest
  -- the tokens are cut at the operator, behind which the right operand is all that is left
  obtain ⟨leftTokens, following, rfl, hleft, hfollowing⟩ := List.map_eq_append_iff.mp hk
  obtain ⟨position, rightTokens, rfl, hright⟩ := exists_eq_cons_of_map_kind hfollowing
  change Reading _ _ _ _ (comparison finish levels _)
  rw [comparison_eq, List.append_assoc]
  refine (hl levels leftTokens _ hleft fun _ _ => List.not_mem_nil).bind ?_
  rw [List.cons_append, hnode]
  exact (hr levels rightTokens rest hright fun _ _ => List.not_mem_nil).bind_ok rfl

theorem recognised_group (h : Recognised finish .disjunction kinds expr cost) :
    Recognised finish .operand (.openParen :: kinds ++ [.closeParen]) expr (1 + cost) := by
  intro levels tokens rest hk hrest
  -- the tokens are a parenthesis, those of the expression in it, and the other parenthesis
  obtain ⟨position, following, rfl, hfollowing⟩ := exists_eq_cons_of_map_kind hk
  obtain ⟨inside, closing, rfl, hinside, hclosing⟩ := List.map_eq_append_iff.mp hfollowing
  obtain ⟨position', _, rfl, hnil⟩ := exists_eq_cons_of_map_kind hclosing
  obtain rfl := List.map_eq_nil_iff.mp hnil
  suffices hread : ∀ levels, Reading (1 + cost) levels expr rest
      (operand finish levels (⟨.openParen, position⟩ :: (inside ++ _ ++ rest))) from hread levels
  refine Reading.descend ⟨position, operand_zero⟩ fun levels => ?_
  rw [operand_succ, List.append_assoc]
  refine (h levels inside _ hinside ?_).bind_ok rfl
  -- the closing parenthesis ends any expression
  intro token htoken
  cases htoken
  simp [Symbol.goesOnWith]

/-- What one token makes takes no level. -/
theorem recognised_token {kind : TokenKind}
    (h : ∀ levels position rest,
      symbol.read finish levels (⟨kind, position⟩ :: rest) = .ok (expr, rest)) :
    Recognised finish symbol [kind] expr 0 := by
  intro levels tokens rest hk hrest
  obtain ⟨position, _, rfl, hnil⟩ := exists_eq_cons_of_map_kind hk
  obtain rfl := List.map_eq_nil_iff.mp hnil
  rw [List.singleton_append, h]
  exact .of_ok

theorem recognised_field {word : Text} (hpath : IsPath word) :
    Recognised finish .operand [.identifier word] (.field ⟨word.splitOn '.'⟩) 0 :=
  recognised_token fun _ _ _ => operand_path hpath

/-- On the right, whatever does not start with a word is read as on the left. -/
theorem recognised_rightOperand (h : Recognised finish .operand kinds expr cost)
    (hkinds : ∃ kind rest, kinds = kind :: rest ∧ ∀ word, kind ≠ .identifier word) :
    Recognised finish .rightOperand kinds expr.asText cost := by
  intro levels tokens rest hk hrest
  obtain ⟨kind, kinds, rfl, hword⟩ := hkinds
  have hread := h levels tokens rest hk hrest
  -- the first kind is the one of the first token, and no word
  obtain ⟨position, following, rfl, -⟩ := exists_eq_cons_of_map_kind hk
  change Reading _ _ _ _ (rightOperand finish levels _)
  rw [rightOperand_eq]
  · exact hread.bind_ok rfl
  · intro token htoken
    cases htoken
    exact hword

/-- An operand by itself is read as a whole expression. -/
theorem recognised_disjunction_of_operand
    (hstart : ∃ kind rest, kinds = kind :: rest ∧ kind.StartsOperand)
    (h : Recognised finish .operand kinds expr cost) :
    Recognised finish .disjunction kinds expr cost := by
  have hnegation := recognised_affirmation hstart (recognised_single h)
  exact (chainProduction_disjunction finish).recognised_single
    ((chainProduction_conjunction finish).recognised_single hnegation)

/-- A word in parentheses is read as the path that it writes. -/
theorem recognised_bracketed {word : Text} (hpath : IsPath word) (depth : Nat) :
    Recognised finish .operand (bracketed word depth) (.field ⟨word.splitOn '.'⟩) depth := by
  induction depth with
  | zero => exact recognised_field hpath
  | succ depth ih =>
    rw [bracketed, Nat.add_comm depth]
    exact recognised_group
      (recognised_disjunction_of_operand (exists_bracketed_eq_cons word depth) ih)

/-- **Completeness.** -/
theorem Derives.recognised {kinds : List TokenKind} (h : Derives symbol kinds expr cost) :
    Recognised finish symbol kinds expr cost := by
  induction h with
  | disjunction _ ih => exact (chainProduction_disjunction finish).recognised ih
  | conjunction _ ih => exact (chainProduction_conjunction finish).recognised ih
  | not _ ih => exact recognised_not ih
  | affirmation h ih => exact recognised_affirmation (h.startsOperand (by simp)) ih
  | single _ ih => exact recognised_single ih
  | equals _ _ ihl ihr => exact recognised_compared (fun _ _ _ _ => rfl) ihl ihr
  | contains _ _ ihl ihr => exact recognised_compared (fun _ _ _ _ => rfl) ihl ihr
  | @word word depth hpath =>
    -- a bare word is taken as it is, and one in parentheses is read as a path and turned back
    cases depth with
    | zero => exact recognised_token fun _ _ _ => rightOperand_identifier
    | succ depth =>
      have hfield : Recognised finish .operand (bracketed word (depth + 1)) _ _ :=
        recognised_bracketed (hpath (Nat.succ_ne_zero _)) (depth + 1)
      have := recognised_rightOperand hfield ⟨_, _, rfl, by simp⟩
      rwa [Expr.asText, text_splitOn] at this
  | @other kinds expr cost h hword ih =>
    -- the rewriting of paths finds none, since no word in parentheses stands here
    have htext : expr.asText = expr := by
      cases expr with
      | field path => exact absurd (h.eq_bracketed_of_field rfl).2 (hword _ _)
      | _ => rfl
    rw [← htext]
    refine recognised_rightOperand ih ?_
    cases h with
    | @field word => exact absurd rfl (hword word 0)
    | _ => exact ⟨_, _, rfl, by simp⟩
  | string => exact recognised_token fun _ _ _ => operand_string
  | number => exact recognised_token fun _ _ _ => operand_number
  | field hpath => exact recognised_field hpath
  | group _ ih => exact recognised_group ih

/-- **The grammar is unambiguous.** Whatever two derivations make of a stretch is what the
production reads from it, given as many levels as either of them costs. -/
theorem Derives.unique {kinds : List TokenKind} {expr expr' : Expr} {cost cost' : Nat}
    (h : Derives symbol kinds expr cost) (h' : Derives symbol kinds expr' cost') :
    expr = expr' ∧ cost = cost' := by
  -- positions do not matter, so the kinds can be read as tokens that all stand at the start
  have hread : ∀ {expr cost}, Derives symbol kinds expr cost → ∀ levels,
      Reading cost levels expr [] (symbol.read 0 levels (kinds.map (⟨·, 0⟩) ++ [])) := by
    intro expr cost h levels
    refine h.recognised levels _ [] ?_ fun token htoken => by cases htoken
    rw [List.map_map]
    exact List.map_id _
  obtain rfl : cost = cost' := by
    rcases Nat.lt_trichotomy cost cost' with hlt | heq | hlt
    · -- with the levels of the cheaper derivation the dearer one would fail
      obtain ⟨position, herror⟩ := (hread h' cost).tooDeep hlt
      rw [(hread h cost).ok (Nat.le_refl _)] at herror
      cases herror
    · exact heq
    · obtain ⟨position, herror⟩ := (hread h cost').tooDeep hlt
      rw [(hread h' cost').ok (Nat.le_refl _)] at herror
      cases herror
  -- at the same cost both trees are what is read
  have hsame := (hread h cost).ok (Nat.le_refl _)
  rw [(hread h' cost).ok (Nat.le_refl _)] at hsame
  cases hsame
  exact ⟨rfl, rfl⟩

end Completeness

/-! ### The expression of a sequence of tokens -/

/-- The kinds of the tokens before the first one for the end, or of all tokens. -/
def kindsBeforeEnd (tokens : List Token) : List TokenKind :=
  (tokens.takeWhile fun token => token.kind ≠ .endOfInput).map (·.kind)

section Parse

variable {tokens used rest : List Token} {expr : Expr} {cost : Nat}

theorem nextToken_kind_eq_endOfInput_iff : (nextToken finish rest).kind = .endOfInput ↔
    ∀ token ∈ rest.head?, token.kind = .endOfInput := by
  cases rest with
  | nil => simp [nextToken]
  | cons token rest => simp [nextToken]

theorem kindsBeforeEnd_append (hused : .endOfInput ∉ used.map (·.kind))
    (hrest : ∀ token ∈ rest.head?, token.kind = .endOfInput) :
    kindsBeforeEnd (used ++ rest) = used.map (·.kind) := by
  rw [kindsBeforeEnd, List.takeWhile_append_of_pos]
  · cases rest with
    | nil => simp
    | cons token rest => simp [hrest token rfl]
  · intro token hmem
    rw [decide_eq_true_eq]
    exact fun hkind => hused (hkind ▸ List.mem_map_of_mem hmem)

/-- The parser reads the whole of the tokens when it is given `levels` levels. -/
def ParsesWithin (levels : Nat) (tokens : List Token) (expr : Expr) : Prop :=
  ∃ rest, disjunction (finishOf tokens) levels tokens = .ok (expr, rest) ∧
    (nextToken (finishOf tokens) rest).kind = .endOfInput

theorem parse_eq_ok_iff_parsesWithin : parse tokens = .ok expr ↔ ParsesWithin 256 tokens expr := by
  unfold parse
  simp only
  constructor
  · intro h
    split at h
    · cases h
    · next expr' rest hread =>
      split at h
      · next hend =>
        cases h
        exact ⟨rest, hread, hend⟩
      · cases h
  · rintro ⟨rest, hread, hend⟩
    rw [show disjunction (finishOf tokens) deepestNesting tokens = _ from hread]
    exact if_pos hend

/-- What reading the tokens before the end comes to, and that nothing else is left then. -/
theorem reading_of_derives (h : Derives .disjunction (kindsBeforeEnd tokens) expr cost)
    (finish levels : Nat) : ∃ rest, (nextToken finish rest).kind = .endOfInput ∧
      Reading cost levels expr rest (disjunction finish levels tokens) := by
  -- the tokens are cut before the first end, which is where the kinds stop
  set before := tokens.takeWhile fun token => token.kind ≠ .endOfInput with hbefore
  set rest := tokens.dropWhile fun token => token.kind ≠ .endOfInput with hafter
  have hend : ∀ token ∈ rest.head?, token.kind = .endOfInput := by
    intro token htoken
    have := List.head?_dropWhile_not (fun token : Token => token.kind ≠ .endOfInput) tokens
    rw [← hafter, Option.mem_def.mp htoken] at this
    simpa using this
  -- nothing goes on with the end
  have hstops : Stops .disjunction rest := by
    intro token htoken
    rw [hend token htoken]
    simp [Symbol.goesOnWith]
  have hrec : Recognised finish .disjunction (kindsBeforeEnd tokens) expr cost := h.recognised
  have hread := hrec levels before rest rfl hstops
  rw [hbefore, hafter, List.takeWhile_append_dropWhile] at hread
  exact ⟨rest, nextToken_kind_eq_endOfInput_iff.mpr hend, hread⟩

/-- **With any number of levels, the parser reads what is derived at no greater cost.** -/
theorem parsesWithin_iff : ParsesWithin levels tokens expr ↔
    ∃ cost ≤ levels, Derives .disjunction (kindsBeforeEnd tokens) expr cost := by
  constructor
  · rintro ⟨rest, hread, hend⟩
    obtain ⟨used, cost, rfl, hder, hcost⟩ := sound _ _ .disjunction _ _ _ hread
    -- no production uses a token for the end, so what was read goes as far as the first end
    rw [nextToken_kind_eq_endOfInput_iff] at hend
    rw [kindsBeforeEnd_append hder.endOfInput_notMem hend]
    exact ⟨cost, hcost, hder⟩
  · rintro ⟨cost, hcost, hder⟩
    obtain ⟨rest, hend, hread⟩ := reading_of_derives hder (finishOf tokens) levels
    exact ⟨rest, hread.ok hcost, hend⟩

/-- **What nests too deep fails for that.** -/
theorem parse_of_derives_lt (h : Derives .disjunction (kindsBeforeEnd tokens) expr cost)
    (hcost : 256 < cost) : ∃ position, parse tokens = .error (.nestingTooDeep position) := by
  obtain ⟨rest, -, hread⟩ := reading_of_derives h (finishOf tokens) deepestNesting
  obtain ⟨position, hread⟩ := hread.tooDeep hcost
  unfold parse
  simp only [hread]
  exact ⟨position, rfl⟩

/-- **The parser reads exactly the grammar within the limit of nesting.** A sequence of tokens has
an expression if and only if the kinds of the tokens before the end are derived from a disjunction
with that expression for the tree, at a cost of at most 256 levels. -/
theorem parse_eq_ok_iff (tokens : List Token) (expr : Expr) :
    parse tokens = .ok expr ↔
      ∃ cost ≤ 256, Derives .disjunction (kindsBeforeEnd tokens) expr cost := by
  rw [parse_eq_ok_iff_parsesWithin, parsesWithin_iff]

end Parse

end LogSieve
