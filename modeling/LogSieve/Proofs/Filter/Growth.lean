import LogSieve.Proofs.Filter.Spelling

/-!
# How trees grow along chains

A chain nests to the left, so every operator puts a node on top of all the operands before it, and
the tree grows by the length of the chain whatever its first operand is. This is said here for any
measure of trees that a node raises by one above the greater of its operands (`Raises`): the depth
in `LogSieve.Proofs.Filter.Depth` and the height in `LogSieve.Proofs.Filter.Height` are two.

* `measure_chain_le` — a chain has no more operators than levels (`length_le_linksCost`), so its
  measure passes that of its operands by no more than its levels.
* `Reaches.disjunction_of_negation` — the two chains fill the gap that this leaves: letters are
  added to them one by one, as long as there are levels for their operators.
-/

namespace LogSieve

/-- A node that puts one on top of the greater measure of its operands. -/
def Raises (measure : Expr → Nat) (node : Expr → Expr → Expr) : Prop :=
  ∀ left right, measure (node left right) = 1 + max (measure left) (measure right)

/-! ### No chain grows by more than its levels -/

section Chains

variable {before : Nat} {first : Link} {links : List Link} {measure : Expr → Nat}
  {node : Expr → Expr → Expr}

/-- A chain has no more operators than levels. -/
theorem length_le_linksCost : before + links.length ≤ linksCost before (first :: links) := by
  -- the last operand has all the operators before it, and its own cost is not needed
  induction links generalizing before first with
  | nil =>
    rw [linksCost]
    simp only [List.length_nil]
    omega
  | cons link links ih =>
    have := @ih (before + 1) link
    rw [linksCost, List.length_cons]
    omega

theorem cost_le_linksCost {link : Link} (h : link ∈ links) :
    link.cost ≤ linksCost before links := by
  induction links generalizing before with
  | nil => cases h
  | cons link' links ih =>
    rw [linksCost]
    rcases List.mem_cons.mp h with rfl | h
    · omega
    · have := @ih (before + 1) h
      omega

/-- Every operator of a chain puts one node on top of the operands before it. -/
theorem measure_linksExpr_le (hnode : Raises measure node) {first : Expr} {bound : Nat}
    (hfirst : measure first ≤ bound) (hlinks : ∀ link ∈ links, measure link.expr ≤ bound) :
    measure (linksExpr node first links) ≤ links.length + bound := by
  induction links generalizing first bound with
  | nil =>
    rw [List.length_nil, Nat.zero_add]
    exact hfirst
  | cons link links ih =>
    rw [List.forall_mem_cons] at hlinks
    -- the node that the operator makes is the first operand of the rest of the chain
    have hgrown : measure (node first link.expr) ≤ bound + 1 := by
      rw [hnode _ _]
      omega
    have hmore : measure (linksExpr node (node first link.expr) links)
        ≤ links.length + (bound + 1) :=
      ih hgrown fun link hlink => Nat.le_succ_of_le (hlinks.2 link hlink)
    rw [List.length_cons, Nat.add_assoc, Nat.add_comm 1]
    exact hmore

/-- A chain whose operands are bounded by their levels grows by its levels at most. -/
theorem measure_chain_le (hnode : Raises measure node) {bound : Nat → Nat}
    (hmono : ∀ m n, m ≤ n → bound m ≤ bound n)
    (hlinks : ∀ link ∈ first :: links, measure link.expr ≤ bound link.cost) :
    measure (linksExpr node first.expr links)
      ≤ linksCost 0 (first :: links) + bound (linksCost 0 (first :: links)) := by
  -- no operand costs more than the chain
  have hbound : ∀ link ∈ first :: links,
      measure link.expr ≤ bound (linksCost 0 (first :: links)) := by
    intro link hlink
    exact (hlinks link hlink).trans (hmono _ _ (cost_le_linksCost hlink))
  rw [List.forall_mem_cons] at hbound
  have hgrown := measure_linksExpr_le hnode hbound.1 hbound.2
  have hlength := @length_le_linksCost 0 first links
  omega

end Chains

/-! ### Chains of letters -/

/-- A path of one letter, the operand of the great trees. -/
def letter : Link := ⟨[.identifier ['a']], .field ⟨[['a']]⟩, 0⟩

theorem lexeme_letter : Lexeme ['a'] (.identifier ['a']) :=
  lexeme_word (by decide) (by decide)

theorem derives_letter : Derives .operand letter.kinds letter.expr letter.cost :=
  @Derives.field ['a'] (by unfold IsPath; decide)

/-- Both operators of chains raise the measure, and a letter is nothing. -/
structure GrowsByChains (measure : Expr → Nat) : Prop where
  and : Raises measure .and
  or : Raises measure .or
  letter : measure letter.expr = 0

section Letters

variable {operator : TokenKind} {node : Expr → Expr → Expr} {measure : Expr → Nat}

theorem linksCost_letters (before count : Nat) :
    linksCost (before + 1) (List.replicate count letter) ≤ before + count := by
  -- a letter costs what its place costs, and the last place is the dearest
  induction count generalizing before with
  | zero => exact Nat.zero_le _
  | succ count ih =>
    rw [List.replicate_succ, linksCost_le_iff]
    have hletter : letter.cost = 0 := rfl
    have hmore := ih (before + 1)
    exact ⟨by omega, by omega⟩

theorem measure_letters (hnode : Raises measure node) (hletter : measure letter.expr = 0)
    (first : Expr) (count : Nat) :
    measure (linksExpr node first (List.replicate count letter)) = count + measure first := by
  induction count generalizing first with
  | zero => rw [List.replicate_zero, Nat.zero_add]; rfl
  | succ count ih =>
    -- the letter on the right is nothing, so the node is one more than what is on its left
    have hgrown : measure (node first letter.expr) = 1 + measure first := by
      rw [hnode _ _, hletter, Nat.max_zero]
    have hmore := ih (node first letter.expr)
    rw [hgrown, ← Nat.add_assoc] at hmore
    exact hmore

theorem lexical_letters {text : Text} (hop : Lexeme text operator) {kinds : List TokenKind}
    (hkinds : Lexical kinds) (count : Nat) :
    Lexical (kinds ++ linksKinds operator (List.replicate count letter)) := by
  rw [Lexical, List.forall_mem_append]
  refine ⟨hkinds, fun kind hkind => ?_⟩
  obtain ⟨link, hlink, hmem⟩ := List.mem_flatMap.mp hkind
  rw [List.eq_of_mem_replicate hlink, letter] at hmem
  -- a link is the operator and the letter
  rcases List.mem_cons.mp hmem with rfl | hmem
  · exact ⟨text, hop⟩
  · rw [List.mem_singleton.mp hmem]
    exact ⟨['a'], lexeme_letter⟩

end Letters

/-! ### What is derived -/

/-- Some stretch of lexemes is derived from the symbol within the levels, with a tree of the
measure. -/
def Reaches (measure : Expr → Nat) (symbol : Symbol) (levels value : Nat) : Prop :=
  ∃ kinds expr cost, Lexical kinds ∧ Derives symbol kinds expr cost ∧ cost ≤ levels ∧
    measure expr = value

namespace Reaches

variable {measure : Expr → Nat} {symbol : Symbol} {levels levels' value inner : Nat}

theorem mono (h : Reaches measure symbol levels value) (hle : levels ≤ levels') :
    Reaches measure symbol levels' value := by
  obtain ⟨kinds, expr, cost, hkinds, hder, hcost, hvalue⟩ := h
  exact ⟨kinds, expr, cost, hkinds, hder, hcost.trans hle, hvalue⟩

theorem operand_letter : Reaches measure .operand levels (measure letter.expr) := by
  refine ⟨_, _, _, ?_, derives_letter, Nat.zero_le _, rfl⟩
  rw [Lexical, letter, List.forall_mem_singleton]
  exact ⟨['a'], lexeme_letter⟩

theorem group (h : Reaches measure .disjunction levels value) :
    Reaches measure .operand (1 + levels) value := by
  obtain ⟨kinds, expr, cost, hkinds, hder, hcost, rfl⟩ := h
  refine ⟨_, _, _, ?_, hder.group, Nat.add_le_add_left hcost 1, rfl⟩
  rw [Lexical, List.forall_mem_append, List.forall_mem_cons, List.forall_mem_singleton]
  exact ⟨⟨⟨['('], .openParen⟩, hkinds⟩, [')'], .closeParen⟩

theorem negation (h : Reaches measure .operand levels value) :
    Reaches measure .negation levels value := by
  obtain ⟨kinds, expr, cost, hkinds, hder, hcost, hvalue⟩ := h
  exact ⟨kinds, expr, cost, hkinds, .affirmation (.single hder), hcost, hvalue⟩

/-- Letters can be added to a chain as long as there are levels for their operators. -/
theorem chain {link chain : Symbol} {operator : TokenKind} {node : Expr → Expr → Expr}
    {text : Text} (hop : Lexeme text operator) (hnode : Raises measure node)
    (hzero : measure letter.expr = 0)
    (hletter : Derives link letter.kinds letter.expr letter.cost)
    (hrule : ChainRule link chain operator node)
    (h : Reaches measure link levels value) {count : Nat} (hcount : count ≤ levels) :
    Reaches measure chain levels (count + value) := by
  obtain ⟨kinds, expr, cost, hkinds, hder, hcost, rfl⟩ := h
  have hlinks : ∀ l ∈ ⟨kinds, expr, cost⟩ :: List.replicate count letter,
      Derives link l.kinds l.expr l.cost := by
    rw [List.forall_mem_cons]
    refine ⟨hder, fun l hl => ?_⟩
    rw [List.eq_of_mem_replicate hl]
    exact hletter
  refine ⟨_, _, _, lexical_letters hop hkinds count, hrule _ _ hlinks, ?_,
    measure_letters hnode hzero _ _⟩
  -- the first operand costs what it did, and the letters stand behind it
  have hletters := linksCost_letters 0 count
  rw [linksCost_le_iff, Nat.zero_add]
  exact ⟨hcost, by omega⟩

/-- **The two chains fill the gap** above what a negation reaches. -/
theorem disjunction_of_negation (hgrows : GrowsByChains measure)
    (h : ∀ v ≤ inner, Reaches measure .negation levels v) (hvalue : value ≤ 2 * levels + inner) :
    Reaches measure .disjunction levels value := by
  -- as much as possible from the innermost tree, the rest from the chains
  obtain ⟨ors, ands, least, hors, hands, hleast, rfl⟩ : ∃ ors ands least, ors ≤ levels ∧
      ands ≤ levels ∧ least ≤ inner ∧ value = ors + (ands + least) :=
    ⟨min levels (value - inner), value - inner - min levels (value - inner), min value inner,
      by omega, by omega, by omega, by omega⟩
  have hconjunction : Reaches measure .conjunction levels (ands + least) :=
    (h least hleast).chain lexeme_and hgrows.and hgrows.letter
      derives_letter.single.affirmation chainRule_conjunction hands
  exact hconjunction.chain lexeme_or hgrows.or hgrows.letter
    derives_letter.single.affirmation.conjunction_single chainRule_disjunction hors

/-- What is derived is the tree of a filter. -/
theorem exists_compilesWithin (h : Reaches measure .disjunction levels value) :
    ∃ source expr, CompilesWithin levels source expr ∧ measure expr = value := by
  obtain ⟨kinds, expr, cost, hkinds, hder, hcost, hvalue⟩ := h
  obtain ⟨source, hspells⟩ := exists_spells hkinds
  exact ⟨source, expr, hspells.compilesWithin hder hcost, hvalue⟩

end Reaches

end LogSieve
