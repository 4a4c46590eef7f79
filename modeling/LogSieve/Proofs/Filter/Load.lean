import LogSieve.Proofs.Filter.Depth

/-!
# What the operands of a filter carry

Which operators stand over an operand in the tree can be read off the text: the `not`s in front of
it and, of every chain around it, the operator before it and all operators after it (`Carries`).
The parser counts another number for the same operand, the operators of the chains that stand
before it. The two have little to do with each other, and so the limit of 256 levels does not keep
the operands from carrying more than 256 operators.

The main statement, `logicalDepth_le_iff`, says for every filter that compiles when no path of its
tree passes through more than 256 `and`, `or` and `not` nodes: when no operand carries more. Both
halves go through the derivation of the text. An operand carries at most as much as the tree is
deep (`Carries.exists_derives`), and one carries as much (`Derives.carries`); that both speak of
the same tree is that the grammar is unambiguous.

The smallest filters with more than 256 nodes on a path are a row of `not` in front of a chain
(`compile_notsBeforeOr`).
-/

namespace LogSieve

/-- Some operand of the stretch, which is derived from the symbol, stands under `count` operators:
the `not`s in front of it and, of every chain around it, the operator before it and those after. -/
inductive Carries : Symbol → List TokenKind → (count : Nat) → Prop where
  | disjunction {first link : Link} {links before after : List Link} {count : Nat}
      (h : ∀ l ∈ first :: links, Derives .conjunction l.kinds l.expr l.cost)
      (hcut : first :: links = before ++ link :: after)
      (hlink : Carries .conjunction link.kinds count) :
      Carries .disjunction (first.kinds ++ linksKinds .or links)
        (min 1 before.length + after.length + count)
  | conjunction {first link : Link} {links before after : List Link} {count : Nat}
      (h : ∀ l ∈ first :: links, Derives .negation l.kinds l.expr l.cost)
      (hcut : first :: links = before ++ link :: after)
      (hlink : Carries .negation link.kinds count) :
      Carries .conjunction (first.kinds ++ linksKinds .and links)
        (min 1 before.length + after.length + count)
  | not {kinds : List TokenKind} {count : Nat} (h : Carries .negation kinds count) :
      Carries .negation (.not :: kinds) (1 + count)
  | affirmation {kinds : List TokenKind} {count : Nat} (h : Carries .comparison kinds count) :
      Carries .negation kinds count
  | single {kinds : List TokenKind} {count : Nat} (h : Carries .operand kinds count) :
      Carries .comparison kinds count
  | left {leftKinds rightKinds : List TokenKind} {operator : TokenKind} {right : Expr}
      {rightCost count : Nat} (hop : operator = .equals ∨ operator = .contains)
      (hl : Carries .operand leftKinds count)
      (hr : Derives .rightOperand rightKinds right rightCost) :
      Carries .comparison (leftKinds ++ operator :: rightKinds) count
  | right {leftKinds rightKinds : List TokenKind} {operator : TokenKind} {left : Expr}
      {leftCost count : Nat} (hop : operator = .equals ∨ operator = .contains)
      (hl : Derives .operand leftKinds left leftCost)
      (hr : Carries .rightOperand rightKinds count) :
      Carries .comparison (leftKinds ++ operator :: rightKinds) count
  | word {word : Text} {depth : Nat} (h : depth ≠ 0 → IsPath word) :
      Carries .rightOperand (bracketed word depth) 0
  | other {kinds : List TokenKind} {count : Nat} (h : Carries .operand kinds count)
      (hword : ∀ word depth, kinds ≠ bracketed word depth) : Carries .rightOperand kinds count
  | string {value : Text} : Carries .operand [.string value] 0
  | number {value : Nat} : Carries .operand [.number value] 0
  | field {word : Text} (h : IsPath word) : Carries .operand [.identifier word] 0
  | group {kinds : List TokenKind} {count : Nat} (h : Carries .disjunction kinds count) :
      Carries .operand (.openParen :: kinds ++ [.closeParen]) count

/-! ### No operand carries more than the tree is deep -/

section Chains

variable {node : Expr → Expr → Expr} {first link : Link} {links before after : List Link}

theorem logicalDepth_first_le (hnode : IsLogical node) (first : Expr) (links : List Link) :
    links.length + first.logicalDepth ≤ (linksExpr node first links).logicalDepth := by
  -- the chain leans to the left: each operator is one more on top of the first operand
  induction links generalizing first with
  | nil => rw [List.length_nil, Nat.zero_add]; exact Nat.le_refl _
  | cons link links ih =>
    have hgrown : 1 + first.logicalDepth ≤ (node first link.expr).logicalDepth := by
      rw [hnode _ _]
      omega
    have hmore := ih (node first link.expr)
    rw [List.length_cons]
    change _ ≤ (linksExpr node (node first link.expr) links).logicalDepth
    omega

/-- What an operand of a chain carries, it carries below the operators from its own on. -/
theorem carried_le_logicalDepth (hnode : IsLogical node)
    (hcut : first :: links = before ++ link :: after) :
    min 1 before.length + after.length + link.expr.logicalDepth
      ≤ (linksExpr node first.expr links).logicalDepth := by
  cases before with
  | nil =>
    -- the first operand has no operator before it
    cases hcut
    rw [List.length_nil, Nat.min_zero, Nat.zero_add]
    exact logicalDepth_first_le hnode _ _
  | cons first' before =>
    rw [List.cons_append, List.cons.injEq] at hcut
    obtain ⟨rfl, rfl⟩ := hcut
    rw [linksExpr, List.foldl_append, List.foldl_cons]
    have hafter := logicalDepth_first_le hnode
      (node (linksExpr node first.expr before) link.expr) after
    rw [hnode _ _] at hafter
    change _ ≤
      (linksExpr node (node (linksExpr node first.expr before) link.expr) after).logicalDepth
    simp only [List.length_cons]
    omega

/-- One operand of a chain carries as much as the chain is deep. -/
theorem exists_cut_logicalDepth (hnode : IsLogical node) (first : Link) (links : List Link) :
    ∃ before link after, first :: links = before ++ link :: after ∧
      (linksExpr node first.expr links).logicalDepth
        = min 1 before.length + after.length + link.expr.logicalDepth := by
  -- on the last operand, since its operator is the one on top
  induction links using List.reverseRecOn with
  | nil => exact ⟨[], first, [], rfl, by rw [List.length_nil, Nat.min_zero, Nat.zero_add]; rfl⟩
  | append_singleton links last ih =>
    obtain ⟨before, link, after, hcut, hdepth⟩ := ih
    rw [linksExpr, List.foldl_append, List.foldl_cons, List.foldl_nil, ← linksExpr, hnode _ _,
      hdepth]
    -- the last operator takes the deeper of the chain so far and the last operand
    rcases Nat.le_total last.expr.logicalDepth
      (min 1 before.length + after.length + link.expr.logicalDepth) with hle | hle
    · refine ⟨before, link, after ++ [last], ?_, ?_⟩
      · rw [← List.cons_append, hcut, List.append_assoc, List.cons_append]
      · rw [Nat.max_eq_left hle, List.length_append, List.length_singleton]
        omega
    · refine ⟨first :: links, last, [], rfl, ?_⟩
      rw [Nat.max_eq_right hle, List.length_nil, List.length_cons]
      omega

end Chains

section Derived

variable {symbol : Symbol} {kinds : List TokenKind} {expr : Expr} {cost count : Nat}

/-- **An operand carries at most as much as the tree is deep.** -/
theorem Carries.exists_derives (h : Carries symbol kinds count) :
    ∃ expr cost, Derives symbol kinds expr cost ∧ count ≤ expr.logicalDepth := by
  induction h with
  | @disjunction first link links before after count hlinks hcut _ ih =>
    obtain ⟨expr, cost, hder, hcount⟩ := ih
    -- the operand that carries was derived twice, and both times with the same tree
    have hmem : link ∈ first :: links := by rw [hcut]; simp
    obtain ⟨rfl, -⟩ := hder.unique (hlinks link hmem)
    have hcarried := carried_le_logicalDepth isLogical_or hcut
    exact ⟨_, _, .disjunction hlinks, by omega⟩
  | @conjunction first link links before after count hlinks hcut _ ih =>
    obtain ⟨expr, cost, hder, hcount⟩ := ih
    have hmem : link ∈ first :: links := by rw [hcut]; simp
    obtain ⟨rfl, -⟩ := hder.unique (hlinks link hmem)
    have hcarried := carried_le_logicalDepth isLogical_and hcut
    exact ⟨_, _, .conjunction hlinks, by omega⟩
  | not _ ih =>
    obtain ⟨expr, cost, hder, hcount⟩ := ih
    exact ⟨_, _, hder.not, Nat.add_le_add_left hcount 1⟩
  | affirmation _ ih =>
    obtain ⟨expr, cost, hder, hcount⟩ := ih
    exact ⟨_, _, hder.affirmation, hcount⟩
  | single _ ih =>
    obtain ⟨expr, cost, hder, hcount⟩ := ih
    exact ⟨_, _, hder.single, hcount⟩
  | left hop _ hr ih =>
    obtain ⟨expr, cost, hder, hcount⟩ := ih
    rcases hop with rfl | rfl
    · exact ⟨_, _, hder.equals hr, hcount.trans (Nat.le_max_left ..)⟩
    · exact ⟨_, _, hder.contains hr, hcount.trans (Nat.le_max_left ..)⟩
  | right hop hl _ ih =>
    obtain ⟨expr, cost, hder, hcount⟩ := ih
    rcases hop with rfl | rfl
    · exact ⟨_, _, hl.equals hder, hcount.trans (Nat.le_max_right ..)⟩
    · exact ⟨_, _, hl.contains hder, hcount.trans (Nat.le_max_right ..)⟩
  | word hpath => exact ⟨_, _, .word hpath, Nat.zero_le _⟩
  | other _ hword ih =>
    obtain ⟨expr, cost, hder, hcount⟩ := ih
    exact ⟨_, _, hder.other hword, hcount⟩
  | string => exact ⟨_, _, .string, Nat.zero_le _⟩
  | number => exact ⟨_, _, .number, Nat.zero_le _⟩
  | field hpath => exact ⟨_, _, .field hpath, Nat.zero_le _⟩
  | group _ ih =>
    obtain ⟨expr, cost, hder, hcount⟩ := ih
    exact ⟨_, _, hder.group, hcount⟩

/-- **One operand carries as much as the tree is deep.** -/
theorem Derives.carries (h : Derives symbol kinds expr cost) :
    Carries symbol kinds expr.logicalDepth := by
  induction h with
  | @disjunction first links hlinks ih =>
    obtain ⟨before, link, after, hcut, hdepth⟩ := exists_cut_logicalDepth isLogical_or first links
    rw [hdepth]
    exact .disjunction hlinks hcut (ih link (by rw [hcut]; simp))
  | @conjunction first links hlinks ih =>
    obtain ⟨before, link, after, hcut, hdepth⟩ := exists_cut_logicalDepth isLogical_and first links
    rw [hdepth]
    exact .conjunction hlinks hcut (ih link (by rw [hcut]; simp))
  | not _ ih => exact ih.not
  | affirmation _ ih => exact ih.affirmation
  | single _ ih => exact ih.single
  | @equals _ _ left right _ _ hl hr ihl ihr =>
    -- a comparison is no node that counts, and its deeper side is as deep as it is
    rw [Expr.logicalDepth]
    rcases Nat.le_total left.logicalDepth right.logicalDepth with hle | hle
    · rw [Nat.max_eq_right hle]
      exact .right (.inl rfl) hl ihr
    · rw [Nat.max_eq_left hle]
      exact .left (.inl rfl) ihl hr
  | @contains _ _ left right _ _ hl hr ihl ihr =>
    rw [Expr.logicalDepth]
    rcases Nat.le_total left.logicalDepth right.logicalDepth with hle | hle
    · rw [Nat.max_eq_right hle]
      exact .right (.inr rfl) hl ihr
    · rw [Nat.max_eq_left hle]
      exact .left (.inr rfl) ihl hr
  | word hpath => exact .word hpath
  | other _ hword ih => exact ih.other hword
  | string => exact .string
  | number => exact .number
  | field hpath => exact .field hpath
  | group _ ih => exact ih.group

theorem Derives.logicalDepth_le_iff_carries (h : Derives symbol kinds expr cost) (bound : Nat) :
    expr.logicalDepth ≤ bound ↔ ∀ count, Carries symbol kinds count → count ≤ bound := by
  constructor
  · intro hle count hcarries
    obtain ⟨expr', cost', hder, hcount⟩ := hcarries.exists_derives
    -- the same kinds are derived, and so it is the same tree
    obtain ⟨rfl, -⟩ := hder.unique h
    exact hcount.trans hle
  · intro hall
    exact hall _ h.carries

end Derived

/-! ### A row of `not` before a chain -/

/-- A row of `not` before an `or` of two letters. -/
def notsBeforeOr (count : Nat) : Text :=
  (List.replicate count "not ".toList).flatten ++ "a or a".toList

theorem spells_notsBeforeOr (count : Nat) : Spells (notsBeforeOr count)
    (List.replicate count .not ++ [.identifier ['a'], .or, .identifier ['a']]) [] := by
  induction count with
  | zero =>
    change Spells (['a'] ++ ' ' :: (['o', 'r'] ++ ' ' :: ['a'])) _ []
    have hlast : Spells ['a'] [.identifier ['a']] [] :=
      .lexeme_of_endsWords lexeme_letter fun c hc => by cases hc
    have hor := Spells.lexeme_append lexeme_or (endsWords_space _) (.blank isBlank_space hlast)
    exact .lexeme_append lexeme_letter (endsWords_space _) (.blank isBlank_space hor)
  | succ count ih =>
    change Spells (['n', 'o', 't'] ++ ' ' :: notsBeforeOr count) (.not :: _) []
    exact .lexeme_append lexeme_not (endsWords_space _) (.blank isBlank_space ih)

theorem derives_nots (count : Nat) :
    Derives .negation (List.replicate count .not ++ letter.kinds) (Expr.not^[count] letter.expr)
      count := by
  induction count with
  | zero => exact .affirmation (.single derives_letter)
  | succ count ih =>
    rw [Function.iterate_succ_apply', List.replicate_succ, Nat.add_comm count 1]
    exact ih.not

theorem logicalDepth_nots (count : Nat) : (Expr.not^[count] letter.expr).logicalDepth = count := by
  induction count with
  | zero => rfl
  | succ count ih => rw [Function.iterate_succ_apply', Expr.logicalDepth, ih, Nat.add_comm]

/-- The row costs its length, and the `or` stands on top of it at the cost of one. -/
theorem derives_notsBeforeOr (count : Nat) :
    Derives .disjunction (List.replicate count .not ++ [.identifier ['a'], .or, .identifier ['a']])
      (.or (Expr.not^[count] letter.expr) letter.expr) (max count 1) := by
  have hpair := chainRule_disjunction.pair (derives_nots count).conjunction_single
    derives_letter.single.affirmation.conjunction_single
  rwa [List.append_assoc] at hpair

theorem compile_notsBeforeOr {count : Nat} (hcount : count ≤ 256) :
    compile (notsBeforeOr count) = .ok (.or (Expr.not^[count] letter.expr) letter.expr) := by
  rw [compile_eq_ok_iff]
  exact (spells_notsBeforeOr count).compilesWithin (derives_notsBeforeOr count) (by omega)

/-! ### When a filter stays within the limit -/

/-- Some operand of the text stands under `count` operators. -/
def OperandCarries (source : Text) (count : Nat) : Prop :=
  ∃ tokens, tokenize source = .ok tokens ∧ Carries .disjunction (kindsBeforeEnd tokens) count

/-- **When a compiled filter has no more than 256 `and`, `or` and `not` nodes on a path.** If and
only if none of its operands carries more than 256 operators. Every filter that needs at most 15
levels has so few, and no filter has more than 65793. -/
theorem logicalDepth_le_iff {source : Text} {expr : Expr} (h : compile source = .ok expr) :
    (expr.logicalDepth ≤ 256 ↔ ∀ count, OperandCarries source count → count ≤ 256) ∧
    (CompilesWithin 15 source expr → expr.logicalDepth ≤ 256) ∧
    expr.logicalDepth ≤ 256 * 256 + 256 + 1 := by
  obtain ⟨tokens, htokens, hparse⟩ := compile_eq_ok_iff.mp h
  obtain ⟨cost, -, hder⟩ := parsesWithin_iff.mp hparse
  refine ⟨?_, fun hwithin => ?_, ?_⟩
  · -- there is one sequence of tokens that the operands can be in
    rw [hder.logicalDepth_le_iff_carries]
    constructor
    · rintro hall count ⟨tokens', htokens', hcarries⟩
      rw [htokens] at htokens'
      cases htokens'
      exact hall count hcarries
    · exact fun hall count hcarries => hall count ⟨tokens, htokens, hcarries⟩
  · exact (exists_logicalDepth_iff.2 15).mpr (Nat.le_refl 15) source expr hwithin
  · exact (exists_logicalDepth_iff.1 _).mp ⟨source, expr, h, rfl⟩

/-- An operand under more operators than there are levels: the row of `not` and the `or`. -/
theorem operandCarries_notsBeforeOr_256 :
    compile (notsBeforeOr 256) = .ok (.or (Expr.not^[256] letter.expr) letter.expr) ∧
      ¬ ∀ count, OperandCarries (notsBeforeOr 256) count → count ≤ 256 := by
  have h := compile_notsBeforeOr (Nat.le_refl 256)
  refine ⟨h, fun hall => ?_⟩
  have hdepth := (logicalDepth_le_iff h).1.mpr hall
  rw [Expr.logicalDepth, logicalDepth_nots] at hdepth
  omega

/-- With as many `not` as there are levels, the `or` is one node too many. -/
theorem logicalDepth_notsBeforeOr_256 :
    ∃ expr, compile (notsBeforeOr 256) = .ok expr ∧ 256 < expr.logicalDepth := by
  refine ⟨_, compile_notsBeforeOr (Nat.le_refl 256), ?_⟩
  rw [Expr.logicalDepth, logicalDepth_nots]
  omega

end LogSieve
