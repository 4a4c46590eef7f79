import LogSieve.Filter.Verdict
import LogSieve.Proofs.Filter.Load
import LogSieve.Proofs.Filter.Printed

/-!
# Filters put together as texts

Two texts that compile can be put in parentheses, negated and joined without a look at what is in
them: the result compiles to the tree made of their trees, or nests too deep.

Three things have to be seen. No lexeme of a text reaches into what is put around it, since a
parenthesis goes on with no word and no number (`Spells.extend`). Inside parentheses any expression
is an operand, so that no operator of one text gets hold of an operand of the other
(`Needs.operand`). And a text needs a fixed number of levels, `Needs`, which is all that its
surroundings can change the outcome by: with fewer levels it nests too deep, and with as many or
more it compiles to the same tree. What is needed for the whole follows from what the parts need.

The main statement is `compile_composed`.
-/

namespace LogSieve

/-! ### The texts -/

/-- The text in parentheses. -/
def grouped (source : Text) : Text :=
  '(' :: source ++ [')']

/-- The text in parentheses after a `not`. -/
def negated (source : Text) : Text :=
  "not ".toList ++ grouped source

/-- Both texts in parentheses around an `and`. -/
def conjoined (left right : Text) : Text :=
  grouped left ++ " and ".toList ++ grouped right

/-- Both texts in parentheses around an `or`. -/
def disjoined (left right : Text) : Text :=
  grouped left ++ " or ".toList ++ grouped right

/-! ### The levels that a text needs -/

/-- The text is spelled with kinds from which the tree is derived at the cost. -/
def Needs (source : Text) (expr : Expr) (cost : Nat) : Prop :=
  ∃ kinds, Spells source kinds [] ∧ Derives .disjunction kinds expr cost

/-- The text compiles to the tree, or else it nests too deep; and it is the condition that decides
between the two. -/
structure CompilesIf (condition : Prop) (source : Text) (expr : Expr) : Prop where
  ok_or_tooDeep : compile source = .ok expr ∨
    ∃ position, compile source = .error (.syntactic (.nestingTooDeep position))
  ok_iff : compile source = .ok expr ↔ condition

namespace CompilesIf

variable {condition condition' : Prop} {source : Text} {expr expr' : Expr}

theorem congr (h : CompilesIf condition source expr) (hiff : condition ↔ condition') :
    CompilesIf condition' source expr :=
  ⟨h.ok_or_tooDeep, h.ok_iff.trans hiff⟩

/-- No other tree can come of the text. -/
theorem eq_of_ok (h : CompilesIf condition source expr) (h' : compile source = .ok expr') :
    expr' = expr := by
  rcases h.ok_or_tooDeep with hok | ⟨position, herror⟩
  · exact Except.ok.inj (h'.symm.trans hok)
  · rw [h'] at herror
    cases herror

end CompilesIf

section Needs

variable {source : Text} {expr : Expr} {cost levels : Nat}

theorem exists_needs (h : compile source = .ok expr) : ∃ cost, Needs source expr cost := by
  obtain ⟨tokens, htokens, hparse⟩ := compile_eq_ok_iff.mp h
  obtain ⟨lexemes, htiled, rfl⟩ := tiled_of_tokenize htokens
  -- the kinds before the end are those of the lexemes of the text
  rw [parsesWithin_iff, htiled.kindsBeforeEnd] at hparse
  obtain ⟨cost, -, hder⟩ := hparse
  exact ⟨cost, _, htiled.spells, hder⟩

/-- **A text compiles within the levels that it needs** and within no fewer. -/
theorem Needs.compilesWithin_iff (h : Needs source expr cost) :
    CompilesWithin levels source expr ↔ cost ≤ levels := by
  obtain ⟨kinds, hspells, hder⟩ := h
  refine ⟨fun hcompiles => ?_, hspells.compilesWithin hder⟩
  obtain ⟨tokens, htokens, hparse⟩ := hcompiles
  obtain ⟨tokens', htokens', hkinds⟩ := hspells.exists_tokenize
  obtain rfl : tokens = tokens' := Except.ok.inj (htokens.symm.trans htokens')
  rw [parsesWithin_iff, hkinds] at hparse
  obtain ⟨cost', hcost', hder'⟩ := hparse
  -- the kinds are derived in one way only, so the cost is the same
  rwa [(hder.unique hder').2]

theorem Needs.compilesIf (h : Needs source expr cost) : CompilesIf (cost ≤ 256) source expr where
  ok_or_tooDeep := by
    -- 256 are the levels that the parser has
    rcases Nat.lt_or_ge 256 cost with hcost | hcost
    · obtain ⟨kinds, hspells, hder⟩ := h
      exact .inr (hspells.nestingTooDeep hder hcost)
    · exact .inl (compile_eq_ok_iff.mpr (h.compilesWithin_iff.mpr hcost))
  ok_iff := compile_eq_ok_iff.trans h.compilesWithin_iff

/-- A path of one letter is a filter by itself. -/
theorem Needs.letter : Needs ['a'] letter.expr letter.cost :=
  ⟨_, .lexeme_of_endsWords lexeme_letter endsWords_nil, derives_letter.disjunction_of_operand⟩

theorem compile_letter : compile ['a'] = .ok letter.expr :=
  Needs.letter.compilesIf.ok_iff.mpr (by decide)

end Needs

/-! ### Putting texts together -/

section Composed

variable {source left right : Text} {expr leftExpr rightExpr : Expr}
  {cost leftCost rightCost : Nat}

/-- In parentheses, whatever compiles is one operand, and any text may follow. -/
theorem Needs.operand (h : Needs source expr cost) :
    ∃ kinds, (∀ rest, EndsWords rest → Spells (grouped source) kinds rest) ∧
      Derives .operand kinds expr (1 + cost) := by
  obtain ⟨kinds, hspells, hder⟩ := h
  -- the closing parenthesis ends the text, and so it may be followed by it
  exact ⟨_, fun rest _ => spells_group fun _ hend => hspells.extend hend, hder.group⟩

theorem Needs.grouped (h : Needs source expr cost) : Needs (grouped source) expr (1 + cost) := by
  obtain ⟨kinds, hspells, hder⟩ := h.operand
  exact ⟨kinds, hspells [] endsWords_nil, hder.disjunction_of_operand⟩

theorem Needs.negated (h : Needs source expr cost) :
    Needs (negated source) (.not expr) (2 + cost) := by
  obtain ⟨kinds, hspells, hder⟩ := h.operand
  have hnot : Spells (['n', 'o', 't'] ++ ' ' :: LogSieve.grouped source) (.not :: kinds) [] :=
    .lexeme_append lexeme_not (endsWords_space _) (.blank isBlank_space (hspells [] endsWords_nil))
  have hder := hder.single.affirmation.not.conjunction_single.disjunction_single
  rw [← Nat.add_assoc] at hder
  exact ⟨_, hnot, hder⟩

/-- **Two texts in parentheses around a connective.** Each of them is an operand of it. -/
theorem Needs.connected {word : Text} {operator : TokenKind} {node : Expr → Expr → Expr}
    (hword : Lexeme word operator) (hconnects : Connects operator node)
    (hl : Needs left leftExpr leftCost) (hr : Needs right rightExpr rightCost) :
    Needs (LogSieve.grouped left ++ ' ' :: (word ++ ' ' :: LogSieve.grouped right))
      (node leftExpr rightExpr) (max (1 + leftCost) (2 + rightCost)) := by
  obtain ⟨leftKinds, hlspells, hlder⟩ := hl.operand
  obtain ⟨rightKinds, hrspells, hrder⟩ := hr.operand
  have hder := hconnects hlder hrder
  rw [← Nat.add_assoc] at hder
  exact ⟨_, spells_infix hword hlspells hrspells endsWords_nil, hder⟩

theorem Needs.conjoined (hl : Needs left leftExpr leftCost)
    (hr : Needs right rightExpr rightCost) :
    Needs (conjoined left right) (.and leftExpr rightExpr)
      (max (1 + leftCost) (2 + rightCost)) := by
  rw [LogSieve.conjoined, List.append_assoc]
  exact hl.connected lexeme_and connects_and hr

theorem Needs.disjoined (hl : Needs left leftExpr leftCost)
    (hr : Needs right rightExpr rightCost) :
    Needs (disjoined left right) (.or leftExpr rightExpr)
      (max (1 + leftCost) (2 + rightCost)) := by
  rw [LogSieve.disjoined, List.append_assoc]
  exact hl.connected lexeme_or connects_or hr

/-- **Filters compose as texts.** In parentheses a text compiles to its own tree, after a `not` to
the negation of it, and two texts around an `and` or an `or` to the conjunction or the disjunction
of their trees; the only other outcome is that the whole nests too deep, and it is the levels that
the parts need which decide. On every record the whole then gives the negation, the conjunction or
the disjunction of what the parts give. -/
theorem compile_composed (hl : compile left = .ok leftExpr) (hr : compile right = .ok rightExpr) :
    CompilesIf (CompilesWithin 255 left leftExpr) (grouped left) leftExpr ∧
    CompilesIf (CompilesWithin 254 left leftExpr) (negated left) (.not leftExpr) ∧
    CompilesIf (CompilesWithin 255 left leftExpr ∧ CompilesWithin 254 right rightExpr)
      (conjoined left right) (.and leftExpr rightExpr) ∧
    CompilesIf (CompilesWithin 255 left leftExpr ∧ CompilesWithin 254 right rightExpr)
      (disjoined left right) (.or leftExpr rightExpr) ∧
    ∀ record expr,
      (compile (grouped left) = .ok expr → expr.holds record = leftExpr.holds record) ∧
      (compile (negated left) = .ok expr → expr.holds record = !leftExpr.holds record) ∧
      (compile (conjoined left right) = .ok expr →
        expr.holds record = (leftExpr.holds record && rightExpr.holds record)) ∧
      (compile (disjoined left right) = .ok expr →
        expr.holds record = (leftExpr.holds record || rightExpr.holds record)) := by
  obtain ⟨leftCost, hl⟩ := exists_needs hl
  obtain ⟨rightCost, hr⟩ := exists_needs hr
  -- each part needs its own levels and those that its surroundings take
  have hgrouped : CompilesIf (CompilesWithin 255 left leftExpr) (grouped left) leftExpr :=
    hl.grouped.compilesIf.congr (by rw [hl.compilesWithin_iff]; omega)
  have hnegated : CompilesIf (CompilesWithin 254 left leftExpr) (negated left) (.not leftExpr) :=
    hl.negated.compilesIf.congr (by rw [hl.compilesWithin_iff]; omega)
  -- the second text stands behind the operator, which takes a level from it
  have hboth : max (1 + leftCost) (2 + rightCost) ≤ 256 ↔
      CompilesWithin 255 left leftExpr ∧ CompilesWithin 254 right rightExpr := by
    rw [hl.compilesWithin_iff, hr.compilesWithin_iff]
    omega
  have hand := (hl.conjoined hr).compilesIf.congr hboth
  have hor := (hl.disjoined hr).compilesIf.congr hboth
  refine ⟨hgrouped, hnegated, hand, hor, fun record expr => ⟨?_, ?_, ?_, ?_⟩⟩
  · intro hcompile
    rw [hgrouped.eq_of_ok hcompile]
  · intro hcompile
    rw [hnegated.eq_of_ok hcompile, Expr.holds_not]
  · intro hcompile
    rw [hand.eq_of_ok hcompile, Expr.holds_and]
  · intro hcompile
    rw [hor.eq_of_ok hcompile, Expr.holds_or]

/-- With 255 `not` in front of an `or` there is one level left, for parentheses but not for a `not`
before them; the `or` inside takes nothing from the `and` outside. -/
theorem compile_composed_notsBeforeOr :
    ∃ left right,
      compile (notsBeforeOr 255) = .ok left ∧ compile (notsBeforeOr 0) = .ok right ∧
      compile (grouped (notsBeforeOr 255)) = .ok left ∧
      (∃ position,
        compile (negated (notsBeforeOr 255)) = .error (.syntactic (.nestingTooDeep position))) ∧
      compile (conjoined (notsBeforeOr 255) (notsBeforeOr 0)) = .ok (.and left right) := by
  have hl := compile_notsBeforeOr (Nat.le_succ 255)
  have hr := compile_notsBeforeOr (Nat.zero_le 256)
  have hleft : Needs (notsBeforeOr 255) _ _ :=
    ⟨_, spells_notsBeforeOr 255, derives_notsBeforeOr 255⟩
  have hright : Needs (notsBeforeOr 0) _ _ := ⟨_, spells_notsBeforeOr 0, derives_notsBeforeOr 0⟩
  obtain ⟨hgrouped, hnegated, hand, -⟩ := compile_composed hl hr
  refine ⟨_, _, hl, hr, hgrouped.ok_iff.mpr (hleft.compilesWithin_iff.mpr (by decide)), ?_,
    hand.ok_iff.mpr ⟨hleft.compilesWithin_iff.mpr (by decide),
      hright.compilesWithin_iff.mpr (by decide)⟩⟩
  rcases hnegated.ok_or_tooDeep with hok | htooDeep
  · exact absurd (hleft.compilesWithin_iff.mp (hnegated.ok_iff.mp hok)) (by decide)
  · exact htooDeep

end Composed

end LogSieve
