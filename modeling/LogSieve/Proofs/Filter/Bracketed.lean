import LogSieve.Proofs.Filter.Viable

/-!
# A word in parentheses on the right of a comparison

A bare word on the right of a comparison is taken as it stands, whatever its dots. In parentheses it
is an operand first: it has to be a path, and only then is it turned back into its text. So
parentheses around a word make no difference if and only if no segment of the word is empty
(`parse_compared_bracketed`).

* A word that is a path is derived the same way with and without parentheses, by `Derives.word`.
* A word that is none fails as an operand, and nothing on the way out of the parentheses looks at
  the failure again (`disjunction_of_comparison_eq_error`). The induction on the parentheses is
  `operand_bracketed_eq_error`.
-/

namespace LogSieve

variable {finish levels depth position : Nat} {tokens bare enclosed rest rest' : List Token}
  {word : Text}

theorem Compares.rule {kind : TokenKind} {node : Expr → Expr → Expr} (h : Compares kind node) :
    ComparisonRule kind node := by
  cases h with
  | equals => exact .equals
  | contains => exact .contains

/-! ### Words that are no paths -/

/-- A comparison that fails lets everything fail that starts with it. -/
theorem disjunction_of_comparison_eq_error {error : SyntaxError}
    (hstart : ∀ token ∈ tokens.head?, token.kind ≠ .not)
    (h : comparison finish levels tokens = .error error) :
    disjunction finish levels tokens = .error error := by
  rw [disjunction_eq, conjunction_eq, negation_eq_comparison hstart, h]
  rfl

/-- **A word that is no path fails in any parentheses**, with the position of the word. -/
theorem operand_bracketed_eq_error (hpath : ¬ IsPath word) (hdepth : depth ≤ levels)
    (henclosed : enclosed.map (·.kind) = bracketed word depth)
    (hword : ⟨.identifier word, position⟩ ∈ enclosed) (rest : List Token) :
    operand finish levels (enclosed ++ rest) = .error (.invalidFieldPath word position) := by
  induction depth generalizing levels enclosed rest with
  | zero =>
    obtain ⟨_, _, rfl, hnil⟩ := exists_eq_cons_of_map_kind henclosed
    obtain rfl := List.map_eq_nil_iff.mp hnil
    cases List.mem_singleton.mp hword
    exact operand_not_path hpath
  | succ depth ih =>
    -- the outermost parentheses take one level and hold the others
    obtain ⟨_, following, rfl, hfollowing⟩ := exists_eq_cons_of_map_kind henclosed
    obtain ⟨inside, closing, rfl, hinside, hclosing⟩ := List.map_eq_append_iff.mp hfollowing
    obtain ⟨_, _, rfl, hnil⟩ := exists_eq_cons_of_map_kind hclosing
    obtain rfl := List.map_eq_nil_iff.mp hnil
    have hword : ⟨.identifier word, position⟩ ∈ inside := by simpa using hword
    cases levels with
    | zero => exact absurd hdepth (Nat.not_succ_le_zero depth)
    | succ levels =>
      -- the word fails inside, and what is read as the left operand of a comparison fails with it
      have hcomparison : ∀ after, comparison finish levels (inside ++ after)
          = .error (.invalidFieldPath word position) := by
        intro after
        rw [comparison_eq, ih (Nat.le_of_succ_le_succ hdepth) hinside hword]
        rfl
      have hstart := exists_bracketed_eq_cons word depth
      rw [List.cons_append, List.append_assoc, operand_succ,
        disjunction_of_comparison_eq_error (head?_ne_not hinside hstart) (hcomparison _)]
      rfl

/-- In at least one pair of parentheses a word on the right is an operand, and fails as one. -/
theorem rightOperand_bracketed_eq_error (hpath : ¬ IsPath word) (hdepth : depth + 1 ≤ levels)
    (henclosed : enclosed.map (·.kind) = bracketed word (depth + 1))
    (hword : ⟨.identifier word, position⟩ ∈ enclosed) :
    rightOperand finish levels (enclosed ++ rest) = .error (.invalidFieldPath word position) := by
  have hoperand : operand finish levels (enclosed ++ rest)
      = .error (.invalidFieldPath word position) :=
    operand_bracketed_eq_error hpath hdepth henclosed hword rest
  obtain ⟨_, _, rfl, -⟩ := exists_eq_cons_of_map_kind henclosed
  -- a parenthesis comes first, so the word is not read as a text
  rw [rightOperand_eq, hoperand]
  · rfl
  · rintro token ⟨⟩ word ⟨⟩

/-! ### The comparison as a whole -/

section Whole

variable {leftTokens : List Token} {operator : Token} {node : Expr → Expr → Expr} {left : Expr}

/-- What the left operand comes to does not depend on what follows it. -/
theorem exists_derives_of_operand (h : operand finish levels tokens = .ok (left, [])) :
    ∃ cost ≤ levels, Derives .operand (tokens.map (·.kind)) left cost := by
  obtain ⟨used, cost, rfl, hder, hcost⟩ := sound finish levels .operand tokens left [] h
  rw [List.append_nil]
  exact ⟨cost, hcost, hder⟩

/-- A word on the right that is bare or a path is its own text. -/
theorem parse_compared_of_path (hop : Compares operator.kind node)
    (hleft : operand finish deepestNesting leftTokens = .ok (left, []))
    (hdepth : depth ≤ deepestNesting) (henclosed : enclosed.map (·.kind) = bracketed word depth)
    (hrest : ∀ token ∈ rest.head?, token.kind = .endOfInput) (hpath : depth ≠ 0 → IsPath word) :
    parse (leftTokens ++ operator :: enclosed ++ rest)
      = .ok (node left (.literal (.string word))) := by
  obtain ⟨cost, hcost, hl⟩ := exists_derives_of_operand hleft
  have hr : Derives .rightOperand (enclosed.map (·.kind)) (.literal (.string word)) depth :=
    henclosed ▸ .word hpath
  have hwhole := (hop.rule hl hr).affirmation.conjunction_single.disjunction_single
  -- the derivation is about kinds, and `parse` about tokens
  have hkinds : (leftTokens ++ operator :: enclosed).map (·.kind) =
      leftTokens.map (·.kind) ++ operator.kind :: enclosed.map (·.kind) := by
    rw [List.map_append, List.map_cons]
  rw [← hkinds] at hwhole
  refine (parse_eq_ok_iff _ _).mpr ⟨_, Nat.max_le.mpr ⟨hcost, hdepth⟩, ?_⟩
  rwa [kindsBeforeEnd_append hwhole.endOfInput_notMem hrest]

/-- A word on the right that is no path is an error in parentheses. -/
theorem parse_compared_of_not_path (hop : Compares operator.kind node)
    (hleft : operand finish deepestNesting leftTokens = .ok (left, []))
    (hdepth : depth + 1 ≤ deepestNesting)
    (henclosed : enclosed.map (·.kind) = bracketed word (depth + 1))
    (hword : ⟨.identifier word, position⟩ ∈ enclosed) (hpath : ¬ IsPath word) :
    parse (leftTokens ++ operator :: enclosed ++ rest)
      = .error (.invalidFieldPath word position) := by
  obtain ⟨cost, hcost, hl⟩ := exists_derives_of_operand hleft
  -- `parse` takes its own `finish` from the tokens, which need not be that of `hleft`
  have hcomparison : ∀ finish,
      comparison finish deepestNesting (leftTokens ++ (operator :: enclosed ++ rest))
        = .error (.invalidFieldPath word position) := by
    intro finish
    -- the left operand is read whatever follows, since its kinds are derived
    have hfirst : operand finish deepestNesting (leftTokens ++ (operator :: enclosed ++ rest))
        = .ok (left, operator :: enclosed ++ rest) :=
      (hl.recognised deepestNesting leftTokens _ rfl fun _ _ => List.not_mem_nil).ok hcost
    calc comparison finish deepestNesting (leftTokens ++ (operator :: enclosed ++ rest))
        = comparedWith finish deepestNesting left (operator :: (enclosed ++ rest)) := by
          rw [comparison_eq, hfirst]
          rfl
      _ = .error (.invalidFieldPath word position) := by
          rw [hop.comparedWith_eq, rightOperand_bracketed_eq_error hpath hdepth henclosed hword]
          rfl
  -- a negation is no operand, so the comparison is the first thing that is read
  have hnot : ∀ token ∈ (leftTokens ++ (operator :: enclosed ++ rest)).head?, token.kind ≠ .not :=
    head?_ne_not rfl (hl.startsOperand (by simp))
  unfold parse
  simp only [List.append_assoc, disjunction_of_comparison_eq_error hnot (hcomparison _)]

/-- **A word in parentheses on the right of a comparison.** Bare it is its own text, with any dots.
In parentheses, as many as the nesting allows, it comes to the same tree if and only if no segment
of it is empty; otherwise the filter is rejected for the path, at the word. -/
theorem parse_compared_bracketed (hop : Compares operator.kind node)
    (hleft : operand finish deepestNesting leftTokens = .ok (left, []))
    (hbare : bare.map (·.kind) = [.identifier word])
    (hrest : ∀ token ∈ rest.head?, token.kind = .endOfInput)
    (henclosed : enclosed.map (·.kind) = bracketed word depth) (hdepth : depth ≤ deepestNesting)
    (hword : ⟨.identifier word, position⟩ ∈ enclosed)
    (hrest' : ∀ token ∈ rest'.head?, token.kind = .endOfInput) :
    parse (leftTokens ++ operator :: bare ++ rest) = .ok (node left (.literal (.string word))) ∧
      (parse (leftTokens ++ operator :: enclosed ++ rest') =
          parse (leftTokens ++ operator :: bare ++ rest) ↔ depth = 0 ∨ IsPath word) ∧
      (depth ≠ 0 → ¬ IsPath word → parse (leftTokens ++ operator :: enclosed ++ rest') =
        .error (.invalidFieldPath word position)) := by
  have hbare' : bare.map (·.kind) = bracketed word 0 := hbare
  have hok := parse_compared_of_path hop hleft (Nat.zero_le _) hbare' hrest (absurd rfl)
  have herror : depth ≠ 0 → ¬ IsPath word → parse (leftTokens ++ operator :: enclosed ++ rest') =
      .error (.invalidFieldPath word position) := by
    intro hne hpath
    obtain ⟨depth, rfl⟩ := Nat.exists_eq_succ_of_ne_zero hne
    exact parse_compared_of_not_path hop hleft hdepth henclosed hword hpath
  refine ⟨hok, ⟨fun hsame => ?_, fun hcases => ?_⟩, herror⟩
  · -- in parentheses and no path: one is a tree and the other an error
    by_contra hneither
    obtain ⟨hne, hpath⟩ := not_or.mp hneither
    rw [hok, herror hne hpath] at hsame
    cases hsame
  · rw [hok]
    exact parse_compared_of_path hop hleft hdepth henclosed hrest' hcases.resolve_left

end Whole

/-- On the right of `contains` the word `.local` is a text when it stands bare, and an invalid path
in two pairs of parentheses. -/
theorem parse_compared_bracketed_local :
    parse [⟨.identifier "host".toList, 0⟩, ⟨.contains, 5⟩, ⟨.identifier ".local".toList, 14⟩,
        ⟨.endOfInput, 20⟩] =
      .ok (.contains (.field ⟨["host".toList]⟩) (.literal (.string ".local".toList))) ∧
    parse [⟨.identifier "host".toList, 0⟩, ⟨.contains, 5⟩, ⟨.openParen, 14⟩, ⟨.openParen, 15⟩,
        ⟨.identifier ".local".toList, 16⟩, ⟨.closeParen, 22⟩, ⟨.closeParen, 23⟩,
        ⟨.endOfInput, 24⟩] =
      .error (.invalidFieldPath ".local".toList 16) := by
  have hleft : operand 0 deepestNesting [⟨.identifier "host".toList, 0⟩]
      = .ok (.field ⟨["host".toList]⟩, []) := by cbv
  have hpath : ¬ IsPath ".local".toList := fun h => h [] (by decide) rfl
  have hparses := @parse_compared_bracketed 0 2 16 [⟨.identifier ".local".toList, 14⟩]
    [⟨.openParen, 14⟩, ⟨.openParen, 15⟩, ⟨.identifier ".local".toList, 16⟩, ⟨.closeParen, 22⟩,
      ⟨.closeParen, 23⟩] [⟨.endOfInput, 20⟩] [⟨.endOfInput, 24⟩] ".local".toList _
    ⟨.contains, 5⟩ _ _ .contains hleft rfl (by simp) rfl (by decide) (by simp) (by simp)
  exact ⟨hparses.1, hparses.2.2 (by decide) hpath⟩

/-- **Parentheses around a word can make a difference**: `b..c` is a text on the right of a
comparison, and `(b..c)` is rejected. -/
theorem parse_bracketed_dots :
    parse [⟨.identifier "a".toList, 0⟩, ⟨.equals, 2⟩, ⟨.identifier "b..c".toList, 4⟩,
        ⟨.endOfInput, 8⟩] =
      .ok (.equals (.field ⟨["a".toList]⟩) (.literal (.string "b..c".toList))) ∧
    parse [⟨.identifier "a".toList, 0⟩, ⟨.equals, 2⟩, ⟨.openParen, 4⟩,
        ⟨.identifier "b..c".toList, 5⟩, ⟨.closeParen, 9⟩, ⟨.endOfInput, 10⟩] =
      .error (.invalidFieldPath "b..c".toList 5) := by
  constructor
  · cbv
  · cbv

end LogSieve
