import LogSieve.Proofs.Filter.Viable

/-!
# Where a filter ends

The parser reads up to the first token for the end, or to the last token if none says that the
filter ends. It does not matter which of the two it is, and nothing behind the end matters
(`parse_append_endOfInput`).

Both are one fact. No production uses a token for the end, so what is used of tokens before an end
is used of the same tokens before any other end; and the parser sees no more of what follows than
the next token (`decided_wholeFilter`), which is that end (`parse_congr_of_end`).
-/

namespace LogSieve

variable {before rest rest' : List Token}

/-- An expression and its end are read without a token for the end among those that are used. -/
theorem endOfInput_notMem_of_wholeFilter {finish : Nat} {used : List Token} {expr : Expr}
    (h : wholeFilter finish (used ++ rest) = .ok (expr, rest)) :
    TokenKind.endOfInput ∉ used.map (·.kind) := by
  obtain ⟨⟨inner, left⟩, hread, hend⟩ := bind_eq_ok h
  -- the end itself is looked at and left where it is
  have hleft : inner = expr ∧ left = rest := by
    unfold endOfFilter at hend
    split at hend
    · exact Prod.mk.inj (Except.ok.inj hend)
    · cases hend
  obtain ⟨rfl, rfl⟩ := hleft
  obtain ⟨cost, -, hder⟩ := exists_derives_of_read .disjunction hread
  exact hder.endOfInput_notMem

/-- Tokens among which there is no end stop at an end. -/
theorem exists_eq_append_of_end {finish : Nat} {used left : List Token}
    (hend : (nextToken finish rest).kind = .endOfInput)
    (hused : TokenKind.endOfInput ∉ used.map (·.kind)) (hcut : before ++ rest = used ++ left) :
    ∃ more, before = used ++ more ∧ left = more ++ rest := by
  rcases List.append_eq_append_iff.mp hcut with ⟨more, rfl, rfl⟩ | ⟨more, rfl, rfl⟩
  · cases more with
    | nil => exact ⟨[], by rw [List.append_nil, List.append_nil], rfl⟩
    | cons token more =>
      -- the end would be the next one of the tokens that are used
      refine absurd ?_ hused
      rw [List.map_append]
      exact List.mem_append_right _ (List.mem_cons.mpr (.inl hend.symm))
  · exact ⟨more, rfl, rfl⟩

/-- **What stands behind an end does not count.** Where the same end comes next, the same is read,
and the same error is found. -/
theorem parse_congr_of_end
    (hend : (nextToken (finishOf (before ++ rest)) rest).kind = .endOfInput)
    (hsame : nextToken (finishOf (before ++ rest')) rest' =
      nextToken (finishOf (before ++ rest)) rest) :
    parse (before ++ rest') = parse (before ++ rest) := by
  cases decided_wholeFilter (finishOf (before ++ rest)) (before ++ rest) with
  | reads used left expr hcut hreads =>
    have hread := hreads _ left rfl
    obtain ⟨more, rfl, rfl⟩ :=
      exists_eq_append_of_end hend (endOfInput_notMem_of_wholeFilter hread) hcut
    simp only [List.append_assoc] at hsame hreads ⊢
    rw [parse_eq, parse_eq, hreads _ _ (nextToken_append_congr hsame more), hreads _ _ rfl]
    rfl
  | fails used left error hcut hviable hblames hfails =>
    obtain ⟨more, rfl, rfl⟩ := exists_eq_append_of_end hend hviable.endOfInput_notMem hcut
    simp only [List.append_assoc] at hsame hfails ⊢
    rw [parse_eq, parse_eq, hfails _ _ (nextToken_append_congr hsame more), hfails _ _ rfl]

/-- **The parser never looks past the end.** Behind a token for the end there may be anything: the
expression, or the error with its position, is that of the tokens up to and with the end. And tokens
without an end are read as if one stood behind them, at the position of the last token, or at the
start of the filter if there are none. -/
theorem parse_append_endOfInput (before after : List Token) (position : Nat) :
    parse (before ++ ⟨.endOfInput, position⟩ :: after) =
        parse (before ++ [⟨.endOfInput, position⟩]) ∧
      parse before =
        parse (before ++ [⟨.endOfInput, (before.getLast?.map (·.position)).getD 0⟩]) := by
  constructor
  · exact parse_congr_of_end rfl rfl
  · have hsupplied := @parse_congr_of_end before []
      [⟨.endOfInput, (before.getLast?.map (·.position)).getD 0⟩]
    rw [List.append_nil] at hsupplied
    exact (hsupplied rfl rfl).symm

end LogSieve
