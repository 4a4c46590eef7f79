import LogSieve.Command.Session
import LogSieve.Proofs.Filter.Printed
import LogSieve.Proofs.Text.Unquoted

/-!
# No two filters are printed alike

The printed form of a compiled tree says which tree it is. Compiling it again is no proof of this:
the parentheses may nest too deep for the parser, and the scanner does not read every escape back.

The printed form is taken apart from the left instead. What is proved of a tree is `Readable`: in
front of any text that no word goes on with, its printed form says where it ends and which tree it
is, among the writable ones. Three facts carry this through the tree.

* Every printed form starts with a lexeme, whose kind is never `not`
  (`Writable.exists_first_lexeme`). Two lexemes in front of such texts are the same as soon as the
  texts are (`Lexeme.append_inj`), so an operand is never taken for the `not` of a negation, a
  constant never for a path, and neither of them for a parenthesis.
* A constant or a path is its own only lexeme (`IsLeaf.readable`). The kind of the lexeme says which
  one it is, but for texts, of which the printed forms themselves have to be compared.
* After the left operand, which ends where it must, the operator is a lexeme again
  (`IsInfix.readable`).

The main statement is `expr_eq_of_text_eq`.
-/

namespace LogSieve

/-- **A lexeme says where it ends.** Nothing that follows makes it longer, so that the text it
stands in determines it. -/
theorem Lexeme.append_inj {text text' rest rest' : Text} {kind kind' : TokenKind}
    (hl : Lexeme text kind) (hl' : Lexeme text' kind') (hclosed : kind.Closed rest)
    (hclosed' : kind'.Closed rest') (h : text ++ rest = text' ++ rest') :
    text = text' ∧ kind = kind' ∧ rest = rest' := by
  obtain ⟨c, tail, rfl, -, hread⟩ := lexeme_of_lexeme hl hclosed 0
  obtain ⟨c', tail', rfl, -, hread'⟩ := lexeme_of_lexeme hl' hclosed' 0
  -- the scanner reads both at the same place of the same text
  obtain ⟨rfl, -⟩ := List.cons.inj h
  have htail : tail ++ rest = tail' ++ rest' := (List.cons.inj h).2
  rw [htail, hread'] at hread
  obtain ⟨rfl, hnext⟩ := Prod.mk.inj (Except.ok.inj hread)
  obtain ⟨-, rfl⟩ := Prod.mk.inj hnext
  exact ⟨List.append_cancel_right h, rfl, rfl⟩

namespace Expr

/-! ### The shapes of printed trees -/

/-- The tree is a path or a constant. -/
def IsLeaf : Expr → Prop
  | field _ | literal _ => True
  | _ => False

/-- `IsInfix expr left operator right`: the tree is printed as two operands around an operator. -/
inductive IsInfix : Expr → Expr → Text → Expr → Prop where
  | equals {left right : Expr} : IsInfix (equals left right) left ['='] right
  | contains {left right : Expr} :
    IsInfix (contains left right) left ['c', 'o', 'n', 't', 'a', 'i', 'n', 's'] right
  | and {left right : Expr} : IsInfix (and left right) left ['a', 'n', 'd'] right
  | or {left right : Expr} : IsInfix (or left right) left ['o', 'r'] right

/-- Every tree has one of three shapes. -/
theorem shape (expr : Expr) :
    expr.IsLeaf ∨ (∃ left operator right, IsInfix expr left operator right) ∨
      ∃ operand, expr = not operand := by
  cases expr with
  | field | literal => exact .inl trivial
  | equals left right => exact .inr (.inl ⟨_, _, _, .equals⟩)
  | contains left right => exact .inr (.inl ⟨_, _, _, .contains⟩)
  | and left right => exact .inr (.inl ⟨_, _, _, .and⟩)
  | or left right => exact .inr (.inl ⟨_, _, _, .or⟩)
  | not operand => exact .inr (.inr ⟨operand, rfl⟩)

namespace IsInfix

variable {expr expr' left right : Expr} {operator : Text}

theorem text_eq (h : IsInfix expr left operator right) :
    expr.text = infixText left.text operator right.text := by
  cases h <;> rfl

theorem writable (h : IsInfix expr left operator right) (hw : expr.Writable) :
    left.Writable ∧ right.Writable := by
  cases h with
  | equals | contains => exact ⟨hw.1, hw.2.1⟩
  | and | or => exact hw

/-- The printed operator says which operator it is. -/
theorem unique (h : IsInfix expr left operator right) (h' : IsInfix expr' left operator right) :
    expr = expr' := by
  cases h <;> cases h' <;> rfl

theorem exists_lexeme (h : IsInfix expr left operator right) : ∃ kind, Lexeme operator kind := by
  cases h with
  | equals => exact ⟨_, .equals⟩
  | contains => exact ⟨_, lexeme_contains⟩
  | and => exact ⟨_, lexeme_and⟩
  | or => exact ⟨_, lexeme_or⟩

/-- The printed form with what follows it, opened at both operands. -/
theorem text_append (h : IsInfix expr left operator right) (rest : Text) :
    expr.text ++ rest
      = '(' :: (left.text ++ ' ' :: (operator ++ ' ' :: (right.text ++ ')' :: rest))) := by
  rw [h.text_eq, infixText]
  simp

end IsInfix

theorem text_not_append (operand : Expr) (rest : Text) :
    (not operand).text ++ rest
      = '(' :: (['n', 'o', 't'] ++ ' ' :: (operand.text ++ ')' :: rest)) := by
  rw [text]
  simp

/-! ### The first lexeme -/

theorem closed_of_endsWords {text : Text} (kind : TokenKind) (h : EndsWords text) :
    kind.Closed text :=
  fun c hc => kind.extendedBy_eq_false (h c hc)

/-- The kind of the lexeme that a path or a constant is printed as. -/
def leafKind : Expr → TokenKind
  | field path => .identifier path.text
  | literal (.string value) => .string (Text.reread value)
  | literal (.number value) => .number value
  | _ => .endOfInput

/-- A path or a constant is printed as one lexeme. -/
theorem IsLeaf.lexeme {expr : Expr} (hleaf : expr.IsLeaf) (hw : expr.Writable) :
    Lexeme expr.text expr.leafKind := by
  cases expr with
  | field path =>
    obtain ⟨word, hl, -, rfl⟩ := hw
    rw [text, leafKind, text_splitOn]
    exact hl
  | literal value =>
    cases value with
    | string value => exact Text.lexeme_quoted value
    | number value => exact lexeme_numeral hw
  | equals | contains | and | or | not => exact hleaf.elim

/-- **Every printed form starts with a lexeme**, and never with the operator `not`: that one comes
after a parenthesis. -/
theorem Writable.exists_first_lexeme {expr : Expr} (hw : expr.Writable) {rest : Text}
    (hrest : EndsWords rest) :
    ∃ first kind after, expr.text ++ rest = first ++ after ∧ Lexeme first kind ∧
      kind.Closed after ∧ kind ≠ .not := by
  rcases expr.shape with hleaf | ⟨left, operator, right, hsplit⟩ | ⟨operand, rfl⟩
  · refine ⟨_, _, rest, rfl, hleaf.lexeme hw, closed_of_endsWords _ hrest, ?_⟩
    unfold leafKind
    split <;> exact TokenKind.noConfusion
  · exact ⟨['('], .openParen, _, hsplit.text_append rest, .openParen, fun _ _ => rfl,
      TokenKind.noConfusion⟩
  · exact ⟨['('], .openParen, _, text_not_append operand rest, .openParen, fun _ _ => rfl,
      TokenKind.noConfusion⟩

/-! ### Taking printed trees apart -/

/-- The printed form of the tree says where it ends and which tree it is. -/
def Readable (expr : Expr) : Prop :=
  ∀ other : Expr, other.Writable → ∀ rest rest' : Text, EndsWords rest → EndsWords rest' →
    expr.text ++ rest = other.text ++ rest' → expr = other ∧ rest = rest'

theorem endsWords_closeParen (text : Text) : EndsWords (')' :: text) :=
  endsWords_of_not_isWordChar isWordChar_closeParen

/-- A tree that starts with a parenthesis is no path and no constant. -/
theorem IsLeaf.text_append_ne {expr : Expr} (hleaf : expr.IsLeaf) (hw : expr.Writable)
    {rest : Text} (hrest : EndsWords rest) (after : Text) :
    expr.text ++ rest ≠ '(' :: after := by
  intro h
  -- a parenthesis is a lexeme of its own, and of another kind
  have hparen : expr.text ++ rest = ['('] ++ after := h
  obtain ⟨-, hkind, -⟩ := (hleaf.lexeme hw).append_inj .openParen
    (closed_of_endsWords _ hrest) (fun _ _ => rfl) hparen
  unfold leafKind at hkind
  split at hkind <;> cases hkind

/-- An operand and the operator `not` do not start alike. -/
theorem Writable.text_append_ne_not {expr : Expr} (hw : expr.Writable) {rest : Text}
    (hrest : EndsWords rest) (after : Text) :
    expr.text ++ rest ≠ ['n', 'o', 't'] ++ ' ' :: after := by
  intro h
  obtain ⟨first, kind, tail, hfirst, hl, hclosed, hne⟩ := hw.exists_first_lexeme hrest
  rw [hfirst] at h
  -- the word `not` would be the first lexeme
  obtain ⟨-, hkind, -⟩ := hl.append_inj lexeme_not hclosed
    (closed_of_endsWords _ (endsWords_space after)) h
  exact hne hkind

/-- A path or a constant is read off its lexeme. For a text, the kind of the lexeme does not say
which text it is, so its printed form is taken apart. -/
theorem IsLeaf.readable {expr : Expr} (hleaf : expr.IsLeaf) (hw : expr.Writable) :
    expr.Readable := by
  intro other hw' rest rest' hrest hrest' h
  -- the other tree begins without a parenthesis too
  have hleaf' : other.IsLeaf := by
    rcases other.shape with hleaf' | ⟨left, operator, right, hsplit⟩ | ⟨operand, rfl⟩
    · exact hleaf'
    · rw [hsplit.text_append] at h
      exact absurd h (hleaf.text_append_ne hw hrest _)
    · rw [text_not_append] at h
      exact absurd h (hleaf.text_append_ne hw hrest _)
  obtain ⟨htext, hkind, hafter⟩ := (hleaf.lexeme hw).append_inj (hleaf'.lexeme hw')
    (closed_of_endsWords _ hrest) (closed_of_endsWords _ hrest') h
  refine ⟨?_, hafter⟩
  -- the kinds rule out all pairs but those of one sort
  match expr, other with
  | field path, field path' =>
    obtain ⟨word, -, -, rfl⟩ := hw
    obtain ⟨word', -, -, rfl⟩ := hw'
    rw [text, text, text_splitOn, text_splitOn] at htext
    rw [htext]
  | literal (.string value), literal (.string value') =>
    have hquoted : Text.quoted value ++ [] = Text.quoted value' ++ [] :=
      congrArg (· ++ []) htext
    rw [(Text.quoted_append_inj hquoted).1]
  | literal (.number value), literal (.number value') => rw [TokenKind.number.inj hkind]
  | field _, literal (.string _) | field _, literal (.number _)
  | literal (.string _), field _ | literal (.string _), literal (.number _)
  | literal (.number _), field _ | literal (.number _), literal (.string _) => cases hkind

/-- **Two operands around an operator are taken apart from the left**: the left operand says where
it ends, then the operator does, and then the right operand. -/
theorem IsInfix.readable {expr left right : Expr} {operator : Text}
    (hsplit : IsInfix expr left operator right) (hw : expr.Writable) (hl : left.Readable)
    (hr : right.Readable) : expr.Readable := by
  intro other hw' rest rest' hrest hrest' h
  rw [hsplit.text_append] at h
  rcases other.shape with hleaf' | ⟨left', operator', right', hsplit'⟩ | ⟨operand, rfl⟩
  · exact absurd h.symm (hleaf'.text_append_ne hw' hrest' _)
  · rw [hsplit'.text_append] at h
    obtain ⟨hwl', hwr'⟩ := hsplit'.writable hw'
    obtain ⟨rfl, hleft⟩ := hl left' hwl' _ _ (endsWords_space _) (endsWords_space _)
      (List.cons.inj h).2
    -- behind the left operand and a blank both texts go on with the operator
    obtain ⟨kind, hlexeme⟩ := hsplit.exists_lexeme
    obtain ⟨kind', hlexeme'⟩ := hsplit'.exists_lexeme
    obtain ⟨rfl, -, hoperator⟩ := hlexeme.append_inj hlexeme'
      (closed_of_endsWords _ (endsWords_space _)) (closed_of_endsWords _ (endsWords_space _))
      (List.cons.inj hleft).2
    obtain ⟨rfl, hright⟩ := hr right' hwr' _ _ (endsWords_closeParen _) (endsWords_closeParen _)
      (List.cons.inj hoperator).2
    exact ⟨hsplit.unique hsplit', (List.cons.inj hright).2⟩
  · -- the left operand would start with a `not`
    rw [text_not_append] at h
    exact absurd (List.cons.inj h).2
      ((hsplit.writable hw).1.text_append_ne_not (endsWords_space _) _)

theorem readable_not {operand : Expr} (hoperand : operand.Readable) :
    (not operand).Readable := by
  intro other hw' rest rest' hrest hrest' h
  rw [text_not_append] at h
  rcases other.shape with hleaf' | ⟨left', operator', right', hsplit'⟩ | ⟨operand', rfl⟩
  · exact absurd h.symm (hleaf'.text_append_ne hw' hrest' _)
  · rw [hsplit'.text_append] at h
    exact absurd (List.cons.inj h).2.symm
      ((hsplit'.writable hw').1.text_append_ne_not (endsWords_space _) _)
  · rw [text_not_append] at h
    -- both go on with the operand behind the word and a blank
    have hinside := List.append_cancel_left (List.cons.inj h).2
    obtain ⟨rfl, hafter⟩ := hoperand operand' hw' _ _ (endsWords_closeParen _)
      (endsWords_closeParen _) (List.cons.inj hinside).2
    exact ⟨rfl, (List.cons.inj hafter).2⟩

/-- **Every writable tree can be read off its printed form.** -/
theorem Writable.readable {expr : Expr} (hw : expr.Writable) : expr.Readable := by
  induction expr with
  | field path => exact IsLeaf.readable trivial hw
  | literal value => exact IsLeaf.readable trivial hw
  | equals left right ihl ihr => exact IsInfix.equals.readable hw (ihl hw.1) (ihr hw.2.1)
  | contains left right ihl ihr => exact IsInfix.contains.readable hw (ihl hw.1) (ihr hw.2.1)
  | and left right ihl ihr => exact IsInfix.and.readable hw (ihl hw.1) (ihr hw.2)
  | or left right ihl ihr => exact IsInfix.or.readable hw (ihl hw.1) (ihr hw.2)
  | not operand ih => exact readable_not (ih hw)

theorem Writable.eq_of_text_eq {expr other : Expr} (hw : expr.Writable) (hw' : other.Writable)
    (h : expr.text = other.text) : expr = other := by
  -- with nothing behind them, the printed forms are all there is
  have hnil : EndsWords [] := fun c hc => by cases hc
  exact (hw.readable other hw' [] [] hnil hnil (by rw [h])).1

end Expr

/-! ### Compiled filters -/

section Compiled

variable {source source' : Text} {expr expr' : Expr}

/-- **No two filters are printed alike.** If two texts compile and their trees have the same printed
form, the trees are the same; and so they are if runs that are asked to print them write the same
bytes. -/
theorem expr_eq_of_text_eq (h : compile source = .ok expr) (h' : compile source' = .ok expr') :
    (expr.text = expr'.text → expr = expr') ∧
      ((Outcome.ofExpr expr).stdout = (Outcome.ofExpr expr').stdout → expr = expr') := by
  have htext : expr.text = expr'.text → expr = expr' :=
    (writable_of_compile h).eq_of_text_eq (writable_of_compile h')
  refine ⟨htext, fun hstdout => htext ?_⟩
  have hline : expr.text ++ ['\n'] = expr'.text ++ ['\n'] := Utf8.encode_injective hstdout
  exact List.append_cancel_right hline

/-- A NUL is printed as a backslash and a zero, and a backslash before a zero as two backslashes and
a zero. The scanner would read the first of these forms as a zero alone. -/
theorem text_nul_ne_text_backslash_zero :
    ∃ nul backslash,
      compile ['"', '\x00', '"'] = .ok nul ∧ compile ['"', '\\', '\\', '0', '"'] = .ok backslash ∧
      nul ≠ backslash ∧ (Outcome.ofExpr nul).stdout ≠ (Outcome.ofExpr backslash).stdout := by
  have hend : EndsWords [] := fun c hc => by cases hc
  have hnul : Spells ['"', '\x00', '"'] [.string ['\x00']] [] :=
    .lexeme_of_endsWords (.quoted (.inl rfl) (.plain (by decide) (by decide) .nil)) hend
  have hescape : Escapes '\\' '\\' := escapes_iff.mpr rfl
  have hzero : QuotedBody '"' ['0'] ['0'] := .plain (by decide) (by decide) .nil
  have hbackslash : Spells ['"', '\\', '\\', '0', '"'] [.string ['\\', '0']] [] :=
    .lexeme_of_endsWords (.quoted (.inl rfl) (.escaped hescape hzero)) hend
  have h : compile ['"', '\x00', '"'] = .ok (.literal (.string ['\x00'])) :=
    compile_eq_ok_iff.mpr
      (hnul.compilesWithin Derives.string.disjunction_of_operand (Nat.zero_le _))
  have h' : compile ['"', '\\', '\\', '0', '"'] = .ok (.literal (.string ['\\', '0'])) :=
    compile_eq_ok_iff.mpr
      (hbackslash.compilesWithin Derives.string.disjunction_of_operand (Nat.zero_le _))
  have hne : Expr.literal (.string ['\x00']) ≠ .literal (.string ['\\', '0']) := by decide
  exact ⟨_, _, h, h', hne, fun hstdout => hne ((expr_eq_of_text_eq h h').2 hstdout)⟩

end Compiled

end LogSieve
