import LogSieve.Proofs.Filter.Quoted
import LogSieve.Proofs.Filter.Spelling

/-!
# Compiling the printed form of a filter

A filter is printed with parentheses around every operator (`Expr.text`). The printed form always
scans, and what it compiles to is known exactly: the tree with every text replaced by what its
quoted form is read as (`Expr.reread`), unless the parentheses nest too deep, which
`Expr.printedCost` measures.

Three facts about a tree that was compiled make this work (`Derives.writable`). Its paths are words
that are not reserved, so each is scanned as one identifier. Its numbers fit into 64 bits. And no
path stands on the right of a comparison, where it would be read as its text. They are collected in
`Expr.Writable`, and every writable tree is spelled by its printed form (`Expr.Writable.spells`) and
derived from its kinds (`Expr.Writable.derives`).

The main statement is `compile_text_iff`.
-/

namespace LogSieve

namespace Expr

/-! ### Trees and their printed forms -/

/-- The texts among the constants. -/
def strings : Expr → List Text
  | field _ | literal (.number _) => []
  | literal (.string value) => [value]
  | equals left right | contains left right | and left right | or left right =>
    left.strings ++ right.strings
  | not operand => operand.strings

/-- Every text replaced by what its quoted form is read as. -/
def reread : Expr → Expr
  | field path => field path
  | literal (.number value) => literal (.number value)
  | literal (.string value) => literal (.string (Text.reread value))
  | equals left right => equals left.reread right.reread
  | contains left right => contains left.reread right.reread
  | and left right => and left.reread right.reread
  | or left right => or left.reread right.reread
  | not operand => not operand.reread

/-- The levels that the printed form takes: two for a `not`, one for its parentheses and one for
the operator, and one more on the right of a chain than on its left. -/
def printedCost : Expr → Nat
  | field _ | literal _ => 0
  | equals left right | contains left right => 1 + max left.printedCost right.printedCost
  | and left right | or left right => max (1 + left.printedCost) (2 + right.printedCost)
  | not operand => 2 + operand.printedCost

/-- The kinds of two operands around an operator, in parentheses. -/
def infixKinds (left : List TokenKind) (operator : TokenKind) (right : List TokenKind) :
    List TokenKind :=
  .openParen :: (left ++ operator :: right) ++ [.closeParen]

/-- The kinds of the tokens in the printed form. -/
def printedKinds : Expr → List TokenKind
  | field path => [.identifier path.text]
  | literal (.number value) => [.number value]
  | literal (.string value) => [.string (Text.reread value)]
  | equals left right => infixKinds left.printedKinds .equals right.printedKinds
  | contains left right => infixKinds left.printedKinds .contains right.printedKinds
  | and left right => infixKinds left.printedKinds .and right.printedKinds
  | or left right => infixKinds left.printedKinds .or right.printedKinds
  | not operand => .openParen :: (.not :: operand.printedKinds) ++ [.closeParen]

/-- What is true of every tree that was compiled. -/
def Writable : Expr → Prop
  | field path => ∃ word, Lexeme word (.identifier word) ∧ IsPath word ∧ path = ⟨word.splitOn '.'⟩
  | literal (.number value) => value < 2 ^ 64
  | literal (.string _) => True
  | equals left right | contains left right =>
    left.Writable ∧ right.Writable ∧ ∀ path, right ≠ field path
  | and left right | or left right => left.Writable ∧ right.Writable
  | not operand => operand.Writable

/-- **Nothing changes if and only if no text holds a coded character.** -/
theorem reread_eq_self_iff (expr : Expr) :
    expr.reread = expr ↔ ∀ value ∈ expr.strings, ∀ c ∈ value, ¬ Text.IsCoded c := by
  induction expr with
  | field path => simp [reread, strings]
  | literal value =>
    cases value with
    | number value => simp [reread, strings]
    | string value => simp [reread, strings, Text.reread_eq_self_iff]
  | equals left right ihl ihr | contains left right ihl ihr | and left right ihl ihr
  | or left right ihl ihr =>
    rw [strings, List.forall_mem_append, ← ihl, ← ihr]
    simp [reread]
  | not operand ih =>
    rw [strings, ← ih]
    simp [reread]

theorem reread_ne_field {expr : Expr} (h : ∀ path, expr ≠ field path) :
    ∀ path, expr.reread ≠ field path := by
  intro path hpath
  -- only constants change, and they become constants
  cases expr with
  | field path' => exact h path' rfl
  | literal value => cases value <;> cases hpath
  | _ => cases hpath

end Expr

/-! ### What a compiled tree is made of -/

theorem TokenKind.eq_of_ofWord_eq_identifier {text word : Text}
    (h : TokenKind.ofWord text = .identifier word) : text = word := by
  simp only [ofWord, reserved?] at h
  split_ifs at h
  case neg => exact identifier.inj h
  all_goals cases h

theorem TokenKind.ofWord_ne_number (text : Text) (value : Nat) :
    TokenKind.ofWord text ≠ .number value := by
  simp only [ofWord, reserved?]
  split_ifs <;> simp

theorem Lexeme.eq_of_identifier {text word : Text} (h : Lexeme text (.identifier word)) :
    text = word := by
  generalize hk : TokenKind.identifier word = kind at h
  cases h with
  | word => exact TokenKind.eq_of_ofWord_eq_identifier hk.symm
  | _ => cases hk

theorem Lexeme.lt_of_number {text : Text} {value : Nat} (h : Lexeme text (.number value)) :
    value < 2 ^ 64 := by
  generalize hk : TokenKind.number value = kind at h
  cases h with
  | number _ hlt =>
    cases hk
    exact hlt
  | word => exact absurd hk.symm (TokenKind.ofWord_ne_number _ _)
  | _ => cases hk

theorem writable_linksExpr {node : Expr → Expr → Expr}
    (hnode : ∀ left right, left.Writable → right.Writable → (node left right).Writable)
    {first : Expr} (hfirst : first.Writable) {links : List Link}
    (hlinks : ∀ link ∈ links, link.expr.Writable) : (linksExpr node first links).Writable := by
  -- the chain leans to the left, so that each link makes a new first operand
  induction links generalizing first with
  | nil => exact hfirst
  | cons link links ih =>
    rw [List.forall_mem_cons] at hlinks
    exact ih (hnode _ _ hfirst hlinks.1) hlinks.2

theorem Lexical.of_link {operator : TokenKind} {first : Link} {links : List Link}
    (h : Lexical (first.kinds ++ linksKinds operator links)) :
    ∀ link ∈ first :: links, Lexical link.kinds := by
  rw [Lexical, List.forall_mem_append] at h
  rw [List.forall_mem_cons]
  refine ⟨h.1, fun link hlink kind hkind => h.2 kind ?_⟩
  exact List.mem_flatMap.mpr ⟨link, hlink, List.mem_cons_of_mem _ hkind⟩

namespace Derives

variable {symbol : Symbol} {kinds : List TokenKind} {expr : Expr} {cost : Nat}

/-- No path stands on the right of a comparison. -/
theorem ne_field (h : Derives .rightOperand kinds expr cost) : ∀ path, expr ≠ .field path := by
  rintro path rfl
  -- a single word is a text on the right, and the parentheses around a word do not help it
  cases h with
  | other hoperand hword => exact hword _ _ (hoperand.eq_bracketed_of_field rfl).2

theorem writable (h : Derives symbol kinds expr cost) (hk : Lexical kinds) : expr.Writable := by
  induction h with
  | disjunction _ ih | conjunction _ ih =>
    have hlinks := fun link hlink => ih link hlink (hk.of_link link hlink)
    rw [List.forall_mem_cons] at hlinks
    refine writable_linksExpr ?_ hlinks.1 hlinks.2
    intro left right hl hr
    exact ⟨hl, hr⟩
  | not _ ih =>
    rw [Lexical, List.forall_mem_cons] at hk
    exact ih hk.2
  | affirmation _ ih | single _ ih | other _ _ ih => exact ih hk
  | equals _ hr ihl ihr | contains _ hr ihl ihr =>
    rw [Lexical, List.forall_mem_append, List.forall_mem_cons] at hk
    exact ⟨ihl hk.1, ihr hk.2.2, hr.ne_field⟩
  | word | string => trivial
  | number =>
    obtain ⟨text, hl⟩ := hk _ (List.mem_cons_self ..)
    exact hl.lt_of_number
  | field hpath =>
    obtain ⟨text, hl⟩ := hk _ (List.mem_cons_self ..)
    obtain rfl := hl.eq_of_identifier
    exact ⟨text, hl, hpath, rfl⟩
  | group _ ih =>
    rw [Lexical, List.forall_mem_append, List.forall_mem_cons] at hk
    exact ih hk.1.2

end Derives

/-! ### The printed form is scanned -/

section Scanned

variable {text rest : Text}

theorem spells_group {kinds : List TokenKind}
    (h : ∀ rest, EndsWords rest → Spells text kinds rest) :
    Spells ('(' :: text ++ [')']) (.openParen :: kinds ++ [.closeParen]) rest := by
  -- the closing parenthesis is what ends the last word inside
  have hclose : Spells [')'] [.closeParen] rest := .lexeme .closeParen fun _ _ => rfl
  have hinside : Spells (text ++ [')']) (kinds ++ [.closeParen]) rest :=
    (h _ (endsWords_of_not_isWordChar isWordChar_closeParen)).append hclose
  exact (Spells.lexeme .openParen fun _ _ => rfl).append hinside

/-- A blank on either side of the operator keeps it apart from the operands. -/
theorem spells_infix {left operator right : Text} {kind : TokenKind}
    {leftKinds rightKinds : List TokenKind} (hop : Lexeme operator kind)
    (hl : ∀ rest, EndsWords rest → Spells left leftKinds rest)
    (hr : ∀ rest, EndsWords rest → Spells right rightKinds rest) (hrest : EndsWords rest) :
    Spells (left ++ ' ' :: (operator ++ ' ' :: right)) (leftKinds ++ kind :: rightKinds) rest := by
  refine (hl _ (endsWords_space _)).append (.blank isBlank_space ?_)
  exact .lexeme_append hop (endsWords_space _) (.blank isBlank_space (hr rest hrest))

theorem spells_infixText {left operator right : Text} {kind : TokenKind}
    {leftKinds rightKinds : List TokenKind} (hop : Lexeme operator kind)
    (hl : ∀ rest, EndsWords rest → Spells left leftKinds rest)
    (hr : ∀ rest, EndsWords rest → Spells right rightKinds rest) :
    Spells (Expr.infixText left operator right) (Expr.infixKinds leftKinds kind rightKinds)
      rest := by
  have hgroup : Spells ('(' :: (left ++ ' ' :: (operator ++ ' ' :: right)) ++ [')'])
      (Expr.infixKinds leftKinds kind rightKinds) rest :=
    spells_group fun _ hrest => spells_infix hop hl hr hrest
  simpa [Expr.infixText] using hgroup

theorem lexeme_numeral {value : Nat} (h : value < 2 ^ 64) :
    Lexeme (Text.numeral value) (.number value) := by
  have hdigits : ∀ d ∈ Text.numeral value, Text.isDigit d = true := by
    intro d hd
    have := Nat.isDigit_of_mem_toDigits (by decide) (by decide) hd
    simpa [Text.isDigit, Char.isDigit, Char.le_def] using this
  have hvalue := Text.numeralValue_numeral value
  -- the grammar wants a first digit, and a numeral has one
  generalize hn : Text.numeral value = digits at hdigits hvalue
  cases digits with
  | nil => exact absurd hn Nat.toDigits_ne_nil
  | cons c rest =>
    subst hvalue
    exact .number hdigits h

/-- **The printed form of a writable tree scans** to the kinds of the tree. -/
theorem Expr.Writable.spells {expr : Expr} (h : expr.Writable) :
    ∀ rest, EndsWords rest → Spells expr.text expr.printedKinds rest := by
  induction expr with
  | field path =>
    -- a path is printed as the word that it was read from
    obtain ⟨word, hl, -, rfl⟩ := h
    intro rest hrest
    rw [Expr.text, Expr.printedKinds, text_splitOn]
    exact .lexeme_of_endsWords hl hrest
  | literal value =>
    intro rest hrest
    cases value with
    | number value => exact .lexeme_of_endsWords (lexeme_numeral h) hrest
    | string value => exact .lexeme_of_endsWords (Text.lexeme_quoted value) hrest
  | equals left right ihl ihr =>
    intro rest _
    exact spells_infixText .equals (ihl h.1) (ihr h.2.1)
  | contains left right ihl ihr =>
    intro rest _
    exact spells_infixText lexeme_contains (ihl h.1) (ihr h.2.1)
  | and left right ihl ihr =>
    intro rest _
    exact spells_infixText lexeme_and (ihl h.1) (ihr h.2)
  | or left right ihl ihr =>
    intro rest _
    exact spells_infixText lexeme_or (ihl h.1) (ihr h.2)
  | not operand ih =>
    intro rest _
    have hinside : ∀ rest, EndsWords rest →
        Spells (['n', 'o', 't'] ++ ' ' :: operand.text) (.not :: operand.printedKinds) rest := by
      intro rest hrest
      exact .lexeme_append lexeme_not (endsWords_space _) (.blank isBlank_space (ih h rest hrest))
    exact spells_group hinside

end Scanned

/-! ### The printed form is derived -/

section Derived

variable {left right : Expr} {leftKinds rightKinds : List TokenKind} {leftCost rightCost : Nat}

/-- Operands around a connective, in parentheses: one level more for each of them. -/
theorem Connects.group {operator : TokenKind} {node : Expr → Expr → Expr}
    (hconnects : Connects operator node) (hl : Derives .operand leftKinds left leftCost)
    (hr : Derives .operand rightKinds right rightCost) :
    Derives .operand (Expr.infixKinds leftKinds operator rightKinds) (node left right)
      (max (1 + leftCost) (2 + rightCost)) := by
  have hgroup := (hconnects hl hr).group
  rwa [← Nat.add_max_add_left, ← Nat.add_assoc] at hgroup

/-- What is no path is no word in parentheses either, so it stays as it is on the right. -/
theorem Derives.rightOperand_of_ne_field (h : Derives .operand rightKinds right rightCost)
    (hfield : ∀ path, right ≠ .field path) : Derives .rightOperand rightKinds right rightCost := by
  refine .other h fun word depth hk => ?_
  obtain ⟨path, hpath⟩ := h.eq_field_of_bracketed (by simp) hk
  exact hfield path hpath

/-- **The kinds of the printed form derive the tree that is read back**, at the cost of the printed
form. -/
theorem Expr.Writable.derives {expr : Expr} (h : expr.Writable) :
    Derives .operand expr.printedKinds expr.reread expr.printedCost := by
  induction expr with
  | field path =>
    obtain ⟨word, -, hpath, rfl⟩ := h
    rw [Expr.printedKinds, text_splitOn]
    exact .field hpath
  | literal value =>
    cases value with
    | number value => exact .number
    | string value => exact .string
  | equals left right ihl ihr =>
    -- the right operand is no path, so that it is read as it was printed
    obtain ⟨hl, hr, hfield⟩ := h
    have hright := (ihr hr).rightOperand_of_ne_field (Expr.reread_ne_field hfield)
    exact (Derives.equals (ihl hl) hright).affirmation.conjunction_single.disjunction_single.group
  | contains left right ihl ihr =>
    obtain ⟨hl, hr, hfield⟩ := h
    have hright := (ihr hr).rightOperand_of_ne_field (Expr.reread_ne_field hfield)
    exact (Derives.contains (ihl hl) hright).affirmation.conjunction_single.disjunction_single.group
  | and left right ihl ihr => exact connects_and.group (ihl h.1) (ihr h.2)
  | or left right ihl ihr => exact connects_or.group (ihl h.1) (ihr h.2)
  | not operand ih =>
    -- one level for the parentheses and one for the operator
    have hnot := (ih h).single.affirmation.not.conjunction_single.disjunction_single.group
    rwa [← Nat.add_assoc] at hnot

end Derived

/-! ### Compiling again -/

section Again

variable {source : Text} {expr : Expr}

theorem writable_of_compile (h : compile source = .ok expr) : expr.Writable := by
  obtain ⟨kinds, hkinds, cost, -, hder⟩ := (compile_eq_ok_iff.mp h).exists_derives
  -- the kinds are those of lexemes, and that is where the bound on numbers comes from
  exact hder.writable hkinds

theorem Expr.Writable.spells_text (h : expr.Writable) : Spells expr.text expr.printedKinds [] := by
  refine h.spells [] fun c hc => ?_
  cases hc

theorem Expr.Writable.compile_text (h : expr.Writable) (hcost : expr.printedCost ≤ 256) :
    compile expr.text = .ok expr.reread := by
  rw [compile_eq_ok_iff]
  exact h.spells_text.compilesWithin h.derives.disjunction_of_operand hcost

theorem Expr.Writable.compile_text_lt (h : expr.Writable) (hcost : 256 < expr.printedCost) :
    ∃ position, compile expr.text = .error (.syntactic (.nestingTooDeep position)) :=
  h.spells_text.nestingTooDeep h.derives.disjunction_of_operand hcost

/-- **The printed form of a compiled filter.** It always scans. It compiles to the same tree if and
only if no text of the tree holds a character whose quoted form is the escape of the NUL or of a
code point, and the printed form costs at most 256 levels. If it costs more, it nests too deep; if
only a text is in the way, it compiles to another tree. -/
theorem compile_text_iff (h : compile source = .ok expr) :
    (∃ tokens, tokenize expr.text = .ok tokens) ∧
    (compile expr.text = .ok expr ↔
      (∀ value ∈ expr.strings, ∀ c ∈ value, ¬ Text.IsCoded c) ∧ expr.printedCost ≤ 256) ∧
    (256 < expr.printedCost →
      ∃ position, compile expr.text = .error (.syntactic (.nestingTooDeep position))) ∧
    (expr.printedCost ≤ 256 → (¬ ∀ value ∈ expr.strings, ∀ c ∈ value, ¬ Text.IsCoded c) →
      ∃ other, compile expr.text = .ok other ∧ other ≠ expr) := by
  have hw := writable_of_compile h
  obtain ⟨tokens, htokens, -⟩ := hw.spells_text.exists_tokenize
  refine ⟨⟨tokens, htokens⟩, ⟨fun hsame => ?_, ?_⟩, hw.compile_text_lt, fun hcost hcoded => ?_⟩
  · -- the limit first: without it nothing is known about the result
    have hcost : expr.printedCost ≤ 256 := by
      by_contra hlt
      obtain ⟨position, herror⟩ := hw.compile_text_lt (Nat.lt_of_not_le hlt)
      rw [hsame] at herror
      cases herror
    rw [hw.compile_text hcost] at hsame
    exact ⟨expr.reread_eq_self_iff.mp (Except.ok.inj hsame), hcost⟩
  · rintro ⟨hplain, hcost⟩
    rw [hw.compile_text hcost, expr.reread_eq_self_iff.mpr hplain]
  · refine ⟨expr.reread, hw.compile_text hcost, fun hsame => hcoded ?_⟩
    exact expr.reread_eq_self_iff.mp hsame

/-- A NUL between quotes compiles to itself and comes back as something else. -/
theorem compile_text_nul :
    compile ['\'', '\x00', '\''] = .ok (.literal (.string ['\x00'])) ∧
      ∃ other, compile (Expr.literal (.string ['\x00'])).text = .ok other ∧
        other ≠ .literal (.string ['\x00']) := by
  have hspells : Spells ['\'', '\x00', '\''] [.string ['\x00']] [] :=
    .lexeme_of_endsWords (.quoted (.inr rfl) (.plain (by decide) (by decide) .nil))
      fun c hc => by cases hc
  have h : compile ['\'', '\x00', '\''] = .ok (.literal (.string ['\x00'])) :=
    compile_eq_ok_iff.mpr
      (hspells.compilesWithin Derives.string.disjunction_of_operand (Nat.zero_le _))
  refine ⟨h, (compile_text_iff h).2.2.2 (by decide) fun hplain => ?_⟩
  exact hplain ['\x00'] (by decide) '\x00' (by decide) (.inl (by decide))

end Again

end LogSieve
