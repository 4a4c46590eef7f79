import LogSieve.Filter.Compile
import LogSieve.Proofs.Filter.Recognition
import LogSieve.Proofs.Filter.Tiling

/-!
# From texts to derivations and back

The scanner and the parser put together, with the positions of the tokens taken out of sight.

* `Spells text kinds rest` — in front of `rest`, the text is a tiling whose lexemes are of the
  kinds. Spellings are put together from lexemes, blanks and other spellings.
* `CompilesWithin levels source expr` — the text compiles to the tree when the parser is given
  `levels` levels; `compile` gives it 256 (`compile_eq_ok_iff`).
* `CompilesWithin.exists_derives` — whatever compiles is derived from kinds of lexemes.
* `Spells.compilesWithin`, `Spells.nestingTooDeep` — a spelled derivation compiles to its tree if
  it costs no more levels than there are, and fails for the nesting if it costs more.
* `exists_spells` — all kinds of lexemes can be spelled in a row, so every derivation over such
  kinds is the derivation of a text.
-/

namespace LogSieve

/-! ### Spellings -/

/-- In front of `rest`, the text is an alternation of blanks and lexemes of the kinds. -/
def Spells (text : Text) (kinds : List TokenKind) (rest : Text) : Prop :=
  ∀ position, ∃ tokens, Tiled position text rest tokens ∧ tokens.map (·.kind) = kinds

/-- Each of the kinds is the kind of some lexeme. -/
def Lexical (kinds : List TokenKind) : Prop := ∀ kind ∈ kinds, ∃ text, Lexeme text kind

/-- No word and no number goes on with the text. -/
def EndsWords (text : Text) : Prop := ∀ c ∈ text.head?, isWordChar c = false

theorem endsWords_nil : EndsWords [] := fun c hc => by cases hc

theorem endsWords_of_not_isWordChar {c : Char} {text : Text} (h : isWordChar c = false) :
    EndsWords (c :: text) := by
  intro d hd
  cases hd
  exact h

theorem endsWords_space (text : Text) : EndsWords (' ' :: text) :=
  endsWords_of_not_isWordChar isWordChar_space

theorem TokenKind.extendedBy_eq_false {c : Char} (h : isWordChar c = false) (kind : TokenKind) :
    kind.extendedBy c = false := by
  cases kind with
  | number =>
    rw [extendedBy, Bool.eq_false_iff]
    -- a digit would be a word character
    intro hdigit
    rw [isWordChar_of_isDigit hdigit] at h
    cases h
  | identifier | contains | and | or | not => exact h
  | string | equals | openParen | closeParen | endOfInput => rfl

theorem lexeme_word {c : Char} {text : Text} (h : (c :: text).all isWordChar = true)
    (hd : Text.isDigit c = false) : Lexeme (c :: text) (.ofWord (c :: text)) :=
  .word (List.all_eq_true.mp h) hd

theorem lexeme_contains : Lexeme ['c', 'o', 'n', 't', 'a', 'i', 'n', 's'] .contains :=
  lexeme_word (by decide) (by decide)

theorem lexeme_and : Lexeme ['a', 'n', 'd'] .and := lexeme_word (by decide) (by decide)

theorem lexeme_or : Lexeme ['o', 'r'] .or := lexeme_word (by decide) (by decide)

theorem lexeme_not : Lexeme ['n', 'o', 't'] .not := lexeme_word (by decide) (by decide)

section Spells

variable {text text' rest : Text} {kind : TokenKind} {kinds kinds' : List TokenKind}

theorem Spells.nil : Spells [] [] rest := fun _ => ⟨[], .nil, rfl⟩

theorem Spells.blank {c : Char} (hc : Text.isBlank c = true) (h : Spells text kinds rest) :
    Spells (c :: text) kinds rest := by
  intro position
  obtain ⟨tokens, ht, hk⟩ := h (position + 1)
  exact ⟨tokens, .blank hc ht, hk⟩

theorem Spells.lexeme (hl : Lexeme text kind) (hclosed : kind.Closed rest) :
    Spells text [kind] rest := by
  intro position
  have ht : Tiled position (text ++ []) rest [⟨kind, position⟩] := .lexeme hl hclosed .nil
  rw [List.append_nil] at ht
  exact ⟨_, ht, rfl⟩

theorem Spells.append (h : Spells text kinds (text' ++ rest)) (h' : Spells text' kinds' rest) :
    Spells (text ++ text') (kinds ++ kinds') rest := by
  intro position
  obtain ⟨tokens, ht, rfl⟩ := h position
  -- the second text stands where the first one ends
  obtain ⟨tokens', ht', rfl⟩ := h' (position + text.length)
  exact ⟨tokens ++ tokens', ht.append ht', List.map_append ..⟩

/-- Where no word goes on, every lexeme is as long as it can be. -/
theorem Spells.lexeme_of_endsWords (hl : Lexeme text kind) (hend : EndsWords rest) :
    Spells text [kind] rest :=
  .lexeme hl fun c hc => kind.extendedBy_eq_false (hend c hc)

theorem Spells.lexeme_append (hl : Lexeme text kind) (hend : EndsWords (text' ++ rest))
    (h : Spells text' kinds rest) : Spells (text ++ text') (kind :: kinds) rest :=
  (Spells.lexeme_of_endsWords hl hend).append h

/-- Where a text starts makes no difference to its lexemes. -/
theorem Tiled.spells {position : Nat} {tokens : List Token} (h : Tiled position text rest tokens) :
    Spells text (tokens.map (·.kind)) rest := by
  induction h with
  | nil => exact .nil
  | blank hc _ ih => exact .blank hc ih
  | lexeme hl hclosed _ ih => exact (Spells.lexeme hl hclosed).append ih

/-- Whatever starts with no word character can be put behind a text without changing the lexemes:
only the last lexeme stands before it, and it is not made longer. -/
theorem Tiled.extend {position : Nat} {tokens : List Token} (h : Tiled position text [] tokens)
    (hend : EndsWords rest) : Tiled position text rest tokens := by
  generalize hnil : ([] : Text) = nothing at h
  induction h with
  | nil => exact .nil
  | blank hc _ ih => exact .blank hc (ih hnil)
  | @lexeme position lexeme tiles _ kind tokens hl hclosed _ ih =>
    subst hnil
    refine .lexeme hl ?_ (ih rfl)
    -- the last lexeme meets what is put behind, every other one what it met before
    cases tiles with
    | nil => exact fun c hc => kind.extendedBy_eq_false (hend c hc)
    | cons c tiles => exact hclosed

theorem Spells.extend (h : Spells text kinds []) (hend : EndsWords rest) :
    Spells text kinds rest := by
  intro position
  obtain ⟨tokens, htiled, hk⟩ := h position
  exact ⟨tokens, htiled.extend hend, hk⟩

/-- **All kinds of lexemes can be spelled in a row**, with a blank after each. -/
theorem exists_spells (h : Lexical kinds) : ∃ text, Spells text kinds [] := by
  induction kinds with
  | nil => exact ⟨[], .nil⟩
  | cons kind kinds ih =>
    rw [Lexical, List.forall_mem_cons] at h
    obtain ⟨⟨text, hl⟩, h⟩ := h
    obtain ⟨text', hspells⟩ := ih h
    exact ⟨text ++ ' ' :: text', .lexeme_append hl (endsWords_space _)
      (.blank isBlank_space hspells)⟩

end Spells

/-! ### Compiling -/

section Compile

variable {levels cost : Nat} {source : Text} {expr : Expr} {kinds : List TokenKind}

theorem Tiled.kindsBeforeEnd {lexemes : List Token} (h : Tiled 0 source [] lexemes) :
    kindsBeforeEnd (lexemes ++ [⟨.endOfInput, source.length⟩]) = lexemes.map (·.kind) := by
  refine kindsBeforeEnd_append ?_ ?_
  · rw [List.mem_map]
    rintro ⟨token, hmem, hkind⟩
    exact h.kind_ne_endOfInput token hmem hkind
  · intro token htoken
    cases htoken
    rfl

/-- The text has tokens, and the parser reads them when it is given `levels` levels. -/
def CompilesWithin (levels : Nat) (source : Text) (expr : Expr) : Prop :=
  ∃ tokens, tokenize source = .ok tokens ∧ ParsesWithin levels tokens expr

theorem compile_eq_ok_iff : compile source = .ok expr ↔ CompilesWithin 256 source expr := by
  -- neither the scanner nor the parser fails
  unfold compile
  constructor
  · intro h
    split at h
    · cases h
    · next tokens htokens =>
      split at h
      · cases h
      · next expr' hparse =>
        cases h
        exact ⟨tokens, htokens, parse_eq_ok_iff_parsesWithin.mp hparse⟩
  · rintro ⟨tokens, htokens, hparse⟩
    simp only [htokens, parse_eq_ok_iff_parsesWithin.mpr hparse]

/-- **Whatever compiles is derived from kinds of lexemes.** -/
theorem CompilesWithin.exists_derives (h : CompilesWithin levels source expr) :
    ∃ kinds, Lexical kinds ∧ ∃ cost ≤ levels, Derives .disjunction kinds expr cost := by
  obtain ⟨tokens, htokens, hparse⟩ := h
  obtain ⟨lexemes, htiled, rfl⟩ := tiled_of_tokenize htokens
  -- the only token for the end is the last one, so the parser sees all lexemes
  rw [parsesWithin_iff, htiled.kindsBeforeEnd] at hparse
  refine ⟨_, ?_, hparse⟩
  intro kind hmem
  obtain ⟨token, htoken, rfl⟩ := List.mem_map.mp hmem
  exact htiled.exists_lexeme token htoken

theorem Spells.exists_tokenize (h : Spells source kinds []) :
    ∃ tokens, tokenize source = .ok tokens ∧ kindsBeforeEnd tokens = kinds := by
  obtain ⟨lexemes, htiled, rfl⟩ := h 0
  exact ⟨_, tokenize_of_tiled htiled, htiled.kindsBeforeEnd⟩

/-- **A spelled derivation compiles**, given as many levels as it costs. -/
theorem Spells.compilesWithin (h : Spells source kinds [])
    (hder : Derives .disjunction kinds expr cost) (hcost : cost ≤ levels) :
    CompilesWithin levels source expr := by
  obtain ⟨tokens, htokens, rfl⟩ := h.exists_tokenize
  exact ⟨tokens, htokens, parsesWithin_iff.mpr ⟨cost, hcost, hder⟩⟩

theorem Spells.nestingTooDeep (h : Spells source kinds [])
    (hder : Derives .disjunction kinds expr cost) (hcost : 256 < cost) :
    ∃ position, compile source = .error (.syntactic (.nestingTooDeep position)) := by
  obtain ⟨tokens, htokens, rfl⟩ := h.exists_tokenize
  -- a derivation that costs more is stopped at a token that opens one level too many
  obtain ⟨position, hparse⟩ := parse_of_derives_lt hder hcost
  unfold compile
  simp only [htokens, hparse]
  exact ⟨position, rfl⟩

end Compile

end LogSieve
