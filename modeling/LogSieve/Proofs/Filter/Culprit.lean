import LogSieve.Proofs.Filter.FieldTest
import LogSieve.Proofs.Filter.Placed
import LogSieve.Proofs.Filter.Viable
import LogSieve.Report.Caret

/-!
# What stands where an error is found

The position of an error is an offset into the filter, and what the error is about stands there: the
character, the run of digits, the quote, the word or the token that it reports
(`FilterError.AtCulprit`). So the position never lies beyond the end of the filter, and the caret
under the filter is never moved back to it.

An error of the scanner is where the tiling of the text is stuck, and all that has to be added is
that a run of digits does not begin before its position. An error of the parser is about a token,
and the tiling is cut there (`Tiled.exists_cut`): the token's lexeme is between what is tiled by the
tokens before it and the rest. That a word that is no path does not begin earlier takes more: a
number right before it would, and that is excluded by where such a word is asked for
(`placed_of_parse_eq_error`).
-/

namespace LogSieve

variable {source : Text} {error : FilterError}

/-! ### What errors are about -/

/-- The characters stand at the position, all of them are in the class, and there are no more of
them on either side. -/
def StandsAsRun (p : Char → Bool) (source : Text) (position : Nat) (run : Text) : Prop :=
  ∃ before after, source = before ++ run ++ after ∧ before.length = position ∧
    run ≠ [] ∧ (∀ c ∈ run, p c = true) ∧
    (∀ c ∈ before.getLast?, p c = false) ∧ ∀ c ∈ after.head?, p c = false

/-- A token of the kind starts at the position: its lexeme stands there, as long as it can be, and
the text before it is an alternation of blanks and lexemes. -/
def TokenAt (source : Text) (position : Nat) (kind : TokenKind) : Prop :=
  ∃ before text after earlier, source = before ++ text ++ after ∧ before.length = position ∧
    Tiled 0 before (text ++ after) earlier ∧ Lexeme text kind ∧ kind.Closed after

/-- A quote stands at the position, which opens a quoted text, and `inner` is all that comes after
it. -/
def QuoteAt (source : Text) (position : Nat) (quote : Char) (inner : Text) : Prop :=
  ∃ before earlier, source = before ++ quote :: inner ∧ before.length = position ∧
    Tiled 0 before (quote :: inner) earlier ∧ IsQuote quote

/-- No quote in the text closes what was opened before it. -/
def NeverClosed (quote : Char) (inner : Text) : Prop :=
  ∀ body value rest, QuotedBody quote body value → inner ≠ body ++ quote :: rest

/-- What an error of the scanner reports stands at its position. -/
def LexicalError.AtCulprit (source : Text) : LexicalError → Prop
  | unexpectedCharacter character position =>
    source[position]? = some character ∧ Text.isBlank character = false ∧ ¬ IsQuote character ∧
      character ∉ ['(', ')', '='] ∧ isWordChar character = false
  | numberOutOfRange digits position =>
    StandsAsRun Text.isDigit source position digits ∧ 2 ^ 64 ≤ Text.numeralValue digits
  | unterminatedString position =>
    ∃ quote inner, QuoteAt source position quote inner ∧ NeverClosed quote inner
  | unexpectedEndOfString position => position = source.length ∧
    ∃ opening quote body value, QuoteAt source opening quote (body ++ ['\\']) ∧
      QuotedBody quote body value

/-- What an error of the parser reports stands at its position. The end of the filter is reported at
its length. -/
def SyntaxError.AtCulprit (source : Text) : SyntaxError → Prop
  | unexpectedToken found position | expected _ found position =>
    TokenAt source position found ∨ found = .endOfInput ∧ position = source.length
  | invalidFieldPath path position =>
    StandsAsRun isWordChar source position path ∧ [] ∈ path.splitOn '.'
  | nestingTooDeep position => ∃ kind, kind.Opens ∧ TokenAt source position kind

/-- What the error reports stands at its position. -/
def FilterError.AtCulprit (source : Text) : FilterError → Prop
  | lexical error => error.AtCulprit source
  | syntactic error => error.AtCulprit source

/-! ### No culprit lies beyond the end -/

theorem StandsAsRun.position_le {p : Char → Bool} {position : Nat} {run : Text}
    (h : StandsAsRun p source position run) : position ≤ source.length := by
  obtain ⟨before, after, rfl, rfl, -⟩ := h
  rw [List.append_assoc, List.length_append]
  exact Nat.le_add_right _ _

theorem TokenAt.position_le {position : Nat} {kind : TokenKind}
    (h : TokenAt source position kind) : position ≤ source.length := by
  obtain ⟨before, text, after, -, rfl, rfl, -⟩ := h
  rw [List.append_assoc, List.length_append]
  exact Nat.le_add_right _ _

theorem QuoteAt.position_le {position : Nat} {quote : Char} {inner : Text}
    (h : QuoteAt source position quote inner) : position ≤ source.length := by
  obtain ⟨before, -, rfl, rfl, -⟩ := h
  rw [List.length_append]
  exact Nat.le_add_right _ _

theorem LexicalError.AtCulprit.position_le {error : LexicalError} (h : error.AtCulprit source) :
    error.position ≤ source.length := by
  cases error with
  | unexpectedCharacter character position =>
    obtain ⟨hlt, -⟩ := List.getElem?_eq_some_iff.mp h.1
    exact Nat.le_of_lt hlt
  | numberOutOfRange digits position => exact h.1.position_le
  | unterminatedString position =>
    obtain ⟨quote, inner, hquote, -⟩ := h
    exact hquote.position_le
  | unexpectedEndOfString position => exact Nat.le_of_eq h.1

theorem SyntaxError.AtCulprit.position_le {error : SyntaxError} (h : error.AtCulprit source) :
    error.position ≤ source.length := by
  cases error with
  | unexpectedToken | expected =>
    rcases h with htoken | ⟨-, hend⟩
    · exact htoken.position_le
    · exact Nat.le_of_eq hend
  | invalidFieldPath path position => exact h.1.position_le
  | nestingTooDeep position =>
    obtain ⟨kind, -, htoken⟩ := h
    exact htoken.position_le

theorem FilterError.AtCulprit.position_le (h : error.AtCulprit source) :
    error.position ≤ source.length := by
  cases error with
  | lexical error => exact LexicalError.AtCulprit.position_le h
  | syntactic error => exact SyntaxError.AtCulprit.position_le h

/-! ### What stands before a place in a tiling -/

section Tiled

variable {position : Nat} {tiles rest text : Text} {kind : TokenKind} {token : Token}
  {tokens earlier later : List Token} {c d : Char}

/-- **A tiling can be cut at each of its tokens**: the lexeme of the token stands behind what the
tokens before it tile. -/
theorem Tiled.exists_cut (h : Tiled position tiles rest (earlier ++ token :: later)) :
    ∃ before text after, tiles = before ++ text ++ after ∧
      token.position = position + before.length ∧
      Tiled position before (text ++ after ++ rest) earlier ∧
      Lexeme text token.kind ∧ token.kind.Closed (after ++ rest) := by
  generalize htokens : earlier ++ token :: later = tokens at h
  -- on the tiling, while `earlier` loses the tokens that are passed
  induction h generalizing earlier with
  | nil => exact absurd htokens (by simp)
  | blank hc _ ih =>
    obtain ⟨before, text, after, rfl, hposition, hbefore, hl, hclosed⟩ := ih htokens
    refine ⟨_ :: before, text, after, rfl, ?_, .blank hc hbefore, hl, hclosed⟩
    rw [hposition, List.length_cons, Nat.add_right_comm, Nat.add_assoc]
  | @lexeme position text tiles rest kind tokens hl hclosed _ ih =>
    cases earlier with
    | nil =>
      -- the token of the first lexeme
      obtain ⟨rfl, rfl⟩ := List.cons.inj htokens
      exact ⟨[], text, tiles, rfl, rfl, .nil, hl, hclosed⟩
    | cons first earlier =>
      obtain ⟨rfl, hlater⟩ := List.cons.inj htokens
      obtain ⟨before, text', after, rfl, hposition, hbefore, hl', hclosed'⟩ := ih hlater
      refine ⟨text ++ before, text', after, by simp only [List.append_assoc], ?_,
        .lexeme hl ?_ hbefore, hl', hclosed'⟩
      · rw [hposition, List.length_append, Nat.add_assoc]
      · simpa only [List.append_assoc] using hclosed

/-- The last character of a tiling is blank, or it is the last one of the last lexeme, with nothing
between that lexeme and what follows the tiling. -/
theorem Tiled.getLast?_cases (h : Tiled position tiles rest tokens) (hc : c ∈ tiles.getLast?) :
    Text.isBlank c = true ∨ ∃ token ∈ tokens.getLast?, ∃ text, Lexeme text token.kind ∧
      token.kind.Closed rest ∧ c ∈ text.getLast? := by
  -- what is first in the tiling is last only if there is nothing behind it
  induction h with
  | nil => cases hc
  | @blank position b tiles rest tokens hb h ih =>
    rcases List.eq_nil_or_concat' tiles with rfl | ⟨tiles, d, rfl⟩
    · cases hc
      exact .inl hb
    · rw [← List.cons_append, List.getLast?_concat] at hc
      exact ih (by rwa [List.getLast?_concat])
  | @lexeme position text tiles rest kind tokens hl hclosed h ih =>
    rcases List.eq_nil_or_concat' tiles with rfl | ⟨tiles, d, rfl⟩
    · rw [h.eq_nil rfl]
      rw [List.append_nil] at hc
      exact .inr ⟨_, rfl, text, hl, hclosed, hc⟩
    · rw [← List.append_assoc, List.getLast?_concat] at hc
      refine (ih (by rwa [List.getLast?_concat])).imp_right ?_
      rintro ⟨token, htoken, hlast⟩
      refine ⟨token, ?_, hlast⟩
      rw [List.getLast?_cons, Option.mem_def.mp htoken]
      rfl

/-- A lexeme that ends with a character of words is a number or a word. -/
theorem Lexeme.number_or_word (h : Lexeme text kind) (hc : c ∈ text.getLast?)
    (hword : isWordChar c = true) :
    (∃ value, kind = .number value) ∨ kind.extendedBy = isWordChar := by
  cases h with
  | openParen | closeParen | equals =>
    cases hc
    simp at hword
  | quoted hq =>
    rw [List.getLast?_concat] at hc
    cases hc
    rw [hq.isWordChar] at hword
    cases hword
  | number => exact .inl ⟨_, rfl⟩
  | word => exact .inr (TokenKind.extendedBy_ofWord _)

/-- A run of digits after a tiling does not begin within it. -/
theorem Tiled.isDigit_getLast? (h : Tiled position tiles rest tokens) (hd : d ∈ rest.head?)
    (hdigit : Text.isDigit d = true) (hc : c ∈ tiles.getLast?) : Text.isDigit c = false := by
  rw [Bool.eq_false_iff]
  intro hcdigit
  rcases h.getLast?_cases hc with hblank | ⟨⟨kind, _⟩, -, text, hl, hclosed, hlast⟩
  · rw [isBlank_eq_false_of_isDigit hcdigit] at hblank
    cases hblank
  · -- both a number and a word would have taken the digit along
    have hextended := hclosed d hd
    rcases hl.number_or_word hlast (isWordChar_of_isDigit hcdigit) with ⟨value, rfl⟩ | hword
    · rw [show TokenKind.extendedBy _ d = Text.isDigit d from rfl, hdigit] at hextended
      cases hextended
    · rw [hword, isWordChar_of_isDigit hdigit] at hextended
      cases hextended

/-- A word after a tiling does not begin within it, unless a number stands right before it. -/
theorem Tiled.isWordChar_getLast? (h : Tiled position tiles rest tokens) (hd : d ∈ rest.head?)
    (hword : isWordChar d = true) (htokens : EndsOpening tokens) (hc : c ∈ tiles.getLast?) :
    isWordChar c = false := by
  rw [Bool.eq_false_iff]
  intro hcword
  rcases h.getLast?_cases hc with hblank | ⟨⟨kind, _⟩, htoken, text, hl, hclosed, hlast⟩
  · rw [isBlank_eq_false_of_isWordChar hcword] at hblank
    cases hblank
  · have hopens := htokens _ htoken
    rcases hl.number_or_word hlast hcword with ⟨value, rfl⟩ | hextends
    · exact hopens
    · have hextended := hclosed d hd
      rw [hextends, hword] at hextended
      cases hextended

end Tiled

/-! ### The errors of the scanner -/

/-- A quoted text that goes to the end without a quote is not closed anywhere. -/
theorem QuotedBody.neverClosed {quote : Char} {inner value : Text}
    (h : QuotedBody quote inner value) (hq : IsQuote quote) : NeverClosed quote inner := by
  rintro body value' rest hbody rfl
  -- the reader would find the quote
  have hunclosed := readQuoted_of_unclosed hq h 0 0
  rw [readQuoted_of_closed hq hbody] at hunclosed
  cases hunclosed

theorem LexicalError.atCulprit_of_tokenize {error : LexicalError}
    (h : tokenize source = .error error) : error.AtCulprit source := by
  obtain ⟨tiles, rest, tokens, rfl, htiled, hstuck⟩ := stuck_of_tokenize h
  cases hstuck with
  | unexpectedCharacter hblank hquote hpunct hword =>
    refine ⟨?_, hblank, hquote, hpunct, hword⟩
    rw [List.getElem?_append_right (Nat.le_refl _), Nat.sub_self]
    rfl
  | @numberOutOfRange c digits rest hdigits hend hge =>
    -- being stuck says where the run ends, and the tiling that it does not begin earlier
    have hbefore : ∀ d ∈ tiles.getLast?, Text.isDigit d = false := fun _ =>
      htiled.isDigit_getLast? rfl (hdigits c (List.mem_cons_self ..))
    refine ⟨⟨tiles, rest, ?_, rfl, List.cons_ne_nil _ _, hdigits, hbefore, hend⟩, hge⟩
    rw [List.append_assoc]
  | @unterminatedString quote body value hq hbody =>
    exact ⟨quote, body, ⟨tiles, tokens, rfl, rfl, htiled, hq⟩, hbody.neverClosed hq⟩
  | @unexpectedEndOfString quote body value hq hbody =>
    refine ⟨List.length_append.symm, tiles.length, quote, body, value, ?_, hbody⟩
    exact ⟨tiles, tokens, rfl, rfl, htiled, hq⟩

/-! ### The errors of the parser -/

section Parser

variable {lexemes tokens : List Token} {finish position : Nat} {kind : TokenKind}

/-- The tokens of a tiling stand where they say. -/
theorem Tiled.tokenAt {earlier later : List Token}
    (h : Tiled 0 source [] (earlier ++ ⟨kind, position⟩ :: later)) :
    TokenAt source position kind := by
  obtain ⟨before, text, after, rfl, hposition, hbefore, hl, hclosed⟩ := h.exists_cut
  rw [List.append_nil] at hbefore hclosed
  exact ⟨before, text, after, _, rfl, (hposition.trans (Nat.zero_add _)).symm, hbefore, hl, hclosed⟩

theorem Tiled.tokenAt_or_end (h : Tiled 0 source [] lexemes)
    (hmem : ⟨kind, position⟩ ∈ lexemes ++ [⟨.endOfInput, source.length⟩]) :
    TokenAt source position kind ∨ kind = .endOfInput ∧ position = source.length := by
  rcases List.mem_append.mp hmem with hmem | hmem
  · obtain ⟨earlier, later, rfl⟩ := List.append_of_mem hmem
    exact .inl h.tokenAt
  · cases List.mem_singleton.mp hmem
    exact .inr ⟨rfl, rfl⟩

/-- A word that is no path stands by itself. -/
theorem Tiled.standsAsRun {word : Text} {earlier later : List Token}
    (h : Tiled 0 source [] (earlier ++ ⟨.identifier word, position⟩ :: later))
    (hearlier : EndsOpening earlier) : StandsAsRun isWordChar source position word := by
  obtain ⟨before, text, after, rfl, hposition, hbefore, hl, hclosed⟩ := h.exists_cut
  rw [List.append_nil] at hbefore hclosed
  -- the lexeme of a word is the word
  obtain rfl := hl.eq_of_identifier
  obtain ⟨c, tail, rfl, hword, -⟩ := hl.exists_cons_of_identifier
  refine ⟨before, after, rfl, (hposition.trans (Nat.zero_add _)).symm, List.cons_ne_nil _ _, hword,
    fun _ => ?_, hclosed⟩
  exact hbefore.isWordChar_getLast? rfl (hword c (List.mem_cons_self ..)) hearlier

/-- The tokens before the end of the filter are those of its lexemes. -/
theorem exists_later {before after : List Token} {token last : Token}
    (h : lexemes ++ [last] = before ++ token :: after) (hne : token ≠ last) :
    ∃ later, lexemes = before ++ token :: later := by
  -- the token is not the last one, so the last one is at the end of what follows it
  rcases List.eq_nil_or_concat' after with rfl | ⟨later, last', rfl⟩
  · obtain ⟨-, hlast⟩ := List.append_inj' h rfl
    exact absurd (List.cons.inj hlast).1.symm hne
  · rw [← List.cons_append, ← List.append_assoc] at h
    exact ⟨later, (List.append_inj' h rfl).1⟩

/-- Every error is about one of the tokens, if they say where the filter ends. -/
theorem exists_mem_blames {error : SyntaxError} (h : parse tokens = .error error)
    (hend : ∃ token ∈ tokens, token.kind = .endOfInput) : ∃ token ∈ tokens, error.Blames token := by
  obtain ⟨used, rest, rfl, hviable, hblames, -⟩ := exists_blamed h
  cases rest with
  | nil =>
    -- all tokens would be used, the end among them
    obtain ⟨token, hmem, hkind⟩ := hend
    rw [List.append_nil] at hmem
    exact absurd (List.mem_map.mpr ⟨token, hmem, hkind⟩) hviable.endOfInput_notMem
  | cons next rest => exact ⟨next, List.mem_append_right _ (List.mem_cons_self ..), hblames⟩

theorem SyntaxError.atCulprit_of_parse {error : SyntaxError} (htiled : Tiled 0 source [] lexemes)
    (h : parse (lexemes ++ [⟨.endOfInput, source.length⟩]) = .error error) :
    error.AtCulprit source := by
  -- where the parser asks for what it does not get says more than that there is such a token
  have hplaced := placed_of_parse_eq_error h
  have hend : ⟨.endOfInput, source.length⟩ ∈ lexemes ++ [⟨.endOfInput, source.length⟩] :=
    List.mem_append_right _ (List.mem_cons_self ..)
  obtain ⟨token, hmem, hblames⟩ := exists_mem_blames h ⟨_, hend, rfl⟩
  cases error with
  | unexpectedToken found position =>
    rw [show token = _ from hblames] at hmem
    exact htiled.tokenAt_or_end hmem
  | expected wanted found position =>
    rw [show token = _ from hblames.2] at hmem
    exact htiled.tokenAt_or_end hmem
  | invalidFieldPath path position =>
    obtain ⟨hpath, before, after, hcut, hbefore⟩ := hplaced
    obtain ⟨later, rfl⟩ := exists_later hcut (by simp)
    -- `before` ends with an opening token, and that is no number
    refine ⟨htiled.standsAsRun hbefore, ?_⟩
    unfold IsPath at hpath
    push Not at hpath
    obtain ⟨segment, hsegment, rfl⟩ := hpath
    exact hsegment
  | nestingTooDeep position =>
    -- the end of the filter takes no level
    obtain ⟨kind, hopens, hmem⟩ := hplaced
    refine ⟨kind, hopens, (htiled.tokenAt_or_end hmem).resolve_right ?_⟩
    rintro ⟨rfl, -⟩
    exact hopens

end Parser

/-! ### The errors of filters -/

/-- Whatever keeps a text from being a filter stands at the position of the error. -/
theorem FilterError.atCulprit_of_compile (h : compile source = .error error) :
    error.AtCulprit source := by
  unfold compile at h
  split at h
  · next error' htokens =>
    cases h
    exact LexicalError.atCulprit_of_tokenize htokens
  · next tokens htokens =>
    split at h
    · next error' hparse =>
      cases h
      obtain ⟨lexemes, htiled, rfl⟩ := tiled_of_tokenize htokens
      exact SyntaxError.atCulprit_of_parse htiled hparse
    · cases h

/-- Blanks and an equals sign are tiled by one token. -/
theorem tiled_blanks_equals {blanks : Text} (h : ∀ c ∈ blanks, Text.isBlank c = true)
    (position : Nat) :
    Tiled position (blanks ++ ['=']) [] [⟨.equals, position + blanks.length⟩] := by
  induction blanks generalizing position with
  | nil =>
    have hequals : Tiled position ['='] [] [⟨.equals, position⟩] :=
      .lexeme .equals (fun _ _ => rfl) .nil
    exact hequals
  | cons c blanks ih =>
    obtain ⟨hc, hblanks⟩ := List.forall_mem_cons.mp h
    have hrest := ih hblanks (position + 1)
    rw [List.length_cons, Nat.add_comm blanks.length 1, ← Nat.add_assoc]
    exact .blank hc hrest

/-- After a parenthesis and blanks nothing goes on with an equals sign, and the position of the
error counts the blanks. -/
theorem compile_openParen_equals (blanks : Text) (h : ∀ c ∈ blanks, Text.isBlank c = true) :
    compile ('(' :: (blanks ++ ['='])) =
      .error (.syntactic (.unexpectedToken .equals (1 + blanks.length))) := by
  have htiled : Tiled 0 ('(' :: (blanks ++ ['='])) []
      [⟨.openParen, 0⟩, ⟨.equals, 1 + blanks.length⟩] :=
    .lexeme .openParen (fun _ _ => rfl) (tiled_blanks_equals h 1)
  rw [compile, tokenize_of_tiled htiled]
  -- the parser looks at the kinds only
  generalize 1 + blanks.length = position
  generalize List.length _ = finish
  cbv

/-- **Every error points at its culprit.** Its position is in the filter or right at its end, and
what the error reports stands there. So the caret stands behind as many blanks as the position says.
-/
theorem culprit_of_compile_eq_error (h : compile source = .error error) :
    error.position ≤ source.length ∧ error.AtCulprit source ∧
      ∀ color, Report.renderError color source error =
        Report.paint color "Error parsing filter:".toList ++ ' ' :: error.message ++
          "\n  ".toList ++ source ++ "\n  ".toList ++
          Report.paint color (List.replicate error.position ' ' ++ ['^']) := by
  have hculprit := FilterError.atCulprit_of_compile h
  refine ⟨hculprit.position_le, hculprit, fun color => ?_⟩
  -- the position is not beyond the filter, and so it is not moved back
  rw [Report.renderError, Nat.min_eq_left hculprit.position_le]

/-- After a parenthesis nothing goes on with `=`, and that is the token at the position of the
error. -/
theorem culprit_group_equals :
    compile "(=".toList = .error (.syntactic (.unexpectedToken .equals 1)) ∧
      TokenAt "(=".toList 1 .equals := by
  have hcompile : compile "(=".toList = .error (.syntactic (.unexpectedToken .equals 1)) :=
    compile_openParen_equals [] (List.forall_mem_nil _)
  obtain ⟨-, htoken, -⟩ := culprit_of_compile_eq_error hcompile
  refine ⟨hcompile, Or.resolve_right htoken ?_⟩
  rintro ⟨hend, -⟩
  cases hend

end LogSieve
