import LogSieve.Command.Options
import LogSieve.Proofs.Filter.Moved
import LogSieve.Proofs.Filter.Spelling
import Mathlib.Data.List.Basic

/-!
# Filters in several words

A filter may come in several words, which are joined by single spaces. Words that have tokens keep
them, each at its place (`tokenize_joined`): the tiling of a word is moved to where the word stands
(`Tiled.move`), and the space behind it makes no lexeme longer (`Tiled.extend`). A word that is
stuck at a character or at a number stays stuck there (`tokenize_joined_eq_error`), while an open
quote would go on in the next word.

The other way round, a filter may be split at any blanks outside its quoted texts, `SplitAtBlanks`.
Between two pieces no lexeme is cut (`Tiled.exists_cut_at_blank`), so the pieces have the kinds of
tokens that the whole has, and tokens of the same kinds are read alike (`sameOutcome_of_kinds_eq`).

The main statement is `compile_filterText`.
-/

namespace LogSieve

variable {position offset : Nat} {tiles rest source word : Text} {tokens : List Token}
  {before after words : List Text}

/-! ### Tilings at other places -/

/-- The error at another position. -/
def LexicalError.move (f : Nat → Nat) : LexicalError → LexicalError
  | unterminatedString position => unterminatedString (f position)
  | unexpectedEndOfString position => unexpectedEndOfString (f position)
  | unexpectedCharacter character position => unexpectedCharacter character (f position)
  | numberOutOfRange digits position => numberOutOfRange digits (f position)

theorem Tiled.move (h : Tiled position tiles rest tokens) (offset : Nat) :
    Tiled (offset + position) tiles rest (tokens.map (·.move (offset + ·))) := by
  induction h with
  | nil => exact .nil
  | blank hc _ ih => exact .blank hc ih
  | lexeme hl hclosed _ ih =>
    refine .lexeme hl hclosed ?_
    rwa [Nat.add_assoc]

/-- A text that is tiled by itself is tiled wherever it stands. -/
theorem Tiled.at (h : Tiled 0 tiles rest tokens) (offset : Nat) :
    Tiled offset tiles rest (tokens.map (·.move (offset + ·))) :=
  h.move offset

/-- What follows a tiling is seen through its first character only. -/
theorem Tiled.congr_head? {rest' : Text} (h : Tiled position tiles rest tokens)
    (hhead : rest'.head? = rest.head?) : Tiled position tiles rest' tokens := by
  induction h with
  | nil => exact .nil
  | blank hc _ ih => exact .blank hc (ih hhead)
  | lexeme hl hclosed _ ih =>
    refine .lexeme hl ?_ (ih hhead)
    -- the rest of the tiling may be empty, and only then does what follows it close the lexeme
    unfold TokenKind.Closed at hclosed ⊢
    rwa [List.head?_append, hhead, ← List.head?_append]

/-- Without what follows, the lexemes are still as long as they can be. -/
theorem Tiled.restrict (h : Tiled position tiles rest tokens) : Tiled position tiles [] tokens := by
  induction h with
  | nil => exact .nil
  | blank hc _ ih => exact .blank hc ih
  | @lexeme position text tiles rest kind tokens hl hclosed _ ih =>
    refine .lexeme hl (fun c hc => hclosed c ?_) ih
    rw [List.append_nil] at hc
    rw [List.head?_append, Option.mem_def.mp hc]
    rfl

/-! ### Words joined by spaces -/

/-- The text of the first words, with a space behind each of them. -/
def spaced (words : List Text) : Text :=
  words.flatMap (· ++ [' '])

/-- Around one of the joined words stand the others, with a space on the side of that word. -/
theorem intercalate_append_cons (before after : List Text) (word : Text) :
    [' '].intercalate (before ++ word :: after) =
      spaced before ++ (word ++ after.flatMap (' ' :: ·)) := by
  induction before with
  | nil =>
    rw [spaced, List.flatMap_nil, List.nil_append, List.nil_append]
    -- without words before it, the spaces are those in front of the later words
    induction after generalizing word with
    | nil => rw [List.intercalate_singleton, List.flatMap_nil, List.append_nil]
    | cons next after ih =>
      rw [List.intercalate_cons_cons, ih, List.flatMap_cons, List.append_assoc]
      rfl
  | cons first before ih =>
    -- a space stands behind `first`, since at least `word` comes after it
    obtain ⟨next, more, hmore⟩ : ∃ next more, before ++ word :: after = next :: more :=
      List.exists_cons_of_ne_nil (List.append_ne_nil_of_right_ne_nil _ (List.cons_ne_nil _ _))
    rw [List.cons_append, hmore, List.intercalate_cons_cons, ← hmore, ih, spaced, spaced,
      List.flatMap_cons]
    simp only [List.append_assoc]

/-- Behind a word comes a space or nothing. -/
theorem endsWords_spaces (after : List Text) : EndsWords (after.flatMap (' ' :: ·)) := by
  cases after with
  | nil => exact endsWords_nil
  | cons next after => exact endsWords_space _

/-- The tokens of a word by itself, without the end. -/
def ownTokens (word : Text) : List Token :=
  match tokenize word with
  | .ok tokens => tokens.filter (·.kind ≠ .endOfInput)
  | .error _ => []

/-- The tokens of words that are joined by single spaces, each moved by the number of characters
before its word. -/
def joinedTokens : (offset : Nat) → List Text → List Token
  | _, [] => []
  | offset, word :: words =>
    (ownTokens word).map (·.move (offset + ·)) ++ joinedTokens (offset + (word.length + 1)) words

theorem joinedTokens_append (offset : Nat) (before after : List Text) :
    joinedTokens offset (before ++ after) =
      joinedTokens offset before ++ joinedTokens (offset + (spaced before).length) after := by
  induction before generalizing offset with
  | nil => rfl
  | cons word before ih =>
    have hlength : (spaced (word :: before)).length =
        (word.length + 1) + (spaced before).length := by
      rw [spaced, List.flatMap_cons, List.length_append, List.length_append]
      rfl
    rw [List.cons_append, joinedTokens, ih, joinedTokens, hlength, List.append_assoc,
      Nat.add_assoc]

/-- The own tokens of a word are those that tile it. -/
theorem ownTokens_of_tiled (h : Tiled 0 word [] tokens) : ownTokens word = tokens := by
  -- only the end is filtered out, for no lexeme is the end
  have hkept : tokens.filter (·.kind ≠ .endOfInput) = tokens :=
    List.filter_eq_self.mpr fun token hmem => decide_eq_true (h.kind_ne_endOfInput token hmem)
  rw [ownTokens, tokenize_of_tiled h]
  simp only [List.filter_append, hkept]
  rw [List.filter_cons_of_neg (by simp), List.filter_nil, List.append_nil]

theorem tiled_ownTokens (h : tokenize word = .ok tokens) : Tiled 0 word [] (ownTokens word) := by
  obtain ⟨lexemes, htiled, -⟩ := tiled_of_tokenize h
  rwa [ownTokens_of_tiled htiled]

/-- The first words, with a space behind each of them, have their own tokens. -/
theorem tiled_spaced (h : ∀ word ∈ words, ∃ tokens, tokenize word = .ok tokens) (offset : Nat)
    (rest : Text) : Tiled offset (spaced words) rest (joinedTokens offset words) := by
  induction words generalizing offset with
  | nil => exact .nil
  | cons word words ih =>
    rw [List.forall_mem_cons] at h
    obtain ⟨⟨tokens, htokens⟩, hwords⟩ := h
    have hspaced : spaced (word :: words) = word ++ (' ' :: spaced words) := by
      rw [spaced, List.flatMap_cons, List.append_assoc]
      rfl
    rw [hspaced, joinedTokens]
    -- the space is a blank of its own and makes the last lexeme of the word no longer
    refine ((tiled_ownTokens htokens).extend (endsWords_space _)).at offset |>.append ?_
    exact .blank isBlank_space (ih hwords _)

/-- **Words that have tokens keep them when they are joined.** -/
theorem tokenize_joined (h : ∀ word ∈ words, ∃ tokens, tokenize word = .ok tokens) :
    tokenize ([' '].intercalate words) =
      .ok (joinedTokens 0 words ++ [⟨.endOfInput, ([' '].intercalate words).length⟩]) := by
  apply tokenize_of_tiled
  rcases List.eq_nil_or_concat' words with rfl | ⟨before, word, rfl⟩
  · exact .nil
  · -- behind the last word there is no space
    rw [List.forall_mem_append, List.forall_mem_singleton] at h
    obtain ⟨hbefore, tokens, htokens⟩ := h
    rw [intercalate_append_cons, List.flatMap_nil, List.append_nil, joinedTokens_append,
      joinedTokens, joinedTokens, List.append_nil]
    exact (tiled_spaced hbefore 0 _).append ((tiled_ownTokens htokens).at _)

/-! ### Words without tokens -/

/-- The error is about a single character or number, which no word behind it can mend. -/
inductive LexicalError.IsFinal : LexicalError → Prop where
  | unexpectedCharacter (character : Char) (position : Nat) :
      IsFinal (.unexpectedCharacter character position)
  | numberOutOfRange (digits : Text) (position : Nat) : IsFinal (.numberOutOfRange digits position)

/-- A place where no lexeme stands remains one if it is moved and words follow behind a space. -/
theorem Stuck.move {error : LexicalError} {behind : Text} (h : Stuck position rest error)
    (hfinal : error.IsFinal) (hend : EndsWords behind) (offset : Nat) :
    Stuck (offset + position) (rest ++ behind) (error.move (offset + ·)) := by
  cases h with
  | unexpectedCharacter hblank hquote hpunct hword =>
    exact .unexpectedCharacter hblank hquote hpunct hword
  | @numberOutOfRange c digits rest hdigits hstop hge =>
    -- the digits end where they did, or at the space
    rw [List.append_assoc]
    refine .numberOutOfRange hdigits ?_ hge
    cases rest with
    | nil => exact fun d hd => (TokenKind.number 0).extendedBy_eq_false (hend d hd)
    | cons d rest => exact hstop
  | unterminatedString => cases hfinal
  | unexpectedEndOfString => cases hfinal

/-- **A final error of the first word that has one stays**, at the place of the word. -/
theorem tokenize_joined_eq_error {error : LexicalError}
    (hbefore : ∀ word ∈ before, ∃ tokens, tokenize word = .ok tokens)
    (h : tokenize word = .error error) (hfinal : error.IsFinal) (after : List Text) :
    tokenize ([' '].intercalate (before ++ word :: after)) =
      .error (error.move ((spaced before).length + ·)) := by
  obtain ⟨tiles, rest, lexemes, rfl, htiled, hstuck⟩ := stuck_of_tokenize h
  -- so the tiling before it is closed by a character of the word itself
  have hne : rest ≠ [] := by
    rintro rfl
    cases hstuck
  have hhead : (rest ++ after.flatMap (' ' :: ·)).head? = rest.head? :=
    List.head?_append_of_ne_nil rest hne
  have hplace : Tiled 0 (spaced before ++ tiles) (rest ++ after.flatMap (' ' :: ·)) _ :=
    (tiled_spaced hbefore 0 _).append ((htiled.congr_head? hhead).at _)
  rw [intercalate_append_cons, List.append_assoc, ← List.append_assoc]
  refine tokenize_of_stuck hplace ?_
  rw [List.length_append]
  exact hstuck.move hfinal (endsWords_spaces after) _

/-! ### Splitting a filter -/

/-- Every quoted text that is opened in the text is closed in it, so that what comes next stands
outside quotes. -/
inductive QuotesClosed : Text → Prop where
  | nil : QuotesClosed []
  | plain {c : Char} {text : Text} (hc : ¬ IsQuote c) (h : QuotesClosed text) :
      QuotesClosed (c :: text)
  | quoted {quote : Char} {body value text : Text} (hq : IsQuote quote)
      (hbody : QuotedBody quote body value) (h : QuotesClosed text) :
      QuotesClosed (quote :: body ++ quote :: text)

/-- A text is split into pieces at blanks outside its quoted texts. Any number of blanks may go at
either end and between two pieces, any others stay in the pieces, and pieces may be empty. -/
inductive SplitAtBlanks : Text → List Text → Prop where
  | nil {blanks : Text} (hblanks : ∀ c ∈ blanks, Text.isBlank c = true) : SplitAtBlanks blanks []
  | cons {blanks piece rest : Text} {pieces : List Text}
      (hblanks : ∀ c ∈ blanks, Text.isBlank c = true) (hpiece : QuotesClosed piece)
      (hrest : ∀ c ∈ rest.head?, Text.isBlank c = true) (h : SplitAtBlanks rest pieces) :
      SplitAtBlanks (blanks ++ (piece ++ rest)) (piece :: pieces)

/-- A closing quote is the first one that can close. -/
theorem QuotedBody.append_inj {quote : Char} {body value body' value' rest' : Text}
    (hq : IsQuote quote) (h : QuotedBody quote body value) (h' : QuotedBody quote body' value')
    (heq : body ++ quote :: rest = body' ++ quote :: rest') : body = body' ∧ rest = rest' := by
  have hread := readQuoted_of_closed hq h 0 0 rest
  -- both are read at the same place of the same text
  rw [heq, readQuoted_of_closed hq h' 0 0 rest'] at hread
  obtain ⟨-, -, rfl⟩ : value' = value ∧ _ ∧ rest' = rest := by simpa using hread
  exact ⟨List.append_cancel_right heq, rfl⟩

/-- A quote at the start has one that closes it, and any other character is left alone. -/
theorem QuotesClosed.of_cons {c : Char} {text : Text} (h : QuotesClosed (c :: text)) :
    (¬ IsQuote c ∧ QuotesClosed text) ∨
      IsQuote c ∧ ∃ body value more, QuotedBody c body value ∧ text = body ++ c :: more ∧
        QuotesClosed more := by
  cases h with
  | plain hc h => exact .inl ⟨hc, h⟩
  | quoted hq hbody h => exact .inr ⟨hq, _, _, _, hbody, rfl, h⟩

/-- Between characters that are no quotes nothing is opened. -/
theorem QuotesClosed.of_append {text more : Text} (h : QuotesClosed (text ++ more))
    (hplain : ∀ c ∈ text, ¬ IsQuote c) : QuotesClosed more := by
  induction text with
  | nil => exact h
  | cons c text ih =>
    rw [List.forall_mem_cons] at hplain
    rcases h.of_cons with ⟨-, h⟩ | ⟨hq, -⟩
    · exact ih h hplain.2
    · exact absurd hq hplain.1

/-- A lexeme is a quoted text, or there are neither quotes nor blanks in it. -/
theorem Lexeme.quoted_or_plain {text : Text} {kind : TokenKind} (h : Lexeme text kind) :
    (∃ quote body value, IsQuote quote ∧ QuotedBody quote body value ∧
        text = quote :: body ++ [quote]) ∨
      ∀ c ∈ text, Text.isBlank c = false ∧ ¬ IsQuote c := by
  have hword : ∀ c, isWordChar c = true → Text.isBlank c = false ∧ ¬ IsQuote c := fun c hc =>
    ⟨isBlank_eq_false_of_isWordChar hc, (not_punctuation_of_isWordChar hc).1⟩
  cases h with
  | quoted hq hbody => exact .inl ⟨_, _, _, hq, hbody, rfl⟩
  | number hdigits => exact .inr fun c hc => hword c (isWordChar_of_isDigit (hdigits c hc))
  | word hchars => exact .inr fun c hc => hword c (hchars c hc)
  | openParen | closeParen | equals =>
    refine .inr fun c hc => ?_
    rw [List.mem_singleton.mp hc]
    exact ⟨by decide, by simp [IsQuote]⟩

/-- **No lexeme is cut between two pieces**: the first one of a piece lies in it. -/
theorem Lexeme.exists_eq_append {text piece : Text} {kind : TokenKind} (hl : Lexeme text kind)
    (hquotes : QuotesClosed piece) (hrest : ∀ c ∈ rest.head?, Text.isBlank c = true)
    (hcut : text ++ tiles = piece ++ rest) :
    ∃ more, piece = text ++ more ∧ tiles = more ++ rest ∧ QuotesClosed more := by
  -- blanks inside quotes are why the two kinds of lexemes are treated apart
  rcases hl.quoted_or_plain with ⟨quote, body, value, hq, hbody, rfl⟩ | hplain
  · cases piece with
    | nil =>
      -- the quote would be blank
      obtain rfl : (quote :: body ++ [quote]) ++ tiles = rest := hcut
      have hblank := hrest quote rfl
      rw [hq.isBlank] at hblank
      cases hblank
    | cons c piece =>
      obtain ⟨rfl, htail⟩ := List.cons.inj hcut
      rcases hquotes.of_cons with ⟨hc, -⟩ | ⟨-, body', value', more, hbody', rfl, hmore⟩
      · exact absurd hq hc
      · have htail : body ++ quote :: tiles = body' ++ quote :: (more ++ rest) := by
          simpa using htail
        obtain ⟨rfl, rfl⟩ := hbody.append_inj hq hbody' htail
        exact ⟨more, by simp, rfl, hmore⟩
  · rcases List.append_eq_append_iff.mp hcut with ⟨more, rfl, rfl⟩ | ⟨more, rfl, rfl⟩
    · exact ⟨more, rfl, rfl, hquotes.of_append fun c hc => (hplain c hc).2⟩
    · -- what is left of the lexeme would start with a blank
      cases more with
      | nil => exact ⟨[], by simp, rfl, .nil⟩
      | cons c more =>
        have hblank := hrest c rfl
        rw [(hplain c (by simp)).1] at hblank
        cases hblank

/-- **A tiling can be cut where a text is split.** -/
theorem Tiled.exists_cut_at_blank {piece : Text} (h : Tiled position (piece ++ rest) [] tokens)
    (hquotes : QuotesClosed piece) (hrest : ∀ c ∈ rest.head?, Text.isBlank c = true) :
    ∃ first later, tokens = first ++ later ∧ Tiled position piece rest first ∧
      Tiled (position + piece.length) rest [] later := by
  generalize htext : piece ++ rest = text at h
  generalize hnil : ([] : Text) = nothing at h
  -- on the tiling, while the piece loses what is tiled of it
  induction h generalizing piece with
  | nil =>
    obtain ⟨rfl, rfl⟩ := List.append_eq_nil_iff.mp htext
    exact ⟨[], [], rfl, .nil, .nil⟩
  | @blank position c tiles nothing tokens hc h ih =>
    cases piece with
    | nil =>
      obtain rfl : rest = c :: tiles := htext
      exact ⟨[], tokens, rfl, .nil, .blank hc h⟩
    | cons d piece =>
      obtain ⟨rfl, rfl⟩ := List.cons.inj htext
      rcases hquotes.of_cons with ⟨-, hpiece⟩ | ⟨hq, -⟩
      · obtain ⟨first, later, rfl, hfirst, hlater⟩ := ih hpiece rfl hnil
        refine ⟨first, later, rfl, .blank hc hfirst, ?_⟩
        rwa [List.length_cons, Nat.add_comm piece.length, ← Nat.add_assoc]
      · rw [hq.isBlank] at hc
        cases hc
  | @lexeme position text tiles nothing kind tokens hl hclosed h ih =>
    subst hnil
    -- the whole lexeme is in the piece, even if the piece starts with it
    obtain ⟨more, rfl, rfl, hmore⟩ := hl.exists_eq_append hquotes hrest htext.symm
    obtain ⟨first, later, rfl, hfirst, hlater⟩ := ih hmore rfl rfl
    rw [List.append_nil] at hclosed
    refine ⟨_ :: first, later, rfl, .lexeme hl hclosed hfirst, ?_⟩
    rwa [List.length_append, ← Nat.add_assoc]

/-- Blanks in front belong to no lexeme. -/
theorem Tiled.of_blanks {blanks text : Text} (hblanks : ∀ c ∈ blanks, Text.isBlank c = true)
    (h : Tiled position (blanks ++ text) rest tokens) :
    Tiled (position + blanks.length) text rest tokens := by
  induction blanks generalizing position with
  | nil => exact h
  | cons c blanks ih =>
    rw [List.forall_mem_cons] at hblanks
    rw [List.length_cons, Nat.add_comm blanks.length, ← Nat.add_assoc]
    refine ih hblanks.2 ?_
    generalize htext : c :: blanks ++ text = tiles at h
    cases h with
    | nil => cases htext
    | blank _ h =>
      obtain ⟨-, rfl⟩ := List.cons.inj htext
      exact h
    | lexeme hl hclosed _ =>
      -- no lexeme starts with a blank
      obtain ⟨d, tail, rfl, hd, -⟩ := lexeme_of_lexeme hl hclosed position
      obtain ⟨rfl, -⟩ := List.cons.inj htext
      rw [hblanks.1] at hd
      cases hd

/-- **The pieces of a filter have the tokens of the filter**, but for the positions. -/
theorem SplitAtBlanks.kinds_eq {pieces : List Text} (h : SplitAtBlanks source pieces)
    (htiled : Tiled position source [] tokens) :
    (∀ piece ∈ pieces, ∃ tokens, tokenize piece = .ok tokens) ∧
      pieces.flatMap (fun piece => (ownTokens piece).map (·.kind)) = tokens.map (·.kind) := by
  induction h generalizing position tokens with
  | @nil blanks hblanks =>
    rw [← List.append_nil blanks] at htiled
    rw [(htiled.of_blanks hblanks).eq_nil rfl]
    exact ⟨fun piece hmem => absurd hmem List.not_mem_nil, rfl⟩
  | @cons blanks piece rest pieces hblanks hpiece hrest _ ih =>
    obtain ⟨first, later, rfl, hfirst, hlater⟩ :=
      (htiled.of_blanks hblanks).exists_cut_at_blank hpiece hrest
    obtain ⟨hpieces, hkinds⟩ := ih hlater
    -- a piece by itself starts at position zero
    obtain ⟨lexemes, hlexemes, hsame⟩ := hfirst.restrict.spells 0
    have htokens := tokenize_of_tiled hlexemes
    refine ⟨List.forall_mem_cons.mpr ⟨⟨_, htokens⟩, hpieces⟩, ?_⟩
    rw [List.flatMap_cons, hkinds, List.map_append, ← hsame, ownTokens_of_tiled hlexemes]

/-! ### Compiling -/

theorem compile_of_tokenize (h : tokenize source = .ok tokens) :
    compile source = (parse tokens).mapError .syntactic := by
  unfold compile
  simp only [h]
  cases parse tokens <;> rfl

theorem map_kind_joinedTokens (offset : Nat) (words : List Text) :
    (joinedTokens offset words).map (·.kind) =
      words.flatMap fun word => (ownTokens word).map (·.kind) := by
  induction words generalizing offset with
  | nil => rfl
  | cons word words ih =>
    rw [joinedTokens, List.map_append, List.map_map, ih, List.flatMap_cons]
    rfl

/-- **The pieces of a filter are joined to tokens of the same kinds.** -/
theorem SplitAtBlanks.exists_tokenize {pieces : List Text} (h : SplitAtBlanks source pieces)
    (htokens : tokenize source = .ok tokens) :
    ∃ tokens', tokenize ([' '].intercalate pieces) = .ok tokens' ∧
      tokens.map (·.kind) = tokens'.map (·.kind) ∧
      TokenKind.endOfInput ∈ tokens.map (·.kind) := by
  obtain ⟨lexemes, htiled, rfl⟩ := tiled_of_tokenize htokens
  obtain ⟨hpieces, hkinds⟩ := h.kinds_eq htiled
  refine ⟨_, tokenize_joined hpieces, ?_, ?_⟩
  · rw [List.map_append, List.map_append, map_kind_joinedTokens, hkinds]
    rfl
  · rw [List.map_append]
    exact List.mem_append_right _ List.mem_cons_self

/-- **Filters in several words.** The filter of a command line is its words joined by single spaces.

* If every word has tokens by itself, the filter has the tokens of the words in order, each moved by
  the number of characters before its word, and one end behind all of them.
* If the first word that has none fails at a character or at a number, the filter fails in the same
  way, at the place of the word.
* If the words are what a text with tokens is split into at blanks outside quotes, the filter has
  tokens of the same kinds. It compiles to the expression of the text, or both fail with the same
  error, each at its token with the same number of tokens before it. -/
theorem compile_filterText (options : Options) :
    ((∀ word ∈ options.words, ∃ tokens, tokenize word = .ok tokens) →
      tokenize options.filterText =
        .ok (joinedTokens 0 options.words ++ [⟨.endOfInput, options.filterText.length⟩])) ∧
    (∀ before word after error, options.words = before ++ word :: after →
      (∀ earlier ∈ before, ∃ tokens, tokenize earlier = .ok tokens) →
      tokenize word = .error error → error.IsFinal →
      tokenize options.filterText = .error (error.move ((spaced before).length + ·))) ∧
    ∀ source tokens, tokenize source = .ok tokens → SplitAtBlanks source options.words →
      ∃ tokens', tokenize options.filterText = .ok tokens' ∧
        tokens'.map (·.kind) = tokens.map (·.kind) ∧
        (∀ expr, compile source = .ok expr → compile options.filterText = .ok expr) ∧
        ∀ error, compile source = .error error →
          ∃ (cause : SyntaxError) (index : Nat) (token token' : Token),
            error = .syntactic cause ∧ cause.position = token.position ∧
            tokens[index]? = some token ∧ tokens'[index]? = some token' ∧
            compile options.filterText =
              .error (.syntactic (cause.move fun _ => token'.position)) := by
  refine ⟨tokenize_joined, ?_, ?_⟩
  · intro before word after error hwords hbefore herror hfinal
    rw [Options.filterText, hwords]
    exact tokenize_joined_eq_error hbefore herror hfinal after
  · intro source tokens htokens hsplit
    obtain ⟨tokens', htokens', hkinds, hend⟩ := hsplit.exists_tokenize htokens
    have hsame := sameOutcome_of_kinds_eq hkinds hend
    refine ⟨tokens', htokens', hkinds.symm, ?_⟩
    rw [compile_of_tokenize htokens, Options.filterText, compile_of_tokenize htokens']
    -- the outcomes are alike, so only the two ways of being alike are left
    generalize parse tokens = outcome at hsame
    generalize parse tokens' = outcome' at hsame
    cases hsame with
    | ok expr =>
      refine ⟨fun _ h => h, ?_⟩
      rintro _ ⟨⟩
    | @error index token token' cause htoken htoken' hposition =>
      constructor
      · rintro _ ⟨⟩
      · rintro _ ⟨⟩
        exact ⟨cause, index, token, token', rfl, hposition, htoken, htoken', rfl⟩

/-- A quoted text with a blank in it, and a word behind a tab and a space. If they are joined again
by a single space, the word is the same error one place further to the left. A character that starts
no lexeme is found at the same place. -/
theorem compile_filterText_quoted :
    tokenize "'a b' c".toList =
        .ok [⟨.string "a b".toList, 0⟩, ⟨.identifier ['c'], 6⟩, ⟨.endOfInput, 7⟩] ∧
      compile "'a b'\t c".toList =
        .error (.syntactic (.unexpectedToken (.identifier ['c']) 7)) ∧
      compile "'a b' c".toList =
        .error (.syntactic (.unexpectedToken (.identifier ['c']) 6)) ∧
      tokenize "'a b' !".toList = .error (.unexpectedCharacter '!' 6) := by
  have hbody : QuotedBody '\'' ['a', ' ', 'b'] ['a', ' ', 'b'] :=
    .plain (by decide) (by decide) (.plain (by decide) (by decide)
      (.plain (by decide) (by decide) .nil))
  have hquoted : Lexeme "'a b'".toList (.string "a b".toList) := .quoted (.inr rfl) hbody
  have hword : Lexeme ['c'] (.identifier ['c']) := lexeme_word (by decide) (by decide)
  have hend : (TokenKind.identifier ['c']).Closed [] := fun _ hc => by cases hc
  -- each part by itself, and both with the tab and the space between them
  have hfirst : tokenize "'a b'".toList = .ok [⟨.string "a b".toList, 0⟩, ⟨.endOfInput, 5⟩] :=
    tokenize_of_tiled (.lexeme hquoted (fun _ _ => rfl) .nil)
  have hlast : tokenize ['c'] = .ok [⟨.identifier ['c'], 0⟩, ⟨.endOfInput, 1⟩] :=
    tokenize_of_tiled (.lexeme hword hend .nil)
  have hwhole : tokenize "'a b'\t c".toList =
      .ok [⟨.string "a b".toList, 0⟩, ⟨.identifier ['c'], 7⟩, ⟨.endOfInput, 8⟩] :=
    tokenize_of_tiled (.lexeme hquoted (fun _ _ => rfl)
      (.blank (by decide) (.blank (by decide) (.lexeme hword hend .nil))))
  have hstuck : tokenize ['!'] = .error (.unexpectedCharacter '!' 0) :=
    tokenize_of_stuck .nil (.unexpectedCharacter (by decide) (by simp [IsQuote]) (by decide)
      (isWordChar_eq_false_of_ascii (by decide)))
  have hcompile : compile "'a b'\t c".toList =
      .error (.syntactic (.unexpectedToken (.identifier ['c']) 7)) := by
    rw [compile_of_tokenize hwhole]
    cbv
  have hsplit : SplitAtBlanks "'a b'\t c".toList ["'a b'".toList, ['c']] := by
    have hc : QuotesClosed ['c'] := .plain (by simp [IsQuote]) .nil
    have hblanks : ∀ c ∈ "\t ".toList, Text.isBlank c = true := List.all_eq_true.mp (by decide)
    have hhead : ∀ c ∈ "\t c".toList.head?, Text.isBlank c = true := by
      rintro _ ⟨⟩
      decide
    have hrest : SplitAtBlanks "\t c".toList [['c']] :=
      @SplitAtBlanks.cons "\t ".toList ['c'] [] [] hblanks hc (by simp) (.nil (by simp))
    exact @SplitAtBlanks.cons [] "'a b'".toList "\t c".toList _ (by simp)
      (.quoted (.inr rfl) hbody .nil) hhead hrest
  obtain ⟨hjoined, -, hsame⟩ := compile_filterText { words := ["'a b'".toList, ['c']] }
  obtain ⟨-, hfails, -⟩ := compile_filterText { words := ["'a b'".toList, ['!']] }
  have htokens : tokenize "'a b' c".toList =
      .ok [⟨.string "a b".toList, 0⟩, ⟨.identifier ['c'], 6⟩, ⟨.endOfInput, 7⟩] := by
    have hown : ownTokens "'a b'".toList = [⟨.string "a b".toList, 0⟩] := by
      rw [ownTokens, hfirst]
      rfl
    have hown' : ownTokens ['c'] = [⟨.identifier ['c'], 0⟩] := by
      rw [ownTokens, hlast]
      rfl
    have hwords := hjoined (by
      rw [List.forall_mem_cons, List.forall_mem_singleton]
      exact ⟨⟨_, hfirst⟩, _, hlast⟩)
    rw [joinedTokens, joinedTokens, joinedTokens, hown, hown'] at hwords
    exact hwords
  refine ⟨htokens, hcompile, ?_, hfails ["'a b'".toList] ['!'] [] _ rfl
    (List.forall_mem_singleton.mpr ⟨_, hfirst⟩) hstuck (.unexpectedCharacter _ _)⟩
  obtain ⟨tokens', htokens', -, -, herrors⟩ := hsame _ _ hwhole hsplit
  obtain rfl := Except.ok.inj (htokens.symm.trans htokens')
  obtain ⟨cause, index, token, token', hcause, hposition, htoken, htoken', hjoined⟩ :=
    herrors _ hcompile
  obtain rfl := FilterError.syntactic.inj hcause
  -- the second token is the one at position 7
  rcases index with _ | _ | _ | index
  · cases htoken
    cases hposition
  · cases htoken'
    exact hjoined
  · cases htoken
    cases hposition
  · cases htoken

end LogSieve
