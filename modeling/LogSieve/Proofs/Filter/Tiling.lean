import LogSieve.Filter.Lexeme
import LogSieve.Proofs.Text.Classes
import Mathlib.Algebra.Group.Nat.Defs
import Mathlib.Tactic.SplitIfs
import Mathlib.Data.List.TakeWhile

/-!
# The lexical grammar

What the tokens of a text are, said without a scanner: a text is an alternation of blanks and
lexemes, and the tokens name the lexemes in order, each at the number of characters before it.

* `Escapes` and `QuotedBody` — what stands between quotes, and what it writes;
* `Lexeme` — which texts are lexemes, and of which kind;
* `TokenKind.Closed` — a run of digits or of word characters is a lexeme only as far as it goes;
* `Tiled` — a stretch of text cut into blanks and lexemes;
* `Stuck` — the four ways in which no lexeme stands at a place that is not blank.

The main statement is `tokenize_eq_iff`: a text has tokens if and only if it is tiled to its end,
and otherwise the error is the one of the place at which the tiling gets stuck.

The crux is that the first character of a stretch decides everything (`lexeme_or_stuck`), so that a
tiling can be built from the left until it is stuck or finished (`exists_tiled`). Since `tokenize`
follows every tiling (`tokensFrom_of_tiled`), no second induction on the scanner is needed.
-/

namespace LogSieve

/-! ### Lexemes -/

/-- The two characters that open a quoted text. -/
def IsQuote (c : Char) : Prop := c = '"' ∨ c = '\''

/-- `Escapes c d`: a backslash and then `c` write `d`. Three characters write another one, and all
others write themselves. -/
inductive Escapes : Char → Char → Prop where
  | lineFeed : Escapes 'n' '\n'
  | tab : Escapes 't' '\t'
  | carriageReturn : Escapes 'r' '\r'
  | itself {c : Char} (hline : c ≠ 'n') (htab : c ≠ 't') (hreturn : c ≠ 'r') : Escapes c c

/-- What stands between two quotes of a kind, and the text that it writes: every character but the
quote and the backslash writes itself, and a backslash takes the character after it along. -/
inductive QuotedBody (quote : Char) : Text → Text → Prop where
  | nil : QuotedBody quote [] []
  | plain {c : Char} {body value : Text} (hq : c ≠ quote) (hb : c ≠ '\\')
      (h : QuotedBody quote body value) : QuotedBody quote (c :: body) (c :: value)
  | escaped {c d : Char} {body value : Text} (he : Escapes c d)
      (h : QuotedBody quote body value) : QuotedBody quote ('\\' :: c :: body) (d :: value)

/-- A text is a lexeme of a kind. -/
inductive Lexeme : Text → TokenKind → Prop where
  | openParen : Lexeme ['('] .openParen
  | closeParen : Lexeme [')'] .closeParen
  | equals : Lexeme ['='] .equals
  /-- A text between two quotes of the same kind. -/
  | quoted {quote : Char} {body value : Text} (hq : IsQuote quote)
      (h : QuotedBody quote body value) : Lexeme (quote :: body ++ [quote]) (.string value)
  /-- ASCII digits that write a number of 64 bits, with any number of leading zeros. -/
  | number {c : Char} {rest : Text} (h : ∀ d ∈ c :: rest, Text.isDigit d = true)
      (hlt : Text.numeralValue (c :: rest) < 2 ^ 64) :
      Lexeme (c :: rest) (.number (Text.numeralValue (c :: rest)))
  /-- Word characters, the first of them no ASCII digit. -/
  | word {c : Char} {rest : Text} (h : ∀ d ∈ c :: rest, isWordChar d = true)
      (hd : Text.isDigit c = false) : Lexeme (c :: rest) (.ofWord (c :: rest))

/-- Whether a character would make a lexeme of the kind longer. -/
def TokenKind.extendedBy : TokenKind → Char → Bool
  | number _, c => Text.isDigit c
  | identifier _, c | contains, c | and, c | or, c | not, c => isWordChar c
  | string _, _ | equals, _ | openParen, _ | closeParen, _ | endOfInput, _ => false

/-- A lexeme of the kind in front of a text is as long as it can be. -/
def TokenKind.Closed (kind : TokenKind) (text : Text) : Prop :=
  ∀ c ∈ text.head?, kind.extendedBy c = false

/-- `Tiled position tiles rest tokens`: the text `tiles`, which starts at `position` and stands in
front of `rest`, is an alternation of blanks and lexemes, each as long as it can be, and `tokens`
lists the lexemes at the positions where they start. -/
inductive Tiled : Nat → Text → Text → List Token → Prop where
  | nil {position : Nat} {rest : Text} : Tiled position [] rest []
  | blank {position : Nat} {c : Char} {tiles rest : Text} {tokens : List Token}
      (hc : Text.isBlank c = true) (h : Tiled (position + 1) tiles rest tokens) :
      Tiled position (c :: tiles) rest tokens
  | lexeme {position : Nat} {text tiles rest : Text} {kind : TokenKind} {tokens : List Token}
      (hl : Lexeme text kind) (hclosed : kind.Closed (tiles ++ rest))
      (h : Tiled (position + text.length) tiles rest tokens) :
      Tiled position (text ++ tiles) rest (⟨kind, position⟩ :: tokens)

/-- `Stuck position text error`: no lexeme starts at the beginning of `text`, which is at
`position`, and `error` says why. -/
inductive Stuck : Nat → Text → LexicalError → Prop where
  /-- The character is neither blank nor the first one of any lexeme. -/
  | unexpectedCharacter {position : Nat} {c : Char} {rest : Text}
      (hblank : Text.isBlank c = false) (hquote : ¬ IsQuote c) (hpunct : c ∉ ['(', ')', '='])
      (hword : isWordChar c = false) :
      Stuck position (c :: rest) (.unexpectedCharacter c position)
  /-- The run of digits writes a number of more than 64 bits. -/
  | numberOutOfRange {position : Nat} {c : Char} {digits rest : Text}
      (h : ∀ d ∈ c :: digits, Text.isDigit d = true)
      (hend : ∀ d ∈ rest.head?, Text.isDigit d = false)
      (hge : 2 ^ 64 ≤ Text.numeralValue (c :: digits)) :
      Stuck position (c :: digits ++ rest) (.numberOutOfRange (c :: digits) position)
  /-- The quote is not closed before the end. -/
  | unterminatedString {position : Nat} {quote : Char} {body value : Text} (hq : IsQuote quote)
      (h : QuotedBody quote body value) :
      Stuck position (quote :: body) (.unterminatedString position)
  /-- The end comes right after a backslash between quotes. -/
  | unexpectedEndOfString {position : Nat} {quote : Char} {body value : Text} (hq : IsQuote quote)
      (h : QuotedBody quote body value) :
      Stuck position (quote :: body ++ ['\\'])
        (.unexpectedEndOfString (position + (quote :: body ++ ['\\']).length))

/-! ### Reading between quotes -/

theorem IsQuote.ne_backslash {c : Char} (h : IsQuote c) : c ≠ '\\' := by
  rcases h with rfl | rfl <;> decide

/-- The scanner resolves an escape as the grammar has it. -/
theorem escapes_iff {c d : Char} : Escapes c d ↔ unescape c = d := by
  constructor
  · intro h
    cases h with
    | lineFeed | tab | carriageReturn => rfl
    | itself hline htab hreturn =>
      rw [unescape, if_neg hline, if_neg htab, if_neg hreturn]
  · rintro rfl
    unfold unescape
    split_ifs with hline htab hreturn
    · exact hline ▸ .lineFeed
    · exact htab ▸ .tab
    · exact hreturn ▸ .carriageReturn
    · exact .itself hline htab hreturn

theorem QuotedBody.append {quote : Char} {body value body' value' : Text}
    (h : QuotedBody quote body value) (h' : QuotedBody quote body' value') :
    QuotedBody quote (body ++ body') (value ++ value') := by
  induction h with
  | nil => exact h'
  | plain hq hb _ ih => exact .plain hq hb ih
  | escaped he _ ih => exact .escaped he ih

section Quoted

variable {quote : Char} {body value : Text}

theorem readQuoted_plain {c : Char} (hq : c ≠ quote) (hb : c ≠ '\\') (opening position : Nat)
    (rest : Text) : readQuoted quote opening position (c :: rest)
      = (readQuoted quote opening (position + 1) rest).map fun r => (c :: r.1, r.2) := by
  rw [readQuoted.eq_def]
  simp only [if_neg hq, if_neg hb]
  cases readQuoted quote opening (position + 1) rest <;> rfl

theorem readQuoted_escaped (hq : IsQuote quote) {c d : Char} (he : Escapes c d)
    (opening position : Nat) (rest : Text) :
    readQuoted quote opening position ('\\' :: c :: rest)
      = (readQuoted quote opening (position + 2) rest).map fun r => (d :: r.1, r.2) := by
  rw [readQuoted.eq_def, ← escapes_iff.mp he]
  simp only [if_neg hq.ne_backslash.symm, if_true]
  cases readQuoted quote opening (position + 2) rest <;> rfl

/-- **Reading passes over a body.** What comes after it decides how the reading ends. -/
theorem readQuoted_append (hq : IsQuote quote) (h : QuotedBody quote body value)
    (opening position : Nat) (rest : Text) :
    readQuoted quote opening position (body ++ rest)
      = (readQuoted quote opening (position + body.length) rest).map
          fun r => (value ++ r.1, r.2) := by
  -- on the body: the scanner takes one character of it or two at a time, as the grammar does
  induction h generalizing position with
  | nil =>
    rw [List.nil_append, List.length_nil, Nat.add_zero]
    cases readQuoted quote opening position rest <;> rfl
  | plain hne hb _ ih =>
    rw [List.cons_append, readQuoted_plain hne hb, ih, List.length_cons, Nat.add_right_comm,
      Nat.add_assoc]
    cases readQuoted quote opening _ rest <;> rfl
  | escaped he _ ih =>
    rw [List.cons_append, List.cons_append, readQuoted_escaped hq he, ih, List.length_cons,
      List.length_cons, Nat.add_right_comm, Nat.add_assoc]
    cases readQuoted quote opening _ rest <;> rfl

theorem readQuoted_of_closed (hq : IsQuote quote) (h : QuotedBody quote body value)
    (opening position : Nat) (rest : Text) :
    readQuoted quote opening position (body ++ quote :: rest)
      = .ok (value, position + body.length + 1, rest) := by
  rw [readQuoted_append hq h, readQuoted.eq_def]
  simp [Except.map]

theorem readQuoted_of_unclosed (hq : IsQuote quote) (h : QuotedBody quote body value)
    (opening position : Nat) :
    readQuoted quote opening position body = .error (.unterminatedString opening) := by
  -- nothing comes after the body, and nothing is never closed
  have hread := readQuoted_append hq h opening position []
  rwa [List.append_nil] at hread

theorem readQuoted_of_backslash (hq : IsQuote quote) (h : QuotedBody quote body value)
    (opening position : Nat) :
    readQuoted quote opening position (body ++ ['\\'])
      = .error (.unexpectedEndOfString (position + body.length + 1)) := by
  rw [readQuoted_append hq h, readQuoted.eq_def]
  simp [Except.map, hq.ne_backslash.symm]

/-- **Every text after a quote is one of three.** It is closed, or it ends without a quote, or it
ends with a lone backslash. -/
theorem exists_quotedBody (quote : Char) : ∀ text : Text, ∃ body value,
    QuotedBody quote body value ∧
      ((∃ rest, text = body ++ quote :: rest) ∨ text = body ∨ text = body ++ ['\\'])
  | [] => ⟨[], [], .nil, .inr (.inl rfl)⟩
  | c :: rest => by
    by_cases hq : c = quote
    · exact ⟨[], [], .nil, .inl ⟨rest, by rw [hq]; rfl⟩⟩
    by_cases hb : c = '\\'
    · -- a backslash takes the next character along, so two characters go at once
      subst hb
      cases rest with
      | nil => exact ⟨[], [], .nil, .inr (.inr rfl)⟩
      | cons d rest =>
        obtain ⟨body, value, h, hends⟩ := exists_quotedBody quote rest
        have hescape : Escapes d (unescape d) := escapes_iff.mpr rfl
        refine ⟨_, _, h.escaped hescape, ?_⟩
        rcases hends with ⟨rest', rfl⟩ | rfl | rfl
        · exact .inl ⟨rest', rfl⟩
        · exact .inr (.inl rfl)
        · exact .inr (.inr rfl)
    · obtain ⟨body, value, h, hends⟩ := exists_quotedBody quote rest
      refine ⟨_, _, h.plain hq hb, ?_⟩
      rcases hends with ⟨rest', rfl⟩ | rfl | rfl
      · exact .inl ⟨rest', rfl⟩
      · exact .inr (.inl rfl)
      · exact .inr (.inr rfl)

end Quoted

/-! ### Reading one lexeme -/

theorem IsQuote.isBlank {c : Char} (h : IsQuote c) : Text.isBlank c = false := by
  rcases h with rfl | rfl <;> decide

theorem IsQuote.isWordChar {c : Char} (h : IsQuote c) : isWordChar c = false := by
  apply isWordChar_eq_false_of_ascii
  rcases h with rfl | rfl <;> decide

/-- A reserved word and any other word go on with the same characters. -/
theorem TokenKind.extendedBy_ofWord (word : Text) :
    (TokenKind.ofWord word).extendedBy = isWordChar := by
  simp only [ofWord, reserved?]
  split_ifs <;> rfl

section Lexeme

variable {position : Nat} {c : Char} {rest : Text}

theorem lexeme_quote (hq : IsQuote c) : lexeme position c rest
    = (readQuoted c position (position + 1) rest).map fun r => (.string r.1, r.2) := by
  unfold lexeme
  rcases hq with rfl | rfl <;> cases readQuoted _ position (position + 1) rest <;> rfl

/-- A character that is no punctuation is read by its class. -/
theorem lexeme_of_not_punctuation (hq : ¬ IsQuote c) (hp : c ∉ ['(', ')', '=']) :
    lexeme position c rest =
      if Text.isDigit c then
        if Text.numeralValue (c :: rest.takeWhile Text.isDigit) < 2 ^ 64 then
          .ok (.number (Text.numeralValue (c :: rest.takeWhile Text.isDigit)),
            position + (c :: rest.takeWhile Text.isDigit).length, rest.dropWhile Text.isDigit)
        else .error (.numberOutOfRange (c :: rest.takeWhile Text.isDigit) position)
      else if isWordChar c then
        .ok (.ofWord (c :: rest.takeWhile isWordChar),
          position + (c :: rest.takeWhile isWordChar).length, rest.dropWhile isWordChar)
      else .error (.unexpectedCharacter c position) := by
  simp only [IsQuote, not_or] at hq
  simp only [List.mem_cons, List.not_mem_nil, or_false, not_or] at hp
  unfold lexeme
  rw [if_neg hp.1, if_neg hp.2.1, if_neg hp.2.2, if_neg (by simp [hq.1, hq.2])]
  rfl

theorem not_punctuation_of_isWordChar (h : isWordChar c = true) :
    ¬ IsQuote c ∧ c ∉ ['(', ')', '='] := by
  refine ⟨fun hq => ?_, fun hp => ?_⟩
  · rw [hq.isWordChar] at h
    exact Bool.false_ne_true h
  · have : isWordChar c = false := by
      simp only [List.mem_cons, List.not_mem_nil, or_false] at hp
      rcases hp with rfl | rfl | rfl <;> simp
    rw [this] at h
    exact Bool.false_ne_true h

/-- A run is read as far as it goes. -/
theorem takeWhile_append_of_closed {p : Char → Bool} {run rest : Text}
    (hrun : ∀ d ∈ run, p d = true) (hend : ∀ d ∈ rest.head?, p d = false) :
    (run ++ rest).takeWhile p = run ∧ (run ++ rest).dropWhile p = rest := by
  rw [List.takeWhile_append_of_pos hrun, List.dropWhile_append_of_pos hrun]
  cases rest with
  | nil => simp
  | cons d rest => simp [hend d rfl]

/-- What a run leaves does not go on with it. -/
theorem head?_dropWhile_eq_false (p : Char → Bool) (text : Text) :
    ∀ d ∈ (text.dropWhile p).head?, p d = false := by
  intro d hd
  have := List.head?_dropWhile_not p text
  rw [Option.mem_def.mp hd] at this
  simpa using this

/-- **A lexeme is read as itself.** -/
theorem lexeme_of_lexeme {text rest : Text} {kind : TokenKind} (h : Lexeme text kind)
    (hclosed : kind.Closed rest) (position : Nat) :
    ∃ c tail, text = c :: tail ∧ Text.isBlank c = false ∧
      lexeme position c (tail ++ rest) = .ok (kind, position + text.length, rest) := by
  cases h with
  | openParen => exact ⟨_, _, rfl, isBlank_openParen, rfl⟩
  | closeParen => exact ⟨_, _, rfl, isBlank_closeParen, rfl⟩
  | equals => exact ⟨_, _, rfl, isBlank_equals, rfl⟩
  | @quoted quote body value hq hbody =>
    refine ⟨quote, body ++ [quote], rfl, hq.isBlank, ?_⟩
    rw [lexeme_quote hq, List.append_assoc, List.singleton_append, readQuoted_of_closed hq hbody]
    simp only [Except.map, List.cons_append, List.length_cons, List.length_append, List.length_nil]
    congr 3
    omega
  | @number c run hrun hlt =>
    have hc := hrun c (List.mem_cons_self ..)
    obtain ⟨hq, hp⟩ := not_punctuation_of_isWordChar (isWordChar_of_isDigit hc)
    -- the scanner takes the longest run, and the lexeme is one because it is closed
    obtain ⟨htake, hdrop⟩ := takeWhile_append_of_closed
      (fun d hd => hrun d (List.mem_cons_of_mem _ hd)) hclosed
    refine ⟨_, _, rfl, isBlank_eq_false_of_isDigit hc, ?_⟩
    rw [lexeme_of_not_punctuation hq hp, if_pos hc]
    rw [htake, hdrop, if_pos hlt]
  | @word c run hrun hd =>
    have hc := hrun c (List.mem_cons_self ..)
    obtain ⟨hq, hp⟩ := not_punctuation_of_isWordChar hc
    rw [TokenKind.Closed, TokenKind.extendedBy_ofWord] at hclosed
    obtain ⟨htake, hdrop⟩ := takeWhile_append_of_closed
      (fun d hd => hrun d (List.mem_cons_of_mem _ hd)) hclosed
    refine ⟨_, _, rfl, isBlank_eq_false_of_isWordChar hc, ?_⟩
    rw [lexeme_of_not_punctuation hq hp, if_neg (by simp [hd]), if_pos hc, htake, hdrop]

/-- **A place where no lexeme stands is read as its error.** -/
theorem lexeme_of_stuck {text : Text} {error : LexicalError} (h : Stuck position text error) :
    ∃ c tail, text = c :: tail ∧ Text.isBlank c = false ∧
      lexeme position c tail = .error error := by
  cases h with
  | unexpectedCharacter hblank hq hp hword =>
    refine ⟨_, _, rfl, hblank, ?_⟩
    rw [lexeme_of_not_punctuation hq hp, if_neg, if_neg (by simp [hword])]
    -- a digit would be a word character
    intro hd
    rw [isWordChar_of_isDigit hd] at hword
    exact Bool.false_ne_true hword.symm
  | @numberOutOfRange c run rest hrun hend hge =>
    have hc := hrun c (List.mem_cons_self ..)
    obtain ⟨hq, hp⟩ := not_punctuation_of_isWordChar (isWordChar_of_isDigit hc)
    obtain ⟨htake, -⟩ := takeWhile_append_of_closed
      (fun d hd => hrun d (List.mem_cons_of_mem _ hd)) hend
    refine ⟨c, run ++ rest, rfl, isBlank_eq_false_of_isDigit hc, ?_⟩
    rw [lexeme_of_not_punctuation hq hp, if_pos hc, htake, if_neg (Nat.not_lt.mpr hge)]
  | unterminatedString hq hbody =>
    refine ⟨_, _, rfl, hq.isBlank, ?_⟩
    rw [lexeme_quote hq, readQuoted_of_unclosed hq hbody]
    rfl
  | @unexpectedEndOfString quote body value hq hbody =>
    refine ⟨quote, body ++ ['\\'], rfl, hq.isBlank, ?_⟩
    rw [lexeme_quote hq, readQuoted_of_backslash hq hbody]
    simp only [Except.map, List.cons_append, List.length_cons, List.length_append, List.length_nil]
    congr 2
    omega

/-- **The first character decides.** At a character that is not blank either a lexeme starts, as
long as it can be, or the text is stuck. -/
theorem lexeme_or_stuck (hc : Text.isBlank c = false) (position : Nat) (rest : Text) :
    (∃ text tail kind, c :: rest = text ++ tail ∧ text ≠ [] ∧ Lexeme text kind ∧
        kind.Closed tail) ∨
      ∃ error, Stuck position (c :: rest) error := by
  by_cases hq : IsQuote c
  · -- between quotes anything goes, so only where the text ends matters
    obtain ⟨body, value, h, hends⟩ := exists_quotedBody c rest
    rcases hends with ⟨tail, rfl⟩ | rfl | rfl
    · exact .inl ⟨c :: body ++ [c], tail, _, by simp, by simp, .quoted hq h, fun _ _ => rfl⟩
    · exact .inr ⟨_, .unterminatedString hq h⟩
    · exact .inr ⟨_, .unexpectedEndOfString hq h⟩
  by_cases hp : c ∈ ['(', ')', '=']
  · left
    simp only [List.mem_cons, List.not_mem_nil, or_false] at hp
    rcases hp with rfl | rfl | rfl
    · exact ⟨_, rest, _, rfl, by simp, .openParen, fun _ _ => rfl⟩
    · exact ⟨_, rest, _, rfl, by simp, .closeParen, fun _ _ => rfl⟩
    · exact ⟨_, rest, _, rfl, by simp, .equals, fun _ _ => rfl⟩
  -- a digit before the words: it is a word character too, but starts no word
  by_cases hd : Text.isDigit c = true
  · have hrun : ∀ d ∈ c :: rest.takeWhile Text.isDigit, Text.isDigit d = true := by
      rw [List.forall_mem_cons]
      exact ⟨hd, fun d => List.mem_takeWhile_imp⟩
    have hcut : c :: rest = c :: rest.takeWhile Text.isDigit ++ rest.dropWhile Text.isDigit := by
      rw [List.cons_append, List.takeWhile_append_dropWhile]
    have hend := head?_dropWhile_eq_false Text.isDigit rest
    by_cases hlt : Text.numeralValue (c :: rest.takeWhile Text.isDigit) < 2 ^ 64
    · exact .inl ⟨_, _, _, hcut, by simp, .number hrun hlt, hend⟩
    · right
      rw [hcut]
      exact ⟨_, .numberOutOfRange hrun hend (Nat.not_lt.mp hlt)⟩
  by_cases hw : isWordChar c = true
  · have hrun : ∀ d ∈ c :: rest.takeWhile isWordChar, isWordChar d = true := by
      rw [List.forall_mem_cons]
      exact ⟨hw, fun d => List.mem_takeWhile_imp⟩
    refine .inl ⟨c :: rest.takeWhile isWordChar, rest.dropWhile isWordChar, _, ?_, by simp,
      .word hrun (Bool.eq_false_iff.mpr hd), ?_⟩
    · rw [List.cons_append, List.takeWhile_append_dropWhile]
    · rw [TokenKind.Closed, TokenKind.extendedBy_ofWord]
      exact head?_dropWhile_eq_false isWordChar rest
  · exact .inr ⟨_, .unexpectedCharacter hc hq hp (Bool.eq_false_iff.mpr hw)⟩

end Lexeme

/-! ### Reading a tiled text -/

section Tokens

variable {position : Nat} {tiles rest : Text} {tokens : List Token}

theorem tokensFrom_nil (position : Nat) :
    tokensFrom position [] = .ok [⟨.endOfInput, position⟩] := by
  rw [tokensFrom.eq_def]

theorem tokensFrom_blank {c : Char} (hc : Text.isBlank c = true) (position : Nat) (rest : Text) :
    tokensFrom position (c :: rest) = tokensFrom (position + 1) rest := by
  rw [tokensFrom.eq_def]
  simp only [hc, if_true]

theorem tokensFrom_lexeme {text : Text} {kind : TokenKind} (hl : Lexeme text kind)
    (hclosed : kind.Closed rest) (position : Nat) :
    tokensFrom position (text ++ rest)
      = (tokensFrom (position + text.length) rest).map (⟨kind, position⟩ :: ·) := by
  -- the scanner is called with the first character taken off
  obtain ⟨c, tail, rfl, hc, hread⟩ := lexeme_of_lexeme hl hclosed position
  rw [List.cons_append, tokensFrom.eq_def]
  simp only [hc, Bool.false_eq_true, if_false]
  split
  · next h => rw [hread] at h; cases h
  · next h =>
    rw [hread] at h
    cases h
    cases tokensFrom _ rest <;> rfl

theorem tokensFrom_stuck {text : Text} {error : LexicalError} (h : Stuck position text error) :
    tokensFrom position text = .error error := by
  obtain ⟨c, tail, rfl, hc, hread⟩ := lexeme_of_stuck h
  rw [tokensFrom.eq_def]
  simp only [hc, Bool.false_eq_true, if_false]
  split
  · next h => rw [hread] at h; cases h; rfl
  · next h => rw [hread] at h; cases h

/-- **The scanner follows every tiling.** -/
theorem tokensFrom_of_tiled (h : Tiled position tiles rest tokens) :
    tokensFrom position (tiles ++ rest)
      = (tokensFrom (position + tiles.length) rest).map (tokens ++ ·) := by
  induction h with
  | nil =>
    rw [List.nil_append, List.length_nil, Nat.add_zero]
    cases tokensFrom _ _ <;> rfl
  | blank hc _ ih =>
    rw [List.cons_append, tokensFrom_blank hc, ih, List.length_cons, Nat.add_right_comm,
      Nat.add_assoc]
  | lexeme hl hclosed _ ih =>
    rw [List.append_assoc, tokensFrom_lexeme hl hclosed, ih, List.length_append, Nat.add_assoc]
    cases tokensFrom _ _ <;> rfl

/-- **A tiling can be built until it is stuck or finished.** -/
theorem exists_tiled (position : Nat) (text : Text) :
    ∃ tiles rest tokens, text = tiles ++ rest ∧ Tiled position tiles rest tokens ∧
      (rest = [] ∨ ∃ error, Stuck (position + tiles.length) rest error) := by
  -- on the length of the text, since a lexeme takes several characters at once
  induction hn : text.length using Nat.strongRecOn generalizing position text with
  | _ n ih =>
  subst hn
  cases text with
  | nil => exact ⟨[], [], [], rfl, .nil, .inl rfl⟩
  | cons c rest =>
    cases hc : Text.isBlank c with
    | true =>
      obtain ⟨tiles, rest, tokens, rfl, h, hends⟩ := ih _ (by simp) (position + 1) rest rfl
      refine ⟨c :: tiles, rest, tokens, rfl, .blank hc h, ?_⟩
      rwa [List.length_cons, Nat.add_comm tiles.length, ← Nat.add_assoc]
    | false =>
      rcases lexeme_or_stuck hc position rest with ⟨text, tail, kind, hcut, hne, hl, hclosed⟩ | hs
      · -- the rest after the lexeme is shorter
        have hlt : tail.length < (c :: rest).length := by
          rw [hcut, List.length_append]
          have := List.length_pos_iff.mpr hne
          omega
        obtain ⟨tiles, rest', tokens, rfl, h, hends⟩ := ih _ hlt (position + text.length) tail rfl
        refine ⟨text ++ tiles, rest', _, ?_, .lexeme hl hclosed h, ?_⟩
        · rw [hcut, List.append_assoc]
        · rwa [List.length_append, ← Nat.add_assoc]
      · exact ⟨[], c :: rest, [], rfl, .nil, .inr hs⟩

theorem Lexeme.ne_nil {text : Text} {kind : TokenKind} (h : Lexeme text kind) : text ≠ [] := by
  cases h <;> simp

/-- Without any text there is no token. -/
theorem Tiled.eq_nil (h : Tiled position tiles rest tokens) (htiles : tiles = []) :
    tokens = [] := by
  cases h with
  | nil => rfl
  | blank => cases htiles
  | lexeme hl => exact absurd (List.append_eq_nil_iff.mp htiles).1 hl.ne_nil

theorem Lexeme.kind_ne_endOfInput {text : Text} {kind : TokenKind} (h : Lexeme text kind) :
    kind ≠ .endOfInput := by
  cases h with
  | word =>
    simp only [TokenKind.ofWord, TokenKind.reserved?]
    split_ifs <;> simp
  | _ => simp

/-- Every token of a tiling names a lexeme. -/
theorem Tiled.exists_lexeme (h : Tiled position tiles rest tokens) :
    ∀ token ∈ tokens, ∃ text, Lexeme text token.kind := by
  induction h with
  | nil => simp
  | blank _ _ ih => exact ih
  | lexeme hl _ _ ih =>
    rw [List.forall_mem_cons]
    exact ⟨⟨_, hl⟩, ih⟩

theorem Tiled.kind_ne_endOfInput (h : Tiled position tiles rest tokens) :
    ∀ token ∈ tokens, token.kind ≠ .endOfInput := by
  intro token hmem
  obtain ⟨_, hl⟩ := h.exists_lexeme token hmem
  exact hl.kind_ne_endOfInput

/-- Tilings of neighbouring stretches make one tiling. -/
theorem Tiled.append {tiles' : Text} {tokens' : List Token}
    (h : Tiled position tiles (tiles' ++ rest) tokens)
    (h' : Tiled (position + tiles.length) tiles' rest tokens') :
    Tiled position (tiles ++ tiles') rest (tokens ++ tokens') := by
  -- what follows the first tiling is fixed, so that only the tiling is taken apart
  generalize hr : tiles' ++ rest = after at h
  induction h with
  | nil => exact h'
  | blank hc _ ih =>
    subst hr
    refine .blank hc (ih ?_ rfl)
    rwa [List.length_cons, Nat.add_comm _ 1, ← Nat.add_assoc] at h'
  | lexeme hl hclosed _ ih =>
    subst hr
    rw [List.append_assoc]
    -- the lexeme is closed before the same text as it was
    refine .lexeme hl ?_ (ih ?_ rfl)
    · rwa [List.append_assoc]
    · rwa [List.length_append, ← Nat.add_assoc] at h'

end Tokens

/-! ### The tokens of a text -/

section Tokenize

variable {source : Text} {tokens lexemes : List Token}

theorem tokenize_of_tiled (h : Tiled 0 source [] lexemes) :
    tokenize source = .ok (lexemes ++ [⟨.endOfInput, source.length⟩]) := by
  have := tokensFrom_of_tiled h
  rw [List.append_nil, Nat.zero_add, tokensFrom_nil] at this
  exact this

theorem tokenize_of_stuck {tiles rest : Text} {error : LexicalError}
    (h : Tiled 0 tiles rest lexemes) (hs : Stuck tiles.length rest error) :
    tokenize (tiles ++ rest) = .error error := by
  -- the tokens before the error are lost with it
  have := tokensFrom_of_tiled h
  rw [Nat.zero_add, tokensFrom_stuck hs] at this
  exact this

theorem tiled_of_tokenize (h : tokenize source = .ok tokens) :
    ∃ lexemes, Tiled 0 source [] lexemes ∧
      tokens = lexemes ++ [⟨.endOfInput, source.length⟩] := by
  obtain ⟨tiles, rest, lexemes, rfl, ht, rfl | ⟨error, hs⟩⟩ := exists_tiled 0 source
  · rw [List.append_nil] at h ⊢
    rw [tokenize_of_tiled ht] at h
    exact ⟨lexemes, ht, (Except.ok.inj h).symm⟩
  · rw [Nat.zero_add] at hs
    rw [tokenize_of_stuck ht hs] at h
    cases h

theorem stuck_of_tokenize {error : LexicalError} (h : tokenize source = .error error) :
    ∃ tiles rest lexemes, source = tiles ++ rest ∧ Tiled 0 tiles rest lexemes ∧
      Stuck tiles.length rest error := by
  obtain ⟨tiles, rest, lexemes, rfl, ht, rfl | ⟨error', hs⟩⟩ := exists_tiled 0 source
  · -- a tiling to the end gives tokens, against the error
    rw [List.append_nil, tokenize_of_tiled ht] at h
    cases h
  · rw [Nat.zero_add] at hs
    rw [tokenize_of_stuck ht hs] at h
    cases h
    exact ⟨tiles, rest, lexemes, rfl, ht, hs⟩

/-- **The scanner reads exactly the lexical grammar.** A text has tokens if and only if it is an
alternation of blanks and lexemes to its end; the tokens are then those of the lexemes, in order,
and one for the end at the length of the text. It has an error if and only if it is such an
alternation up to the leftmost place where no lexeme stands, and the error is the one of that
place. -/
theorem tokenize_eq_iff (source : Text) :
    (∀ tokens, tokenize source = .ok tokens ↔
      ∃ lexemes, Tiled 0 source [] lexemes ∧
        (∀ token ∈ lexemes, token.kind ≠ .endOfInput) ∧
        tokens = lexemes ++ [⟨.endOfInput, source.length⟩]) ∧
    (∀ error, tokenize source = .error error ↔
      ∃ tiles rest lexemes, source = tiles ++ rest ∧ Tiled 0 tiles rest lexemes ∧
        Stuck tiles.length rest error) := by
  refine ⟨fun tokens => ⟨fun h => ?_, ?_⟩, fun error => ⟨stuck_of_tokenize, ?_⟩⟩
  · obtain ⟨lexemes, ht, hend⟩ := tiled_of_tokenize h
    exact ⟨lexemes, ht, ht.kind_ne_endOfInput, hend⟩
  · rintro ⟨lexemes, ht, -, rfl⟩
    exact tokenize_of_tiled ht
  · rintro ⟨tiles, rest, lexemes, rfl, ht, hs⟩
    exact tokenize_of_stuck ht hs

end Tokenize

end LogSieve
