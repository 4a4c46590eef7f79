import LogSieve.Filter.Error
import LogSieve.Text.Blank

/-!
# The tokens of a text

`tokenize` cuts a text into tokens. Blanks between tokens are skipped; numbers and words run as
far as their characters go, so that two of them need a blank between them only if together they
would spell another; quoted texts end at the first quote of the same kind without a backslash in
front. Every step leaves less of the text (`length_lexeme_le`), which is why reading ends.
-/

namespace LogSieve

/-- The greatest natural number that a filter may write, plus one. -/
def numberBound : Nat := Nat.pow 2 64

/-- The character that a backslash and a character stand for inside quotes. -/
def unescape (c : Char) : Char :=
  if c = 'n' then '\n' else if c = 't' then '\t' else if c = 'r' then '\r' else c

/-- The value of a quoted text, the position after its closing quote, and the text from there.
The text given starts at `position`, and the opening quote stands at `opening`. -/
def readQuoted (quote : Char) (opening : Nat) :
    (position : Nat) → Text → Except LexicalError (Text × Nat × Text)
  | _, [] => .error (.unterminatedString opening)
  | position, c :: rest =>
    if c = quote then .ok ([], position + 1, rest)
    else if c = '\\' then
      match rest with
      | [] => .error (.unexpectedEndOfString (position + 1))
      | d :: rest =>
        match readQuoted quote opening (position + 2) rest with
        | .error error => .error error
        | .ok (value, next, left) => .ok (unescape d :: value, next, left)
    else
      match readQuoted quote opening (position + 1) rest with
      | .error error => .error error
      | .ok (value, next, left) => .ok (c :: value, next, left)

/-- The token that starts with the character `c`, which is no blank, at `position`; with it the
position after the token and the text from there. -/
def lexeme (position : Nat) (c : Char) (rest : Text) :
    Except LexicalError (TokenKind × Nat × Text) :=
  if c = '(' then .ok (.openParen, position + 1, rest)
  else if c = ')' then .ok (.closeParen, position + 1, rest)
  else if c = '=' then .ok (.equals, position + 1, rest)
  else if c = '"' || c = '\'' then
    match readQuoted c position (position + 1) rest with
    | .error error => .error error
    | .ok (value, next, left) => .ok (.string value, next, left)
  else if Text.isDigit c then
    let digits := c :: rest.takeWhile Text.isDigit
    let value := Text.numeralValue digits
    if value < numberBound then
      .ok (.number value, position + digits.length, rest.dropWhile Text.isDigit)
    else .error (.numberOutOfRange digits position)
  else if isWordChar c then
    let word := c :: rest.takeWhile isWordChar
    .ok (.ofWord word, position + word.length, rest.dropWhile isWordChar)
  else .error (.unexpectedCharacter c position)

theorem length_readQuoted_lt {quote : Char} {opening position next : Nat} {text value left : Text}
    (h : readQuoted quote opening position text = .ok (value, next, left)) :
    left.length < text.length := by
  fun_induction readQuoted quote opening position text generalizing value next left with
  | case1 => cases h
  | case2 => cases h; simp
  | case3 => cases h
  | case4 => cases h
  | case5 _ _ _ _ _ _ hq _ ih =>
    cases h
    have := ih hq
    simp only [List.length_cons]
    omega
  | case6 => cases h
  | case7 _ _ _ _ _ _ _ _ hq ih =>
    cases h
    have := ih hq
    simp only [List.length_cons]
    omega

theorem length_dropWhile_le {α : Type} (p : α → Bool) (l : List α) :
    (l.dropWhile p).length ≤ l.length :=
  (List.dropWhile_sublist p).length_le

/-- A token takes at least its first character. -/
theorem length_lexeme_le {position next : Nat} {c : Char} {rest left : Text} {kind : TokenKind}
    (h : lexeme position c rest = .ok (kind, next, left)) : left.length ≤ rest.length := by
  unfold lexeme at h
  split at h
  · cases h; exact Nat.le_refl _
  split at h
  · cases h; exact Nat.le_refl _
  split at h
  · cases h; exact Nat.le_refl _
  split at h
  · split at h
    · cases h
    · next hq =>
      cases h
      exact Nat.le_of_lt (length_readQuoted_lt hq)
  split at h
  · simp only at h
    split at h
    · simp only [Except.ok.injEq, Prod.mk.injEq] at h
      exact h.2.2 ▸ length_dropWhile_le _ _
    · cases h
  split at h
  · simp only [Except.ok.injEq, Prod.mk.injEq] at h
    exact h.2.2 ▸ length_dropWhile_le _ _
  · cases h

/-- The tokens of a text that starts at `position`, the last of them its end. -/
def tokensFrom (position : Nat) (text : Text) : Except LexicalError (List Token) :=
  match text with
  | [] => .ok [⟨.endOfInput, position⟩]
  | c :: rest =>
    if Text.isBlank c then tokensFrom (position + 1) rest
    else
      match _h : lexeme position c rest with
      | .error error => .error error
      | .ok (kind, next, left) =>
        match tokensFrom next left with
        | .error error => .error error
        | .ok tokens => .ok (⟨kind, position⟩ :: tokens)
termination_by text.length
decreasing_by
  · simp
  · exact Nat.lt_succ_of_le (length_lexeme_le _h)

/-- The tokens of a text. -/
def tokenize (text : Text) : Except LexicalError (List Token) :=
  tokensFrom 0 text

end LogSieve
