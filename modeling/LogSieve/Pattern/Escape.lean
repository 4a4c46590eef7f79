import LogSieve.Pattern.Cursor
import LogSieve.Pattern.Tree

/-!
# Escapes in patterns

What a backslash and the characters after it stand for, outside and inside of classes. Code points
are written by two, four or eight hexadecimal digits; properties by one letter. The longer forms in
braces are never complete, because in a pattern no closing brace follows an opening one.
-/

namespace LogSieve.Pattern

/-- The characters with a meaning of their own, which a backslash takes from them. -/
def isMeta (c : Char) : Bool :=
  "\\.+*?()|[]\x7b\x7d^$#&-~".toList.contains c

/-- Whether a backslash may stand in front of a character to no effect: ASCII characters may have
one that are no letters, digits or angle brackets. -/
def isEscapable (c : Char) : Bool :=
  isMeta c || (c.toNat < 128 && !c.isAlphanum && c ≠ '<' && c ≠ '>')

/-- The characters that a letter stands for after a backslash. -/
def letterEscape? (c : Char) : Option Char :=
  if c = 'a' then some '\x07'
  else if c = 'f' then some '\x0c'
  else if c = 't' then some '\t'
  else if c = 'n' then some '\n'
  else if c = 'r' then some '\r'
  else if c = 'v' then some '\x0b'
  else none

/-- The character with a code point, if there is one. -/
def scalar? (code : Nat) : Option Char :=
  if h : code.isValidChar then some (Char.ofNatAux code h) else none

/-- Appends hexadecimal digits to a number. -/
def readCode : (count code : Nat) → Cursor → Except Fault (Nat × Cursor)
  | 0, code, cursor => .ok (code, cursor)
  | count + 1, code, cursor =>
    match cursor.rest with
    | [] => .error ⟨.escapeUnfinished, cursor.here, none⟩
    | c :: _ =>
      match Text.hexDigit? c with
      | none => .error ⟨.codeDigit, cursor.character, none⟩
      | some digit => readCode count (code * 16 + digit) cursor.advance

/-- How many digits write a code point after a letter. -/
def codeDigits (letter : Char) : Nat :=
  if letter = 'x' then 2 else if letter = 'u' then 4 else 8

/-- The character of a code point; the backslash stands at `start` and the cursor before the
letter. -/
def readCodePoint (start : Nat) (letter : Char) (cursor : Cursor) :
    Except Fault (Atom × Cursor) := do
  let cursor := cursor.advance
  match cursor.rest with
  | [] => .error ⟨.escapeUnfinished, cursor.here, none⟩
  | '\x7b' :: _ =>
    let digits := cursor.advance
    let stop := digits.passWhile fun c => (Text.hexDigit? c).isSome
    if stop.isAtEnd then .error ⟨.escapeUnfinished, stop.since cursor.position, none⟩
    else .error ⟨.codeDigit, stop.character, none⟩
  | _ =>
    let (code, after) ← readCode (codeDigits letter) 0 cursor
    match scalar? code with
    | none => .error ⟨.codeInvalid, after.since cursor.position, none⟩
    | some c => pure (⟨.literal c (letter = 'x'), after.since start⟩, after)

/-- A property; the backslash stands at `start` and the cursor before the letter. -/
def readProperty (start : Nat) (cursor : Cursor) : Except Fault (Atom × Cursor) :=
  let cursor := cursor.advance
  match cursor.rest with
  | [] => .error ⟨.escapeUnfinished, cursor.here, none⟩
  | '\x7b' :: rest => .error ⟨.escapeUnfinished, (cursor.drop (rest.length + 1)).here, none⟩
  | name :: _ =>
    if name = '\\' then .error ⟨.propertyInvalid, cursor.character, none⟩
    else
      let after := cursor.advance
      .ok (⟨.property name, after.since start⟩, after)

/-- A word boundary whose letter the cursor has passed. Braces with a letter after it would name a
kind of boundary; other braces count a repetition and are left. -/
def readBoundary (start : Nat) (cursor : Cursor) : Except Fault (Atom × Cursor) :=
  let isNameChar (c : Char) : Bool := c.isAlpha || c = '-'
  let boundary : Atom := ⟨.wordBoundary, cursor.since start⟩
  match cursor.rest with
  | '\x7b' :: _ =>
    let name := cursor.advance
    match name.rest with
    | [] => .error ⟨.boundaryUnfinished, name.since start, none⟩
    | c :: _ =>
      if isNameChar c then
        .error ⟨.boundaryUnclosed, (name.passWhile isNameChar).since cursor.position, none⟩
      else .ok (boundary, cursor)
  | _ => .ok (boundary, cursor)

/-- What an escape stands for. The cursor stands before the backslash. -/
def readEscape (cursor : Cursor) : Except Fault (Atom × Cursor) :=
  let start := cursor.position
  let cursor := cursor.next
  match cursor.rest with
  | [] => .error ⟨.escapeUnfinished, cursor.since start, none⟩
  | c :: _ =>
    let after := cursor.next
    let span := after.since start
    if Text.isDigit c then .error ⟨.backreference, span, none⟩
    else if c = 'x' || c = 'u' || c = 'U' then readCodePoint start c cursor
    else if c = 'p' || c = 'P' then readProperty start cursor
    else if "dswDSW".toList.contains c then .ok (⟨.shorthand c.isUpper, span⟩, after)
    else if isEscapable c then .ok (⟨.literal c false, span⟩, after)
    else if c = 'A' || c = 'z' then .ok (⟨.anchor, span⟩, after)
    else if c = 'b' then readBoundary start after
    else if c = 'B' || c = '<' || c = '>' then .ok (⟨.wordBoundary, span⟩, after)
    else
      match letterEscape? c with
      | some character => .ok (⟨.literal character false, span⟩, after)
      | none => .error ⟨.escapeUnrecognized, span, none⟩

end LogSieve.Pattern
