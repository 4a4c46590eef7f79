import LogSieve.Pattern.Fault
import LogSieve.Text.Blank

/-!
# Going through a pattern

A cursor stands in front of what is left of a pattern. While the pattern is read loosely, blanks and
comments, which go from a number sign to the end of the line, do not count between its parts.
-/

namespace LogSieve.Pattern

/-- A place in a pattern. -/
structure Cursor where
  /-- The number of characters before it. -/
  position : Nat
  /-- The characters after it. -/
  rest : Text
  /-- Whether blanks and comments are passed over. -/
  loose : Bool

/-- The longest run of characters that satisfy `p`, the position after it and what is left. If
`loose`, blanks and comments are passed over. -/
def passFrom (p : Char → Bool) (loose : Bool) : (inComment : Bool) → Nat → Text → Text × Nat × Text
  | _, position, [] => ([], position, [])
  | true, position, c :: rest => passFrom p loose (c ≠ '\n') (position + 1) rest
  | false, position, c :: rest =>
    if loose && Text.isBlank c then passFrom p loose false (position + 1) rest
    else if loose && c = '#' then passFrom p loose true (position + 1) rest
    else if p c then
      let (run, after) := passFrom p loose false (position + 1) rest
      (c :: run, after)
    else ([], position, c :: rest)

namespace Cursor

/-- Goes on over characters that satisfy `p`, which are given too, and what does not count between
them. -/
def readWhile (p : Char → Bool) (cursor : Cursor) : Text × Cursor :=
  let (run, position, rest) := passFrom p cursor.loose false cursor.position cursor.rest
  (run, { cursor with position, rest })

/-- Goes on over characters that satisfy `p`, and what does not count between them. -/
def passWhile (p : Char → Bool) (cursor : Cursor) : Cursor :=
  (cursor.readWhile p).2

/-- Goes on over what does not count. -/
def skip (cursor : Cursor) : Cursor :=
  cursor.passWhile fun _ => false

/-- Goes on over one character. -/
def next (cursor : Cursor) : Cursor :=
  match cursor.rest with
  | [] => cursor
  | _ :: rest => { cursor with position := cursor.position + 1, rest }

/-- Goes on over one character and what does not count after it. -/
def advance (cursor : Cursor) : Cursor :=
  cursor.next.skip

/-- Goes on over a number of characters. -/
def drop (cursor : Cursor) (count : Nat) : Cursor :=
  { cursor with position := cursor.position + count, rest := cursor.rest.drop count }

/-- Goes on over characters that satisfy `p`, and over nothing else. -/
def passOnly (p : Char → Bool) (cursor : Cursor) : Cursor :=
  cursor.drop (cursor.rest.takeWhile p).length

/-- Whether the pattern ends here. -/
def isAtEnd (cursor : Cursor) : Bool :=
  cursor.rest.isEmpty

/-- The empty span at the cursor. -/
def here (cursor : Cursor) : Span :=
  ⟨cursor.position, cursor.position⟩

/-- The span of the next character. -/
def character (cursor : Cursor) : Span :=
  ⟨cursor.position, cursor.position + 1⟩

/-- The span from a position up to the cursor. -/
def since (cursor : Cursor) (start : Nat) : Span :=
  ⟨start, cursor.position⟩

/-- The character after the next one. In loose reading blanks are passed over and the sign of one
comment, but not the comment; if nothing else is left, blanks count. -/
def peek? (cursor : Cursor) : Option Char :=
  let after := cursor.rest.drop 1
  if cursor.loose then
    let shown :=
      match after.dropWhile Text.isBlank with
      | '#' :: rest => (rest.dropWhile Text.isBlank).head?
      | rest => rest.head?
    shown.or after.head?
  else after.head?

end Cursor

end LogSieve.Pattern
