import LogSieve.Pattern.Escape

/-!
# Classes in patterns

A class is a set of characters in brackets: characters, ranges of them, shorthands, properties,
named classes of ASCII characters, and further brackets, side by side or joined by the operators
`&&`, `--` and `~~`, which associate to the left. A closing bracket right after the opening one is a
character, and so are minus signs there.
-/

namespace LogSieve.Pattern

/-- Parts of a set side by side, latest first, and where they stand. -/
structure Parts where
  /-- Where they stand. -/
  span : Span
  /-- The parts, latest first. -/
  latest : List CharSet := []

namespace Parts

/-- No parts, at the cursor. -/
def start (cursor : Cursor) : Parts :=
  { span := cursor.here }

/-- The parts with one more. -/
def push (parts : Parts) (part : CharSet) : Parts :=
  let start := if parts.latest.isEmpty then part.span.start else parts.span.start
  { span := ⟨start, part.span.stop⟩, latest := part :: parts.latest }

/-- The set that the parts are. -/
def toSet (parts : Parts) : CharSet :=
  match parts.latest with
  | [] => .empty parts.span
  | [part] => part
  | _ => .union parts.span parts.latest.reverse

end Parts

/-- A class whose closing bracket has not been reached. -/
structure OpenSet where
  /-- The opening bracket, with what belongs to it. -/
  opening : Span
  /-- Whether the class is negated. -/
  negated : Bool
  /-- The parts of the class around it. -/
  outer : Parts
  /-- What stands before the latest operator. -/
  left : Option CharSet := none

namespace OpenSet

/-- What stands before the latest operator, joined with its right operand. -/
def join (opened : OpenSet) (right : CharSet) : CharSet :=
  match opened.left with
  | none => right
  | some left => .operation ⟨left.span.start, right.span.stop⟩ left right

end OpenSet

/-- Minus signs at the start of a class that opens at `start` are characters. -/
def readMinusSigns (start : Nat) : (rounds : Nat) → Parts → Cursor → Except Fault (Parts × Cursor)
  | 0, parts, cursor => .ok (parts, cursor)
  | rounds + 1, parts, cursor =>
    match cursor.rest with
    | '-' :: _ =>
      let parts := parts.push (.atom ⟨.literal '-' false, cursor.character⟩)
      let after := cursor.advance
      if after.isAtEnd then .error ⟨.classUnclosed, ⟨start, start⟩, none⟩
      else readMinusSigns start rounds parts after
    | _ => .ok (parts, cursor)

/-- Opens a class inside `outer`. The cursor stands before its bracket. -/
def openSet (outer : Parts) (cursor : Cursor) : Except Fault (OpenSet × Parts × Cursor) := do
  let start := cursor.position
  let cursor := cursor.advance
  let negated := cursor.rest.head? = some '^'
  let cursor := if negated then cursor.advance else cursor
  if cursor.isAtEnd then .error ⟨.classUnclosed, cursor.since start, none⟩
  else
    let (parts, cursor) ← readMinusSigns start cursor.rest.length (.start cursor) cursor
    match parts.latest, cursor.rest with
    | [], ']' :: _ =>
      let parts := parts.push (.atom ⟨.literal ']' false, cursor.character⟩)
      let cursor := cursor.advance
      if cursor.isAtEnd then .error ⟨.classUnclosed, cursor.since start, none⟩
      else pure (⟨cursor.since start, negated, outer, none⟩, parts, cursor)
    | _, _ => pure (⟨cursor.since start, negated, outer, none⟩, parts, cursor)

/-- The names of classes of ASCII characters. -/
def asciiClassNames : List String :=
  ["alnum", "alpha", "ascii", "blank", "cntrl", "digit", "graph", "lower", "print", "punct",
    "space", "upper", "word", "xdigit"]

/-- A named class of ASCII characters, if one starts here. -/
def readAsciiClass? (cursor : Cursor) : Option (CharSet × Cursor) :=
  match cursor.rest with
  | '[' :: ':' :: text =>
    let negated := text.head? = some '^'
    let named := if negated then text.drop 1 else text
    let name := named.takeWhile (· ≠ ':')
    match named.dropWhile (· ≠ ':') with
    | ':' :: ']' :: _ =>
      if asciiClassNames.contains (String.ofList name) then
        let after := cursor.drop (name.length + (if negated then 5 else 4))
        some (.ascii (after.since cursor.position) negated, after)
      else none
    | _ => none
  | _ => none

/-- A character or an escape in a class. -/
def readSetAtom (cursor : Cursor) : Except Fault (Atom × Cursor) :=
  match cursor.rest with
  | [] => .error ⟨.classUnclosed, cursor.here, none⟩
  | '\\' :: _ => readEscape cursor
  | c :: _ => .ok (⟨.literal c false, cursor.character⟩, cursor.next)

/-- An atom as a part of a class. -/
def Atom.toSet (atom : Atom) : Except Fault CharSet :=
  match atom.kind with
  | .literal .. => .ok (.atom atom)
  | .property _ => .ok (.atom atom)
  | .shorthand _ => .ok (.atom atom)
  | _ => .error ⟨.classEscape, atom.span, none⟩

/-- The range between two atoms. -/
def readRange (first last : Atom) : Except Fault CharSet :=
  match first.kind, last.kind with
  | .literal c _, .literal d _ =>
    let span : Span := ⟨first.span.start, last.span.stop⟩
    if c ≤ d then .ok (.range span first last) else .error ⟨.rangeInvalid, span, none⟩
  | .literal .., _ => .error ⟨.rangeEnd, last.span, none⟩
  | _, _ => .error ⟨.rangeEnd, first.span, none⟩

/-- A part of the class that opens at `opening`: an atom, or a range. A minus sign makes a range
unless a closing bracket or another minus sign follows it. -/
def readPart (opening : Span) (cursor : Cursor) : Except Fault (CharSet × Cursor) := do
  let (first, cursor) ← readSetAtom cursor
  let cursor := cursor.skip
  match cursor.rest with
  | [] => .error ⟨.classUnclosed, opening, none⟩
  | c :: _ =>
    if c ≠ '-' ∨ cursor.peek? = some ']' ∨ cursor.peek? = some '-' then
      pure (← first.toSet, cursor)
    else
      let cursor := cursor.advance
      if cursor.isAtEnd then .error ⟨.classUnclosed, opening, none⟩
      else
        let (last, cursor) ← readSetAtom cursor
        pure (← readRange first last, cursor)

/-- The operator of two characters that starts a text. -/
def startsOperator : Text → Bool
  | '&' :: '&' :: _ => true
  | '-' :: '-' :: _ => true
  | '~' :: '~' :: _ => true
  | _ => false

/-- Reads on in the class `opened`, which lies in the classes `around`, innermost first, up to the
closing bracket of the outermost. `rounds` is at least the number of characters left. -/
def readSet : (rounds : Nat) → (opened : OpenSet) → (around : List OpenSet) → Parts → Cursor →
    Except Fault (Node × Cursor)
  | 0, opened, _, _, _ => .error ⟨.classUnclosed, opened.opening, none⟩
  | rounds + 1, opened, around, parts, cursor => do
    let cursor := cursor.skip
    match cursor.rest with
    | [] => .error ⟨.classUnclosed, opened.opening, none⟩
    | '[' :: _ =>
      match readAsciiClass? cursor with
      | some (part, cursor) => readSet rounds opened around (parts.push part) cursor
      | none =>
        let (inner, innerParts, cursor) ← openSet parts cursor
        readSet rounds inner (opened :: around) innerParts cursor
    | ']' :: _ =>
      let cursor := cursor.next
      let span := cursor.since opened.opening.start
      let inner := opened.join parts.toSet
      match around with
      | [] => pure (.set span opened.negated inner, cursor)
      | outer :: around =>
        let parts := opened.outer.push (.bracketed span opened.negated inner)
        readSet rounds outer around parts cursor
    | rest =>
      if startsOperator rest then
        let cursor := cursor.drop 2
        let opened := { opened with left := some (opened.join parts.toSet) }
        readSet rounds opened around (.start cursor) cursor
      else
        let (part, cursor) ← readPart opened.opening cursor
        readSet rounds opened around (parts.push part) cursor

/-- A whole class. The cursor stands before its bracket. -/
def readBrackets (cursor : Cursor) : Except Fault (Node × Cursor) := do
  let (opened, parts, after) ← openSet (.start cursor) cursor
  readSet (cursor.rest.length + 1) opened [] parts after

end LogSieve.Pattern
