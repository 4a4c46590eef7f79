import LogSieve.Pattern.Brackets
import LogSieve.Text.Alphanumeric

/-!
# Reading patterns

`Pattern.read` makes the tree of a pattern, or says where it stops being one. It goes through the
pattern once, from left to right, with the groups that are open on a stack; so the first fault is
the one that is found, except that a group that is never closed shows only at the end.

In a pattern no closing brace follows an opening one, because the first to do so ends the field that
the pattern stands in. A counted repetition is therefore never complete.
-/

namespace LogSieve.Pattern

/-- The alternatives of a group, of which the last is being read. -/
structure Choice where
  /-- Where the first alternative starts. -/
  start : Nat
  /-- The alternatives before the last, latest first. -/
  earlier : List Node := []
  /-- Where the last alternative starts. -/
  latestStart : Nat := start
  /-- The parts of the last alternative, latest first. -/
  parts : List Node := []

namespace Choice

/-- No alternatives, from the cursor on. -/
def openedAt (cursor : Cursor) : Choice :=
  { start := cursor.position }

/-- The choice with one more part. -/
def push (choice : Choice) (part : Node) : Choice :=
  { choice with parts := part :: choice.parts }

/-- The last alternative, which ends at the given position. -/
def latest (choice : Choice) (stop : Nat) : Node :=
  match choice.parts with
  | [] => .empty ⟨choice.latestStart, stop⟩
  | [part] => part
  | parts => .sequence ⟨choice.latestStart, stop⟩ parts.reverse

/-- Starts one more alternative after the bar at the given position. -/
def branch (choice : Choice) (stop : Nat) : Choice :=
  { choice with
    earlier := choice.latest stop :: choice.earlier, latestStart := stop + 1, parts := [] }

/-- The pattern that the alternatives are; the last ends at the given position. -/
def node (choice : Choice) (stop : Nat) : Node :=
  match choice.earlier with
  | [] => choice.latest stop
  | earlier => .choice ⟨choice.start, stop⟩ (earlier.reverse ++ [choice.latest stop])

end Choice

/-- A group whose closing bracket has not been reached. -/
structure OpenGroup where
  /-- The opening bracket. -/
  opening : Span
  /-- The flags that hold in the group. -/
  flags : List Char
  /-- What stands before the group. -/
  outer : Choice
  /-- Whether the pattern was read loosely before the group. -/
  loose : Bool

/-- The letters of flags. -/
def flagLetters : List Char :=
  ['i', 'm', 's', 'U', 'u', 'R', 'x']

/-- Flags, with a minus sign among them, up to a colon or a closing bracket, behind those before,
which are latest first and have their spans. Also whether it is a colon, and the position after
it. -/
def readFlags (before : List (Char × Span)) (position : Nat) :
    Text → Except Fault (List Char × Bool × Nat)
  | [] => .error ⟨.flagMissing, ⟨position, position⟩, none⟩
  | c :: rest =>
    let span : Span := ⟨position, position + 1⟩
    if c = ':' ∨ c = ')' then
      match before with
      | ('-', minus) :: _ => .error ⟨.negationDangling, minus, none⟩
      | _ => .ok (before.reverse.map (·.1), c = ':', position + 1)
    else if c ≠ '-' ∧ c ∉ flagLetters then .error ⟨.flagUnrecognized, span, none⟩
    else
      match before.lookup c with
      | some earlier =>
        .error ⟨if c = '-' then .negationRepeated else .flagDuplicate, span, some earlier⟩
      | none => readFlags ((c, span) :: before) (position + 1) rest

/-- Whether a character may stand in the name of a group. -/
def isNameChar (isFirst : Bool) (c : Char) : Bool :=
  if isFirst then c = '_' || Text.isAlphabetic c
  else "_.[]".toList.contains c || Text.isAlphanumeric c

/-- The rest of the name of a group, up to an angle bracket. -/
def readName (isFirst : Bool) (position : Nat) : Text → Except Fault Text
  | [] => .error ⟨.groupNameUnclosed, ⟨position, position⟩, none⟩
  | c :: rest =>
    if c = '>' then .ok []
    else if isNameChar isFirst c then
      match readName false (position + 1) rest with
      | .error fault => .error fault
      | .ok name => .ok (c :: name)
    else .error ⟨.groupNameInvalid, ⟨position, position + 1⟩, none⟩

/-- The names of groups, with where they stand. -/
abbrev GroupNames := List (Text × Span)

/-- The name of a group, added to those before it, and what follows its angle bracket. -/
def readGroupName (names : GroupNames) (cursor : Cursor) : Except Fault (GroupNames × Cursor) := do
  let name ← readName true cursor.position cursor.rest
  let span : Span := ⟨cursor.position, cursor.position + name.length⟩
  if name.isEmpty then .error ⟨.groupNameEmpty, span, none⟩
  else
    match names.lookup name with
    | some earlier => .error ⟨.groupNameDuplicate, span, some earlier⟩
    | none => pure ((name, span) :: names, cursor.drop (name.length + 1))

/-- What an opening bracket starts. -/
inductive Opening where
  /-- A group with the flags that hold in it. -/
  | group (flags : List Char)
  /-- Flags for the rest of the group around them. -/
  | flags (flags : List Char)

/-- What follows an opening bracket, at which the cursor stands, up to where the parts of a group
start. -/
def readOpening (names : GroupNames) (cursor : Cursor) :
    Except Fault (Opening × GroupNames × Cursor) := do
  let opening := cursor.character
  let cursor := cursor.advance
  match cursor.rest with
  | '?' :: '!' :: _ => .error ⟨.lookAround, ⟨opening.start, cursor.position + 2⟩, none⟩
  | '?' :: '<' :: '!' :: _ => .error ⟨.lookAround, ⟨opening.start, cursor.position + 3⟩, none⟩
  | '?' :: 'P' :: '<' :: _ =>
    let (names, cursor) ← readGroupName names (cursor.drop 3)
    pure (.group [], names, cursor)
  | '?' :: '<' :: _ =>
    let (names, cursor) ← readGroupName names (cursor.drop 2)
    pure (.group [], names, cursor)
  | ['?'] => .error ⟨.groupUnclosed, opening, none⟩
  | '?' :: rest =>
    let (flags, isGroup, stop) ← readFlags [] (cursor.position + 1) rest
    let after := cursor.drop (stop - cursor.position)
    if isGroup then pure (.group flags, names, after)
    else if flags.isEmpty then .error ⟨.repetitionMissing, cursor.here, none⟩
    else pure (.flags flags, names, after)
  | _ => pure (.group [], names, cursor)

/-- What a repetition at the cursor repeats, and what stands before that. -/
def repeated (choice : Choice) (cursor : Cursor) : Except Fault (Node × Choice) :=
  match choice.parts with
  | [] => .error ⟨.repetitionMissing, cursor.here, none⟩
  | .flags .. :: _ => .error ⟨.repetitionMissing, cursor.here, none⟩
  | part :: parts => .ok (part, { choice with parts })

/-- The repetition of the last part by one character, which a question mark may follow. -/
def readRepetition (choice : Choice) (cursor : Cursor) : Except Fault (Choice × Cursor) := do
  let (part, choice) ← repeated choice cursor
  let after := cursor.next
  let after := if after.rest.head? = some '?' then after.next else after
  pure (choice.push (.repetition (after.since part.span.start) part), after)

/-- What is wrong with a counted repetition, whose braces are never closed. -/
def countFault (cursor : Cursor) : Fault :=
  let start := cursor.position
  let inner := cursor.advance
  if inner.isAtEnd then ⟨.countUnclosed, inner.since start, none⟩
  else
    let number := inner.passOnly Text.isBlank
    let (digits, stop) := number.readWhile Text.isDigit
    let after := stop.passOnly Text.isBlank
    if after.isAtEnd then ⟨.countUnclosed, after.since start, none⟩
    else if digits.isEmpty then ⟨.countMissing, stop.since number.position, none⟩
    else if Nat.pow 2 32 ≤ Text.numeralValue digits then
      ⟨.countInvalid, stop.since number.position, none⟩
    else ⟨.countUnclosed, after.since start, none⟩

/-- A single part. -/
def readAtom (cursor : Cursor) : Except Fault (Atom × Cursor) :=
  match cursor.rest with
  | '\\' :: _ => readEscape cursor
  | '.' :: _ => .ok (⟨.dot, cursor.character⟩, cursor.next)
  | '^' :: _ => .ok (⟨.anchor, cursor.character⟩, cursor.next)
  | '$' :: _ => .ok (⟨.anchor, cursor.character⟩, cursor.next)
  | c :: _ => .ok (⟨.literal c false, cursor.character⟩, cursor.next)
  | [] => .ok (⟨.anchor, cursor.here⟩, cursor)

/-- The pattern at its end, if no group is open. -/
def finish (groups : List OpenGroup) (choice : Choice) (cursor : Cursor) : Except Fault Node :=
  match groups with
  | [] => .ok (choice.node cursor.position)
  | group :: _ => .error ⟨.groupUnclosed, group.opening, none⟩

/-- Reads on, inside the open groups, innermost first. `rounds` is at least the number of characters
left. -/
def readParts : (rounds : Nat) → List OpenGroup → GroupNames → Choice → Cursor → Except Fault Node
  | 0, groups, _, choice, cursor => finish groups choice cursor
  | rounds + 1, groups, names, choice, cursor => do
    let cursor := cursor.skip
    match cursor.rest with
    | [] => finish groups choice cursor
    | '(' :: _ =>
      let (opening, names, after) ← readOpening names cursor
      match opening with
      | .flags flags =>
        let after := { after with loose := (flagState? 'x' flags).getD cursor.loose }
        let part := Node.flags (after.since cursor.position) flags
        readParts rounds groups names (choice.push part) after
      | .group flags =>
        let after := { after with loose := (flagState? 'x' flags).getD cursor.loose }
        let group : OpenGroup := ⟨cursor.character, flags, choice, cursor.loose⟩
        readParts rounds (group :: groups) names (.openedAt after) after
    | ')' :: _ =>
      match groups with
      | [] => .error ⟨.groupUnopened, cursor.character, none⟩
      | group :: groups =>
        let after := { cursor.next with loose := group.loose }
        let part := Node.group (after.since group.opening.start) group.flags
          (choice.node cursor.position)
        readParts rounds groups names (group.outer.push part) after
    | '|' :: _ => readParts rounds groups names (choice.branch cursor.position) cursor.next
    | '[' :: _ =>
      let (part, after) ← readBrackets cursor
      readParts rounds groups names (choice.push part) after
    | '\x7b' :: _ =>
      let _ ← repeated choice cursor
      .error (countFault cursor)
    | c :: _ =>
      if c = '?' || c = '*' || c = '+' then
        let (choice, after) ← readRepetition choice cursor
        readParts rounds groups names choice after
      else
        let (atom, after) ← readAtom cursor
        readParts rounds groups names (choice.push (.atom atom)) after

/-- The tree of a pattern. -/
def read (pattern : Text) : Except Fault Node :=
  let cursor : Cursor := { position := 0, rest := pattern, loose := false }
  readParts (pattern.length + 1) [] [] (.openedAt cursor) cursor

end LogSieve.Pattern
