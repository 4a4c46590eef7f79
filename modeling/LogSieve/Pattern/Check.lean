import LogSieve.Pattern.Reader

/-!
# Checking patterns

A pattern that can be read may still be refused: it may nest too deeply; it may, where the flag `u`
is turned off, match bytes that are not UTF-8 or name characters that are no single bytes; it may
ask for a property that there is not; and boundaries of words count as words of all scripts, which
no automaton of bytes can see. `Pattern.check` looks for these in that order.
-/

namespace LogSieve.Pattern

mutual

/-- The first part, in reading order, of a set inside `depth` levels that nests too deeply. -/
def CharSet.tooDeep? (depth : Nat) : CharSet → Option Span
  | .bracketed span _ inner =>
    if deepestPattern ≤ depth then some span else inner.tooDeep? (depth + 1)
  | .union span parts =>
    if deepestPattern ≤ depth then some span else CharSet.anyTooDeep? (depth + 1) parts
  | .operation span left right =>
    if deepestPattern ≤ depth then some span
    else (left.tooDeep? (depth + 1)).or (right.tooDeep? (depth + 1))
  | _ => none

/-- The first of several sets that nests too deeply. -/
def CharSet.anyTooDeep? (depth : Nat) : List CharSet → Option Span
  | [] => none
  | part :: parts => (part.tooDeep? depth).or (CharSet.anyTooDeep? depth parts)

end

mutual

/-- The first part, in reading order, of a pattern inside `depth` levels that nests too deeply. -/
def Node.tooDeep? (depth : Nat) : Node → Option Span
  | .set span _ inner => if deepestPattern ≤ depth then some span else inner.tooDeep? (depth + 1)
  | .repetition span inner =>
    if deepestPattern ≤ depth then some span else inner.tooDeep? (depth + 1)
  | .group span _ inner => if deepestPattern ≤ depth then some span else inner.tooDeep? (depth + 1)
  | .sequence span parts =>
    if deepestPattern ≤ depth then some span else Node.anyTooDeep? (depth + 1) parts
  | .choice span parts =>
    if deepestPattern ≤ depth then some span else Node.anyTooDeep? (depth + 1) parts
  | _ => none

/-- The first of several patterns that nests too deeply. -/
def Node.anyTooDeep? (depth : Nat) : List Node → Option Span
  | [] => none
  | part :: parts => (part.tooDeep? depth).or (Node.anyTooDeep? depth parts)

end

/-- Whether a letter names a property: one of the major categories of characters. -/
def isProperty (name : Char) : Bool :=
  ['c', 'l', 'm', 'n', 'p', 's', 'z'].contains name.toLower

/-- Checks an atom where the flag `u` is on or off. -/
def Atom.check (unicode : Bool) (atom : Atom) : Except Fault Unit :=
  let refuse (kind : FaultKind) : Except Fault Unit := .error ⟨kind, atom.span, none⟩
  match atom.kind with
  | .literal c isByte => if !unicode && isByte && 128 ≤ c.toNat then refuse .invalidUtf8 else .ok ()
  | .dot => if unicode then .ok () else refuse .invalidUtf8
  | .property name =>
    if !unicode then refuse .unicodeNotAllowed
    else if isProperty name then .ok ()
    else refuse .propertyNotFound
  | .shorthand negated => if !unicode && negated then refuse .invalidUtf8 else .ok ()
  | .anchor => .ok ()
  | .wordBoundary => .ok ()

/-- Checks an atom in a class. Without the flag `u` a class holds single bytes. -/
def Atom.checkInSet (unicode : Bool) (atom : Atom) : Except Fault Unit := do
  atom.check unicode
  match atom.kind with
  | .literal c _ =>
    if !unicode && 128 ≤ c.toNat then .error ⟨.unicodeNotAllowed, atom.span, none⟩ else pure ()
  | _ => pure ()

/-- Without the flag `u` the negation of a class holds bytes that are no characters. -/
def checkNegation (unicode negated : Bool) (span : Span) : Except Fault Unit :=
  if !unicode && negated then .error ⟨.invalidUtf8, span, none⟩ else .ok ()

mutual

/-- Checks a set where the flag `u` is on or off. -/
def CharSet.check (unicode : Bool) : CharSet → Except Fault Unit
  | .empty _ => .ok ()
  | .atom part => part.checkInSet unicode
  | .range _ first last => do
    first.checkInSet unicode
    last.checkInSet unicode
  | .ascii span negated => checkNegation unicode negated span
  | .bracketed span negated inner => do
    inner.check unicode
    checkNegation unicode negated span
  | .union _ parts => CharSet.checkAll unicode parts
  | .operation _ left right => do
    left.check unicode
    right.check unicode

/-- Checks several sets. -/
def CharSet.checkAll (unicode : Bool) : List CharSet → Except Fault Unit
  | [] => .ok ()
  | part :: parts => do
    part.check unicode
    CharSet.checkAll unicode parts

end

/-- What is known while a pattern is checked. -/
structure Mode where
  /-- Whether the flag `u` is on. -/
  unicode : Bool := true
  /-- Whether there has been a boundary of words of all scripts. -/
  hasBoundary : Bool := false

/-- The mode after a change of flags. -/
def Mode.set (mode : Mode) (flags : List Char) : Mode :=
  { mode with unicode := (flagState? 'u' flags).getD mode.unicode }

mutual

/-- Checks a pattern in a mode, and gives the mode after it. -/
def Node.check (mode : Mode) : Node → Except Fault Mode
  | .empty _ => .ok mode
  | .flags _ letters => .ok (mode.set letters)
  | .atom part => do
    part.check mode.unicode
    let isBoundary := part.kind = .wordBoundary && mode.unicode
    pure { mode with hasBoundary := mode.hasBoundary || isBoundary }
  | .set span negated inner => do
    inner.check mode.unicode
    checkNegation mode.unicode negated span
    pure mode
  | .repetition _ inner => inner.check mode
  | .group _ letters inner => do
    let after ← inner.check (mode.set letters)
    pure { after with unicode := mode.unicode }
  | .sequence _ parts => Node.checkAll mode parts
  | .choice _ parts => Node.checkAll mode parts

/-- Checks several patterns one after the other. -/
def Node.checkAll (mode : Mode) : List Node → Except Fault Mode
  | [] => .ok mode
  | part :: parts => do
    let mode ← part.check mode
    Node.checkAll mode parts

end

/-- Why a pattern is refused. -/
inductive Refusal where
  /-- It is not a pattern, or one that cannot be carried out. -/
  | fault (pattern : Text) (found : Fault)
  /-- It holds boundaries of words of all scripts. -/
  | wordBoundary
  deriving DecidableEq, Repr

namespace Refusal

/-- The wording of a refusal. -/
def message : Refusal → Text
  | .fault .. => "error building NFA".toList
  | .wordBoundary =>
    ("unsupported regex feature for DFAs: cannot build DFAs for regexes with Unicode word " ++
      "boundaries; switch to ASCII word boundaries, or heuristically enable Unicode word " ++
      "boundaries or use a different regex engine").toList

/-- The wordings of what led to a refusal. -/
def causes : Refusal → List Text
  | .fault pattern found => ["error parsing regex".toList, found.report pattern]
  | .wordBoundary => []

end Refusal

/-- Checks a pattern. -/
def check (pattern : Text) : Except Refusal Unit := do
  let node ← (read pattern).mapError (.fault pattern)
  match node.tooDeep? 0 with
  | some span => .error (.fault pattern ⟨.tooDeep, span, none⟩)
  | none =>
    let mode ← (node.check {}).mapError (.fault pattern)
    if mode.hasBoundary then .error .wordBoundary else .ok ()

end LogSieve.Pattern
