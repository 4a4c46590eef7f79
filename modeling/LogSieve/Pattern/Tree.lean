import LogSieve.Pattern.Fault

/-!
# Patterns as trees

The tree of a pattern keeps what its later checks need: how it nests, which characters, classes and
properties it names, where flags change, and for every part where it stands.
-/

namespace LogSieve.Pattern

/-- A part of a pattern that matches by itself. -/
inductive AtomKind where
  /-- A character. `isByte` says that it is written by two hexadecimal digits. -/
  | literal (character : Char) (isByte : Bool)
  /-- Any character. -/
  | dot
  /-- A start or an end of the text or of a line. -/
  | anchor
  /-- A boundary of a word, or its absence. -/
  | wordBoundary
  /-- The characters with a property, or without it. -/
  | property (name : Char)
  /-- The digits, blanks or word characters, or with `negated` all others. -/
  | shorthand (negated : Bool)
  deriving DecidableEq, Repr

/-- A part of a pattern that matches by itself, and where it stands. -/
structure Atom where
  /-- What it is. -/
  kind : AtomKind
  /-- Where it stands. -/
  span : Span
  deriving DecidableEq, Repr

/-- A set of characters in brackets, or a part of one. -/
inductive CharSet where
  /-- Nothing. -/
  | empty (span : Span)
  /-- A character, a property, or a shorthand. -/
  | atom (atom : Atom)
  /-- The characters from one to another. -/
  | range (span : Span) (first last : Atom)
  /-- A class of ASCII characters with a name, or with `negated` all other characters. -/
  | ascii (span : Span) (negated : Bool)
  /-- Brackets inside brackets. -/
  | bracketed (span : Span) (negated : Bool) (inner : CharSet)
  /-- Several parts side by side. -/
  | union (span : Span) (parts : List CharSet)
  /-- An intersection or a difference. -/
  | operation (span : Span) (left right : CharSet)

/-- Where a set stands. -/
def CharSet.span : CharSet → Span
  | .empty span => span
  | .atom part => part.span
  | .range span _ _ => span
  | .ascii span _ => span
  | .bracketed span _ _ => span
  | .union span _ => span
  | .operation span _ _ => span

/-- A pattern. -/
inductive Node where
  /-- Nothing. -/
  | empty (span : Span)
  /-- A change of flags up to the end of the group. -/
  | flags (span : Span) (flags : List Char)
  /-- A part that matches by itself. -/
  | atom (atom : Atom)
  /-- Brackets. -/
  | set (span : Span) (negated : Bool) (inner : CharSet)
  /-- A repetition. -/
  | repetition (span : Span) (inner : Node)
  /-- A group with the flags that hold in it. -/
  | group (span : Span) (flags : List Char) (inner : Node)
  /-- Several parts one after the other. -/
  | sequence (span : Span) (parts : List Node)
  /-- Several parts to choose from. -/
  | choice (span : Span) (parts : List Node)

/-- Where a pattern stands. -/
def Node.span : Node → Span
  | .empty span => span
  | .flags span _ => span
  | .atom part => part.span
  | .set span _ _ => span
  | .repetition span _ => span
  | .group span _ _ => span
  | .sequence span _ => span
  | .choice span _ => span

/-- What flags, in which a minus sign turns off all that follow it, say about one of them. -/
def flagState? (flag : Char) (flags : List Char) : Option Bool :=
  if flag ∈ flags then some (!(flags.takeWhile (· ≠ flag)).contains '-') else none

end LogSieve.Pattern
