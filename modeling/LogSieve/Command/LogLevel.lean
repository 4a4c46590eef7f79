import LogSieve.Pattern.Check
import LogSieve.Text.Utf8

/-!
# Log directives

What is logged is said by directives between commas; nothing between two commas is no directive, but
blanks alone are a malformed one. A directive is a level, a target, or a target with a level after
an equals sign; a span in brackets, with fields in braces, may follow the target. A field may ask
for a value by a pattern.
A directive of another form, a level that there is not and what is not a pattern are refused:
`checkDirectives` stops at the first such directive, `directiveNotices` passes over all of them and
says so.
-/

namespace LogSieve

/-- Why directives are refused. -/
inductive DirectiveError where
  /-- A directive has another form. -/
  | malformed
  /-- There is no such level. -/
  | unknownLevel
  /-- The pattern of a field is refused. -/
  | badPattern (refusal : Pattern.Refusal)
  deriving DecidableEq, Repr

namespace DirectiveError

/-- The wording of an error. -/
def message : DirectiveError → Text
  | malformed => "invalid filter directive".toList
  | unknownLevel =>
    ("error parsing level filter: expected one of \"off\", \"error\", \"warn\", " ++
      "\"info\", \"debug\", \"trace\", or a number 0-5").toList
  | badPattern refusal => "invalid field filter: ".toList ++ refusal.message

/-- The wordings of an error and of its causes. An unknown level is its own cause. -/
def messages (error : DirectiveError) : List Text :=
  match error with
  | malformed => [error.message]
  | unknownLevel => [error.message, error.message]
  | badPattern refusal => error.message :: refusal.message :: refusal.causes

/-- What is said about a directive that is passed over for the error. -/
def notice (directive : Text) (error : DirectiveError) : Text :=
  "ignoring `".toList ++ directive ++ "`: ".toList ++ error.message ++ ['\n']

end DirectiveError

namespace Directive

/-- Whether a text names a level, in letters of any case or as a number. No text at all is a
level too. -/
def isLevel (text : Text) : Bool :=
  let number :=
    match text with
    | '+' :: digits => digits
    | digits => digits
  text.isEmpty ||
    (!number.isEmpty && number.all Text.isDigit && Text.numeralValue number ≤ 5) ||
    ["off", "error", "warn", "info", "debug", "trace"].any
      (·.toList = text.map Char.toLower)

/-- A number without its sign. -/
def unsigned : Text → Text
  | '+' :: rest => rest
  | '-' :: rest => rest
  | text => text

/-- Whether a text is digits with perhaps a point before, among or after them. An exponent may
follow. -/
def isDecimal (text : Text) : Bool :=
  let whole := text.takeWhile Text.isDigit
  let tail := text.dropWhile Text.isDigit
  let fraction := if tail.head? = some '.' then tail.drop 1 else []
  let places := fraction.takeWhile Text.isDigit
  let exponent := if tail.head? = some '.' then fraction.dropWhile Text.isDigit else tail
  !(whole ++ places).isEmpty &&
    match exponent with
    | [] => true
    | mark :: power =>
      (mark = 'e' || mark = 'E') && !(unsigned power).isEmpty &&
        (unsigned power).all Text.isDigit

/-- Whether a text names a number, finite or not. -/
def isNumber (text : Text) : Bool :=
  let magnitude := unsigned text
  isDecimal magnitude ||
    ["inf", "infinity", "nan"].any (·.toList = magnitude.map Char.toLower)

/-- Checks a field: a name and perhaps, between an equals sign and the next, a value. A value that
is no number is a pattern. -/
def checkField (field : Text) : Except DirectiveError Unit :=
  match field.splitOn '=' with
  | _ :: value :: _ =>
    if isNumber value then .ok () else (Pattern.check value).mapError .badPattern
  | _ => .ok ()

/-- Where in a directive a character stands. -/
inductive Place where
  /-- Before the first character. -/
  | start
  /-- In a level or a target. -/
  | levelOrTarget
  /-- In a span. -/
  | span
  /-- In a field that starts at the given byte. -/
  | field (first : Nat)
  /-- After the fields. -/
  | fields
  /-- After the span. -/
  | target
  /-- In a level that starts at the given byte. -/
  | level (first : Nat)

/-- The text in the bytes of a directive from `first` on, up to `stop`. -/
def excerpt (directive : Text) (first stop : Nat) : Text :=
  Utf8.decodeLossy (((Utf8.encode directive).take stop).drop first)

/-- The place after the character at the byte `position`, if the character may stand there. A field
that ends must be in order; it is looked up in `directive`. -/
def Place.next (directive : Text) (place : Place) (position : Nat) (c : Char) :
    Except DirectiveError Place :=
  match place with
  | start =>
    if c = '[' then .ok span
    else if c = '-' || c = ':' || c = '_' || Text.isAlphanumeric c then .ok levelOrTarget
    else .error .malformed
  | levelOrTarget =>
    if c = '=' then .ok (level (position + 1)) else if c = '[' then .ok span
    else .ok levelOrTarget
  | span =>
    .ok (if c = ']' then target else if c = '\x7b' then field (position + 1) else span)
  | field first =>
    if c = '\x7d' || c = ',' then
      if position = first then .error .malformed
      else do
        checkField (excerpt directive first position)
        pure (if c = ',' then field (position + 1) else fields)
    else .ok (field first)
  | fields => if c = ']' then .ok target else .error .malformed
  | target => if c = '=' then .ok (level (position + 1)) else .error .malformed
  | level first => .ok (level first)

/-- The place after the last character of a text that starts at the byte `position`. -/
def Place.run (directive : Text) (place : Place) (position : Nat) :
    Text → Except DirectiveError Place
  | [] => .ok place
  | c :: rest => do
    let place ← place.next directive position c
    place.run directive (position + c.utf8Size) rest

/-- Checks a directive. Blanks around it are passed over when its parts are found, but fields and
the level are looked up at the bytes where they would stand without them. -/
def check (directive : Text) : Except DirectiveError Unit := do
  match ← Place.start.run directive 0 (Text.trim directive) with
  | .levelOrTarget => pure ()
  | .target => pure ()
  | .level first =>
    if isLevel (excerpt directive first (Utf8.encode directive).length) then pure ()
    else throw .unknownLevel
  | _ => throw .malformed

end Directive

/-- The directives of a text: the pieces between commas that have any characters. -/
def directivesOf (text : Text) : List Text :=
  (text.splitOn ',').filter (!·.isEmpty)

/-- Checks the directives of a text in order, up to the first that is refused. -/
def checkDirectives (text : Text) : Except DirectiveError Unit :=
  (directivesOf text).forM Directive.check

/-- What is said about the directives of a text when those that are refused are passed over. -/
def directiveNotices (text : Text) : Text :=
  (directivesOf text).flatMap fun directive =>
    match Directive.check directive with
    | .error error => error.notice directive
    | .ok () => []

/-- The directives that a verbosity stands for; without it, the given ones. -/
def directivesFor (verbose : Nat) (level : Text) : Text :=
  match verbose with
  | 0 => level
  | 1 => "info".toList
  | 2 => "debug".toList
  | _ => "trace".toList

end LogSieve
