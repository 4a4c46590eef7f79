import LogSieve.Toml.Plain
import LogSieve.Toml.Quoted
import LogSieve.Toml.Value

/-!
# TOML documents

`Toml.parse?` reads a whole text as a document: lines that give a key its value, headings that say
which table the lines after them belong to, comments, and empty lines. A line holds one of these.
Lists may run over several lines, tables between braces may not. Lists and braces nest at most
`deepestValue` levels, and a key has at most `longestKey` parts.
-/

namespace LogSieve.Toml

/-- How deep lists and braces may nest. -/
def deepestValue : Nat := 79

/-- How many parts a key may have. -/
def longestKey : Nat := 79

/-- The text after the rest of a line, which may hold blanks and a comment only. -/
def readLineEnd? (text : Text) : Option Text :=
  let rest :=
    match skipBlank text with
    | '#' :: comment => comment.dropWhile isPlain
    | rest => rest
  match rest with
  | [] => some []
  | _ => readBreak? rest

/-- The text after blanks, line breaks and comments. -/
def skipLoose : (inComment : Bool) → Text → Text
  | _, [] => []
  | _, '\n' :: rest => skipLoose false rest
  | _, '\r' :: '\n' :: rest => skipLoose false rest
  | true, c :: rest => if isPlain c then skipLoose true rest else c :: rest
  | false, c :: rest =>
    if isBlank c then skipLoose false rest
    else if c = '#' then skipLoose true rest
    else c :: rest

/-- The characters of keys without quotes. -/
def isKeyChar (c : Char) : Bool :=
  c.isAlphanum || c = '_' || c = '-'

/-- One part of a key, on one line. -/
def readName? (text : Text) : Option (Text × Text) :=
  match text with
  | '"' :: rest => readBasic? rest
  | '\'' :: rest => readLiteral? rest
  | _ =>
    match text.takeWhile isKeyChar with
    | [] => none
    | name => some (name, text.dropWhile isKeyChar)

/-- A key of at most `parts` parts: the names before the last dot, the last name, and what follows
the blanks after it. -/
def readKey? : (parts : Nat) → Text → Option (List Text × Text × Text)
  | 0, _ => none
  | parts + 1, text => do
    let (name, rest) ← readName? (skipBlank text)
    match skipBlank rest with
    | '.' :: rest =>
      let (path, last, rest) ← readKey? parts rest
      pure (name :: path, last, rest)
    | rest => pure ([], name, rest)

/-- The items of a list up to its closing bracket, each read by `item`. -/
def readItems? (item : Text → Option (Value × Text)) :
    (rounds : Nat) → Text → Option (List Value × Text)
  | 0, _ => none
  | rounds + 1, text =>
    match skipLoose false text with
    | ']' :: rest => some ([], rest)
    | text => do
      let (value, rest) ← item text
      match skipLoose false rest with
      | ',' :: rest =>
        let (values, rest) ← readItems? item rounds rest
        pure (value :: values, rest)
      | ']' :: rest => pure ([value], rest)
      | _ => none

/-- A key, the equals sign, and a value read by `item`, put into a table; with it what follows. -/
def readEntry? (item : Text → Option (Value × Text)) (table : Table) (text : Text) :
    Option (Table × Text) := do
  let (path, name, rest) ← readKey? longestKey text
  let rest ← readChar? '=' rest
  let (value, rest) ← item (skipBlank rest)
  let table ← table.assign? path name value
  pure (table, rest)

/-- The entries of a table up to its closing brace, each value read by `item`. -/
def readEntries? (item : Text → Option (Value × Text)) :
    (rounds : Nat) → Table → Text → Option (Table × Text)
  | 0, _, _ => none
  | rounds + 1, table, text => do
    let (table, rest) ← readEntry? item table text
    match skipBlank rest with
    | ',' :: rest => readEntries? item rounds table rest
    | '\x7d' :: rest => pure (table, rest)
    | _ => none

/-- The value at the start of a text; lists and braces may nest `levels` deep. -/
def readValue? (levels : Nat) (text : Text) : Option (Value × Text) :=
  match text with
  | 't' :: 'r' :: 'u' :: 'e' :: rest => some (.bool true, rest)
  | 'f' :: 'a' :: 'l' :: 's' :: 'e' :: rest => some (.bool false, rest)
  | '[' :: rest =>
    match levels with
    | 0 => none
    | levels + 1 =>
      (readItems? (readValue? levels) (rest.length + 1) rest).map fun (items, rest) =>
        (.list items, rest)
  | '\x7b' :: rest =>
    match levels with
    | 0 => none
    | levels + 1 =>
      match skipBlank rest with
      | '\x7d' :: rest => some (.table .braces [], rest)
      | rest =>
        (readEntries? (readValue? levels) (rest.length + 1) [] rest).map fun (entries, rest) =>
          (.table .braces entries, rest)
  | _ =>
    match readQuoted? text with
    | some (value, rest) => some (.text value, rest)
    | none => readPlain? text
termination_by structural levels

/-- A document while it is read. -/
structure Draft where
  /-- The entries so far. -/
  root : Table := []
  /-- The latest heading. -/
  heading : List Text := []

namespace Draft

/-- Reads a line that gives a key its value, which goes to the table of the latest heading. -/
def readEntry? (draft : Draft) (text : Text) : Option (Draft × Text) := do
  let (path, name, rest) ← readKey? longestKey text
  let rest ← readChar? '=' rest
  let (value, rest) ← readValue? deepestValue (skipBlank rest)
  let rest ← readLineEnd? rest
  let root ← draft.root.walk? .implied (fun _ table => table.assign? path name value)
    draft.heading .header
  pure ({ draft with root }, rest)

/-- Reads a heading, after its bracket. -/
def readHeading? (draft : Draft) (text : Text) : Option (Draft × Text) := do
  let (path, name, rest) ← readKey? longestKey text
  let rest ← readLineEnd? (← readChar? ']' rest)
  let root ← draft.root.openTable? path name
  pure ({ root, heading := path ++ [name] }, rest)

/-- Reads a repeated heading, after its two brackets. -/
def readRepeated? (draft : Draft) (text : Text) : Option (Draft × Text) := do
  let (path, name, rest) ← readKey? longestKey text
  let rest ← readLineEnd? (← readChar? ']' (← readChar? ']' rest))
  let root ← draft.root.openItem? path name
  pure ({ root, heading := path ++ [name] }, rest)

/-- Reads one line, which does not start with a blank. -/
def readLine? (draft : Draft) (text : Text) : Option (Draft × Text) :=
  match text with
  | '[' :: '[' :: rest => draft.readRepeated? rest
  | '[' :: rest => draft.readHeading? rest
  | '#' :: _ => (readLineEnd? text).map (draft, ·)
  | '\n' :: _ => (readLineEnd? text).map (draft, ·)
  | '\r' :: _ => (readLineEnd? text).map (draft, ·)
  | _ => draft.readEntry? text

/-- Reads lines to the end of the text. -/
def readLines? : (rounds : Nat) → Draft → Text → Option Draft
  | 0, _, _ => none
  | rounds + 1, draft, text =>
    match skipBlank text with
    | [] => some draft
    | text => do
      let (draft, rest) ← draft.readLine? text
      readLines? rounds draft rest

end Draft

/-- The table of a document. A byte order mark may stand in front. -/
def parse? (text : Text) : Option Table :=
  let text :=
    match text with
    | '\uFEFF' :: rest => rest
    | text => text
  (Draft.readLines? (text.length + 1) {} text).map (·.root)

end LogSieve.Toml
