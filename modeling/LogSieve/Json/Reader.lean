import LogSieve.Json.Numeral
import LogSieve.Json.Value

/-!
# Reading values

`Json.parse?` reads a whole text as one value. Blanks are the space, the tab, the line feed and the
carriage return only. Of members with the same name the last one counts. A string must be closed,
holds no control characters, and its escapes of surrogates come in pairs. Arrays and objects nest
at most `deepest` levels.

Nesting is what the reader recurses on. Within one level it goes from comma to comma, and the
length of the text bounds the number of rounds.
-/

namespace LogSieve.Json

/-- The blanks between the parts of a value. -/
def isBlank (c : Char) : Bool :=
  c = ' ' || c = '\t' || c = '\n' || c = '\r'

/-- The text after its leading blanks. -/
def skipBlank (text : Text) : Text :=
  text.dropWhile isBlank

/-- The number written by four hexadecimal digits. -/
def codeUnit? (a b c d : Char) : Option Nat := do
  let a ← Text.hexDigit? a
  let b ← Text.hexDigit? b
  let c ← Text.hexDigit? c
  let d ← Text.hexDigit? d
  pure (((a * 16 + b) * 16 + c) * 16 + d)

/-- The characters that have an escape of one letter. -/
def shortEscape? (c : Char) : Option Char :=
  if c = '"' || c = '\\' || c = '/' then some c
  else if c = 'b' then some '\x08'
  else if c = 'f' then some '\x0c'
  else if c = 'n' then some '\n'
  else if c = 'r' then some '\r'
  else if c = 't' then some '\t'
  else none

/-- The second half of a pair of surrogates, and the character that the pair stands for. -/
def readLowSurrogate? (high : Nat) : Text → Option (Char × Text)
  | '\\' :: 'u' :: a :: b :: c :: d :: rest =>
    match codeUnit? a b c d with
    | none => none
    | some low =>
      if 0xDC00 ≤ low && low ≤ 0xDFFF then
        some (Char.ofNat (0x10000 + (high - 0xD800) * 0x400 + (low - 0xDC00)), rest)
      else none
  | _ => none

/-- The character of an escape, which starts after the backslash. -/
def readEscape? : Text → Option (Char × Text)
  | 'u' :: a :: b :: c :: d :: rest =>
    match codeUnit? a b c d with
    | none => none
    | some unit =>
      if 0xD800 ≤ unit && unit ≤ 0xDBFF then readLowSurrogate? unit rest
      else if 0xDC00 ≤ unit && unit ≤ 0xDFFF then none
      else some (Char.ofNat unit, rest)
  | c :: rest => (shortEscape? c).map (·, rest)
  | [] => none

theorem length_readLowSurrogate? {high : Nat} {text rest : Text} {c : Char}
    (h : readLowSurrogate? high text = some (c, rest)) : rest.length < text.length := by
  unfold readLowSurrogate? at h
  split at h
  · split at h
    · simp at h
    · split at h
      · simp only [Option.some.injEq, Prod.mk.injEq] at h
        simp only [← h.2, List.length_cons]
        omega
      · simp at h
  · simp at h

theorem length_readEscape? {text rest : Text} {c : Char} (h : readEscape? text = some (c, rest)) :
    rest.length < text.length := by
  unfold readEscape? at h
  split at h
  · split at h
    · simp at h
    · split at h
      · have := length_readLowSurrogate? h
        simp only [List.length_cons]
        omega
      · split at h
        · simp at h
        · simp only [Option.some.injEq, Prod.mk.injEq] at h
          simp only [← h.2, List.length_cons]
          omega
  · obtain ⟨_, _, hc⟩ := Option.map_eq_some_iff.1 h
    simp only [Prod.mk.injEq] at hc
    simp [hc.2]
  · simp at h

/-- A string after its opening quote, and what follows its closing quote. -/
def readString? : Text → Option (Text × Text)
  | [] => none
  | c :: rest =>
    if c = '"' then some ([], rest)
    else if c = '\\' then
      match _h : readEscape? rest with
      | none => none
      | some (escaped, after) =>
        (readString? after).map fun (value, left) => (escaped :: value, left)
    else if c.toNat < 0x20 then none
    else (readString? rest).map fun (value, left) => (c :: value, left)
termination_by text => text.length
decreasing_by
  · have := length_readEscape? _h
    simp only [List.length_cons]
    omega
  · simp

/-- The items of an array up to its closing bracket, each read by `item`. -/
def readItems? (item : Text → Option (Json × Text)) :
    (rounds : Nat) → Text → Option (List Json × Text)
  | 0, _ => none
  | rounds + 1, text => do
    let (value, rest) ← item text
    match skipBlank rest with
    | ',' :: rest =>
      let (values, rest) ← readItems? item rounds rest
      pure (value :: values, rest)
    | ']' :: rest => pure ([value], rest)
    | _ => none

/-- The name of a member and what follows the colon. -/
def readName? (text : Text) : Option (Text × Text) :=
  match skipBlank text with
  | '"' :: rest => do
    let (name, rest) ← readString? rest
    match skipBlank rest with
    | ':' :: rest => pure (name, rest)
    | _ => none
  | _ => none

/-- The members of an object up to its closing brace, each value read by `item`, put among the
members read before. -/
def readMembers? (item : Text → Option (Json × Text)) :
    (rounds : Nat) → Fields Json → Text → Option (Fields Json × Text)
  | 0, _, _ => none
  | rounds + 1, members, text => do
    let (name, rest) ← readName? text
    let (value, rest) ← item rest
    match skipBlank rest with
    | ',' :: rest => readMembers? item rounds (members.insert name value) rest
    | '\x7d' :: rest => pure (members.insert name value, rest)
    | _ => none

/-- The value at the start of a text after blanks, and what follows it; arrays and objects may
nest `levels` deep. -/
def readValue? (levels : Nat) (text : Text) : Option (Json × Text) :=
  match skipBlank text with
  | 'n' :: 'u' :: 'l' :: 'l' :: rest => some (.null, rest)
  | 't' :: 'r' :: 'u' :: 'e' :: rest => some (.bool true, rest)
  | 'f' :: 'a' :: 'l' :: 's' :: 'e' :: rest => some (.bool false, rest)
  | '"' :: rest => (readString? rest).map fun (value, rest) => (.string value, rest)
  | '[' :: rest =>
    match levels with
    | 0 => none
    | levels + 1 =>
      match skipBlank rest with
      | ']' :: rest => some (.array [], rest)
      | rest => (readItems? (readValue? levels) rest.length rest).map fun (items, rest) =>
          (.array items, rest)
  | '\x7b' :: rest =>
    match levels with
    | 0 => none
    | levels + 1 =>
      match skipBlank rest with
      | '\x7d' :: rest => some (.object [], rest)
      | rest => (readMembers? (readValue? levels) rest.length [] rest).map fun (members, rest) =>
          (.object members, rest)
  | rest => do
    let (numeral, rest) ← Numeral.read? rest
    let number ← numeral.number?
    pure (.number number, rest)
termination_by structural levels

/-- How deep arrays and objects may nest. -/
def deepest : Nat := 127

/-- The value that a whole text writes. -/
def parse? (text : Text) : Option Json :=
  match readValue? deepest text with
  | some (value, rest) => if (skipBlank rest).isEmpty then some value else none
  | none => none

end LogSieve.Json
