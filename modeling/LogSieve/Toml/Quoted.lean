import LogSieve.Text.Basic

/-!
# Quoted texts of TOML

Four kinds: between single or double quotes, on one line or, with three quotes, on several. Escapes
are read between double quotes only. A line break is read as a line feed, one right after three
opening quotes is dropped, and a backslash at the end of a line drops the break and all blanks and
breaks after it. Up to two quotes may stand before three closing ones.
-/

namespace LogSieve.Toml

/-- The space and the tab. -/
def isBlank (c : Char) : Bool :=
  c = ' ' || c = '\t'

/-- The text after its leading blanks. -/
def skipBlank (text : Text) : Text :=
  text.dropWhile isBlank

/-- The characters that may stand in comments and quotes: the tab and all that are no controls. -/
def isPlain (c : Char) : Bool :=
  c = '\t' || (0x20 ≤ c.toNat && c.toNat ≤ 0x7E) || 0x80 ≤ c.toNat

/-- What follows a line break. -/
def readBreak? : Text → Option Text
  | '\n' :: rest => some rest
  | '\r' :: '\n' :: rest => some rest
  | _ => none

/-- Appends exactly `count` hexadecimal digits to a number. -/
def readHex? (value : Nat) : (count : Nat) → Text → Option (Nat × Text)
  | 0, text => some (value, text)
  | _ + 1, [] => none
  | count + 1, c :: rest =>
    match Text.hexDigit? c with
    | none => none
    | some digit => readHex? (value * 16 + digit) count rest

/-- The character with a code point, if there is one. -/
def charOfCode? (code : Nat) : Option Char :=
  if h : code.isValidChar then some (Char.ofNatAux code h) else none

/-- The character whose code point is written by exactly `count` hexadecimal digits. -/
def readCode? (count : Nat) (text : Text) : Option (Char × Text) :=
  match readHex? 0 count text with
  | none => none
  | some (code, rest) => (charOfCode? code).map (·, rest)

/-- The characters that have an escape of one letter. -/
def shortEscape? (c : Char) : Option Char :=
  if c = '"' || c = '\\' then some c
  else if c = 'b' then some '\x08'
  else if c = 't' then some '\t'
  else if c = 'n' then some '\n'
  else if c = 'f' then some '\x0c'
  else if c = 'r' then some '\r'
  else none

/-- The character of an escape, which starts after the backslash. -/
def readEscape? : Text → Option (Char × Text)
  | 'u' :: rest => readCode? 4 rest
  | 'U' :: rest => readCode? 8 rest
  | c :: rest => (shortEscape? c).map (·, rest)
  | [] => none

/-- The text after blanks and line breaks. -/
def skipBreaks : Text → Text
  | '\r' :: '\n' :: rest => skipBreaks rest
  | c :: rest => if isBlank c || c = '\n' then skipBreaks rest else c :: rest
  | [] => []

/-- The text after a line that ends in a backslash, which stands before the text given. -/
def readContinuation? (text : Text) : Option Text :=
  (readBreak? (skipBlank text)).map skipBreaks

theorem length_skipBlank_le (text : Text) : (skipBlank text).length ≤ text.length :=
  (List.dropWhile_sublist isBlank).length_le

theorem length_skipBreaks_le (text : Text) : (skipBreaks text).length ≤ text.length := by
  fun_induction skipBreaks text with
  | case1 _ ih => exact Nat.le_succ_of_le (Nat.le_succ_of_le ih)
  | case2 _ _ _ _ ih => exact Nat.le_succ_of_le ih
  | case3 => exact Nat.le_refl _
  | case4 => exact Nat.le_refl _

theorem length_readBreak?_lt {text rest : Text} (h : readBreak? text = some rest) :
    rest.length < text.length := by
  unfold readBreak? at h
  split at h
  · cases h; simp
  · cases h
    simp only [List.length_cons]
    omega
  · cases h

theorem length_readContinuation?_lt {text rest : Text} (h : readContinuation? text = some rest) :
    rest.length < text.length := by
  obtain ⟨after, ha, rfl⟩ := Option.map_eq_some_iff.1 h
  have h₁ := length_readBreak?_lt ha
  have h₂ := length_skipBlank_le text
  have h₃ := length_skipBreaks_le after
  omega

theorem length_readHex?_le {value count code : Nat} {text rest : Text}
    (h : readHex? value count text = some (code, rest)) : rest.length ≤ text.length := by
  fun_induction readHex? value count text with
  | case1 => simp_all
  | case2 => simp at h
  | case3 => simp at h
  | case4 _ _ _ _ _ _ ih =>
    have := ih h
    simp only [List.length_cons]
    omega

theorem length_readCode?_le {count : Nat} {text rest : Text} {c : Char}
    (h : readCode? count text = some (c, rest)) : rest.length ≤ text.length := by
  unfold readCode? at h
  split at h
  · simp at h
  · next hc =>
    obtain ⟨_, _, hr⟩ := Option.map_eq_some_iff.1 h
    simp only [Prod.mk.injEq] at hr
    exact hr.2 ▸ length_readHex?_le hc

theorem length_readEscape?_lt {text rest : Text} {c : Char}
    (h : readEscape? text = some (c, rest)) : rest.length < text.length := by
  unfold readEscape? at h
  split at h
  · exact Nat.lt_succ_of_le (length_readCode?_le h)
  · exact Nat.lt_succ_of_le (length_readCode?_le h)
  · obtain ⟨_, _, hr⟩ := Option.map_eq_some_iff.1 h
    simp only [Prod.mk.injEq] at hr
    simp [hr.2]
  · simp at h

/-- A text in double quotes, after the opening quote. -/
def readBasic? : Text → Option (Text × Text)
  | [] => none
  | c :: rest =>
    if c = '"' then some ([], rest)
    else if c = '\\' then
      match _h : readEscape? rest with
      | none => none
      | some (escaped, after) =>
        (readBasic? after).map fun (value, left) => (escaped :: value, left)
    else if isPlain c then (readBasic? rest).map fun (value, left) => (c :: value, left)
    else none
termination_by text => text.length
decreasing_by
  · have := length_readEscape?_lt _h
    simp only [List.length_cons]
    omega
  · simp

/-- A text in single quotes, after the opening quote. -/
def readLiteral? : Text → Option (Text × Text)
  | [] => none
  | c :: rest =>
    if c = '\'' then some ([], rest)
    else if isPlain c then (readLiteral? rest).map fun (value, left) => (c :: value, left)
    else none

/-- The end of a text in three quotes, after the first of them: the quotes that still belong to the
text, and what follows. -/
def readClosing? (quote : Char) : Text → Option (Text × Text)
  | a :: b :: rest =>
    if a = quote ∧ b = quote then
      match rest with
      | c :: d :: left =>
        if c = quote ∧ d = quote then some ([quote, quote], left)
        else if c = quote then some ([quote], d :: left)
        else some ([], rest)
      | [c] => if c = quote then some ([quote], []) else some ([], rest)
      | [] => some ([], [])
    else none
  | _ => none

/-- A text in three double quotes, after the opening quotes. -/
def readLongBasic? : Text → Option (Text × Text)
  | [] => none
  | c :: rest =>
    if c = '"' then
      match readClosing? '"' rest with
      | some closing => some closing
      | none => (readLongBasic? rest).map fun (value, left) => ('"' :: value, left)
    else if c = '\\' then
      match _h : readContinuation? rest with
      | some after => readLongBasic? after
      | none =>
        match _h : readEscape? rest with
        | none => none
        | some (escaped, after) =>
          (readLongBasic? after).map fun (value, left) => (escaped :: value, left)
    else
      match _h : readBreak? (c :: rest) with
      | some after => (readLongBasic? after).map fun (value, left) => ('\n' :: value, left)
      | none =>
        if isPlain c then (readLongBasic? rest).map fun (value, left) => (c :: value, left)
        else none
termination_by text => text.length
decreasing_by
  · simp
  · have := length_readContinuation?_lt _h
    simp only [List.length_cons]
    omega
  · have := length_readEscape?_lt _h
    simp only [List.length_cons]
    omega
  · exact length_readBreak?_lt _h
  · simp

/-- A text in three single quotes, after the opening quotes. -/
def readLongLiteral? : Text → Option (Text × Text)
  | [] => none
  | c :: rest =>
    if c = '\'' then
      match readClosing? '\'' rest with
      | some closing => some closing
      | none => (readLongLiteral? rest).map fun (value, left) => ('\'' :: value, left)
    else
      match _h : readBreak? (c :: rest) with
      | some after => (readLongLiteral? after).map fun (value, left) => ('\n' :: value, left)
      | none =>
        if isPlain c then (readLongLiteral? rest).map fun (value, left) => (c :: value, left)
        else none
termination_by text => text.length
decreasing_by
  · simp
  · exact length_readBreak?_lt _h
  · simp

/-- The text without a line break at its start. -/
def dropBreak (text : Text) : Text :=
  (readBreak? text).getD text

/-- A quoted text of any kind. -/
def readQuoted? : Text → Option (Text × Text)
  | '"' :: '"' :: '"' :: rest => readLongBasic? (dropBreak rest)
  | '"' :: rest => readBasic? rest
  | '\'' :: '\'' :: '\'' :: rest => readLongLiteral? (dropBreak rest)
  | '\'' :: rest => readLiteral? rest
  | _ => none

end LogSieve.Toml
