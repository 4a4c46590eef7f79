import LogSieve.Text.Case

/-!
# Lower case

Comparison in filters ignores case by comparing lower-case forms. `lower` is the full mapping of
Unicode: every character goes to its lower-case form by itself, with two exceptions. The capital
I with a dot becomes two characters, and a capital sigma becomes the final sigma at the end of a
word: when a letter stands before it and none after it, characters that are case-ignorable being
passed over on both sides. So the mapping of a part of a text can differ from the part of the
mapping.
-/

namespace LogSieve.Text

/-- The lower-case form of a character standing by itself. -/
def lowerChar (c : Char) : Text :=
  if c = '\u0130' then ['i', '\u0307'] else [Char.ofNat (lowerCode c.toNat)]

/-- Whether the first character that is not case-ignorable is a cased letter. -/
def startsCased (text : Text) : Bool :=
  match text.dropWhile isCaseIgnorable with
  | [] => false
  | c :: _ => isCased c

/-- The lower-case form of a capital sigma; `before` is what precedes it, nearest first. -/
def lowerSigma (before after : Text) : Char :=
  if startsCased before && !startsCased after then 'ς' else 'σ'

/-- The lower-case form of a text that follows `before`, nearest character first. -/
def lowerAfter (before : Text) : Text → Text
  | [] => []
  | c :: rest =>
    (if c = 'Σ' then [lowerSigma before rest] else lowerChar c) ++ lowerAfter (c :: before) rest

/-- The lower-case form of a text. -/
def lower (text : Text) : Text :=
  lowerAfter [] text

end LogSieve.Text
