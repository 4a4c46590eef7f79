import LogSieve.Text.Ranges

/-!
# White space

Blank characters are those with the Unicode property White_Space. They separate tokens of a filter
and words of a log line, and are cut off both ends of a line before it is read.

`words` are the maximal runs of other characters; `trim` cuts the blanks off both ends.
-/

namespace LogSieve.Text

/-- The ranges of the property White_Space. -/
def blankRanges : Ranges :=
  [(0x9, 0xD), (0x20, 0x20), (0x85, 0x85), (0xA0, 0xA0), (0x1680, 0x1680), (0x2000, 0x200A),
   (0x2028, 0x2029), (0x202F, 0x202F), (0x205F, 0x205F), (0x3000, 0x3000)]

/-- Whether the character is white space. -/
def isBlank (c : Char) : Bool :=
  blankRanges.has c

/-- The maximal runs of characters that are not blank, in order. -/
def words (text : Text) : List Text :=
  (text.splitOnP isBlank).filter (!·.isEmpty)

/-- The text without its leading blanks. -/
def trimStart (text : Text) : Text :=
  text.dropWhile isBlank

/-- The text without its leading and trailing blanks. -/
def trim (text : Text) : Text :=
  (trimStart (trimStart text).reverse).reverse

end LogSieve.Text
