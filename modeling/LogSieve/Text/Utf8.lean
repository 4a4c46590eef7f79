import LogSieve.Text.Basic

/-!
# UTF-8

Reading bytes as text. The lead byte of a character says how many tail bytes follow and in which
range the first of them lies, which is how overlong forms, surrogates and code points past the
last one are refused. Bytes that are not UTF-8 fall into the longest pieces that start like a
character: `scalars` has one entry `none` for each such piece, so that the lossy reading
(`decodeLossy`) puts one replacement character in its place and the strict reading (`decode?`)
refuses the bytes.
-/

namespace LogSieve.Utf8

/-- What a lead byte announces. -/
structure Lead where
  /-- The bits of the code point that the lead byte holds. -/
  bits : Nat
  /-- How many tail bytes follow. -/
  tails : Nat
  /-- The least first tail. -/
  low : Nat := 0x80
  /-- The greatest first tail. -/
  high : Nat := 0xBF

/-- The meaning of a lead byte, or `none` if no character starts with the byte. -/
def lead? (byte : Nat) : Option Lead :=
  if byte ≤ 0x7F then some { bits := byte, tails := 0 }
  else if 0xC2 ≤ byte && byte ≤ 0xDF then some { bits := byte - 0xC0, tails := 1 }
  else if byte == 0xE0 then some { bits := 0, tails := 2, low := 0xA0 }
  else if byte == 0xED then some { bits := 0xD, tails := 2, high := 0x9F }
  else if 0xE1 ≤ byte && byte ≤ 0xEF then some { bits := byte - 0xE0, tails := 2 }
  else if byte == 0xF0 then some { bits := 0, tails := 3, low := 0x90 }
  else if 0xF1 ≤ byte && byte ≤ 0xF3 then some { bits := byte - 0xF0, tails := 3 }
  else if byte == 0xF4 then some { bits := 4, tails := 3, high := 0x8F }
  else none

/-- Adds `count` tail bytes to the bits read so far, the first of them between `low` and `high`.
The code point is `none` where a tail is missing; the bytes left start with the one that was not a
tail. -/
def readTails (bits : Nat) : (count low high : Nat) → List UInt8 → Option Nat × List UInt8
  | 0, _, _, bytes => (some bits, bytes)
  | _ + 1, _, _, [] => (none, [])
  | count + 1, low, high, byte :: bytes =>
    if low ≤ byte.toNat && byte.toNat ≤ high then
      readTails (bits * 64 + (byte.toNat - 0x80)) count 0x80 0xBF bytes
    else
      (none, byte :: bytes)

theorem length_readTails_le (bits count low high : Nat) (bytes : List UInt8) :
    (readTails bits count low high bytes).2.length ≤ bytes.length := by
  fun_induction readTails bits count low high bytes with
  | case1 => exact Nat.le_refl _
  | case2 => exact Nat.le_refl _
  | case3 _ _ _ _ _ _ _ ih => exact Nat.le_succ_of_le ih
  | case4 => exact Nat.le_refl _

/-- The characters of the bytes, with `none` for each piece that is not UTF-8. -/
def scalars : List UInt8 → List (Option Char)
  | [] => []
  | byte :: bytes =>
    match lead? byte.toNat with
    | none => none :: scalars bytes
    | some lead =>
      let read := readTails lead.bits lead.tails lead.low lead.high bytes
      read.1.map Char.ofNat :: scalars read.2
termination_by bytes => bytes.length
decreasing_by
  · simp
  · exact Nat.lt_succ_of_le (length_readTails_le ..)

/-- The text with U+FFFD for each piece that is not UTF-8. -/
def decodeLossy (bytes : List UInt8) : Text :=
  (scalars bytes).map (·.getD '\uFFFD')

/-- The text of the bytes if all of them are UTF-8. -/
def decode? (bytes : List UInt8) : Option Text :=
  (scalars bytes).mapM id

/-- The bytes of a text. -/
def encode (text : Text) : List UInt8 :=
  text.flatMap String.utf8EncodeChar

end LogSieve.Utf8
