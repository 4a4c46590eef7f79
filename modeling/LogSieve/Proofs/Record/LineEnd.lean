import LogSieve.Record.Line
import LogSieve.Scan.Lines
import LogSieve.Text.Utf8

/-!
# A carriage return at the end of a line

A line gives the same record with a carriage return at its end as without it, whatever bytes stand
before it (`ofLine?_decodeLossy_append_return`).

The two readings see different bytes, and a piece of a broken character may stand at the end of the
line. But no byte below 0x80 is ever the tail of a character, so that decoding starts afresh at such
a byte: what is before it is decoded as if nothing followed (`Utf8.scalars_append_cons`). The
carriage return is then a character of its own, and a blank, which does not count at the end of a
line.
-/

namespace LogSieve

namespace Utf8

variable {byte : UInt8} (hascii : byte.toNat < 0x80) (more : List UInt8)

/-- Every first tail that a lead byte admits is at least 0x80. -/
theorem le_low_of_lead? {byte : Nat} {lead : Lead} (h : lead? byte = some lead) :
    0x80 ≤ lead.low := by
  grind [lead?]

include hascii

/-- Tails are looked for up to a byte below 0x80 only. -/
theorem readTails_append_cons {low : Nat} (hlow : 0x80 ≤ low) (bits count high : Nat)
    (bytes : List UInt8) :
    readTails bits count low high (bytes ++ byte :: more) =
      ((readTails bits count low high bytes).1,
        (readTails bits count low high bytes).2 ++ byte :: more) := by
  fun_induction readTails bits count low high bytes with
  | case1 => rw [readTails]
  | case2 bits low high count =>
    -- a tail is owed, and the byte is not in the range of any
    have hrange : ¬(low ≤ byte.toNat && byte.toNat ≤ high) = true := by
      rw [Bool.and_eq_true, decide_eq_true_iff]
      omega
    rw [List.nil_append, readTails, if_neg hrange]
  | case3 bits low high count tail bytes hrange ih =>
    rw [List.cons_append, readTails, if_pos hrange, ih (Nat.le_refl _)]
  | case4 bits low high count tail bytes hrange =>
    rw [List.cons_append, readTails, if_neg hrange]

/-- A byte below 0x80 is a character. -/
theorem scalars_cons : scalars (byte :: more) = some (Char.ofNat byte.toNat) :: scalars more := by
  have hlead : lead? byte.toNat = some { bits := byte.toNat, tails := 0 } :=
    if_pos (by omega)
  rw [scalars, hlead]
  simp only [readTails, Option.map_some]

/-- **Decoding starts afresh at a byte below 0x80**, even inside a broken character. -/
theorem scalars_append_cons (bytes : List UInt8) :
    scalars (bytes ++ byte :: more) =
      scalars bytes ++ some (Char.ofNat byte.toNat) :: scalars more := by
  fun_induction scalars bytes with
  | case1 => exact scalars_cons hascii more
  | case2 first bytes hlead ih =>
    rw [List.cons_append, scalars, hlead]
    simp only [ih, List.cons_append]
  | case3 first bytes lead hlead read ih =>
    rw [List.cons_append, scalars, hlead]
    -- the tails of the first character end before the byte
    simp only [readTails_append_cons hascii more (le_low_of_lead? hlead), List.cons_append]
    exact congrArg _ ih

theorem decodeLossy_append_singleton (bytes : List UInt8) :
    decodeLossy (bytes ++ [byte]) = decodeLossy bytes ++ [Char.ofNat byte.toNat] := by
  rw [decodeLossy, scalars_append_cons hascii [], List.map_append, scalars]
  rfl

end Utf8

namespace Text

/-- A blank at the end of a text is cut off with the others. -/
theorem trim_append_singleton (text : Text) {c : Char} (h : isBlank c = true) :
    trim (text ++ [c]) = trim text := by
  unfold trim
  have hstart : trimStart (text ++ [c]) =
      if (trimStart text).isEmpty then [] else trimStart text ++ [c] := by
    rw [trimStart, List.dropWhile_append, List.dropWhile_cons_of_pos h]
    rfl
  rw [hstart]
  split
  · next hempty =>
    -- nothing but blanks, of which nothing is left
    rw [List.isEmpty_iff.mp hempty]
  · have hend : trimStart (trimStart text ++ [c]).reverse = trimStart (trimStart text).reverse := by
      rw [List.reverse_concat]
      exact List.dropWhile_cons_of_pos h
    rw [hend]

end Text

namespace Record

theorem ofLine?_append_singleton (rules : InputRules) (text : Text) {c : Char}
    (h : Text.isBlank c = true) : ofLine? rules (text ++ [c]) = ofLine? rules text := by
  unfold ofLine?
  rw [Text.trim_append_singleton text h]

/-- **A carriage return at the end of a line does not change its record.** -/
theorem ofLine?_decodeLossy_append_return (rules : InputRules) (content : Bytes) :
    ofLine? rules (Utf8.decodeLossy (content ++ [Bytes.carriageReturn])) =
      ofLine? rules (Utf8.decodeLossy content) := by
  rw [Utf8.decodeLossy_append_singleton (by decide)]
  exact ofLine?_append_singleton rules _ (by decide)

end Record

end LogSieve
