import LogSieve.Proofs.Filter.Quoted
import LogSieve.Text.Utf8

/-!
# A printed text says which text it is

Texts are shown in two ways, and neither shows two texts alike.

* `Text.quoted` puts a text between double quotes. The scanner does not read all of its escapes
  back, but each can be read back: `unquote?` takes the character off that a printed text starts
  with, whichever of the escapes it is written with (`unquote?_quotedChar`). So the printed form of
  a text says where it ends and which text it was, whatever follows it (`quoted_append_inj`).
* `Utf8.encode` is the bytes of a text (`Utf8.encode_injective`).
-/

namespace LogSieve

namespace Text

/-! ### Numerals in base sixteen -/

/-- The number that a run of hexadecimal digits writes. -/
def hexValue (digits : Text) : Nat :=
  digits.foldl (fun value digit => value * 16 + (hexDigit? digit).getD 0) 0

theorem hexDigit?_digitChar : ∀ k < 16, hexDigit? (Nat.digitChar k) = some k := by decide

theorem hexValue_append_singleton (digits : Text) (digit : Char) :
    hexValue (digits ++ [digit]) = hexValue digits * 16 + (hexDigit? digit).getD 0 := by
  rw [hexValue, List.foldl_append, List.foldl_cons, List.foldl_nil]
  rfl

/-- Reading back a numeral gives the number it was written for. -/
@[simp] theorem hexValue_hexNumeral (n : Nat) : hexValue (hexNumeral n) = n := by
  unfold hexNumeral
  induction n using Nat.strongRecOn with
  | _ n ih =>
  -- either the only digit, or the digits of a sixteenth and then the last digit
  rw [Nat.toDigits_eq_if (by decide)]
  split
  · next hlt =>
    change 0 * 16 + (hexDigit? n.digitChar).getD 0 = n
    rw [hexDigit?_digitChar n hlt, Option.getD_some, Nat.zero_mul, Nat.zero_add]
  · next hge =>
    have hdigit := hexDigit?_digitChar (n % 16) (Nat.mod_lt n (by decide))
    rw [hexValue_append_singleton, ih (n / 16) (by omega), hdigit, Option.getD_some]
    exact Nat.div_add_mod' n 16

/-! ### Taking the first character off a printed text -/

/-- The character that a printed text starts with, and what follows it. -/
def unquote? : Text → Option (Char × Text)
  | '\\' :: 'u' :: '\x7b' :: rest =>
    some (Char.ofNat (hexValue (rest.takeWhile (· ≠ '\x7d'))), (rest.dropWhile (· ≠ '\x7d')).tail)
  | '\\' :: '0' :: rest => some ('\x00', rest)
  | '\\' :: c :: rest => some (unescape c, rest)
  | c :: rest => some (c, rest)
  | [] => none

theorem unquote?_of_ne_backslash {c : Char} (h : c ≠ '\\') (rest : Text) :
    unquote? (c :: rest) = some (c, rest) := by
  rw [unquote?.eq_def]
  split
  · next heq => exact absurd (List.cons.inj heq).1 h
  · next heq => exact absurd (List.cons.inj heq).1 h
  · next heq => exact absurd (List.cons.inj heq).1 h
  · next heq =>
    obtain ⟨rfl, rfl⟩ := List.cons.inj heq
    rfl
  · next heq => cases heq

theorem unquote?_codeEscape (c : Char) (rest : Text) :
    unquote? (codeEscape c ++ rest) = some (c, rest) := by
  -- the closing brace is the first one behind the digits
  have hdigits : ∀ d ∈ hexNumeral c.toNat, decide (d ≠ '\x7d') = true := by
    intro d hd
    rw [decide_eq_true_iff]
    rintro rfl
    exact absurd (mem_hexNumeral hd) (by decide)
  have hclose : ∀ d ∈ ('\x7d' :: rest).head?, decide (d ≠ '\x7d') = false := by
    intro d hd
    cases hd
    rfl
  obtain ⟨htake, hdrop⟩ := takeWhile_append_of_closed hdigits hclose
  have hsplit : codeEscape c ++ rest
      = '\\' :: 'u' :: '\x7b' :: (hexNumeral c.toNat ++ '\x7d' :: rest) := by
    simp [codeEscape]
  rw [hsplit, unquote?, htake, hdrop, hexValue_hexNumeral, Char.ofNat_toNat, List.tail_cons]

/-- **Every escape can be read back**, the two that the scanner does not know included. -/
theorem unquote?_quotedChar (c : Char) (rest : Text) :
    unquote? (quotedChar c ++ rest) = some (c, rest) := by
  -- one case for each way in which a character is written
  unfold quotedChar
  split_ifs with hquote hbackslash hline hreturn htab hnul hcode
  · rw [hquote]
    rfl
  · rw [hbackslash]
    rfl
  · rw [hline]
    rfl
  · rw [hreturn]
    rfl
  · rw [htab]
    rfl
  · rw [hnul]
    rfl
  · exact unquote?_codeEscape c rest
  · exact unquote?_of_ne_backslash hbackslash rest

/-! ### Printed texts -/

section Inj

variable {rest rest' : Text}

theorem quotedChar_append_inj {c d : Char} (h : quotedChar c ++ rest = quotedChar d ++ rest') :
    c = d ∧ rest = rest' := by
  have hread := congrArg unquote? h
  rw [unquote?_quotedChar, unquote?_quotedChar] at hread
  exact Prod.mk.inj (Option.some.inj hread)

/-- No character is written with a quote in front, so that a quote ends the text. -/
theorem quotedChar_append_ne (c : Char) : quotedChar c ++ rest ≠ '"' :: rest' := by
  intro h
  have hread := congrArg unquote? h
  rw [unquote?_quotedChar, unquote?_of_ne_backslash (by decide)] at hread
  obtain ⟨rfl, rfl⟩ := Prod.mk.inj (Option.some.inj hread)
  -- the character is the quote itself, which is written with a backslash
  have hhead : '\\' :: '"' :: rest = '"' :: rest := h
  exact absurd (List.cons.inj hhead).1 (by decide)

theorem flatMap_quotedChar_append_inj {text text' : Text}
    (h : text.flatMap quotedChar ++ '"' :: rest = text'.flatMap quotedChar ++ '"' :: rest') :
    text = text' ∧ rest = rest' := by
  -- on the text: each printed character is taken off both sides, or the quote is
  induction text generalizing text' with
  | nil =>
    cases text' with
    | nil => exact ⟨rfl, (List.cons.inj h).2⟩
    | cons d text' =>
      rw [List.flatMap_cons, List.append_assoc] at h
      exact absurd h.symm (quotedChar_append_ne d)
  | cons c text ih =>
    cases text' with
    | nil =>
      rw [List.flatMap_cons, List.append_assoc] at h
      exact absurd h (quotedChar_append_ne c)
    | cons d text' =>
      rw [List.flatMap_cons, List.flatMap_cons, List.append_assoc, List.append_assoc] at h
      obtain ⟨rfl, htail⟩ := quotedChar_append_inj h
      obtain ⟨rfl, hrest⟩ := ih htail
      exact ⟨rfl, hrest⟩

/-- **A printed text says where it ends and which text it is.** -/
theorem quoted_append_inj {text text' : Text} (h : quoted text ++ rest = quoted text' ++ rest') :
    text = text' ∧ rest = rest' := by
  rw [quoted, quoted, List.append_assoc, List.append_assoc] at h
  exact flatMap_quotedChar_append_inj (List.cons.inj h).2

end Inj

end Text

/-! ### Bytes of texts -/

/-- **The bytes of a text say which text it is.** -/
theorem Utf8.encode_injective {text text' : Text} (h : encode text = encode text') :
    text = text' := by
  have hbytes : List.utf8Encode text = List.utf8Encode text' := congrArg List.toByteArray h
  -- what was encoded is decoded again
  have hdecoded := congrArg ByteArray.utf8Decode? hbytes
  rw [List.utf8Decode?_utf8Encode, List.utf8Decode?_utf8Encode] at hdecoded
  exact congrArg Array.toList (Option.some.inj hdecoded)

end LogSieve
