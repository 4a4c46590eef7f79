import LogSieve.Proofs.Filter.Tiling
import LogSieve.Text.Quoted

/-!
# Reading a quoted text back

What the scanner makes of a text in the printed form of `Text.quoted`. The escapes for quotes,
backslashes, line breaks and tabs are the ones that it knows. The two others it reads as it reads
any backslash, dropping it: the escape of the NUL comes back as a zero, and that of an invisible
character as the spelling of its code point (`rereadChar`).

So a text comes back if none of its characters is written in one of these two ways. The converse
is the point (`reread_eq_self_iff`): a zero and the spelling of a code point are made of characters
that are shown as they are (`not_isCoded_of_mem_rereadChar`), hence what comes back has no coded
character at all, and differs from every text that has one.
-/

namespace LogSieve.Text

/-- The printed form shows the character by the escape of the NUL or by its code point. -/
def IsCoded (c : Char) : Prop :=
  quotedChar c = ['\\', '0'] ∨ quotedChar c = codeEscape c

instance : DecidablePred IsCoded := fun _ => inferInstanceAs (Decidable (_ ∨ _))

/-- What the printed form of a character is read as. -/
def rereadChar (c : Char) : Text :=
  if IsCoded c then (quotedChar c).tail else [c]

/-- What the printed form of a text is read as. -/
def reread (text : Text) : Text :=
  text.flatMap rereadChar

/-! ### The printed form is read -/

/-- The printed form of a character is a known escape, one of the two unknown ones, or the
character itself. -/
theorem quotedChar_cases (c : Char) :
    (∃ d, quotedChar c = ['\\', d] ∧ Escapes d c) ∨ quotedChar c = ['\\', '0'] ∨
      quotedChar c = codeEscape c ∨ (quotedChar c = [c] ∧ c ≠ '"' ∧ c ≠ '\\') := by
  unfold quotedChar
  split_ifs with hquote hbackslash hline hreturn htab hnul hcode
  · exact .inl ⟨'"', rfl, escapes_iff.mpr hquote.symm⟩
  · exact .inl ⟨'\\', rfl, escapes_iff.mpr hbackslash.symm⟩
  · exact .inl ⟨'n', rfl, hline ▸ .lineFeed⟩
  · exact .inl ⟨'r', rfl, hreturn ▸ .carriageReturn⟩
  · exact .inl ⟨'t', rfl, htab ▸ .tab⟩
  · exact .inr (.inl rfl)
  · exact .inr (.inr (.inl rfl))
  · exact .inr (.inr (.inr ⟨rfl, hquote, hbackslash⟩))

/-- The characters that the spelling of a code point is made of. -/
def codeCharacters : Text := "u\x7b\x7d0123456789abcdef".toList

theorem mem_hexNumeral {n : Nat} {d : Char} (h : d ∈ hexNumeral n) :
    d ∈ "0123456789abcdef".toList := by
  unfold hexNumeral at h
  have hdigit : ∀ k < 16, Nat.digitChar k ∈ "0123456789abcdef".toList := by decide
  induction n using Nat.strongRecOn with
  | _ n ih =>
  -- either the only digit, or one of the digits of a sixteenth and then the last digit
  rw [Nat.toDigits_eq_if (by decide)] at h
  split at h
  · next hlt =>
    rw [List.mem_singleton] at h
    rw [h]
    exact hdigit n hlt
  · next hge =>
    rw [List.mem_append, List.mem_singleton] at h
    rcases h with h | rfl
    · exact ih (n / 16) (by omega) h
    · exact hdigit (n % 16) (Nat.mod_lt n (by decide))

/-- What a code point is spelled with. -/
theorem mem_tail_codeEscape {c d : Char} (h : d ∈ (codeEscape c).tail) : d ∈ codeCharacters := by
  simp only [codeEscape, List.cons_append, List.tail_cons, List.nil_append, List.mem_cons,
    List.mem_append, List.not_mem_nil, or_false] at h
  rcases h with rfl | rfl | h | rfl
  · decide
  · decide
  · exact List.mem_append_right ['u', '\x7b', '\x7d'] (mem_hexNumeral h)
  · decide

/-- Characters other than the quote and the backslash stand for themselves. -/
theorem quotedBody_self {text : Text} (h : ∀ c ∈ text, c ≠ '"' ∧ c ≠ '\\') :
    QuotedBody '"' text text := by
  induction text with
  | nil => exact .nil
  | cons c text ih =>
    rw [List.forall_mem_cons] at h
    exact .plain h.1.1 h.1.2 (ih h.2)

theorem quotedBody_codeEscape (c : Char) : QuotedBody '"' (codeEscape c) (codeEscape c).tail := by
  refine .escaped (escapes_iff.mpr rfl) (quotedBody_self fun d hd => ?_)
  -- the spelling of a code point has no quote and no backslash in it
  have hmem : d ∈ codeCharacters := mem_tail_codeEscape (List.mem_cons_of_mem _ hd)
  refine ⟨?_, ?_⟩
  · rintro rfl
    exact absurd hmem (by decide)
  · rintro rfl
    exact absurd hmem (by decide)

theorem quotedBody_quotedChar (c : Char) : QuotedBody '"' (quotedChar c) (rereadChar c) := by
  unfold rereadChar
  split_ifs with hcoded
  · rcases hcoded with hnul | hcode
    · rw [hnul]
      exact .escaped (escapes_iff.mpr rfl) .nil
    · rw [hcode]
      exact quotedBody_codeEscape c
  · rcases quotedChar_cases c with ⟨d, hd, hescape⟩ | hnul | hcode | ⟨hself, hquote, hbackslash⟩
    · -- a known escape, which is resolved to the character
      rw [hd]
      exact .escaped hescape .nil
    · exact absurd (.inl hnul) hcoded
    · exact absurd (.inr hcode) hcoded
    · rw [hself]
      exact .plain hquote hbackslash .nil

/-- **A quoted text is read as what its characters are read as.** -/
theorem lexeme_quoted (text : Text) : Lexeme (quoted text) (.string (reread text)) := by
  refine .quoted (.inl rfl) ?_
  induction text with
  | nil => exact .nil
  | cons c text ih => exact (quotedBody_quotedChar c).append ih

/-! ### What does not come back -/

/-- The visible characters of ASCII. -/
def asciiVisible : Ranges := [(0x20, 0x7E)]

/-- A visible character of ASCII is shown as it is, if it needs no backslash. -/
theorem quotedChar_eq_self {c : Char} (h : asciiVisible.has c = true) (hquote : c ≠ '"')
    (hbackslash : c ≠ '\\') : quotedChar c = [c] := by
  -- the tables of what is not shown begin beyond ASCII
  have htables : (graphemeExtendRanges ++ unprintableRanges ++ fillerRanges).disjointFrom
      asciiVisible = true := by decide +kernel
  have hnone : (graphemeExtendRanges ++ unprintableRanges ++ fillerRanges).has c = false := by
    rw [Bool.eq_false_iff]
    intro hsome
    rw [Ranges.has_eq_false_of_disjointFrom htables hsome] at h
    cases h
  simp only [Ranges.has, List.any_append, Bool.or_eq_false_iff] at hnone
  -- the controls with escapes of their own are not visible
  have hne : ∀ control : Char, asciiVisible.has control = false → c ≠ control := by
    rintro control hcontrol rfl
    rw [hcontrol] at h
    cases h
  unfold quotedChar
  rw [if_neg hquote, if_neg hbackslash, if_neg (hne _ (by decide)), if_neg (hne _ (by decide)),
    if_neg (hne _ (by decide)), if_neg (hne _ (by decide)), if_neg]
  simp [isJoiningMark, isPrintable, Ranges.has, hnone]

theorem not_isCoded_of_mem_codeCharacters {d : Char} (h : d ∈ codeCharacters) : ¬ IsCoded d := by
  have hall : codeCharacters.all (fun d => asciiVisible.has d && d != '"' && d != '\\') =
      true := rfl
  have hd := List.all_eq_true.mp hall d h
  simp only [Bool.and_eq_true, bne_iff_ne] at hd
  obtain ⟨⟨hvisible, hquote⟩, hbackslash⟩ := hd
  rw [IsCoded, quotedChar_eq_self hvisible hquote hbackslash]
  -- both codes have more than one character
  rintro (hnul | hcode)
  · cases hnul
  · cases hcode

theorem not_isCoded_of_mem_rereadChar {c d : Char} (h : d ∈ rereadChar c) : ¬ IsCoded d := by
  unfold rereadChar at h
  split_ifs at h with hcoded
  · rcases hcoded with hnul | hcode
    · rw [hnul, List.tail_cons, List.mem_singleton] at h
      rw [h]
      exact not_isCoded_of_mem_codeCharacters (by decide)
    · rw [hcode] at h
      exact not_isCoded_of_mem_codeCharacters (mem_tail_codeEscape h)
  · rw [List.mem_singleton] at h
    rwa [h]

/-- **A text comes back if and only if it has no coded character.** -/
theorem reread_eq_self_iff {text : Text} : reread text = text ↔ ∀ c ∈ text, ¬ IsCoded c := by
  constructor
  · -- the characters of the text are those that came back, and none of these is coded
    intro h c hc
    rw [← h, reread, List.mem_flatMap] at hc
    obtain ⟨_, _, hc⟩ := hc
    exact not_isCoded_of_mem_rereadChar hc
  · intro h
    induction text with
    | nil => rfl
    | cons c text ih =>
      rw [List.forall_mem_cons] at h
      rw [reread, List.flatMap_cons, rereadChar, if_neg h.1, ← reread, ih h.2]
      rfl

end LogSieve.Text
