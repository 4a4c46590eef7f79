import LogSieve.Proofs.Filter.Caseless
import LogSieve.Proofs.Filter.Culprit
import Mathlib.Data.List.Forall2

/-!
# Which words are operators

A word is an operator if its lower-case form is one of four texts. The mapping is that of all of
Unicode: it takes letters of other scripts to ASCII, and single letters to two characters. None of
this brings a word any nearer to an operator. The operators are written with letters that no
character but they themselves and their capitals is lower-cased to (`plainLetters`): of the letters
of ASCII only `k` is the lower-case form of something else, of the sign for kelvin. So a word is an
operator if and only if it is that operator letter by letter, each of them small or capital
(`TokenKind.ofWord_eq_iff`).

* The table of the mapping is gone through once, for the runs whose images are in ASCII
  (`image_of_mem_lowerRuns`).
* `Text.lower_eq_iff` carries this over to texts, by induction on the text. The one character that
  two characters come from, the capital I with a dot, leaves a dot that is no letter.
* Where a token stands in a filter, the tiling is cut (`TokenAt`), and the run of word characters at
  its position is the word itself if the token is a word.

The main statement is `operator_iff_agreesUpToCase`.
-/

namespace LogSieve

/-! ### Letters that come from themselves and their capitals only -/

namespace Text

/-- The small letters of ASCII but `k`. -/
def plainLetters : Text := "abcdefghijlmnopqrstuvwxyz".toList

/-- Each character of the text is the letter at its place, small or capital. -/
def AgreesUpToCase (text letters : Text) : Prop :=
  List.Forall₂ (fun c letter => c = letter ∨ c = letter.toUpper) text letters

theorem AgreesUpToCase.exists_letter {text letters : Text} {c : Char}
    (h : text.AgreesUpToCase letters) (hc : c ∈ text) :
    ∃ letter ∈ letters, c = letter ∨ c = letter.toUpper := by
  induction h with
  | nil => cases hc
  | cons hsame _ ih =>
    rcases List.mem_cons.mp hc with rfl | hc
    · exact ⟨_, List.mem_cons_self, hsame⟩
    · obtain ⟨letter, hletter, hsame⟩ := ih hc
      exact ⟨letter, List.mem_cons_of_mem _ hletter, hsame⟩

section Letter

variable {letter : Char}

/-- The code points of the plain letters. -/
theorem codes_of_mem_plainLetters (h : letter ∈ plainLetters) :
    letter.toNat < 0x80 ∧ letter.toNat ≠ 0x6B ∧ letter.toUpper.toNat + 0x20 = letter.toNat ∧
      letter ≠ '\x00' ∧ letter ≠ '\u0307' := by
  have hall : plainLetters.all (fun letter => decide (letter.toNat < 0x80 ∧ letter.toNat ≠ 0x6B ∧
      letter.toUpper.toNat + 0x20 = letter.toNat ∧
      letter ≠ '\x00' ∧ letter ≠ '\u0307')) = true := by decide
  exact of_decide_eq_true (List.all_eq_true.mp hall letter h)

theorem lowerChar_of_mem_plainLetters (h : letter ∈ plainLetters) :
    lowerChar letter = [letter] ∧ lowerChar letter.toUpper = [letter] := by
  have hall : plainLetters.all (fun letter => decide
      (lowerChar letter = [letter] ∧ lowerChar letter.toUpper = [letter])) = true := by decide
  exact of_decide_eq_true (List.all_eq_true.mp hall letter h)

/-- **The runs of the mapping into ASCII** are the capitals of ASCII and the sign for kelvin. -/
theorem image_of_mem_lowerRuns {run : CaseRun} (h : run ∈ lowerRuns) :
    0x80 ≤ run.image ∨ run.image = 0x61 ∧ run.first = 0x41 ∨
      run.image = 0x6B ∧ run.first = 0x212A ∧ run.last = 0x212A := by
  -- each run has images from one code point on, so the first one of each is looked at
  have hall : lowerRuns.all (fun run => decide (0x80 ≤ run.image ∨
      run.image = 0x61 ∧ run.first = 0x41 ∨
      run.image = 0x6B ∧ run.first = 0x212A ∧ run.last = 0x212A)) = true := by decide
  exact of_decide_eq_true (List.all_eq_true.mp hall run h)

theorem toNat_of_lowerCode_eq {code : Nat} (hletter : letter ∈ plainLetters)
    (h : lowerCode code = letter.toNat) :
    code = letter.toNat ∨ code = letter.toUpper.toNat := by
  obtain ⟨hascii, hkelvin, hupper, -⟩ := codes_of_mem_plainLetters hletter
  unfold lowerCode at h
  split at h
  · next run hfind =>
    have hholds := List.find?_some hfind
    simp only [CaseRun.holds, Bool.and_eq_true, decide_eq_true_eq] at hholds
    obtain ⟨⟨hfirst, hlast⟩, -⟩ := hholds
    rcases image_of_mem_lowerRuns (List.mem_of_find?_eq_some hfind) with himage | hrun | hrun
    · -- the image would lie beyond ASCII
      omega
    · -- a capital of ASCII
      omega
    · -- the sign for kelvin, and the letter would be `k`
      omega
  · exact .inl h

/-- What is not the null character was made from its own code point. -/
theorem toNat_of_ofNat_eq {code : Nat} {c : Char} (h : Char.ofNat code = c) (hc : c ≠ '\x00') :
    code = c.toNat := by
  by_cases hvalid : code.isValidChar
  · rw [Char.ofNat, dif_pos hvalid] at h
    rw [← h]
    rfl
  · rw [Char.ofNat, dif_neg hvalid] at h
    exact absurd h.symm hc

/-- **A plain letter is the lower-case form of itself and of its capital only.** -/
theorem lowerChar_eq_singleton_iff {c : Char} (hletter : letter ∈ plainLetters) :
    lowerChar c = [letter] ↔ c = letter ∨ c = letter.toUpper := by
  constructor
  · intro h
    unfold lowerChar at h
    split at h
    · cases h
    · obtain ⟨-, -, -, hnull, -⟩ := codes_of_mem_plainLetters hletter
      have hcode := toNat_of_ofNat_eq (List.head_eq_of_cons_eq h) hnull
      rcases toNat_of_lowerCode_eq hletter hcode with heq | heq
      · exact .inl (Char.toNat_inj.mp heq)
      · exact .inr (Char.toNat_inj.mp heq)
  · obtain ⟨hsmall, hcapital⟩ := lowerChar_of_mem_plainLetters hletter
    rintro (rfl | rfl)
    · exact hsmall
    · exact hcapital

/-- A text in lower case starts with a plain letter if its first character comes to that letter
alone. -/
theorem lowered_append_eq_cons_iff {c : Char} {before rest more others : Text}
    (hletter : letter ∈ plainLetters) (hothers : ∀ other ∈ others, other ∈ plainLetters) :
    (if c = 'Σ' then [lowerSigma before rest] else lowerChar c) ++ more = letter :: others ↔
      (c = letter ∨ c = letter.toUpper) ∧ more = others := by
  rw [← lowerChar_eq_singleton_iff hletter]
  obtain ⟨hascii, -⟩ := codes_of_mem_plainLetters hletter
  split
  · next hsigma =>
    -- neither of the two small sigmas is in ASCII
    have hsmall : lowerChar c = ['σ'] := by rw [hsigma]; rfl
    have hne : letter ≠ 'σ' ∧ letter ≠ 'ς' := by
      constructor <;> (rintro rfl; exact absurd hascii (by decide))
    rw [hsmall, lowerSigma, List.singleton_append, List.cons.injEq]
    refine iff_of_false (fun h => ?_) fun h => hne.1 (List.head_eq_of_cons_eq h.1).symm
    split at h
    · exact hne.2 h.1.symm
    · exact hne.1 h.1.symm
  · unfold lowerChar
    split
    · -- the dot that is left of the capital I would have to be a letter
      refine iff_of_false (fun h => ?_) fun h => absurd h.1 (by simp)
      obtain ⟨-, rfl⟩ := List.cons.inj h
      obtain ⟨-, -, -, -, hdot⟩ := codes_of_mem_plainLetters (hothers _ List.mem_cons_self)
      exact hdot rfl
    · rw [List.singleton_append, List.cons.injEq, List.cons.injEq, and_iff_left rfl]

/-- **Which texts have a lower-case form of plain letters**: those that are it up to case. -/
theorem lower_eq_iff {text letters : Text} (h : ∀ letter ∈ letters, letter ∈ plainLetters) :
    lower text = letters ↔ text.AgreesUpToCase letters := by
  -- what stands before matters to a sigma alone, but the induction goes through all of it
  suffices hafter : ∀ before, lowerAfter before text = letters ↔ text.AgreesUpToCase letters from
    hafter []
  induction text generalizing letters with
  | nil =>
    intro before
    rw [lowerAfter, AgreesUpToCase, List.forall₂_nil_left_iff, eq_comm]
  | cons c rest ih =>
    intro before
    rw [lowerAfter, AgreesUpToCase]
    cases letters with
    | nil =>
      -- no character is lost in lower case
      refine iff_of_false (fun h => ?_) (by simp)
      obtain ⟨hfirst, -⟩ := List.append_eq_nil_iff.mp h
      split at hfirst
      · cases hfirst
      · exact lowerChar_ne_nil c hfirst
    | cons letter others =>
      rw [List.forall_mem_cons] at h
      rw [lowered_append_eq_cons_iff h.1 h.2, List.forall₂_cons, ih h.2]
      rfl

end Letter

end Text

/-! ### Operators -/

/-- The operators that are words, with the letters that write them. -/
inductive Reserves : Text → TokenKind → Prop where
  | and : Reserves ['a', 'n', 'd'] .and
  | or : Reserves ['o', 'r'] .or
  | not : Reserves ['n', 'o', 't'] .not
  | contains : Reserves ['c', 'o', 'n', 't', 'a', 'i', 'n', 's'] .contains

/-- The word characters from the position on, up to the first character that is none. -/
def wordAt (source : Text) (position : Nat) : Text :=
  (source.drop position).takeWhile isWordChar

variable {letters word source rest : Text} {operator kind : TokenKind} {position : Nat} {c : Char}

theorem Reserves.mem_plainLetters (h : Reserves letters operator) :
    ∀ letter ∈ letters, letter ∈ Text.plainLetters := by
  have hall : letters.all (fun letter => decide (letter ∈ Text.plainLetters)) = true := by
    cases h <;> decide
  intro letter hmem
  exact of_decide_eq_true (List.all_eq_true.mp hall letter hmem)

/-- **Which words are operators.** -/
theorem TokenKind.ofWord_eq_iff (h : Reserves letters operator) :
    ofWord word = operator ↔ word.AgreesUpToCase letters := by
  rw [← Text.lower_eq_iff h.mem_plainLetters, ofWord, reserved?]
  -- only the lower-case form is compared, with one operator after the other
  generalize Text.lower word = lowered
  cases h with
  | and | or | not | contains => split_ifs <;> simp_all

/-- All characters of a word that is an operator are letters of ASCII. -/
theorem Reserves.isAsciiLetter_of_mem (h : Reserves letters operator)
    (hword : word.AgreesUpToCase letters) (hc : c ∈ word) :
    c.toNat < 0x80 ∧ c ≠ '_' ∧ c ≠ '.' ∧ Text.isDigit c = false := by
  have hall : Text.plainLetters.all (fun letter => [letter, letter.toUpper].all fun c => decide
      (c.toNat < 0x80 ∧ c ≠ '_' ∧ c ≠ '.' ∧ Text.isDigit c = false)) = true := by decide
  -- the letter at the place of the character
  obtain ⟨letter, hletter, hsame⟩ := hword.exists_letter hc
  have hboth := List.all_eq_true.mp hall letter (h.mem_plainLetters letter hletter)
  refine of_decide_eq_true (List.all_eq_true.mp hboth c ?_)
  rcases hsame with rfl | rfl <;> simp

theorem Reserves.not_agrees_nil (h : Reserves letters operator) :
    ¬Text.AgreesUpToCase [] letters := by
  cases h <;> exact nofun

/-- Where a digit stands, or what stands in no word, there is no operator that is a word. -/
theorem Reserves.not_agrees_takeWhile (h : Reserves letters operator)
    (hc : Text.isDigit c = true ∨ isWordChar c = false) :
    ¬Text.AgreesUpToCase ((c :: rest).takeWhile isWordChar) letters := by
  intro hagrees
  -- the run holds the digit, or it is empty
  rw [List.takeWhile_cons] at hagrees
  split at hagrees
  · next hword =>
    obtain ⟨-, -, -, hdigit⟩ := h.isAsciiLetter_of_mem hagrees List.mem_cons_self
    rcases hc with hc | hc
    · rw [hdigit] at hc
      cases hc
    · rw [hword] at hc
      cases hc
  · exact h.not_agrees_nil hagrees

/-- **Which tokens are operators.** Those at whose position the word of the operator stands. -/
theorem TokenAt.kind_eq_iff (h : TokenAt source position kind) (hop : Reserves letters operator) :
    kind = operator ↔ (wordAt source position).AgreesUpToCase letters := by
  obtain ⟨before, text, after, earlier, rfl, rfl, -, hlexeme, hclosed⟩ := h
  rw [wordAt, List.append_assoc, List.drop_left]
  cases hlexeme with
  | openParen | closeParen | equals =>
    refine iff_of_false (by rintro rfl; cases hop) (hop.not_agrees_takeWhile (.inr ?_))
    simp
  | quoted hq =>
    exact iff_of_false (by rintro rfl; cases hop) (hop.not_agrees_takeWhile (.inr hq.isWordChar))
  | @number c digits hdigits =>
    have hc : Text.isDigit c = true := hdigits c List.mem_cons_self
    exact iff_of_false (by rintro rfl; cases hop) (hop.not_agrees_takeWhile (.inl hc))
  | word hword =>
    -- the run of word characters is the word
    rw [TokenKind.Closed, TokenKind.extendedBy_ofWord] at hclosed
    rw [(takeWhile_append_of_closed hword hclosed).1]
    exact TokenKind.ofWord_eq_iff hop

theorem wordAt_length (source : Text) : wordAt source source.length = [] := by
  rw [wordAt, List.drop_length, List.takeWhile_nil]

theorem wordAt_zero (h : ∀ c ∈ word, isWordChar c = true) : wordAt word 0 = word := by
  rw [wordAt, List.drop_zero, List.takeWhile_eq_self_iff.mpr h]

/-- A word with the letters of an operator is one token. -/
theorem tokenize_of_agrees (hop : Reserves letters operator)
    (hword : ∀ c ∈ word, isWordChar c = true) (hagrees : word.AgreesUpToCase letters) :
    tokenize word = .ok [⟨operator, 0⟩, ⟨.endOfInput, word.length⟩] := by
  cases word with
  | nil => exact absurd hagrees hop.not_agrees_nil
  | cons c rest =>
    obtain ⟨-, -, -, hdigit⟩ := hop.isAsciiLetter_of_mem hagrees List.mem_cons_self
    -- the word starts with a letter, so it is read as a word
    have hlexeme : Lexeme (c :: rest) operator :=
      (TokenKind.ofWord_eq_iff hop).mpr hagrees ▸ .word hword hdigit
    have htiled : Tiled 0 ((c :: rest) ++ []) [] [⟨operator, 0⟩] :=
      .lexeme hlexeme (fun d hd => by cases hd) .nil
    rw [List.append_nil] at htiled
    exact tokenize_of_tiled htiled

/-- **Operators are recognised up to the case of ASCII letters.** A word is the token of an operator
if and only if it has the letters of the operator, each of them small or capital; and in every
filter the tokens of the operator are those at whose positions such a word stands. So no word is an
operator that holds a character beyond ASCII, an underscore, a dot or a digit. -/
theorem operator_iff_agreesUpToCase (hop : Reserves letters operator) :
    (∀ word, (∀ c ∈ word, isWordChar c = true) →
      (tokenize word = .ok [⟨operator, 0⟩, ⟨.endOfInput, word.length⟩] ↔
        word.AgreesUpToCase letters)) ∧
    ∀ source tokens, tokenize source = .ok tokens → ∀ token ∈ tokens,
      (token.kind = operator ↔ (wordAt source token.position).AgreesUpToCase letters) ∧
      ((∃ c ∈ wordAt source token.position,
          0x80 ≤ c.toNat ∨ c = '_' ∨ c = '.' ∨ Text.isDigit c = true) →
        token.kind ≠ operator) := by
  -- a word by itself is a filter, with the token at position zero
  have hfilter : ∀ source tokens, tokenize source = .ok tokens → ∀ token ∈ tokens,
      (token.kind = operator ↔ (wordAt source token.position).AgreesUpToCase letters) := by
    intro source tokens htokens token hmem
    obtain ⟨lexemes, htiled, rfl⟩ := tiled_of_tokenize htokens
    rcases htiled.tokenAt_or_end hmem with htoken | ⟨hend, hlength⟩
    · exact htoken.kind_eq_iff hop
    · -- nothing stands at the end of the filter
      rw [hend, hlength, wordAt_length]
      exact iff_of_false (by rintro rfl; cases hop) hop.not_agrees_nil
  refine ⟨fun word hword => ⟨fun htokens => ?_, tokenize_of_agrees hop hword⟩, ?_⟩
  · have hagrees := (hfilter word _ htokens _ List.mem_cons_self).mp rfl
    rwa [wordAt_zero hword] at hagrees
  · intro source tokens htokens token hmem
    have hiff := hfilter source tokens htokens token hmem
    refine ⟨hiff, ?_⟩
    rintro ⟨c, hc, hother⟩ hkind
    obtain ⟨hascii, hunderscore, hdot, hdigit⟩ := hop.isAsciiLetter_of_mem (hiff.mp hkind) hc
    rcases hother with hcode | rfl | rfl | hdigit'
    · omega
    · exact hunderscore rfl
    · exact hdot rfl
    · rw [hdigit] at hdigit'
      cases hdigit'

/-- The word `nOT` is an operator: its letters are those of `not`, one small and two capital. -/
theorem tokenize_nOT : tokenize "nOT".toList = .ok [⟨.not, 0⟩, ⟨.endOfInput, 3⟩] := by
  have hall : "nOT".toList.all isWordChar = true := by decide
  refine ((operator_iff_agreesUpToCase .not).1 _ (List.all_eq_true.mp hall)).mpr ?_
  exact .cons (.inl rfl) (.cons (.inr rfl) (.cons (.inr rfl) .nil))

end LogSieve
