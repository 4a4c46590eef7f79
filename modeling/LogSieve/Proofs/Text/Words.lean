import LogSieve.Text.Blank
import Mathlib.Data.List.TakeWhile

/-!
# Words and blanks

The words of a text are split at every blank (`words_append_blank`), so blanks at its ends add none:
a line has the same words before and after they are cut off (`words_trim`). A text without blanks is
left as it is, and is one word.

How a line is made up of words and blanks is said by `HasWords`, whatever the blanks are; its words
are the only ones that it is made up of (`words_eq_iff`).
-/

namespace LogSieve.Text

/-! ### Without blanks -/

section NoBlanks

variable {text : Text} (h : ∀ c ∈ text, isBlank c = false)

include h

theorem trimStart_eq_self : trimStart text = text := by
  cases text with
  | nil => rfl
  | cons c rest => exact List.dropWhile_cons_of_neg (by rw [h c List.mem_cons_self]; decide)

theorem trim_eq_self : trim text = text := by
  have hreverse : ∀ c ∈ text.reverse, isBlank c = false := fun c hc => h c (List.mem_reverse.mp hc)
  rw [trim, trimStart_eq_self h, trimStart_eq_self hreverse, List.reverse_reverse]

theorem words_eq_singleton (hne : text ≠ []) : words text = [text] := by
  rw [words, List.splitOnP_eq_singleton h, List.filter_cons_of_pos]
  · rfl
  · rw [Bool.not_eq_true', List.isEmpty_eq_false_iff]
    exact hne

end NoBlanks

/-! ### Around blanks -/

theorem words_nil : words [] = [] := by
  rw [words, List.splitOnP_nil]
  rfl

/-- **A blank parts the words before it from those behind it.** -/
theorem words_append_blank {c : Char} (hc : isBlank c = true) (before after : Text) :
    words (before ++ c :: after) = words before ++ words after := by
  rw [words, List.splitOnP_append_cons before after hc, List.filter_append]
  rfl

theorem words_blank_cons {c : Char} (hc : isBlank c = true) (text : Text) :
    words (c :: text) = words text := by
  -- nothing stands before the first blank
  have hfirst := words_append_blank hc [] text
  rwa [List.nil_append, words_nil, List.nil_append] at hfirst

section Blanks

variable {blanks : Text} (h : ∀ c ∈ blanks, isBlank c = true) (text : Text)

include h

theorem words_blanks_append : words (blanks ++ text) = words text := by
  induction blanks with
  | nil => rfl
  | cons c blanks ih =>
    rw [List.forall_mem_cons] at h
    rw [List.cons_append, words_blank_cons h.1, ih h.2]

theorem words_append_blanks : words (text ++ blanks) = words text := by
  induction blanks generalizing text with
  | nil => rw [List.append_nil]
  | cons c blanks ih =>
    rw [List.forall_mem_cons] at h
    -- behind the first blank there are blanks only, and no words
    have hrest : words blanks = [] := by
      have hnil := ih h.2 []
      rwa [List.nil_append, words_nil] at hnil
    rw [words_append_blank h.1, hrest, List.append_nil]

end Blanks

/-- What is cut off at the start is blank. -/
theorem exists_trimStart (text : Text) :
    ∃ blanks, (∀ c ∈ blanks, isBlank c = true) ∧ text = blanks ++ trimStart text :=
  ⟨text.takeWhile isBlank, fun _ hc => List.mem_takeWhile_imp hc,
    List.takeWhile_append_dropWhile.symm⟩

/-- **Cutting blanks off the ends leaves the words.** -/
theorem words_trim (text : Text) : words (trim text) = words text := by
  obtain ⟨before, hbefore, hstart⟩ := exists_trimStart text
  obtain ⟨after, hafter, hend⟩ := exists_trimStart (trimStart text).reverse
  have hblanks : ∀ c ∈ after.reverse, isBlank c = true := fun c hc =>
    hafter c (List.mem_reverse.mp hc)
  -- the end is cut off as the start of the reversed text
  have htrim : trimStart text = trim text ++ after.reverse := by
    rw [trim, ← List.reverse_append, ← hend, List.reverse_reverse]
  calc words (trim text) = words (trim text ++ after.reverse) :=
        (words_append_blanks hblanks _).symm
    _ = words (trimStart text) := by rw [← htrim]
    _ = words (before ++ trimStart text) := (words_blanks_append hbefore _).symm
    _ = words text := by rw [← hstart]

/-! ### What a line is made up of -/

/-- The line is made up of the words in this order and of blanks: any blanks, any number of them,
but at least one between two words. -/
inductive HasWords : Text → List Text → Prop where
  | nil : HasWords [] []
  | blank {c : Char} {line : Text} {words : List Text} (hc : isBlank c = true)
      (h : HasWords line words) : HasWords (c :: line) words
  | word {word line : Text} {words : List Text} (hne : word ≠ [])
      (hword : ∀ c ∈ word, isBlank c = false) (hend : ∀ c ∈ line.head?, isBlank c = true)
      (h : HasWords line words) : HasWords (word ++ line) (word :: words)

theorem HasWords.words_eq {line : Text} {words : List Text} (h : HasWords line words) :
    Text.words line = words := by
  induction h with
  | nil => exact words_nil
  | blank hc _ ih => rw [words_blank_cons hc, ih]
  | @word word line words hne hword hend _ ih =>
    -- the word ends with the line or before a blank
    cases line with
    | nil =>
      rw [words_nil] at ih
      rw [List.append_nil, words_eq_singleton hword hne, ← ih]
    | cons c line =>
      have hc := hend c rfl
      rw [words_blank_cons hc] at ih
      rw [words_append_blank hc, words_eq_singleton hword hne, ih, List.singleton_append]

/-- A character that is not blank starts a word of its own or makes the first word longer. -/
theorem HasWords.exists_cons {c : Char} {line : Text} {words : List Text} (hc : isBlank c = false)
    (h : HasWords line words) : ∃ words', HasWords (c :: line) words' := by
  have hown : ∀ d ∈ [c], isBlank d = false := List.forall_mem_singleton.mpr hc
  -- by what stands behind the character: nothing, a blank, or the rest of its word
  cases h with
  | nil => exact ⟨[[c]], .word (List.cons_ne_nil c []) hown (fun _ hd => nomatch hd) .nil⟩
  | @blank d line _ hd h =>
    refine ⟨[c] :: words, .word (List.cons_ne_nil c []) hown ?_ (.blank hd h)⟩
    rintro _ ⟨⟩
    exact hd
  | @word word line words _ hword hend h =>
    exact ⟨(c :: word) :: words,
      .word (List.cons_ne_nil c word) (List.forall_mem_cons.mpr ⟨hc, hword⟩) hend h⟩

theorem exists_hasWords (line : Text) : ∃ words, HasWords line words := by
  -- on the line: each character is a blank or belongs to a word
  induction line with
  | nil => exact ⟨[], .nil⟩
  | cons c line ih =>
    obtain ⟨words, h⟩ := ih
    cases hc : isBlank c with
    | true => exact ⟨words, .blank hc h⟩
    | false => exact h.exists_cons hc

/-- **A line is made up of its words**, and of no others. -/
theorem words_eq_iff {line : Text} {words : List Text} :
    Text.words line = words ↔ HasWords line words := by
  refine ⟨?_, HasWords.words_eq⟩
  rintro rfl
  -- the line is made up of some words, and these are its words
  obtain ⟨words, h⟩ := exists_hasWords line
  rwa [h.words_eq]

end LogSieve.Text
