import LogSieve.Proofs.Filter.Caseless
import LogSieve.Proofs.Record.OwnText

/-!
# Bare words

A word may stand without quotes on the right of a filter and behind the equals sign of a log line.
In the filter it is its own text, whatever dots it has. In the line it is typed: `true` and `false`
are truth values and digits are numbers. A word that does not start with a digit is no number, and a
truth value is compared by the word that it is written with, so that the two sides meet in the texts
(`Scalar.comparedText_coerce_word`).

Other words of the line do not get in the way. A name has the value of the last word with that name
(`Record.get?_ofWords_append_cons`), wherever the words before it have put the field.

The main statement is `holds_bare_word_iff`.
-/

namespace LogSieve

/-! ### The record of several words -/

namespace Record

/-- A word gives a name and a value that it consists of, with an equals sign between them. -/
theorem eq_append_of_pair? {word : Text} {pair : Text × Text} (h : pair? word = some pair) :
    word = pair.1 ++ '=' :: pair.2 := by
  have hword : word.takeWhile (· ≠ '=') ++ word.dropWhile (· ≠ '=') = word :=
    List.takeWhile_append_dropWhile
  -- the value begins at the first character that is an equals sign
  have hstop := head?_dropWhile_eq_false (· ≠ '=') word
  unfold pair? at h
  split at h
  · cases h
  · cases h
  · next c value hdrop _ =>
    cases h
    rw [hdrop] at hstop
    have hc : c = '=' := of_not_not (of_decide_eq_false (hstop c rfl))
    rw [hdrop, hc] at hword
    exact hword.symm

/-- Fields of other names leave a field as it is. -/
theorem get?_foldl_insert_of_ne {name : Text} {pairs : List (Text × Text)} (value : Text → Json)
    (h : ∀ pair ∈ pairs, pair.1 ≠ name) (record : Record) :
    (pairs.foldl (fun record pair => record.insert pair.1 (value pair.2)) record).get? name =
      record.get? name := by
  induction pairs generalizing record with
  | nil => rfl
  | cons pair pairs ih =>
    rw [List.forall_mem_cons] at h
    rw [List.foldl_cons, ih h.2, Fields.get?_insert, if_neg (Ne.symm h.1)]

/-- **Of the words with a name, the last one counts.** -/
theorem get?_ofWords_append_cons {name value : Text} {after : List Text} (hne : name ≠ [])
    (hname : '=' ∉ name) (hafter : ∀ other ∈ after, ¬name ++ ['='] <+: other)
    (coerceScalars : Bool) (before : List Text) :
    (ofWords coerceScalars (before ++ (name ++ '=' :: value) :: after)).get? name =
      some (wordValue coerceScalars value) := by
  -- a pair of that name would come from a word that begins with it
  have hothers : ∀ pair ∈ after.filterMap pair?, pair.1 ≠ name := by
    intro pair hpair heq
    obtain ⟨other, hother, hpair⟩ := List.mem_filterMap.mp hpair
    refine hafter other hother ⟨pair.2, ?_⟩
    rw [List.append_assoc, List.singleton_append, ← heq]
    exact (eq_append_of_pair? hpair).symm
  -- whatever was put in before, the word puts its value in, and nothing after it changes that
  rw [ofWords, List.filterMap_append, List.filterMap_cons_some (pair?_name_value hne hname),
    List.foldl_append, List.foldl_cons, get?_foldl_insert_of_ne _ hothers, Fields.get?_insert,
    if_pos rfl]

/-- **The record of a line with several words**, one of them with the name and none with the name
behind it. -/
theorem exists_ofLine?_of_words {line name value : Text} {before after : List Text}
    (hne : name ≠ []) (hname : '=' ∉ name)
    (hwords : Text.words line = before ++ (name ++ '=' :: value) :: after)
    (hafter : ∀ other ∈ after, ¬name ++ ['='] <+: other)
    (hjson : Json.parse? (Text.trim line) = none) :
    ∃ record, ofLine? {} line = some record ∧ record.get? name = some (Scalar.coerce value) := by
  have hget : (ofWords true (Text.words (Text.trim line))).get? name =
      some (Scalar.coerce value) := by
    rw [Text.words_trim, hwords]
    exact get?_ofWords_append_cons hne hname hafter true before
  cases hrecord : ofWords true (Text.words (Text.trim line)) with
  | nil =>
    -- there is a field at least
    rw [hrecord] at hget
    cases hget
  | cons field fields =>
    refine ⟨field :: fields, ?_, hrecord ▸ hget⟩
    unfold ofLine?
    simp only [if_true, hjson, ofPairs?, hrecord]

end Record

/-! ### What a word is compared by -/

namespace Scalar

section Word

variable {word : Text} (hword : ∀ c ∈ word, isWordChar c = true)
  (hdigit : ∀ c ∈ word.head?, Text.isDigit c = false)

include hword

/-- There is no quote in a word. -/
theorem isQuote_eq_false_of_word : ∀ c ∈ word, isQuote c = false := by
  intro c hc
  rw [Bool.eq_false_iff]
  intro hquote
  have hclass := hword c hc
  rw [(isQuote_iff.mp hquote).isWordChar] at hclass
  cases hclass

include hdigit

/-- A word that does not start with a digit is no numeral: there is no sign in it, and digits of
other scripts do not count. -/
theorem numeral?_eq_none_of_word : numeral? word = none := by
  rw [Option.eq_none_iff_forall_not_mem]
  intro numeral hnumeral
  obtain ⟨h, rfl⟩ := numeral?_eq_some_iff.mp hnumeral
  obtain ⟨negative, whole, fraction⟩ := numeral
  obtain ⟨hdigits, hne⟩ := h.whole
  -- a numeral begins with a minus sign or with a digit
  cases negative with
  | true => exact absurd rfl (ne_of_isWordChar (hword '-' List.mem_cons_self) (by decide))
  | false =>
    cases whole with
    | nil => exact hne rfl
    | cons c rest =>
      have hc := hdigit c rfl
      rw [hdigits c List.mem_cons_self] at hc
      cases hc

/-- **A word is compared by itself**, whatever value it is. -/
theorem comparedText_coerce_word : (coerce word).comparedText = word := by
  unfold coerce
  -- a truth value is written like the word that it was
  split
  · next htrue => exact htrue.symm
  split
  · next hfalse => exact hfalse.symm
  rw [numeral?_eq_none_of_word hword hdigit, Option.bind_none,
    stripQuotes_eq_self (isQuote_eq_false_of_word hword)]
  rfl

end Word

end Scalar

/-! ### The answer -/

/-- **Bare words agree between filters and lines.** For every name that a filter can ask for without
a dot and every word that may stand in a filter, the filter `name = word` compiles. Let another
word, which may be reserved, not start with a digit. The line `name=other` gives a record, and so
does every line that has this among its words and no word with the name behind it, unless it writes
a value once the blanks at its ends are cut off. The record satisfies the filter if and only if the
two words have the same lower-case form. -/
theorem holds_bare_word_iff {name word other : Text} (hname : Lexeme name (.identifier name))
    (hdot : '.' ∉ name) (hword : Lexeme word (.identifier word))
    (hother : ∀ c ∈ other, isWordChar c = true)
    (hdigit : ∀ c ∈ other.head?, Text.isDigit c = false) :
    ∃ filter, compile (fieldTest name word) = .ok filter ∧
      (∃ record, Record.ofLine? {} (name ++ '=' :: other) = some record ∧
        (filter.holds record = true ↔ Text.lower word = Text.lower other)) ∧
      ∀ (line : Text) (before after : List Text),
        Text.words line = before ++ (name ++ '=' :: other) :: after →
        (∀ behind ∈ after, ¬name ++ ['='] <+: behind) →
        Json.parse? (Text.trim line) = none →
        ∃ record, Record.ofLine? {} line = some record ∧
          (filter.holds record = true ↔ Text.lower word = Text.lower other) := by
  have hconstant : Derives .rightOperand [.identifier word] (.literal (.string word)) 0 :=
    .word fun hdepth : 0 ≠ 0 => absurd rfl hdepth
  -- only the value of the name matters, and it is compared by the word
  have hholds : ∀ record : Record, record.get? name = some (Scalar.coerce other) →
      ((Expr.equals (.field ⟨[name]⟩) (.literal (.string word))).holds record = true ↔
        Text.lower word = Text.lower other) := by
    intro record hfield
    rw [holds_fieldTest hfield, Literal.value, Json.equals_string_right, Json.foldedText,
      Scalar.comparedText_coerce_word hother hdigit, beq_iff_eq, eq_comm]
    rfl
  obtain ⟨c, rest, hcons, hchars, -⟩ := hname.exists_cons_of_identifier
  refine ⟨_, compile_fieldTest hname hdot hword hconstant, ?_, ?_⟩
  · have hblank : ∀ c ∈ other, Text.isBlank c = false := fun c hc =>
      isBlank_eq_false_of_isWordChar (hother c hc)
    refine ⟨_, Record.ofLine?_name_value hname hblank, hholds _ ?_⟩
    rw [Fields.get?, if_pos rfl]
  · intro line before after hwords hafter hjson
    have hne : name ≠ [] := hcons ▸ List.cons_ne_nil c rest
    have hequals : '=' ∉ name := fun h => absurd (hchars '=' h) (by decide +kernel)
    obtain ⟨record, hrecord, hfield⟩ :=
      Record.exists_ofLine?_of_words hne hequals hwords hafter hjson
    exact ⟨record, hrecord, hholds record hfield⟩

/-- A truth value is asked for by its word in another case, in a line with a number of the same name
before it and a word of another name behind it. -/
theorem holds_bare_word_true :
    ∃ filter record, compile "k = True".toList = .ok filter ∧
      Record.ofLine? {} "k=1 k=true a=2 ".toList = some record ∧ filter.holds record = true := by
  have hword : Lexeme "True".toList (.identifier "True".toList) :=
    lexeme_word (by decide +kernel) (by decide)
  have hother : ∀ c ∈ "true".toList, isWordChar c = true := List.all_eq_true.mp (by decide +kernel)
  have hdigit : ∀ c ∈ "true".toList.head?, Text.isDigit c = false := by
    intro c hc
    obtain rfl : 't' = c := Option.some.inj hc
    decide
  obtain ⟨filter, hcompile, -, hline⟩ :=
    holds_bare_word_iff lexeme_k (by decide) hword hother hdigit
  have hwords : Text.words "k=1 k=true a=2 ".toList =
      ["k=1".toList] ++ "k=true".toList :: ["a=2".toList] := by decide +kernel
  have hjson : Json.parse? (Text.trim "k=1 k=true a=2 ".toList) = none := by
    have htrim : Text.trim "k=1 k=true a=2 ".toList = "k=1 k=true a=2".toList := by decide +kernel
    rw [htrim]
    exact Json.parse?_word (by decide +kernel) (by decide) (by decide)
  obtain ⟨record, hrecord, hholds⟩ := hline _ _ _ hwords (by decide) hjson
  exact ⟨filter, record, hcompile, hrecord, hholds.mpr (by decide +kernel)⟩

end LogSieve
