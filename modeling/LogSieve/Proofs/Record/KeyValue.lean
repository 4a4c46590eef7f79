import LogSieve.Proofs.Json.Ordered
import LogSieve.Proofs.Record.BareWord
import Mathlib.Logic.Relation

/-!
# Records of key=value lines

A line that is not read as a value is read word by word. A word gives a name a value if its first
equals sign stands behind at least one character (`Gives`), and of the words with one name the last
one counts (`LastGives`). The names are put into the record one by one, each at its place, so that
the record is known from the values that its names have (`get?_ofWords_eq_some_iff`).

Therefore a record does not change with words that give nothing, with the order of words that give
different names, or with the blanks between the words. `Rearrangement` is one such change of the
words. It leaves the last word of every name (`Rearrangement.sameLast`), and so does any number of
them (`sameLast_of_eqvGen`).

The main statement is `ofLine?_keyValue`.
-/

namespace LogSieve

namespace Record

variable {word name value : Text} {words words' : List Text} {coerceScalars : Bool}

/-! ### What a word gives -/

/-- The word gives the name the value: between them stands its first equals sign. -/
structure Gives (word name value : Text) : Prop where
  eq_append : word = name ++ '=' :: value
  ne_nil : name ≠ []
  not_mem : '=' ∉ name

/-- The word gives the name some value. -/
def Names (word name : Text) : Prop :=
  ∃ value, Gives word name value

theorem pair?_eq_some_iff : pair? word = some (name, value) ↔ Gives word name value := by
  constructor
  · intro h
    have heq := eq_append_of_pair? h
    unfold pair? at h
    split at h
    · cases h
    · cases h
    · next hne =>
      cases h
      -- the name was taken as long as no equals sign comes
      refine ⟨heq, hne, fun hmem => ?_⟩
      have hequals := List.mem_takeWhile_imp hmem
      exact of_decide_eq_true hequals rfl
  · rintro ⟨rfl, hne, hname⟩
    exact pair?_name_value hne hname

/-- A word gives one name only. -/
theorem Names.name_eq {other : Text} (h : Names word name) (h' : Names word other) :
    name = other := by
  obtain ⟨value, hvalue⟩ := h
  obtain ⟨value', hvalue'⟩ := h'
  have hpair := pair?_eq_some_iff.mpr hvalue
  rw [pair?_eq_some_iff.mpr hvalue', Option.some.injEq, Prod.mk.injEq] at hpair
  exact hpair.1.symm

/-- A word without an equals sign behind its first character gives nothing. -/
theorem not_names (h : '=' ∉ word ∨ ['='] <+: word) (name : Text) : ¬Names word name := by
  rintro ⟨value, rfl, hne, hname⟩
  rcases h with h | ⟨rest, hrest⟩
  · exact h (List.mem_append_right _ List.mem_cons_self)
  · -- an equals sign at the start would be the first one, with no name before it
    cases name with
    | nil => exact hne rfl
    | cons c name =>
      obtain ⟨rfl, -⟩ := List.cons.inj hrest
      exact hname List.mem_cons_self

/-- A word that gives a name starts with the name and an equals sign. -/
theorem names_iff (hne : name ≠ []) (hname : '=' ∉ name) :
    Names word name ↔ name ++ ['='] <+: word := by
  constructor
  · rintro ⟨value, rfl, -⟩
    exact ⟨value, List.append_assoc name ['='] value⟩
  · rintro ⟨value, rfl⟩
    exact ⟨value, List.append_assoc name ['='] value, hne, hname⟩

/-! ### The last word with a name -/

/-- The last one of the words that give the name gives it the value. -/
def LastGives (words : List Text) (name value : Text) : Prop :=
  ∃ before word after, words = before ++ word :: after ∧ Gives word name value ∧
    ∀ other ∈ after, ¬Names other name

/-- A word counts for its name if no word behind it gives the name. -/
theorem lastGives_append : LastGives (words ++ words') name value ↔
    LastGives words' name value ∨
      LastGives words name value ∧ ∀ other ∈ words', ¬Names other name := by
  constructor
  · rintro ⟨before, word, after, heq, hgives, hafter⟩
    -- the word stands in the second list, at its start, or in the first list
    obtain ⟨middle, -, rfl⟩ | ⟨middle, rfl, hrest⟩ := List.append_eq_append_iff.mp heq
    · exact .inl ⟨middle, word, after, rfl, hgives, hafter⟩
    cases middle with
    | nil => exact .inl ⟨[], word, after, hrest.symm, hgives, hafter⟩
    | cons first middle =>
      rw [List.cons_append, List.cons.injEq] at hrest
      -- what is behind the word in the first list and all of the second list give the name no value
      obtain ⟨rfl, rfl⟩ := hrest
      rw [List.forall_mem_append] at hafter
      exact .inr ⟨⟨before, word, middle, rfl, hgives, hafter.1⟩, hafter.2⟩
  · rintro (⟨before, word, after, rfl, hgives, hafter⟩ |
      ⟨⟨before, word, after, rfl, hgives, hafter⟩, hrest⟩)
    · exact ⟨words ++ before, word, after, (List.append_assoc _ _ _).symm, hgives, hafter⟩
    · exact ⟨before, word, after ++ words', List.append_assoc _ _ _, hgives,
        List.forall_mem_append.mpr ⟨hafter, hrest⟩⟩

/-- If any word gives the name, there is a last one. -/
theorem exists_lastGives_iff :
    (∃ value, LastGives words name value) ↔ ∃ word ∈ words, Names word name := by
  constructor
  · rintro ⟨value, before, word, after, rfl, hgives, -⟩
    exact ⟨word, List.mem_append_right _ List.mem_cons_self, value, hgives⟩
  · intro h
    induction words with
    | nil =>
      obtain ⟨word, hmem, -⟩ := h
      exact absurd hmem List.not_mem_nil
    | cons first words ih =>
      -- on the words from the front: of two words with the name the later one counts
      by_cases hlater : ∃ other ∈ words, Names other name
      · obtain ⟨value, hvalue⟩ := ih hlater
        have hcons : LastGives ([first] ++ words) name value := lastGives_append.mpr (.inl hvalue)
        exact ⟨value, hcons⟩
      · -- no later word gives the name, so that it is the first one
        obtain ⟨word, hmem, hnames⟩ := h
        rcases List.mem_cons.mp hmem with rfl | hmem
        · obtain ⟨value, hvalue⟩ := hnames
          exact ⟨value, [], word, words, rfl, hvalue, fun other hother hnames =>
            hlater ⟨other, hother, hnames⟩⟩
        · exact absurd ⟨word, hmem, hnames⟩ hlater

/-- Among words of different names every word is the last one with its name. -/
theorem lastGives_iff_of_pairwise
    (h : words.Pairwise fun word other => ∀ name, Names word name → ¬Names other name) :
    LastGives words name value ↔ ∃ word ∈ words, Gives word name value := by
  constructor
  · rintro ⟨before, word, after, rfl, hgives, -⟩
    exact ⟨word, List.mem_append_right _ List.mem_cons_self, hgives⟩
  · rintro ⟨word, hmem, hgives⟩
    obtain ⟨before, after, rfl⟩ := List.append_of_mem hmem
    have hword := (List.pairwise_cons.mp (List.pairwise_append.mp h).2.1).1
    exact ⟨before, word, after, rfl, hgives, fun other hother =>
      hword other hother name ⟨value, hgives⟩⟩

/-! ### Changes of the words -/

/-- A change of the words that gives no name another value: a word that gives nothing comes in, or
words of different names change places. -/
inductive Rearrangement : List Text → List Text → Prop where
  | insert {before after : List Text} {word : Text} (h : '=' ∉ word ∨ ['='] <+: word) :
      Rearrangement (before ++ after) (before ++ word :: after)
  | reorder {before block block' after : List Text} (hperm : block.Perm block')
      (hnames : block.Pairwise fun word other => ∀ name, Names word name → ¬Names other name) :
      Rearrangement (before ++ (block ++ after)) (before ++ (block' ++ after))

/-- The same words are the last ones with their names, as far as their values go. -/
def SameLast (words words' : List Text) : Prop :=
  ∀ name value, LastGives words name value ↔ LastGives words' name value

theorem SameLast.names_iff (h : SameLast words words') (name : Text) :
    (∀ other ∈ words, ¬Names other name) ↔ ∀ other ∈ words', ¬Names other name := by
  have hexists : (∃ other ∈ words, Names other name) ↔ ∃ other ∈ words', Names other name := by
    rw [← exists_lastGives_iff, ← exists_lastGives_iff]
    exact exists_congr (h name)
  simpa only [not_exists, not_and] using not_congr hexists

theorem SameLast.append {more more' : List Text} (h : SameLast words words')
    (hmore : SameLast more more') : SameLast (words ++ more) (words' ++ more') := by
  intro name value
  rw [lastGives_append, lastGives_append, h name value, hmore name value, hmore.names_iff name]

/-- **A change of the words keeps the last word of every name.** -/
theorem Rearrangement.sameLast (h : Rearrangement words words') : SameLast words words' := by
  have hrefl : ∀ words, SameLast words words := fun _ _ _ => Iff.rfl
  cases h with
  | @insert before after word hword =>
    -- a word that gives nothing is like no word
    have hnone : SameLast [] [word] := by
      intro name value
      have hno : ¬∃ other ∈ [word], Names other name := by
        rintro ⟨other, hother, hnames⟩
        exact not_names hword name (List.mem_singleton.mp hother ▸ hnames)
      refine iff_of_false ?_ fun h => hno (exists_lastGives_iff.mp ⟨value, h⟩)
      rintro ⟨_, _, _, heq, -⟩
      exact absurd heq.symm (List.append_ne_nil_of_right_ne_nil _ (List.cons_ne_nil _ _))
    exact (hrefl before).append (hnone.append (hrefl after))
  | @reorder before block block' after hperm hnames =>
    have hblock : SameLast block block' := by
      intro name value
      -- with different names every word is a last one, and which words there are has not changed
      have hnames' := hperm.pairwise hnames fun h name hother hname => h name hname hother
      rw [lastGives_iff_of_pairwise hnames, lastGives_iff_of_pairwise hnames']
      exact exists_congr fun word => and_congr_left' hperm.mem_iff
    exact (hrefl before).append (hblock.append (hrefl after))

/-- Changes one after the other, and back, keep the last word of every name. -/
theorem sameLast_of_eqvGen (h : Relation.EqvGen Rearrangement words words') :
    SameLast words words' := by
  -- giving the same names the same values is an equivalence already
  induction h with
  | rel _ _ h => exact h.sameLast
  | refl => exact fun _ _ => Iff.rfl
  | symm _ _ _ ih => exact fun name value => (ih name value).symm
  | trans _ _ _ _ _ ih ih' => exact fun name value => (ih name value).trans (ih' name value)

/-! ### The record of words -/

theorem ordered_foldl_insert {record : Record} (h : record.Ordered) (pairs : List (Text × Text))
    (value : Text → Json) :
    (pairs.foldl (fun record pair => record.insert pair.1 (value pair.2)) record).Ordered := by
  induction pairs generalizing record with
  | nil => exact h
  | cons pair pairs ih => exact ih (h.insert pair.1 (value pair.2))

/-- The names of a record of words ascend. -/
theorem ordered_ofWords (coerceScalars : Bool) (words : List Text) :
    (ofWords coerceScalars words).Ordered :=
  ordered_foldl_insert List.Pairwise.nil _ _

theorem names_foldl_insert_congr {record record' : Record} (h : record.names = record'.names)
    (pairs : List (Text × Text)) (value value' : Text → Json) :
    (pairs.foldl (fun record pair => record.insert pair.1 (value pair.2)) record).names =
      (pairs.foldl (fun record pair => record.insert pair.1 (value' pair.2)) record').names := by
  induction pairs generalizing record record' with
  | nil => exact h
  | cons pair pairs ih => exact ih (Fields.names_insert_congr h pair.1 _ _)

/-- **The names do not depend on whether values are typed.** -/
theorem names_ofWords_eq (coerceScalars coerceScalars' : Bool) (words : List Text) :
    (ofWords coerceScalars words).names = (ofWords coerceScalars' words).names :=
  names_foldl_insert_congr rfl _ _ _

theorem get?_ofWords_eq_none (h : ∀ word ∈ words, ¬Names word name) :
    (ofWords coerceScalars words).get? name = none := by
  rw [ofWords, get?_foldl_insert_of_ne _ ?_]
  · rfl
  · -- a pair with the name would come from a word that gives it
    rintro pair hpair rfl
    obtain ⟨word, hword, hpair⟩ := List.mem_filterMap.mp hpair
    exact h word hword ⟨pair.2, pair?_eq_some_iff.mp hpair⟩

theorem get?_ofWords_of_lastGives (h : LastGives words name value) :
    (ofWords coerceScalars words).get? name = some (wordValue coerceScalars value) := by
  obtain ⟨before, word, after, rfl, ⟨rfl, hne, hname⟩, hafter⟩ := h
  exact get?_ofWords_append_cons hne hname
    (fun other hother hprefix => hafter other hother ((names_iff hne hname).mpr hprefix)) _ _

/-- **A name has the value of the last word with that name**, and no value without such a word. -/
theorem get?_ofWords_eq_some_iff {json : Json} :
    (ofWords coerceScalars words).get? name = some json ↔
      ∃ value, LastGives words name value ∧ json = wordValue coerceScalars value := by
  constructor
  · intro h
    by_cases hnames : ∃ word ∈ words, Names word name
    · obtain ⟨value, hvalue⟩ := exists_lastGives_iff.mpr hnames
      rw [get?_ofWords_of_lastGives hvalue] at h
      exact ⟨value, hvalue, (Option.some.inj h).symm⟩
    · rw [get?_ofWords_eq_none fun word hword hname => hnames ⟨word, hword, hname⟩] at h
      cases h
  · rintro ⟨value, hvalue, rfl⟩
    exact get?_ofWords_of_lastGives hvalue

theorem mem_names_ofWords_iff :
    name ∈ (ofWords coerceScalars words).names ↔ ∃ word ∈ words, Names word name := by
  -- both sides ask for a value, so that the equivalence for values settles it
  rw [Fields.mem_names_iff, ← exists_lastGives_iff]
  constructor
  · rintro ⟨json, hjson⟩
    obtain ⟨value, hvalue, -⟩ := get?_ofWords_eq_some_iff.mp hjson
    exact ⟨value, hvalue⟩
  · rintro ⟨value, hvalue⟩
    exact ⟨_, get?_ofWords_of_lastGives hvalue⟩

theorem ofWords_eq_nil_iff :
    ofWords coerceScalars words = [] ↔ ∀ word ∈ words, ∀ name, ¬Names word name := by
  constructor
  · intro hnil word hword name hname
    have hmem : name ∈ (ofWords coerceScalars words).names :=
      mem_names_ofWords_iff.mpr ⟨word, hword, hname⟩
    rw [hnil] at hmem
    exact absurd hmem List.not_mem_nil
  · intro h
    -- records in ascending order are equal if every name has the same value in them
    refine (ordered_ofWords coerceScalars words).ext List.Pairwise.nil fun name => ?_
    exact get?_ofWords_eq_none fun word hword => h word hword name

/-- **Words with the same last word of every name give the same record.** -/
theorem ofWords_eq_of_sameLast (h : SameLast words words') (coerceScalars : Bool) :
    ofWords coerceScalars words = ofWords coerceScalars words' := by
  -- the order of the names is settled by the names, so only their values are to be compared
  refine (ordered_ofWords _ _).ext (ordered_ofWords _ _) fun name => Option.ext fun json => ?_
  rw [get?_ofWords_eq_some_iff, get?_ofWords_eq_some_iff]
  exact exists_congr fun value => and_congr_left' (h name value)

/-! ### The record of a line -/

/-- The line is read word by word: values are not looked for, or the line writes none. -/
def ReadsWords (rules : InputRules) (line : Text) : Prop :=
  rules.keyValue = true ∧ (rules.json = true → Json.parse? (Text.trim line) = none)

theorem ofPairs?_eq_none_iff {line : Text} :
    ofPairs? coerceScalars line = none ↔ ofWords coerceScalars (Text.words line) = [] := by
  unfold ofPairs?
  split
  · next h => exact iff_of_true rfl h
  · next h => exact iff_of_false (Option.some_ne_none _) (h ·)

theorem ofPairs?_eq_some {line : Text} {record : Record}
    (h : ofPairs? coerceScalars line = some record) :
    record = ofWords coerceScalars (Text.words line) := by
  unfold ofPairs? at h
  split at h
  · cases h
  · exact (Option.some.inj h).symm

theorem ReadsWords.ofLine? {rules : InputRules} {line : Text} (h : ReadsWords rules line) :
    ofLine? rules line = ofPairs? rules.coerceScalars line := by
  -- either nothing is looked for, or nothing is found
  have hjson : (if rules.json then Json.parse? (Text.trim line) else none) = none := by
    split
    · next hjson => exact h.2 hjson
    · rfl
  unfold Record.ofLine?
  simp only [hjson, if_pos h.1, ofPairs?, Text.words_trim]

theorem map_names_ofPairs? (coerceScalars coerceScalars' : Bool) (line : Text) :
    (ofPairs? coerceScalars line).map Fields.names =
      (ofPairs? coerceScalars' line).map Fields.names := by
  have hnames := names_ofWords_eq coerceScalars coerceScalars' (Text.words line)
  unfold ofPairs?
  -- records with the same names are both empty or neither of them is
  generalize ofWords coerceScalars (Text.words line) = record at hnames
  generalize ofWords coerceScalars' (Text.words line) = record' at hnames
  cases record with
  | nil =>
    cases record' with
    | nil => rfl
    | cons => cases hnames
  | cons =>
    cases record' with
    | nil => cases hnames
    | cons => exact congrArg some hnames

/-- **Lines of key=value words.** Let a line be read word by word, either because values are not
looked for or because it writes none.

* The line is made up of words and blanks, and gives no record exactly if no word gives a name. In
  the record that it gives otherwise, the names are those that words give, in ascending order, and
  each has what the last word with the name gives it: a text, or the value of the text where texts
  are typed.
* Lines give the same record if the words of one are made those of the other by putting in or
  leaving out words without an equals sign or with one at the start, and by changing the order of
  neighbours that give different names, whatever the blanks of the lines are.

For every line, whether texts are typed has no influence on the names or on whether there is a
record. -/
theorem ofLine?_keyValue (rules : InputRules) :
    (∀ line, ReadsWords rules line → ∃ words, Text.HasWords line words ∧
      (ofLine? rules line = none ↔ ∀ word ∈ words, ∀ name, ¬Names word name) ∧
      ∀ record, ofLine? rules line = some record →
        record.Ordered ∧
        (∀ name, name ∈ record.names ↔ ∃ word ∈ words, Names word name) ∧
        ∀ name json, record.get? name = some json ↔ ∃ value, LastGives words name value ∧
          json = if rules.coerceScalars then Scalar.coerce value else .string value) ∧
    (∀ line line' words words', ReadsWords rules line → ReadsWords rules line' →
      Text.HasWords line words → Text.HasWords line' words' →
      Relation.EqvGen Rearrangement words words' → ofLine? rules line = ofLine? rules line') ∧
    ∀ line coerceScalars,
      (ofLine? { rules with coerceScalars := coerceScalars } line).map Fields.names =
        (ofLine? rules line).map Fields.names := by
  refine ⟨?_, ?_, ?_⟩
  · intro line hline
    refine ⟨Text.words line, Text.words_eq_iff.mp rfl, ?_, ?_⟩
    · rw [hline.ofLine?, ofPairs?_eq_none_iff, ofWords_eq_nil_iff]
    · intro record hrecord
      rw [hline.ofLine?] at hrecord
      obtain rfl := ofPairs?_eq_some hrecord
      exact ⟨ordered_ofWords _ _, fun name => mem_names_ofWords_iff,
        fun name json => get?_ofWords_eq_some_iff⟩
  · intro line line' words words' hline hline' hwords hwords' hchange
    rw [hline.ofLine?, hline'.ofLine?, ofPairs?, ofPairs?, hwords.words_eq, hwords'.words_eq,
      ofWords_eq_of_sameLast (sameLast_of_eqvGen hchange)]
  · intro line coerceScalars
    unfold Record.ofLine?
    dsimp only
    -- what the line writes as a value has its own types
    generalize (if rules.json then Json.parse? (Text.trim line) else none) = written
    cases written with
    | some value => cases value <;> rfl
    | none =>
      cases rules.keyValue with
      | false => rfl
      | true => exact map_names_ofPairs? _ _ _

/-- Lines with the same words but for a lone word and the order of two names. The name that is given
twice has its last value. -/
theorem ofLine?_keyValue_swapped :
    ReadsWords {} " GET a=1 b=x  a=2".toList ∧ ReadsWords {} "b=x\ta=1 a=2".toList ∧
      ofLine? {} " GET a=1 b=x  a=2".toList = ofLine? {} "b=x\ta=1 a=2".toList ∧
      ∃ record, ofLine? {} "b=x\ta=1 a=2".toList = some record ∧
        record.get? ['a'] = some (.number (.whole 2)) := by
  have hline : ReadsWords {} " GET a=1 b=x  a=2".toList := by
    have htrim : Text.trim " GET a=1 b=x  a=2".toList = "GET a=1 b=x  a=2".toList := rfl
    exact ⟨rfl, fun _ => htrim ▸ Json.parse?_word (by decide) (by decide) (by decide)⟩
  have hline' : ReadsWords {} "b=x\ta=1 a=2".toList := by
    have htrim : Text.trim "b=x\ta=1 a=2".toList = "b=x\ta=1 a=2".toList := rfl
    exact ⟨rfl, fun _ => htrim ▸ Json.parse?_word (by decide) (by decide) (by decide)⟩
  have hwords : Text.words " GET a=1 b=x  a=2".toList =
      ["GET".toList, "a=1".toList, "b=x".toList, "a=2".toList] := rfl
  have hwords' : Text.words "b=x\ta=1 a=2".toList =
      ["b=x".toList, "a=1".toList, "a=2".toList] := rfl
  have hdifferent : ["a=1".toList, "b=x".toList].Pairwise
      fun word other => ∀ name, Names word name → ¬Names other name := by
    refine List.pairwise_pair.mpr fun name hname hname' => ?_
    have ha : name = ['a'] := hname.name_eq ⟨['1'], rfl, by decide, by decide⟩
    have hb : name = ['b'] := hname'.name_eq ⟨['x'], rfl, by decide, by decide⟩
    exact absurd (ha.symm.trans hb) (by decide)
  have hlone : Rearrangement ([] ++ ["a=1".toList, "b=x".toList, "a=2".toList])
      ([] ++ "GET".toList :: ["a=1".toList, "b=x".toList, "a=2".toList]) :=
    .insert (.inl (by decide))
  have hswap : Rearrangement ([] ++ (["a=1".toList, "b=x".toList] ++ ["a=2".toList]))
      ([] ++ (["b=x".toList, "a=1".toList] ++ ["a=2".toList])) :=
    .reorder (.swap _ _ _) hdifferent
  have hchange := Relation.EqvGen.trans _ _ _ (.symm _ _ (.rel _ _ hlone)) (.rel _ _ hswap)
  obtain ⟨hrecord, hsame, -⟩ := ofLine?_keyValue {}
  refine ⟨hline, hline', hsame _ _ _ _ hline hline' (Text.words_eq_iff.mp hwords)
    (Text.words_eq_iff.mp hwords') hchange, ?_⟩
  obtain ⟨words, hhas, hnone, hsome⟩ := hrecord _ hline'
  obtain rfl := hhas.words_eq.symm.trans hwords'
  have hlast : Gives "a=2".toList ['a'] ['2'] := ⟨rfl, by decide, by decide⟩
  cases hread : ofLine? {} "b=x\ta=1 a=2".toList with
  | none => exact absurd ⟨_, hlast⟩ (hnone.mp hread _ (by decide) ['a'])
  | some record =>
    refine ⟨record, rfl, ((hsome record hread).2.2 _ _).mpr ⟨['2'], ?_, rfl⟩⟩
    exact ⟨["b=x".toList, "a=1".toList], _, [], rfl, hlast, fun _ h => nomatch h⟩

end Record

end LogSieve
