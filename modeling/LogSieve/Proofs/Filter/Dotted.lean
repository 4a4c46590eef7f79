import LogSieve.Proofs.Filter.Production

/-!
# Words and the paths that they write

A word is cut into segments at its dots, and it writes a path if none of the segments is empty. Both
sides of this are said without the cutting.

* Of the word: an empty segment is a dot too many. It shows as a dot at an end of the word, as two
  dots in a row, or as a word of no characters at all (`nil_mem_splitOn_iff`). From left to right
  this is an induction on the segments, and from right to left the word is cut at the dots in
  question.
* Of the path: no segment of it holds a dot, so that joining the segments by dots and cutting the
  word again gives the same segments (`FieldPath.parse?_eq_some_iff`).

The main statement, `FieldPath.parse?_text_roundTrip`, puts the two together. On the right of a
comparison a path is turned back into its text, and that this is the word which was read is one
half of it.
-/

namespace LogSieve

variable {word segment : Text} {segments : List Text}

/-- The cut at the dots leaves none. -/
theorem dot_notMem_of_mem_splitOn (h : segment ∈ word.splitOn '.') : '.' ∉ segment := by
  induction word generalizing segment with
  | nil =>
    rw [List.splitOn_nil, List.mem_singleton] at h
    subst h
    exact List.not_mem_nil
  | cons c rest ih =>
    rw [List.splitOn_cons_eq_if_modifyHead] at h
    split at h
    · -- a dot starts a new segment, which is empty so far
      rcases List.mem_cons.mp h with rfl | h
      · exact List.not_mem_nil
      · exact ih h
    · next hdot =>
      -- any other character goes to the first segment of the rest
      obtain ⟨first, others, hsplit⟩ := List.exists_cons_of_ne_nil (List.splitOn_ne_nil '.' rest)
      rw [hsplit, List.modifyHead_cons] at h
      rw [hsplit] at ih
      rcases List.mem_cons.mp h with rfl | h
      · have hfirst : '.' ∉ first := ih List.mem_cons_self
        have hc : '.' ≠ c := fun hc => hdot (by rw [hc]; exact beq_self_eq_true c)
        rw [List.mem_cons, not_or]
        exact ⟨hc, hfirst⟩
      · exact ih (List.mem_cons_of_mem _ h)

/-! ### Empty segments -/

/-- A segment between dots. -/
theorem splitOn_between_dots (before after : Text) :
    (before ++ '.' :: (word ++ '.' :: after)).splitOn '.' =
      before.splitOn '.' ++ (word.splitOn '.' ++ after.splitOn '.') := by
  rw [List.splitOn_append_cons_self, List.splitOn_append_cons_self]

/-- **An empty segment is a dot too many** once the segments are joined. -/
theorem dots_of_nil_mem (h : [] ∈ segments) :
    ['.'].intercalate segments = [] ∨ (['.'].intercalate segments).head? = some '.' ∨
      (['.'].intercalate segments).getLast? = some '.' ∨
      ['.', '.'] <:+: ['.'].intercalate segments := by
  -- on the segments: one alone is the whole word, and any other is next to a dot
  induction segments with
  | nil => cases h
  | cons first segments ih =>
    cases segments with
    | nil =>
      obtain rfl := List.mem_singleton.mp h
      exact .inl List.intercalate_singleton
    | cons second others =>
      rw [List.intercalate_cons_cons, List.append_assoc, List.singleton_append]
      rcases List.mem_cons.mp h with rfl | h
      · -- the first segment is empty, and a dot follows it
        exact .inr (.inl rfl)
      · -- an empty segment further on: what the joined rest shows, the whole shows
        generalize ['.'].intercalate (second :: others) = joined at ih
        rcases ih h with rfl | hfirst | hlast | hdots
        · exact .inr (.inr (.inl List.getLast?_concat))
        · obtain ⟨more, rfl⟩ := List.head?_eq_some_iff.mp hfirst
          exact .inr (.inr (.inr ⟨first, more, List.append_assoc ..⟩))
        · obtain ⟨more, rfl⟩ := List.getLast?_eq_some_iff.mp hlast
          refine .inr (.inr (.inl ?_))
          rw [← List.cons_append, ← List.append_assoc]
          exact List.getLast?_concat
        · have hsuffix : joined <:+ first ++ '.' :: joined :=
            (List.suffix_cons '.' joined).trans (List.suffix_append first _)
          exact .inr (.inr (.inr (hdots.trans hsuffix.isInfix)))

/-- **When a word has an empty segment.** -/
theorem nil_mem_splitOn_iff : [] ∈ word.splitOn '.' ↔
    word = [] ∨ word.head? = some '.' ∨ word.getLast? = some '.' ∨ ['.', '.'] <:+: word := by
  constructor
  · intro h
    have hdots := dots_of_nil_mem h
    rwa [List.intercalate_splitOn] at hdots
  · have hnil : ([] : Text) ∈ List.splitOn '.' ([] : Text) := List.mem_singleton_self _
    rintro (rfl | hfirst | hlast | hdots)
    · exact hnil
    · obtain ⟨more, rfl⟩ := List.head?_eq_some_iff.mp hfirst
      show [] ∈ ([] ++ '.' :: more).splitOn '.'
      rw [List.splitOn_append_cons_self]
      exact List.mem_append_left _ hnil
    · obtain ⟨more, rfl⟩ := List.getLast?_eq_some_iff.mp hlast
      rw [List.splitOn_append_cons_self]
      exact List.mem_append_right _ hnil
    · obtain ⟨before, after, rfl⟩ := hdots
      rw [List.append_assoc]
      show [] ∈ (before ++ '.' :: ([] ++ '.' :: after)).splitOn '.'
      rw [splitOn_between_dots]
      exact List.mem_append_right _ (List.mem_append_left _ hnil)

theorem isPath_iff_nil_notMem : IsPath word ↔ [] ∉ word.splitOn '.' := by
  constructor
  · exact fun h hnil => h [] hnil rfl
  · rintro h segment hmem rfl
    exact h hmem

namespace FieldPath

variable {path : FieldPath}

theorem exists_parse?_iff_isPath : (∃ path, parse? word = some path) ↔ IsPath word := by
  constructor
  · rintro ⟨path, hpath⟩
    -- without a path nothing is written
    refine Classical.byContradiction fun hnot => ?_
    rw [parse?_of_not_isPath hnot] at hpath
    cases hpath
  · exact fun h => ⟨_, parse?_of_isPath h⟩

/-- **Which path a word writes.** The one of which it is the text, where no segment is empty and
none holds a dot. -/
theorem parse?_eq_some_iff : parse? word = some path ↔
    path.text = word ∧ path.segments ≠ [] ∧
      ∀ segment ∈ path.segments, segment ≠ [] ∧ '.' ∉ segment := by
  constructor
  · intro h
    have hpath : IsPath word := exists_parse?_iff_isPath.mp ⟨path, h⟩
    rw [parse?_of_isPath hpath] at h
    cases h
    refine ⟨text_splitOn word, List.splitOn_ne_nil '.' word, fun segment hmem => ?_⟩
    exact ⟨hpath segment hmem, dot_notMem_of_mem_splitOn hmem⟩
  · rintro ⟨rfl, hne, hsegments⟩
    -- no segment holds a dot, so the text is cut where it was joined
    have hcut : path.text.splitOn '.' = path.segments :=
      List.splitOn_intercalate '.' (fun segment hmem => (hsegments segment hmem).2) hne
    have hpath : IsPath path.text := by
      unfold IsPath
      rw [hcut]
      exact fun segment hmem => (hsegments segment hmem).1
    rw [parse?_of_isPath hpath, hcut]

/-- **Paths and their texts.** A word writes a path if and only if it is not empty and has no dot at
its start, at its end or behind another dot. The segments of the path are then not empty and hold no
dot, the path is written as the word, and on the right of a comparison it is turned back into the
word. The other way round, segments that are not empty and hold no dot are read back from the text
that joins them by dots. -/
theorem parse?_text_roundTrip :
    (∀ word, (∃ path, parse? word = some path) ↔
      word ≠ [] ∧ word.head? ≠ some '.' ∧ word.getLast? ≠ some '.' ∧ ¬['.', '.'] <:+: word) ∧
    (∀ word path, parse? word = some path →
      (∀ segment ∈ path.segments, segment ≠ [] ∧ '.' ∉ segment) ∧ path.text = word ∧
        (Expr.field path).asText = .literal (.string word)) ∧
    ∀ segments : List Text, segments ≠ [] → (∀ segment ∈ segments, segment ≠ [] ∧ '.' ∉ segment) →
      parse? (['.'].intercalate segments) = some ⟨segments⟩ := by
  refine ⟨fun word => ?_, fun word path h => ?_, fun segments hne hsegments => ?_⟩
  · rw [exists_parse?_iff_isPath, isPath_iff_nil_notMem, nil_mem_splitOn_iff]
    simp only [not_or, ne_eq]
  · obtain ⟨rfl, -, hsegments⟩ := parse?_eq_some_iff.mp h
    exact ⟨hsegments, rfl, rfl⟩
  · exact parse?_eq_some_iff.mpr ⟨rfl, hne, hsegments⟩

end FieldPath

end LogSieve
