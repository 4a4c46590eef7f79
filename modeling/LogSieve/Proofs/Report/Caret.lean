import LogSieve.Proofs.Filter.Culprit

/-!
# Where the caret stands

Under a filter with an error there is one more line, with a caret behind as many blanks as there are
characters before the error. That puts it under the place of the error if the filter is one line,
and never otherwise (`caretUnder_iff`): a line break after the place moves the caret down, and a
line break before it begins a line in which the place has fewer characters before it than the caret
has blanks.

Places are counted from the start of what is shown (`placeOf`), so a place is all about the text
before it: `lineAfter` and `columnAfter`.
-/

namespace LogSieve.Report

variable {source before tail : Text} {error : FilterError}

/-! ### Lines and columns -/

/-- A place in a text: the number of lines above it and the number of characters before it in its
line. -/
structure Place where
  line : Nat
  column : Nat
  deriving DecidableEq, Repr

/-- The number of lines that end within a text. -/
def lineAfter (before : Text) : Nat := before.count '\n'

/-- The number of characters since the last line break. -/
def columnAfter (before : Text) : Nat := (before.reverse.takeWhile (· ≠ '\n')).length

/-- The place of the character at an offset, or of the end of the text. -/
def placeOf (text : Text) (offset : Nat) : Place :=
  ⟨lineAfter (text.take offset), columnAfter (text.take offset)⟩

theorem lineAfter_append : lineAfter (before ++ tail) = lineAfter before + lineAfter tail :=
  List.count_append

theorem lineAfter_eq_zero_iff : lineAfter tail = 0 ↔ '\n' ∉ tail := List.count_eq_zero

/-- In a line of its own a text counts from its start. -/
theorem columnAfter_lineFeed (h : '\n' ∉ tail) :
    columnAfter (before ++ '\n' :: tail) = tail.length := by
  have htail : ∀ c ∈ tail.reverse, decide (c ≠ '\n') = true := by
    intro c hc
    rw [decide_eq_true_eq]
    rintro rfl
    exact h (List.mem_reverse.mp hc)
  calc columnAfter (before ++ '\n' :: tail)
      = ((tail.reverse ++ '\n' :: before.reverse).takeWhile (· ≠ '\n')).length := by
        rw [columnAfter, List.reverse_append, List.reverse_cons, List.append_assoc,
          List.singleton_append]
    _ = (tail.reverse ++ []).length := by
        rw [List.takeWhile_append_of_pos htail]
        rfl
    _ = tail.length := by rw [List.append_nil, List.length_reverse]

/-- After a line break there are fewer characters than in the whole. -/
theorem columnAfter_lt (h : '\n' ∈ tail) : columnAfter (before ++ tail) < tail.length := by
  -- the line break itself is not counted
  have hcut : tail.reverse.takeWhile (· ≠ '\n') ≠ tail.reverse := by
    intro hall
    have := List.takeWhile_eq_self_iff.mp hall '\n' (List.mem_reverse.mpr h)
    simp at this
  -- what is counted is a part of the text, and not all of it
  have hlt : (tail.reverse.takeWhile (· ≠ '\n')).length < tail.reverse.length :=
    lt_of_le_of_ne (List.takeWhile_prefix _).length_le
      fun heq => hcut ((List.takeWhile_prefix _).eq_of_length heq)
  rw [columnAfter, List.reverse_append, List.takeWhile_append, if_neg (Nat.ne_of_lt hlt)]
  rwa [List.length_reverse] at hlt

/-- The start of a line that is set off from the edge. -/
def indent : Text := "\n  ".toList

/-- A new line begins, and its text stands two characters from the edge. -/
theorem lineAfter_indent (h : '\n' ∉ tail) :
    lineAfter (before ++ (indent ++ tail)) = lineAfter before + 1 := by
  have hline : lineAfter indent = 1 := rfl
  rw [lineAfter_append, lineAfter_append, hline, lineAfter_eq_zero_iff.mpr h]

theorem columnAfter_indent (h : '\n' ∉ tail) :
    columnAfter (before ++ (indent ++ tail)) = tail.length + 2 := by
  have hblanks : '\n' ∉ ' ' :: ' ' :: tail := by
    simpa using h
  exact columnAfter_lineFeed hblanks

/-! ### The caret -/

/-- What is shown before the filter. -/
def heading (error : FilterError) : Text :=
  "Error parsing filter:".toList ++ ' ' :: error.message ++ indent

/-- The caret is in the line below the place of the error and in the same column. -/
def CaretUnder (source : Text) (error : FilterError) : Prop :=
  let rendered := renderError false source error
  let shown := placeOf rendered ((heading error).length + error.position)
  let caret := placeOf rendered (rendered.length - 1)
  caret.line = shown.line + 1 ∧ caret.column = shown.column

instance : Decidable (CaretUnder source error) := inferInstanceAs (Decidable (_ ∧ _))

/-- The filter is shown as it is, and the caret in the last line behind blanks. -/
theorem renderError_eq (h : error.position ≤ source.length) :
    renderError false source error =
      heading error ++ source ++ (indent ++ List.replicate error.position ' ') ++ ['^'] := by
  unfold renderError paint heading indent
  rw [Nat.min_eq_left h]
  simp only [if_neg Bool.false_ne_true, List.append_assoc]

theorem lineFeed_notMem_blanks (n : Nat) : '\n' ∉ List.replicate n ' ' := by
  simp

/-- The place of the error, as it is shown. -/
theorem placeOf_shown (h : error.position ≤ source.length) :
    placeOf (renderError false source error) ((heading error).length + error.position) =
      ⟨lineAfter (heading error) + lineAfter (source.take error.position),
        columnAfter (heading error ++ source.take error.position)⟩ := by
  -- up to the error there are the heading and the start of the filter
  have htake : (renderError false source error).take ((heading error).length + error.position)
      = heading error ++ source.take error.position := by
    rw [renderError_eq h, List.append_assoc, List.append_assoc, List.take_length_add_append,
      List.take_append_of_le_length h]
  rw [placeOf, htake, lineAfter_append]

/-- The place of the caret. -/
theorem placeOf_caret (h : error.position ≤ source.length) :
    placeOf (renderError false source error) ((renderError false source error).length - 1) =
      ⟨lineAfter (heading error) + lineAfter source + 1, error.position + 2⟩ := by
  -- up to the caret there is everything but the caret
  have htake : (renderError false source error).take ((renderError false source error).length - 1)
      = heading error ++ source ++ (indent ++ List.replicate error.position ' ') := by
    rw [← List.dropLast_eq_take, renderError_eq h, List.dropLast_concat]
  have hblanks := lineFeed_notMem_blanks error.position
  rw [placeOf, htake, lineAfter_indent hblanks, columnAfter_indent hblanks, lineAfter_append,
    List.length_replicate]

/-- The column of the error, when no line break comes before it. -/
theorem columnAfter_heading (h : '\n' ∉ tail) :
    columnAfter (heading error ++ tail) = tail.length + 2 := by
  calc columnAfter (heading error ++ tail)
      = columnAfter (
          "Error parsing filter:".toList ++ ' ' :: error.message ++ (indent ++ tail)) := by
        unfold heading
        rw [List.append_assoc _ indent tail]
    _ = tail.length + 2 := columnAfter_indent h

/-- **Where the caret stands.** What is shown is a heading, the filter, and below it blanks and the
caret. The caret stands in the line below the place of the error and in its column if and only if
the filter has no line break. -/
theorem caretUnder_iff (h : compile source = .error error) :
    renderError false source error =
        heading error ++ source ++ (indent ++ List.replicate error.position ' ') ++ ['^'] ∧
      (CaretUnder source error ↔ '\n' ∉ source) := by
  have hposition := (FilterError.atCulprit_of_compile h).position_le
  refine ⟨renderError_eq hposition, ?_⟩
  rw [CaretUnder, placeOf_shown hposition, placeOf_caret hposition]
  dsimp only
  -- so many characters are before the error as the caret has blanks before it
  have hlength : (source.take error.position).length = error.position := by
    rw [List.length_take, Nat.min_eq_left hposition]
  constructor
  · rintro ⟨hline, hcolumn⟩ hmem
    -- the lines agree, so all line breaks come before the error
    have hbefore : '\n' ∈ source.take error.position := by
      by_contra hnone
      have hzero := lineAfter_eq_zero_iff.mpr hnone
      have hsome := mt lineAfter_eq_zero_iff.mp (not_not_intro hmem)
      omega
    -- and in the line of the last one there is less before the error than blanks before the caret
    have hlt : columnAfter (heading error ++ source.take error.position) < _ :=
      columnAfter_lt hbefore
    omega
  · intro hnone
    have hbefore : '\n' ∉ source.take error.position := fun hmem =>
      hnone (List.mem_of_mem_take hmem)
    rw [lineAfter_eq_zero_iff.mpr hnone, lineAfter_eq_zero_iff.mpr hbefore,
      columnAfter_heading hbefore, hlength]
    exact ⟨rfl, rfl⟩

/-- Under a filter of one line the caret stands below the `=`. -/
theorem caretUnder_one_line :
    compile "(=".toList = .error (.syntactic (.unexpectedToken .equals 1)) ∧
      CaretUnder "(=".toList (.syntactic (.unexpectedToken .equals 1)) := by
  have hcompile : compile "(=".toList = .error (.syntactic (.unexpectedToken .equals 1)) :=
    compile_openParen_equals [] (List.forall_mem_nil _)
  exact ⟨hcompile, (caretUnder_iff hcompile).2.mpr (by decide)⟩

/-- **The caret can stand elsewhere**: the `=` is the first character of the second line of the
filter, and the caret is the fifth one below. -/
theorem not_caretUnder_two_lines :
    compile "(\n=".toList = .error (.syntactic (.unexpectedToken .equals 2)) ∧
      ¬ CaretUnder "(\n=".toList (.syntactic (.unexpectedToken .equals 2)) := by
  have hcompile : compile "(\n=".toList = .error (.syntactic (.unexpectedToken .equals 2)) :=
    compile_openParen_equals ['\n'] (List.forall_mem_singleton.mpr (by decide))
  have hposition := (FilterError.atCulprit_of_compile hcompile).position_le
  have htake : "(\n=".toList.take 2 = "(".toList ++ '\n' :: [] := rfl
  refine ⟨hcompile, ?_⟩
  rw [CaretUnder, placeOf_caret hposition, placeOf_shown hposition]
  rintro ⟨-, hcolumn⟩
  change 4 = columnAfter (heading _ ++ "(\n=".toList.take 2) at hcolumn
  -- the line break begins a line, and the error is its first character
  rw [htake, ← List.append_assoc, columnAfter_lineFeed List.not_mem_nil] at hcolumn
  cases hcolumn

end LogSieve.Report
