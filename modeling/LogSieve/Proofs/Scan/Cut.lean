import LogSieve.Scan.Lines
import Mathlib.Data.List.Basic

/-!
# Cutting bytes into lines

What the lines of some bytes are, said without cutting them: `Cut bytes lines` holds if the lines
put together are the bytes, every line but the last ends in its only line feed, and the last one
does too or is not empty. Every sequence of bytes is cut in exactly one way (`exists_cut`,
`Cut.unique`), and a source that does not fail delivers the contents of these lines
(`Cut.lines_eq`).

Lines can be put together again: contents that are written with a line feed each are cut back into
the same lines (`cut_flatMap`), and where no line is left open the lines of two pieces are the lines
of both together (`Cut.append`).

A source that fails loses a last line without a line feed (`Source.delivered`). The lines that are
left are the lines of the bytes that they make up (`Cut.delivered`), so a source that fails delivers
what another one delivers without failing.
-/

namespace LogSieve

/-- `Cut bytes lines`: cutting the bytes after every line feed gives the lines. What follows the
last line feed is a line too unless it is empty. -/
inductive Cut : Bytes → List Bytes → Prop where
  | nil : Cut [] []
  | last {line : Bytes} (hne : line ≠ []) (h : Bytes.lineFeed ∉ line) : Cut line [line]
  | cons {line rest : Bytes} {lines : List Bytes} (h : Bytes.lineFeed ∉ line)
      (hrest : Cut rest lines) :
      Cut (line ++ Bytes.lineFeed :: rest) ((line ++ [Bytes.lineFeed]) :: lines)

namespace Bytes

variable {line rest : Bytes}

/-- The bytes without the last one if it is the given byte. -/
def withoutLast (last : UInt8) (bytes : Bytes) : Bytes :=
  if bytes.getLast? = some last then bytes.dropLast else bytes

/-- What a line holds: the line without its line feed, and then without one carriage return. -/
def content (line : Bytes) : Bytes :=
  withoutLast carriageReturn (withoutLast lineFeed line)

theorem content_append_lineFeed (line : Bytes) :
    content (line ++ [lineFeed]) = line.stripReturn := by
  have hfeed : withoutLast lineFeed (line ++ [lineFeed]) = line := by
    rw [withoutLast, List.getLast?_concat, if_pos rfl, List.dropLast_concat]
  rw [content, hfeed]
  rfl

theorem content_of_notMem (h : lineFeed ∉ line) : content line = line.stripReturn := by
  have hfeed : withoutLast lineFeed line = line :=
    if_neg fun hlast => h (List.mem_of_getLast? hlast)
  rw [content, hfeed]
  rfl

/-! ### The two parts of the cut -/

theorem terminated_of_notMem (h : lineFeed ∉ line) : terminated line = [] := by
  rw [terminated, List.splitOn_eq_singleton h]
  rfl

theorem remainder_of_notMem (h : lineFeed ∉ line) : remainder line = line := by
  rw [remainder, List.splitOn_eq_singleton h]
  rfl

theorem terminated_append_cons (h : lineFeed ∉ line) :
    terminated (line ++ lineFeed :: rest) = line :: rest.terminated := by
  rw [terminated, List.splitOn_append_cons_self_of_not_mem h,
    List.dropLast_cons_of_ne_nil (List.splitOn_ne_nil _ _)]
  rfl

theorem remainder_append_cons (h : lineFeed ∉ line) :
    remainder (line ++ lineFeed :: rest) = rest.remainder := by
  rw [remainder, List.splitOn_append_cons_self_of_not_mem h, remainder]
  -- splitting gives at least one piece, so the last one is not the line
  cases hsplit : rest.splitOn lineFeed with
  | nil => exact absurd hsplit (List.splitOn_ne_nil _ _)
  | cons piece pieces => rfl

end Bytes

/-! ### The cut -/

section Cut

variable {bytes : Bytes} {lines lines' : List Bytes}

theorem exists_cut (bytes : Bytes) : ∃ lines, Cut bytes lines := by
  -- on the length, since a whole line is taken off
  induction hn : bytes.length using Nat.strongRecOn generalizing bytes with
  | _ n ih =>
  subst hn
  by_cases hmem : Bytes.lineFeed ∈ bytes
  · -- up to the first line feed, and on with what follows it
    obtain ⟨line, rest, rfl, hline⟩ := List.eq_append_cons_of_mem hmem
    obtain ⟨lines, hrest⟩ := ih rest.length (by simp; omega) rest rfl
    exact ⟨_, .cons hline hrest⟩
  · by_cases hnil : bytes = []
    · rw [hnil]
      exact ⟨[], .nil⟩
    · exact ⟨[bytes], .last hnil hmem⟩

/-- The lines put together are the bytes. -/
theorem Cut.flatten_eq (h : Cut bytes lines) : lines.flatten = bytes := by
  induction h with
  | nil => rfl
  | last => simp
  | cons _ _ ih => rw [List.flatten_cons, ih, List.append_assoc, List.singleton_append]

/-- The cut, piece by piece: the terminated lines and what remains. -/
theorem Cut.eq_pieces (h : Cut bytes lines) :
    lines = bytes.terminated.map (· ++ [Bytes.lineFeed]) ++
      if bytes.remainder.isEmpty then [] else [bytes.remainder] := by
  -- on the cut: both parts of the cut lose a line with it
  induction h with
  | nil => rfl
  | last hne h =>
    rw [Bytes.terminated_of_notMem h, Bytes.remainder_of_notMem h, if_neg (by simpa using hne)]
    rfl
  | cons h _ ih =>
    rw [Bytes.terminated_append_cons h, Bytes.remainder_append_cons h, List.map_cons,
      List.cons_append, ← ih]

/-- Bytes are cut in one way only. -/
theorem Cut.unique (h : Cut bytes lines) (h' : Cut bytes lines') : lines' = lines :=
  h'.eq_pieces.trans h.eq_pieces.symm

/-- **A source that does not fail delivers the contents of the lines.** -/
theorem Cut.lines_eq (h : Cut bytes lines) :
    Source.lines { bytes } = lines.map Bytes.content := by
  induction h with
  | nil => rfl
  | @last line hne h =>
    rw [Source.lines]
    simp only [Bytes.terminated_of_notMem h, Bytes.remainder_of_notMem h, Bool.false_or]
    rw [if_neg (by simpa using hne), List.nil_append, List.map_singleton, List.map_singleton,
      Bytes.content_of_notMem h]
  | @cons line rest lines h _ ih =>
    rw [Source.lines] at ih ⊢
    simp only [Bytes.terminated_append_cons h, Bytes.remainder_append_cons h] at ih ⊢
    rw [List.map_cons, Bytes.content_append_lineFeed, ← ih]
    -- whether there is a remainder is the same question with and without the first line
    split <;> rfl

end Cut

/-! ### Putting lines together -/

namespace Bytes

theorem lineFeed_notMem_stripReturn {line : Bytes} (h : lineFeed ∉ line) :
    lineFeed ∉ line.stripReturn := by
  rw [stripReturn]
  split
  · exact fun hmem => h ((List.dropLast_sublist line).subset hmem)
  · exact h

/-- Whether a line feed would close no open line: the bytes are empty or end in one. -/
def IsWhole (bytes : Bytes) : Prop :=
  bytes = [] ∨ bytes.getLast? = some lineFeed

end Bytes

section Whole

variable {bytes bytes' : Bytes} {lines lines' : List Bytes}

/-- No line feed stands inside a line. -/
theorem Cut.lineFeed_notMem (h : Cut bytes lines) :
    ∀ content ∈ lines.map Bytes.content, Bytes.lineFeed ∉ content := by
  induction h with
  | nil =>
    intro content hcontent
    cases hcontent
  | @last line hne h =>
    intro content hcontent
    rw [List.map_singleton, List.mem_singleton] at hcontent
    rw [hcontent, Bytes.content_of_notMem h]
    exact Bytes.lineFeed_notMem_stripReturn h
  | @cons line rest lines h _ ih =>
    rw [List.map_cons, List.forall_mem_cons]
    refine ⟨?_, ih⟩
    rw [Bytes.content_append_lineFeed]
    exact Bytes.lineFeed_notMem_stripReturn h

/-- **Contents that are written with a line feed each are cut back into the same lines.** -/
theorem cut_flatMap {contents : List Bytes}
    (h : ∀ content ∈ contents, Bytes.lineFeed ∉ content) :
    Cut (contents.flatMap (· ++ [Bytes.lineFeed])) (contents.map (· ++ [Bytes.lineFeed])) := by
  induction contents with
  | nil => exact .nil
  | cons content contents ih =>
    rw [List.forall_mem_cons] at h
    rw [List.flatMap_cons, List.map_cons, List.append_assoc]
    exact .cons h.1 (ih h.2)

/-- What follows a line feed is empty or ends in a line feed if all of the bytes do. -/
theorem Bytes.IsWhole.of_append_cons {line rest : Bytes}
    (h : (line ++ lineFeed :: rest).IsWhole) : rest.IsWhole := by
  rcases h with hnil | hlast
  · exact absurd hnil (by simp)
  · cases rest with
    | nil => exact .inl rfl
    | cons byte rest =>
      right
      rwa [List.getLast?_append_cons, List.getLast?_cons_cons] at hlast

/-- **Where no line is left open, the lines of two pieces are the lines of both together.** -/
theorem Cut.append (h : Cut bytes lines) (h' : Cut bytes' lines') (hwhole : bytes.IsWhole) :
    Cut (bytes ++ bytes') (lines ++ lines') := by
  induction h with
  | nil => exact h'
  | @last line hne h =>
    -- a last line without a line feed would be an open one
    rcases hwhole with hnil | hlast
    · exact absurd hnil hne
    · exact absurd (List.mem_of_getLast? hlast) h
  | @cons line rest lines h _ ih =>
    rw [List.append_assoc, List.cons_append, List.cons_append]
    exact .cons h (ih hwhole.of_append_cons)

end Whole

/-! ### Sources that fail -/

namespace Bytes

/-- Whether the line ends in its line feed. -/
def isTerminated (line : Bytes) : Bool :=
  line.getLast? = some lineFeed

@[simp] theorem isTerminated_append_lineFeed (line : Bytes) :
    isTerminated (line ++ [lineFeed]) = true := by
  simp [isTerminated]

theorem isTerminated_of_notMem {line : Bytes} (h : lineFeed ∉ line) :
    isTerminated line = false := by
  rw [isTerminated, decide_eq_false_iff_not]
  exact fun hlast => h (List.mem_of_getLast? hlast)

end Bytes

/-- Those of its lines that a source delivers: if it fails, a last line without a line feed is
lost. -/
def Source.delivered (source : Source) (lines : List Bytes) : List Bytes :=
  if source.fails then lines.filter Bytes.isTerminated else lines

section Delivered

variable {source : Source} {bytes : Bytes} {lines : List Bytes}

/-- Only the last line can lack its line feed. -/
theorem Cut.filter_isTerminated (h : Cut bytes lines) :
    lines.filter Bytes.isTerminated = bytes.terminated.map (· ++ [Bytes.lineFeed]) := by
  induction h with
  | nil => rfl
  | last _ h =>
    rw [Bytes.terminated_of_notMem h, List.filter_singleton, Bytes.isTerminated_of_notMem h]
    rfl
  | cons h _ ih =>
    rw [Bytes.terminated_append_cons h, List.filter_cons_of_pos (by simp), ih, List.map_cons]

/-- **What a source delivers are the contents of these lines.** -/
theorem Cut.sourceLines_eq (h : Cut source.bytes lines) :
    source.lines = (source.delivered lines).map Bytes.content := by
  obtain ⟨bytes, fails⟩ := source
  cases fails with
  | false => exact h.lines_eq
  | true =>
    -- a failing source delivers the terminated lines, which are those that are kept
    rw [Source.delivered, if_pos rfl, h.filter_isTerminated, List.map_map]
    exact List.map_congr_left fun line _ => (Bytes.content_append_lineFeed line).symm

/-- Without such a last line the others are still the lines of their bytes. -/
theorem Cut.terminated (h : Cut bytes lines) :
    Cut (lines.filter Bytes.isTerminated).flatten (lines.filter Bytes.isTerminated) := by
  induction h with
  | nil => exact .nil
  | last _ h =>
    rw [List.filter_singleton, Bytes.isTerminated_of_notMem h]
    exact .nil
  | cons h _ ih =>
    rw [List.filter_cons_of_pos (by simp), List.flatten_cons, List.append_assoc]
    exact .cons h ih

/-- The delivered lines are those of the bytes that they make up. -/
theorem Cut.delivered (h : Cut source.bytes lines) :
    Cut (source.delivered lines).flatten (source.delivered lines) := by
  rw [Source.delivered]
  split
  · exact h.terminated
  · rwa [h.flatten_eq]

end Delivered

end LogSieve
