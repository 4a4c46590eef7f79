import LogSieve.Proofs.Scan.Cut
import LogSieve.Scan.Sieve
import Mathlib.Data.List.Basic

/-!
# What a scan writes and counts

A scan is a loop that writes the selected lines in two pieces each, into a sink that may be full
after any byte of either. What it leaves does not depend on how the output is cut into pieces:

* `Sink.Takes` relates a sink to what becomes of it when bytes are offered. Bytes that fit and then
  further bytes are taken as all of them at once (`Takes.append`), and once bytes do not fit, it
  does not matter what comes after them (`Takes.append_of_not_fits`).
* `Sieve.output` and `Sieve.tally` are what a scan of lines writes and counts when nothing stops it,
  said by the lines that are selected and by the numbers of lines with each fate.

`Sieve.scanLines_spec` is the loop: from any tally and any sink, all of `output` is offered, and
`tally` is added if all of it fits. Where nothing fails, the scan of any bytes is then described by
the lines of these bytes alone.

The main statement is `scan_eq_lines`.
-/

namespace LogSieve

/-! ### Sinks -/

namespace Sink

/-- The sink has room for all of the bytes. -/
def Fits (sink : Sink) (bytes : Bytes) : Prop :=
  ∀ room ∈ sink.room, bytes.length ≤ room

instance (sink : Sink) (bytes : Bytes) : Decidable (sink.Fits bytes) :=
  inferInstanceAs (Decidable (∀ room ∈ sink.room, bytes.length ≤ room))

/-- As much of the bytes as the sink has room for. -/
def accepted (sink : Sink) (bytes : Bytes) : Bytes :=
  match sink.room with
  | none => bytes
  | some room => bytes.take room

/-- `sink.Takes bytes sink'`: the sink becomes `sink'` if the bytes are offered, in whatever
pieces. -/
structure Takes (sink : Sink) (bytes : Bytes) (sink' : Sink) : Prop where
  /-- What fits is appended. -/
  bytes_eq : sink'.bytes = sink.bytes ++ sink.accepted bytes
  /-- No room is left after bytes that do not fit. -/
  room_eq : sink'.room = sink.room.map (· - bytes.length)

section Takes

variable {sink sink' sink'' : Sink} {bytes more : Bytes}

@[simp] theorem fits_nil (sink : Sink) : sink.Fits [] :=
  fun _ _ => Nat.zero_le _

theorem fits_of_room_eq_none (h : sink.room = none) (bytes : Bytes) : sink.Fits bytes := by
  intro room hroom
  rw [h] at hroom
  cases hroom

theorem fits_iff_of_room_eq_some {room : Nat} (h : sink.room = some room) :
    sink.Fits bytes ↔ bytes.length ≤ room := by
  simp [Fits, h]

theorem Fits.of_append (h : sink.Fits (bytes ++ more)) : sink.Fits bytes := by
  intro room hroom
  have hall := h room hroom
  rw [List.length_append] at hall
  exact Nat.le_of_add_right_le hall

theorem accepted_of_fits (h : sink.Fits bytes) : sink.accepted bytes = bytes := by
  rw [accepted]
  split
  · rfl
  · next room hroom => exact List.take_of_length_le (h room hroom)

theorem Takes.nil (sink : Sink) : sink.Takes [] sink where
  bytes_eq := by rw [accepted_of_fits (fits_nil sink), List.append_nil]
  room_eq := by simp

/-- What comes after bytes that fit meets the sink that they leave. -/
theorem Takes.fits_append_iff (h : sink.Takes bytes sink') :
    sink.Fits (bytes ++ more) ↔ sink.Fits bytes ∧ sink'.Fits more := by
  cases hroom : sink.room with
  | none =>
    have hroom' : sink'.room = none := by rw [h.room_eq, hroom, Option.map_none]
    simp only [fits_of_room_eq_none hroom, fits_of_room_eq_none hroom', and_self]
  | some room =>
    have hroom' : sink'.room = some (room - bytes.length) := by
      rw [h.room_eq, hroom, Option.map_some]
    rw [fits_iff_of_room_eq_some hroom, fits_iff_of_room_eq_some hroom,
      fits_iff_of_room_eq_some hroom', List.length_append]
    omega

/-- **Pieces that fit are taken as if they came at once.** -/
theorem Takes.append (h : sink.Takes bytes sink') (hfits : sink.Fits bytes)
    (h' : sink'.Takes more sink'') : sink.Takes (bytes ++ more) sink'' := by
  -- bytes that fit leave the rest of the room to what follows
  have haccepted : sink.accepted (bytes ++ more) = bytes ++ sink'.accepted more := by
    rw [accepted, accepted, h.room_eq]
    cases hroom : sink.room with
    | none => rfl
    | some room =>
      have hle : bytes.length ≤ room := hfits room hroom
      show (bytes ++ more).take room = bytes ++ more.take (room - bytes.length)
      rw [List.take_append, List.take_of_length_le hle]
  constructor
  · calc sink''.bytes
        = sink'.bytes ++ sink'.accepted more := h'.bytes_eq
      _ = sink.bytes ++ bytes ++ sink'.accepted more := by
        rw [h.bytes_eq, accepted_of_fits hfits]
      _ = sink.bytes ++ sink.accepted (bytes ++ more) := by
        rw [haccepted, List.append_assoc]
  · rw [h'.room_eq, h.room_eq, Option.map_map, List.length_append]
    congr 1
    funext room
    exact Nat.sub_sub room bytes.length more.length

/-- Bytes that do not fit fill the sink, so that nothing after them is taken. -/
theorem Takes.append_of_not_fits (h : sink.Takes bytes sink') (hfits : ¬ sink.Fits bytes) :
    sink.Takes (bytes ++ more) sink' := by
  -- only a sink with a limit can be too small
  obtain ⟨room, hroom⟩ : ∃ room, sink.room = some room :=
    Option.ne_none_iff_exists'.mp fun hnone => hfits (fits_of_room_eq_none hnone bytes)
  have hlt : room < bytes.length := by
    rwa [fits_iff_of_room_eq_some hroom, Nat.not_le] at hfits
  constructor
  · -- the room ends inside the bytes, so the cut is the same with more after them
    rw [h.bytes_eq, accepted, accepted, hroom]
    show _ = sink.bytes ++ (bytes ++ more).take room
    rw [List.take_append_of_le_length (Nat.le_of_lt hlt)]
  · rw [h.room_eq, hroom, Option.map_some, Option.map_some, List.length_append]
    congr 1
    omega

/-! ### Writing -/

theorem takes_write (sink : Sink) (piece : Bytes) : sink.Takes piece (sink.write piece).1 := by
  have hbytes (pieces : List Bytes) (last : Bytes) :
      (last :: pieces).reverse.flatten = pieces.reverse.flatten ++ last := by
    rw [List.reverse_cons, List.flatten_append, List.flatten_singleton]
  obtain ⟨pieces, room⟩ := sink
  cases room with
  | none => exact ⟨hbytes pieces piece, rfl⟩
  | some room => exact ⟨hbytes pieces (piece.take room), rfl⟩

theorem write_snd (sink : Sink) (piece : Bytes) :
    (sink.write piece).2 = decide (sink.Fits piece) := by
  obtain ⟨pieces, room⟩ := sink
  cases room with
  | none => exact (decide_eq_true (fits_of_room_eq_none rfl piece)).symm
  | some room => exact decide_eq_decide.mpr (fits_iff_of_room_eq_some rfl).symm

/-- A line and its line feed are taken as one piece. -/
theorem writeLine_spec (sink : Sink) (content : Bytes) :
    sink.Takes (content ++ [Bytes.lineFeed]) (sink.writeLine content).1 ∧
      (sink.writeLine content).2 = decide (sink.Fits (content ++ [Bytes.lineFeed])) := by
  have hcontent := takes_write sink content
  have hfits := write_snd sink content
  rw [writeLine]
  generalize sink.write content = result at hcontent hfits
  obtain ⟨sink', ok⟩ := result
  cases ok with
  | false =>
    -- the line feed is not tried any more
    have hfits : ¬ sink.Fits content := of_decide_eq_false hfits.symm
    exact ⟨hcontent.append_of_not_fits hfits,
      (decide_eq_false fun hline => hfits hline.of_append).symm⟩
  | true =>
    have hfits : sink.Fits content := of_decide_eq_true hfits.symm
    refine ⟨hcontent.append hfits (takes_write sink' _), ?_⟩
    rw [write_snd, decide_eq_decide, hcontent.fits_append_iff]
    exact (and_iff_right hfits).symm

end Takes

end Sink

/-! ### Lines -/

theorem Tally.empty_add (tally : Tally) : Tally.add {} tally = tally := by
  simp [Tally.add]

namespace Sieve

variable (sieve : Sieve)

/-- What a scan of the lines writes if nothing stops it. -/
def output (contents : List Bytes) : Bytes :=
  if sieve.countOnly then []
  else (contents.filter (sieve.fate · = .selected)).flatMap (· ++ [Bytes.lineFeed])

/-- What a scan of the lines counts if nothing stops it. -/
def tally (contents : List Bytes) : Tally where
  read := contents.length
  parsed := contents.countP (sieve.fate · ≠ .skipped)
  skipped := contents.countP (sieve.fate · = .skipped)
  matched := contents.countP (sieve.fate · = .selected)

variable (content : Bytes) (contents : List Bytes)

theorem output_cons_of_written (h : (sieve.fate content = .selected && !sieve.countOnly) = true) :
    sieve.output (content :: contents) =
      (content ++ [Bytes.lineFeed]) ++ sieve.output contents := by
  obtain ⟨hselected, hcount⟩ : sieve.fate content = .selected ∧ sieve.countOnly = false := by
    simpa using h
  simp only [output, hcount]
  rw [List.filter_cons_of_pos (by simpa using hselected), List.flatMap_cons]
  rfl

theorem output_cons_of_not_written
    (h : (sieve.fate content = .selected && !sieve.countOnly) = false) :
    sieve.output (content :: contents) = sieve.output contents := by
  rw [output, output]
  cases hcount : sieve.countOnly with
  | true => rfl
  | false =>
    have hselected : sieve.fate content ≠ .selected := by simpa [hcount] using h
    rw [List.filter_cons_of_neg (by simpa using hselected)]

theorem tally_cons (tally : Tally) :
    tally.add (sieve.tally (content :: contents)) =
      (tally.count (sieve.fate content)).add (sieve.tally contents) := by
  -- each fate adds one to its own numbers
  cases h : sieve.fate content <;>
    simp [Sieve.tally, Tally.add, Tally.count, h] <;> omega

/-- Every line is parsed or skipped, and the selected ones are among those parsed. -/
theorem wellFormed_tally : (sieve.tally contents).WellFormed := by
  constructor
  · have hsplit := List.length_eq_countP_add_countP (sieve.fate · ≠ .skipped) (l := contents)
    simpa [tally] using hsplit
  · refine List.countP_mono_left fun content _ hselected => ?_
    rw [decide_eq_true_iff] at hselected ⊢
    rw [hselected]
    exact LineFate.noConfusion

/-! ### The loop -/

/-- **The loop over lines.** Whatever was written and counted before, all output of the lines is
offered to the sink, and the lines are counted if all of it fits. -/
theorem scanLines_spec (tally : Tally) (sink : Sink) :
    sink.Takes (sieve.output contents) (sieve.scanLines contents tally sink).2 ∧
      (sieve.scanLines contents tally sink).1 =
        if sink.Fits (sieve.output contents) then .ok (tally.add (sieve.tally contents))
        else .error .write := by
  -- on the lines: the tally and the sink are what the lines before have left
  induction contents generalizing tally sink with
  | nil =>
    have houtput : sieve.output [] = [] := by simp [output]
    rw [scanLines, houtput, if_pos (Sink.fits_nil sink)]
    exact ⟨.nil sink, rfl⟩
  | cons content contents ih =>
    rw [scanLines, tally_cons]
    cases hwritten : (sieve.fate content = .selected && !sieve.countOnly) with
    | false =>
      rw [if_neg Bool.false_ne_true, output_cons_of_not_written sieve content contents hwritten]
      exact ih (tally.count (sieve.fate content)) sink
    | true =>
      rw [if_pos rfl, output_cons_of_written sieve content contents hwritten]
      obtain ⟨hline, hok⟩ := sink.writeLine_spec content
      generalize sink.writeLine content = result at hline hok
      obtain ⟨sink', ok⟩ := result
      cases ok with
      | false =>
        -- the loop ends here, as it would with no lines left
        have hfits : ¬ sink.Fits (content ++ [Bytes.lineFeed]) := of_decide_eq_false hok.symm
        rw [if_neg fun hall => hfits hall.of_append]
        exact ⟨hline.append_of_not_fits hfits, rfl⟩
      | true =>
        have hfits : sink.Fits (content ++ [Bytes.lineFeed]) := of_decide_eq_true hok.symm
        obtain ⟨hrest, houtcome⟩ := ih (tally.count (sieve.fate content)) sink'
        refine ⟨hline.append hfits hrest, ?_⟩
        rw [houtcome]
        simp only [hline.fits_append_iff, hfits, true_and]

/-- A source that fails is found out only after its lines, and only if their output fits. -/
theorem scan_spec (source : Source) (sink : Sink) :
    sink.Takes (sieve.output source.lines) (sieve.scan source sink).2 ∧
      (sieve.scan source sink).1 =
        if sink.Fits (sieve.output source.lines) then
          if source.fails then .error .read else .ok (sieve.tally source.lines)
        else .error .write := by
  obtain ⟨htakes, houtcome⟩ := scanLines_spec sieve source.lines {} sink
  rw [scan]
  generalize sieve.scanLines source.lines {} sink = result at htakes houtcome
  obtain ⟨outcome, sink'⟩ := result
  rw [Tally.empty_add] at houtcome
  by_cases hfits : sink.Fits (sieve.output source.lines)
  · rw [if_pos hfits] at houtcome ⊢
    subst houtcome
    exact ⟨htakes, rfl⟩
  · rw [if_neg hfits] at houtcome ⊢
    subst houtcome
    exact ⟨htakes, rfl⟩

/-- Where nothing can fail, all output is written and all lines are counted. -/
theorem scan_of_unlimited {bytes : Bytes} {lines : List Bytes} (hcut : Cut bytes lines)
    (pieces : List Bytes) :
    (sieve.scan { bytes } { pieces }).1 = .ok (sieve.tally (lines.map Bytes.content)) ∧
      (sieve.scan { bytes } { pieces }).2.bytes =
        Sink.bytes { pieces } ++ sieve.output (lines.map Bytes.content) := by
  -- a sink without a limit has room for anything
  have hfits (output : Bytes) : Sink.Fits { pieces } output := Sink.fits_of_room_eq_none rfl output
  obtain ⟨htakes, houtcome⟩ := sieve.scan_spec { bytes } { pieces }
  rw [hcut.lines_eq] at htakes houtcome
  constructor
  · rw [houtcome, if_pos (hfits _), if_neg Bool.false_ne_true]
  · rw [htakes.bytes_eq, Sink.accepted_of_fits (hfits _)]

/-! ### What decides the fate of a line -/

theorem fate_eq_skipped_iff :
    sieve.fate content = .skipped ↔
      Record.ofLine? sieve.rules (Utf8.decodeLossy content) = none := by
  rw [fate]
  cases Record.ofLine? sieve.rules (Utf8.decodeLossy content) with
  | none => simp
  | some record => by_cases h : sieve.filter.holds record = sieve.invert <;> simp [h]

/-- Only a line with a record is ever selected. -/
theorem fate_eq_selected_iff :
    sieve.fate content = .selected ↔
      ∃ record, Record.ofLine? sieve.rules (Utf8.decodeLossy content) = some record ∧
        sieve.filter.holds record ≠ sieve.invert := by
  rw [fate]
  cases Record.ofLine? sieve.rules (Utf8.decodeLossy content) with
  | none => simp
  | some record => by_cases h : sieve.filter.holds record = sieve.invert <;> simp [h]

end Sieve

/-- **A scan is described by its lines.** For all bytes there is exactly one way to cut them into
lines, and a scan of them into a sink without a limit succeeds. It counts the lines by their fates,
and appends the contents of the selected lines, each with a line feed, unless it only counts. A line
is skipped if its content, decoded with replacements, gives no record, and it is selected if it
gives a record on which the verdict of the filter differs from `invert`. -/
theorem scan_eq_lines (sieve : Sieve) (bytes : Bytes) (pieces : List Bytes) :
    ∃ lines, (∀ other, Cut bytes other ↔ other = lines) ∧
      let contents := lines.map Bytes.content
      (∀ content,
        (sieve.fate content = .skipped ↔
          Record.ofLine? sieve.rules (Utf8.decodeLossy content) = none) ∧
        (sieve.fate content = .selected ↔
          ∃ record, Record.ofLine? sieve.rules (Utf8.decodeLossy content) = some record ∧
            sieve.filter.holds record ≠ sieve.invert)) ∧
      ∃ tally sink, sieve.scan { bytes } { pieces } = (.ok tally, sink) ∧
        tally.read = lines.length ∧
        tally.skipped = contents.countP (sieve.fate · = .skipped) ∧
        tally.read = tally.parsed + tally.skipped ∧
        tally.matched = contents.countP (sieve.fate · = .selected) ∧
        sink.bytes = Sink.bytes { pieces } ++
          if sieve.countOnly then []
          else (contents.filter (sieve.fate · = .selected)).flatMap (· ++ [Bytes.lineFeed]) := by
  obtain ⟨lines, hcut⟩ := exists_cut bytes
  refine ⟨lines, fun other => ⟨hcut.unique, fun h => h ▸ hcut⟩, ?_⟩
  intro contents
  refine ⟨fun content => ⟨sieve.fate_eq_skipped_iff content, sieve.fate_eq_selected_iff content⟩,
    ?_⟩
  obtain ⟨htally, hbytes⟩ := sieve.scan_of_unlimited hcut pieces
  exact ⟨sieve.tally contents, (sieve.scan { bytes } { pieces }).2, Prod.ext htally rfl,
    List.length_map _, rfl, (sieve.wellFormed_tally contents).read_eq, rfl, hbytes⟩

end LogSieve
