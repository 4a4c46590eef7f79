import LogSieve.Command.Session
import LogSieve.Proofs.Scan.Sieving
import Mathlib.Algebra.Ring.Nat

/-!
# Scans that fail

A scan fails at the first byte that does not fit into the sink, or after the lines of a source that
fails. It is compared with a scan that cannot fail, of the lines that the source delivers into a
sink without a limit: the sink gets a prefix of the same output, which ends where the room does, and
there is a tally only if nothing failed, which is then the same.

Only successes count towards a running total (`Tally.merge`). Whatever becomes of the scans of a
sequence, each with its own source and sink, the total is the sum of the tallies of those that
succeed, and so it obeys the laws of counting. Reading files in turn is such a sequence, in which
every scan goes on with the sink that the one before it left (`Plan.scanFiles_eq_ok_iff`).

The main statement on both is `scan_failures`.
-/

namespace LogSieve

/-! ### One scan -/

section Limited

variable (sieve : Sieve) (source : Source)

/-- **A scan into limited room.** It writes as much of the output as there is room for. It fails to
write if that is not all of it, and otherwise it fails to read if the source does. -/
theorem scan_of_limited (sink : Sink) (room : Nat) :
    (sieve.scan source { sink with room := some room }).2.bytes =
        sink.bytes ++ (sieve.output source.lines).take room ∧
      (sieve.scan source { sink with room := some room }).1 =
        if room < (sieve.output source.lines).length then .error .write
        else if source.fails then .error .read
        else .ok (sieve.tally source.lines) := by
  obtain ⟨htakes, houtcome⟩ := sieve.scan_spec source { sink with room := some room }
  refine ⟨htakes.bytes_eq, houtcome.trans ?_⟩
  have hroom : ({ sink with room := some room } : Sink).room = some room := rfl
  -- fitting is having no more bytes than room
  by_cases hlt : room < (sieve.output source.lines).length
  · rw [if_pos hlt, if_neg]
    rw [Sink.fits_iff_of_room_eq_some hroom]
    exact Nat.not_le_of_lt hlt
  · rw [if_neg hlt, if_pos]
    rw [Sink.fits_iff_of_room_eq_some hroom]
    exact Nat.le_of_not_lt hlt

/-- A tally is one of lines. -/
theorem wellFormed_of_scan {sink : Sink} {tally : Tally}
    (h : (sieve.scan source sink).1 = .ok tally) : tally.WellFormed := by
  rw [(sieve.scan_spec source sink).2] at h
  split at h
  · split at h
    · cases h
    · cases h
      exact sieve.wellFormed_tally source.lines
  · cases h

end Limited

/-! ### Totals -/

namespace Tally

/-- The running total after one more scan. A scan that fails leaves it as it was. -/
def merge (total : Tally) : Except ScanError Tally → Tally
  | .ok tally => total.add tally
  | .error _ => total

/-- The sum of tallies, count by count. -/
def sum (tallies : List Tally) : Tally where
  read := (tallies.map Tally.read).sum
  parsed := (tallies.map Tally.parsed).sum
  skipped := (tallies.map Tally.skipped).sum
  matched := (tallies.map Tally.matched).sum

theorem add_sum_cons (total tally : Tally) (tallies : List Tally) :
    total.add (sum (tally :: tallies)) = (total.add tally).add (sum tallies) := by
  simp only [add, sum, List.map_cons, List.sum_cons, Nat.add_assoc]

theorem WellFormed.sum {tallies : List Tally} (h : ∀ tally ∈ tallies, tally.WellFormed) :
    (sum tallies).WellFormed := by
  induction tallies with
  | nil => exact ⟨rfl, Nat.le_refl 0⟩
  | cons tally tallies ih =>
    have hsum := ih fun other hother => h other (List.mem_cons_of_mem tally hother)
    -- the sum of two tallies of lines is one of lines
    have hcons := (h tally List.mem_cons_self).add hsum
    simpa only [Tally.sum, Tally.add, List.map_cons, List.sum_cons] using hcons

/-- Merging outcomes adds up the successes among them. -/
theorem foldl_merge (outcomes : List (Except ScanError Tally)) (total : Tally) :
    outcomes.foldl merge total = total.add (sum (outcomes.filterMap Except.toOption)) := by
  induction outcomes generalizing total with
  | nil => rfl
  | cons outcome outcomes ih =>
    rw [List.foldl_cons, ih]
    -- what fails is neither merged nor kept
    cases outcome with
    | error error => rfl
    | ok tally => exact (add_sum_cons total tally _).symm

end Tally

/-- A scan to be made: everything that decides what becomes of it. -/
structure Scan where
  /-- What selects the lines. -/
  sieve : Sieve
  /-- Where they come from. -/
  source : Source
  /-- Where they go. -/
  sink : Sink

namespace Scan

/-- The tally of the scan, or why it fails. -/
def outcome (scan : Scan) : Except ScanError Tally :=
  (scan.sieve.scan scan.source scan.sink).1

/-- What the sink has become. -/
def left (scan : Scan) : Sink :=
  (scan.sieve.scan scan.source scan.sink).2

/-- What a sequence of scans adds up to. -/
def runningTotal (scans : List Scan) : Tally :=
  (scans.map outcome).foldl Tally.merge {}

/-- The tallies of those that succeed. -/
def successes (scans : List Scan) : List Tally :=
  (scans.map outcome).filterMap Except.toOption

theorem runningTotal_eq (scans : List Scan) : runningTotal scans = Tally.sum (successes scans) := by
  rw [runningTotal, Tally.foldl_merge, Tally.empty_add, successes]

theorem wellFormed_runningTotal (scans : List Scan) : (runningTotal scans).WellFormed := by
  rw [runningTotal_eq]
  refine .sum fun tally htally => ?_
  obtain ⟨outcome, houtcome, hok⟩ := List.mem_filterMap.mp htally
  obtain ⟨scan, -, rfl⟩ := List.mem_map.mp houtcome
  -- a tally among the successes is that of a scan
  cases hresult : scan.outcome with
  | error error =>
    rw [hresult] at hok
    cases hok
  | ok tally' =>
    rw [hresult] at hok
    cases hok
    exact wellFormed_of_scan scan.sieve scan.source hresult

end Scan

/-! ### Files -/

/-- The scans of sources in turn: each goes on with the sink that the one before it left. -/
def Sieve.scansInTurn (sieve : Sieve) : List Source → Sink → List Scan
  | [], _ => []
  | source :: sources, sink =>
    let scan : Scan := { sieve, source, sink }
    scan :: sieve.scansInTurn sources scan.left

/-- The first file is read by one scan, and the others go on from what it leaves. -/
theorem Plan.scanFiles_cons_eq_ok_iff (plan : Plan) (entry : Text → FileEntry) (path : Text)
    (paths : List Text) (before total : Tally) (sink : Sink) :
    (plan.scanFiles entry (path :: paths) before sink).1 = .ok total ↔
      ∃ bytes, entry path = .file bytes ∧
        let scan : Scan := { sieve := plan.sieve, source := { bytes }, sink }
        ∃ tally, scan.outcome = .ok tally ∧
          (plan.scanFiles entry paths (before.add tally) scan.left).1 = .ok total := by
  rw [scanFiles, scanFile]
  -- without a file there is no total
  cases entry path with
  | missing reason => simp
  | directory => simp
  | file bytes =>
    simp only [FileEntry.file.injEq, exists_eq_left', Scan.outcome, Scan.left]
    generalize plan.sieve.scan { bytes } sink = result
    obtain ⟨outcome, sink'⟩ := result
    cases outcome <;> simp

/-- **Files are read by scans in turn.** There is a total if every path leads to a file and every
scan succeeds, and then it is the running total of the scans. -/
theorem Plan.scanFiles_eq_ok_iff (plan : Plan) (entry : Text → FileEntry) (paths : List Text)
    (before total : Tally) (sink : Sink) :
    (plan.scanFiles entry paths before sink).1 = .ok total ↔
      ∃ contents : List Bytes, paths.map entry = contents.map .file ∧
        let scans := plan.sieve.scansInTurn (contents.map fun bytes => { bytes }) sink
        (∀ scan ∈ scans, ∃ tally, scan.outcome = .ok tally) ∧
          (scans.map Scan.outcome).foldl Tally.merge before = total := by
  -- on the paths, with the total and the sink that the files before have left
  induction paths generalizing before sink with
  | nil =>
    constructor
    · intro h
      cases h
      exact ⟨[], rfl, by simp [Sieve.scansInTurn], rfl⟩
    · rintro ⟨contents, hpaths, -, htotal⟩
      obtain rfl : contents = [] := List.map_eq_nil_iff.mp hpaths.symm
      rw [← htotal]
      rfl
  | cons path paths ih =>
    rw [scanFiles_cons_eq_ok_iff]
    constructor
    · rintro ⟨bytes, hpath, tally, htally, hrest⟩
      obtain ⟨contents, hpaths, hok, htotal⟩ := (ih _ _).mp hrest
      refine ⟨bytes :: contents, by rw [List.map_cons, List.map_cons, hpath, hpaths], ?_, ?_⟩
      · exact List.forall_mem_cons.mpr ⟨⟨tally, htally⟩, hok⟩
      · -- the first scan succeeds, so merging its outcome adds its tally
        show (List.map Scan.outcome _).foldl Tally.merge (before.merge _) = total
        rw [htally]
        exact htotal
    · rintro ⟨contents, hpaths, hok, htotal⟩
      cases contents with
      | nil => cases hpaths
      | cons bytes contents =>
        obtain ⟨hpath, hpaths⟩ := List.cons.inj hpaths
        obtain ⟨⟨tally, htally⟩, hok⟩ := List.forall_mem_cons.mp hok
        refine ⟨bytes, hpath, tally, htally, (ih _ _).mpr ⟨contents, hpaths, hok, ?_⟩⟩
        change (List.map Scan.outcome _).foldl Tally.merge (before.merge _) = total at htotal
        rwa [htally] at htotal

/-! ### Nothing is lost or counted twice -/

/-- **What failures leave.** (1) Compare any scan into limited room with the scan of the lines that
its source delivers, into an unlimited sink. That one succeeds. The limited one writes what the
other does as far as there is room; it fails to write if there is not room for everything, otherwise
it fails to read if the source fails, and otherwise it has the tally of the other. (2) The running
total of any sequence of scans is the sum of the tallies of those that succeed; every line that it
counts is parsed or skipped, and no more are matched than parsed. (3) Reading files gives the
running total of the scans of the files in turn if all of them succeed, and no total otherwise. -/
theorem scan_failures :
    (∀ (sieve : Sieve) (source : Source) (sink : Sink) (room : Nat),
      ∃ lines, Cut source.bytes lines ∧
        let delivered := source.delivered lines
        let unlimited := sieve.scan { bytes := delivered.flatten } {}
        let limited := sieve.scan source { sink with room := some room }
        Cut delivered.flatten delivered ∧
        ∃ tally, unlimited.1 = .ok tally ∧
          limited.2.bytes = sink.bytes ++ unlimited.2.bytes.take room ∧
          limited.1 =
            if room < unlimited.2.bytes.length then .error .write
            else if source.fails then .error .read
            else .ok tally) ∧
    (∀ scans : List Scan,
      let total := Scan.runningTotal scans
      total = Tally.sum (Scan.successes scans) ∧
        total.read = total.parsed + total.skipped ∧ total.matched ≤ total.parsed) ∧
    (∀ (plan : Plan) (entry : Text → FileEntry) (paths : List Text) (sink : Sink) (total : Tally),
      (plan.scanFiles entry paths {} sink).1 = .ok total ↔
        ∃ contents : List Bytes, paths.map entry = contents.map .file ∧
          let scans := plan.sieve.scansInTurn (contents.map fun bytes => { bytes }) sink
          (∀ scan ∈ scans, ∃ tally, scan.outcome = .ok tally) ∧
            Scan.runningTotal scans = total) := by
  refine ⟨fun sieve source sink room => ?_, fun scans => ?_, fun plan entry paths sink total => ?_⟩
  · obtain ⟨lines, hcut⟩ := exists_cut source.bytes
    -- both scans meet the same lines, so they have the same output and the same tally
    obtain ⟨htally, hbytes⟩ := sieve.scan_of_unlimited hcut.delivered []
    rw [← hcut.sourceLines_eq] at htally hbytes
    refine ⟨lines, hcut, hcut.delivered, sieve.tally source.lines, htally, ?_⟩
    rw [hbytes]
    exact scan_of_limited sieve source sink room
  · have hwell := Scan.wellFormed_runningTotal scans
    exact ⟨Scan.runningTotal_eq scans, hwell.read_eq, hwell.matched_le⟩
  · exact plan.scanFiles_eq_ok_iff entry paths {} total sink

end LogSieve
