import LogSieve.Proofs.Filter.Composed
import LogSieve.Proofs.Scan.Sieving

/-!
# Inverting a scan

A scan can be turned round in two ways: by the switch of the scan, or by putting a `not` before the
filter. The two are the same scan, for every source and every sink, since a scan depends on the
fates of the lines alone (`Sieve.scan_congr`) and both ways turn the same fates round
(`Sieve.fate_inverted`).

Turned round, a scan selects what it passed over before and passes over what it selected; what it
skips stays skipped, whatever the filter says (`Sieve.fate_eq_skipped_iff_not_recorded`). So the
lines with a record are dealt out to the scan and to its inversion: each goes to exactly one of the
two, in order (`Interleaves`, `interleaves_filter`), and the counts add up.

The main statement is `scan_inverted`.
-/

namespace LogSieve

/-! ### Interleaved lists -/

/-- `Interleaves left right all`: the list `all` is dealt out to `left` and `right`, each element to
one of them, in order. -/
inductive Interleaves {α : Type} : List α → List α → List α → Prop where
  /-- Nothing is dealt out. -/
  | nil : Interleaves [] [] []
  /-- The next element goes to the left. -/
  | left {x : α} {left right all : List α} (h : Interleaves left right all) :
    Interleaves (x :: left) right (x :: all)
  /-- The next element goes to the right. -/
  | right {x : α} {left right all : List α} (h : Interleaves left right all) :
    Interleaves left (x :: right) (x :: all)

section Interleaves

variable {α : Type} {left right all : List α}

/-- Nothing is missing, and nothing is dealt out twice. -/
theorem Interleaves.length_eq (h : Interleaves left right all) :
    left.length + right.length = all.length := by
  induction h with
  | nil => rfl
  | left _ ih =>
    rw [List.length_cons, List.length_cons, ← ih]
    omega
  | right _ ih =>
    rw [List.length_cons, List.length_cons, ← ih]
    omega

/-- **A list is dealt out by two conditions** of which every element that counts meets exactly
one. -/
theorem interleaves_filter {keeps drops counts : α → Bool}
    (hcounts : ∀ x, counts x = (keeps x || drops x))
    (hdrops : ∀ x, keeps x = true → drops x = false) (xs : List α) :
    Interleaves (xs.filter keeps) (xs.filter drops) (xs.filter counts) := by
  induction xs with
  | nil => exact .nil
  | cons x xs ih =>
    cases hkeep : keeps x with
    | true =>
      have hdrop : drops x = false := hdrops x hkeep
      -- what is kept counts and is not dropped
      have hcount : counts x = true := by rw [hcounts, hkeep, Bool.true_or]
      rw [List.filter_cons_of_pos hkeep, List.filter_cons_of_neg (by simp [hdrop]),
        List.filter_cons_of_pos hcount]
      exact .left ih
    | false =>
      rw [List.filter_cons_of_neg (by simp [hkeep])]
      cases hdrop : drops x with
      | true =>
        have hcount : counts x = true := by rw [hcounts, hdrop, Bool.or_true]
        rw [List.filter_cons_of_pos hdrop, List.filter_cons_of_pos hcount]
        exact .right ih
      | false =>
        -- neither kept nor dropped: it does not count
        have hcount : counts x = false := by rw [hcounts, hkeep, hdrop, Bool.or_false]
        rw [List.filter_cons_of_neg (by simp [hdrop]), List.filter_cons_of_neg (by simp [hcount])]
        exact ih

end Interleaves

/-! ### Scans with the same fates -/

namespace Sieve

section Congr

variable {sieve other : Sieve}

/-- One line is treated alike, and so are all of them. -/
theorem scanLines_congr (hfate : ∀ content, sieve.fate content = other.fate content)
    (hcount : sieve.countOnly = other.countOnly) (contents : List Bytes) (tally : Tally)
    (sink : Sink) : sieve.scanLines contents tally sink = other.scanLines contents tally sink := by
  induction contents generalizing tally sink with
  | nil => rfl
  | cons content contents ih =>
    rw [scanLines, scanLines, hfate content, hcount]
    -- whether the line is written depends on its fate and on nothing else of the scan
    split
    · cases sink.writeLine content with
      | mk sink' ok =>
        cases ok with
        | true => exact ih _ sink'
        | false => rfl
    · exact ih _ sink

/-- **A scan depends on the fates of the lines alone**, whatever filter they come from. -/
theorem scan_congr (hfate : ∀ content, sieve.fate content = other.fate content)
    (hcount : sieve.countOnly = other.countOnly) (source : Source) (sink : Sink) :
    sieve.scan source sink = other.scan source sink := by
  rw [scan, scan, scanLines_congr hfate hcount]

end Congr

/-! ### The two ways to turn a scan round -/

section Inverted

variable (filter : Expr) (rules : InputRules) (countOnly : Bool) (content : Bytes)

/-- Whether a line gives a record. -/
def recorded (rules : InputRules) (content : Bytes) : Bool :=
  (Record.ofLine? rules (Utf8.decodeLossy content)).isSome

/-- **Inverting is negating**: the switch and a `not` before the filter give a line the same
fate. -/
theorem fate_inverted :
    fate { filter, rules, countOnly, invert := true } content =
      fate { filter := .not filter, rules, countOnly } content := by
  rw [fate, fate]
  cases Record.ofLine? rules (Utf8.decodeLossy content) with
  | none => rfl
  | some record =>
    cases hholds : filter.holds record <;> simp [hholds]

/-- What is skipped does not depend on the filter. -/
theorem fate_eq_skipped_iff_not_recorded (sieve : Sieve) :
    sieve.fate content = .skipped ↔ recorded sieve.rules content = false := by
  rw [fate_eq_skipped_iff, recorded, Option.isSome_eq_false_iff, Option.isNone_iff_eq_none]

/-- A line with a record is selected either by the scan or by its inversion. -/
theorem recorded_eq_or :
    recorded rules content =
      (decide (fate { filter, rules, countOnly } content = .selected) ||
        decide (fate { filter, rules, countOnly, invert := true } content = .selected)) := by
  rw [Bool.eq_iff_iff, Bool.or_eq_true, decide_eq_true_iff, decide_eq_true_iff,
    fate_eq_selected_iff, fate_eq_selected_iff, recorded, Option.isSome_iff_exists]
  constructor
  · rintro ⟨record, hrecord⟩
    -- the record has a verdict, and one of the two scans selects it
    cases hholds : filter.holds record with
    | true => exact .inl ⟨record, hrecord, by simp [hholds]⟩
    | false => exact .inr ⟨record, hrecord, by simp [hholds]⟩
  · rintro (⟨record, hrecord, -⟩ | ⟨record, hrecord, -⟩) <;> exact ⟨record, hrecord⟩

theorem fate_inverted_ne_selected
    (h : fate { filter, rules, countOnly } content = .selected) :
    fate { filter, rules, countOnly, invert := true } content ≠ .selected := by
  intro h'
  obtain ⟨record, hrecord, hholds⟩ := (fate_eq_selected_iff _ content).mp h
  obtain ⟨record', hrecord', hholds'⟩ := (fate_eq_selected_iff _ content).mp h'
  obtain rfl : record = record' := Option.some.inj (hrecord.symm.trans hrecord')
  -- a verdict that is not false is true
  exact hholds' (Bool.eq_true_of_not_eq_false hholds)

end Inverted

/-! ### What the two scans count and write -/

section Dealt

variable (sieve : Sieve) (contents : List Bytes)

/-- The selected lines. -/
def selected (contents : List Bytes) : List Bytes :=
  contents.filter (sieve.fate · = .selected)

theorem output_eq_flatMap (h : sieve.countOnly = false) :
    sieve.output contents = (sieve.selected contents).flatMap (· ++ [Bytes.lineFeed]) := by
  rw [output, h]
  rfl

theorem matched_tally : (sieve.tally contents).matched = (sieve.selected contents).length :=
  List.countP_eq_length_filter ..

/-- All counts but the last one are read off the lines with a record. -/
theorem tally_recorded :
    (sieve.tally contents).read = contents.length ∧
      (sieve.tally contents).parsed = (contents.filter (recorded sieve.rules)).length ∧
      (sieve.tally contents).skipped = contents.countP (! recorded sieve.rules ·) := by
  refine ⟨rfl, ?_, ?_⟩
  · rw [← List.countP_eq_length_filter]
    refine List.countP_congr fun content _ => ?_
    rw [decide_eq_true_iff, Ne, fate_eq_skipped_iff_not_recorded, Bool.not_eq_false]
  · refine List.countP_congr fun content _ => ?_
    rw [decide_eq_true_iff, fate_eq_skipped_iff_not_recorded, Bool.not_eq_true']

/-- The lines that a scan selects are the lines of its output. -/
theorem cut_output {bytes : Bytes} {lines : List Bytes} (hcut : Cut bytes lines)
    (h : sieve.countOnly = false) :
    Cut (sieve.output (lines.map Bytes.content))
      ((sieve.selected (lines.map Bytes.content)).map (· ++ [Bytes.lineFeed])) := by
  rw [output_eq_flatMap sieve _ h]
  exact cut_flatMap fun content hcontent =>
    hcut.lineFeed_notMem content (List.mem_of_mem_filter hcontent)

/-- **The lines with a record are dealt out to a scan and to its inversion.** -/
theorem interleaves_selected (filter : Expr) (rules : InputRules) (countOnly : Bool) :
    Interleaves (selected { filter, rules, countOnly } contents)
      (selected { filter, rules, countOnly, invert := true } contents)
      (contents.filter (recorded rules)) := by
  refine interleaves_filter (fun content => ?_) (fun content h => ?_) contents
  · exact recorded_eq_or filter rules countOnly content
  · rw [decide_eq_true_iff] at h
    exact decide_eq_false (fate_inverted_ne_selected filter rules countOnly content h)

end Dealt

end Sieve

/-! ### Compiled filters -/

section Compiled

variable {source : Text} {filter : Expr}

/-- A text after a `not` compiles to no other tree than the negation. -/
theorem eq_not_of_compile_negated (h : compile source = .ok filter) {negation : Expr}
    (hnegation : compile (negated source) = .ok negation) : negation = .not filter := by
  obtain ⟨cost, hneeds⟩ := exists_needs h
  exact hneeds.negated.compilesIf.eq_of_ok hnegation

/-- **Inverting is negating, and splits the input in two.** Let a text compile to a filter. (1) The
inverted scan with it is the same as the scan with what the text after a `not` compiles to, whenever
that compiles: for every source, which may fail, and every sink, which may be full. (2) On every
input the scan and the inverted scan read the same number of lines, parse the same and skip the
same, and together they match as many as are parsed. Unless they only count, the lines of their
outputs are the lines with a record, dealt out to the two in order; no line is in both. -/
theorem scan_inverted (h : compile source = .ok filter) (rules : InputRules) (countOnly : Bool) :
    let straight : Sieve := { filter, rules, countOnly }
    let inverted : Sieve := { filter, rules, countOnly, invert := true }
    (∀ negation, compile (negated source) = .ok negation → ∀ (input : Source) (sink : Sink),
      inverted.scan input sink = Sieve.scan { filter := negation, rules, countOnly } input sink) ∧
    ∀ bytes, ∃ lines, Cut bytes lines ∧
      ∃ kept dropped tally tally' sink sink',
        straight.scan { bytes } {} = (.ok tally, sink) ∧
        inverted.scan { bytes } {} = (.ok tally', sink') ∧
        tally'.read = tally.read ∧ tally'.parsed = tally.parsed ∧
        tally'.skipped = tally.skipped ∧ tally.matched + tally'.matched = tally.parsed ∧
        (countOnly = false →
          Cut sink.bytes (kept.map (· ++ [Bytes.lineFeed])) ∧
          Cut sink'.bytes (dropped.map (· ++ [Bytes.lineFeed]))) ∧
        Interleaves kept dropped ((lines.map Bytes.content).filter (Sieve.recorded rules)) ∧
        ∀ content ∈ kept, content ∉ dropped := by
  intro straight inverted
  constructor
  · intro negation hnegation input sink
    rw [eq_not_of_compile_negated h hnegation]
    exact Sieve.scan_congr (Sieve.fate_inverted filter rules countOnly) rfl input sink
  intro bytes
  -- both scans read the same lines
  obtain ⟨lines, hcut⟩ := exists_cut bytes
  obtain ⟨htally, hbytes⟩ := straight.scan_of_unlimited hcut []
  obtain ⟨htally', hbytes'⟩ := inverted.scan_of_unlimited hcut []
  obtain ⟨hread, hparsed, hskipped⟩ := straight.tally_recorded (lines.map Bytes.content)
  obtain ⟨hread', hparsed', hskipped'⟩ := inverted.tally_recorded (lines.map Bytes.content)
  have hdealt := Sieve.interleaves_selected (lines.map Bytes.content) filter rules countOnly
  refine ⟨lines, hcut, straight.selected _, inverted.selected _, _, _, _, _,
    Prod.ext htally rfl, Prod.ext htally' rfl, hread'.trans hread.symm,
    hparsed'.trans hparsed.symm, hskipped'.trans hskipped.symm, ?_, fun hcount => ?_, hdealt, ?_⟩
  · rw [straight.matched_tally, inverted.matched_tally, hdealt.length_eq, hparsed]
  · rw [hbytes, hbytes']
    exact ⟨straight.cut_output hcut hcount, inverted.cut_output hcut hcount⟩
  · intro content hkept hdropped
    -- by their contents: the same line cannot be selected by both
    have hselected := of_decide_eq_true (List.mem_filter.mp hkept).2
    have hselected' := of_decide_eq_true (List.mem_filter.mp hdropped).2
    exact Sieve.fate_inverted_ne_selected filter rules countOnly content hselected hselected'

/-- A path alone is a filter, and turned round by the switch it is the filter `not (a)`. -/
theorem scan_inverted_letter :
    compile ['a'] = .ok letter.expr ∧ ∃ negation, compile (negated ['a']) = .ok negation ∧
      Sieve.scan { filter := letter.expr, invert := true } { bytes := [97, 61, 48, 10, 120] } {} =
        Sieve.scan { filter := negation } { bytes := [97, 61, 48, 10, 120] } {} := by
  have hnegation : compile (negated ['a']) = .ok (.not letter.expr) :=
    Needs.letter.negated.compilesIf.ok_iff.mpr (by decide)
  exact ⟨compile_letter, _, hnegation, (scan_inverted compile_letter {} false).1 _ hnegation _ _⟩

end Compiled

end LogSieve
