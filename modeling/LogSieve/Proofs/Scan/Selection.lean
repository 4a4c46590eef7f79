import LogSieve.Proofs.Record.LineEnd
import LogSieve.Proofs.Scan.Inversion

/-!
# Scanning the output of a scan

What a scan writes is a selection of the lines it reads, so scanning the output again, with the same
filter, rules and direction, selects all of it.

The second scan does not always meet the same lines. A line is written without the carriage return
that the first scan took off its end, and if another one stands before that, the second scan takes
it off too. But the fate of a line does not depend on a carriage return at its end
(`Sieve.fate_stripReturn`), so whatever was selected is selected again. Only the bytes can differ:
the second output consists of the selected lines with one carriage return less where there is one
(`Sieve.output_rescanned_eq_iff`), and so it is the first output just if no selected line ends in
one.

The main statement is `scan_of_selection`.
-/

namespace LogSieve

/-! ### Contents that are written -/

namespace Bytes

variable {contents others : List Bytes}

/-- Either nothing is taken off the end, or one carriage return is. -/
theorem stripReturn_spec (content : Bytes) :
    content.stripReturn = content ∨ content = content.stripReturn ++ [carriageReturn] := by
  unfold stripReturn
  split
  · next hlast =>
    right
    obtain ⟨init, rfl⟩ := List.getLast?_eq_some_iff.mp hlast
    rw [List.dropLast_concat]
  · exact .inl rfl

theorem stripReturn_eq_self_iff {content : Bytes} :
    content.stripReturn = content ↔ content.getLast? ≠ some carriageReturn := by
  constructor
  · intro hself hlast
    obtain ⟨init, rfl⟩ := List.getLast?_eq_some_iff.mp hlast
    rw [stripReturn, if_pos hlast, List.dropLast_concat] at hself
    -- a list is not itself with something taken off
    exact absurd hself (by simp)
  · intro hlast
    exact if_neg hlast

/-- Lines that were written hold what was written, without one more carriage return. -/
theorem map_content_append_lineFeed (contents : List Bytes) :
    (contents.map (· ++ [lineFeed])).map content = contents.map stripReturn := by
  rw [List.map_map]
  exact List.map_congr_left fun written _ => content_append_lineFeed written

/-- **Written contents are told apart by the bytes**, if no line feed stands inside them. -/
theorem flatMap_append_lineFeed_inj (h : ∀ content ∈ contents, lineFeed ∉ content)
    (h' : ∀ content ∈ others, lineFeed ∉ content) :
    contents.flatMap (· ++ [lineFeed]) = others.flatMap (· ++ [lineFeed]) ↔ contents = others := by
  constructor
  · intro heq
    -- both are the only way to cut the same bytes
    have hcut := cut_flatMap h
    rw [heq] at hcut
    have hlines := (cut_flatMap h').unique hcut
    exact List.map_injective_iff.mpr (List.append_left_injective [lineFeed]) hlines
  · intro heq
    rw [heq]

end Bytes

/-! ### The second scan -/

namespace Sieve

variable (sieve : Sieve)

/-- **A carriage return at the end of a line does not change its fate.** -/
theorem fate_stripReturn (content : Bytes) :
    sieve.fate content.stripReturn = sieve.fate content := by
  rcases content.stripReturn_spec with hself | hreturn
  · rw [hself]
  · have hrecord : Record.ofLine? sieve.rules (Utf8.decodeLossy content) =
        Record.ofLine? sieve.rules (Utf8.decodeLossy content.stripReturn) := by
      conv_lhs => rw [hreturn]
      exact Record.ofLine?_decodeLossy_append_return sieve.rules content.stripReturn
    rw [fate, fate, hrecord]

section AllSelected

variable {sieve} {contents : List Bytes} (h : ∀ content ∈ contents, sieve.fate content = .selected)

include h

/-- Lines that are all selected stay as they are. -/
theorem selected_eq_self : sieve.selected contents = contents := by
  rw [selected, List.filter_eq_self]
  intro content hcontent
  exact decide_eq_true (h content hcontent)

/-- Lines that are all selected count as read, parsed and matched. -/
theorem tally_of_all_selected :
    (sieve.tally contents).read = contents.length ∧
      (sieve.tally contents).parsed = contents.length ∧
      (sieve.tally contents).skipped = 0 ∧
      (sieve.tally contents).matched = contents.length := by
  have hread : (sieve.tally contents).read = contents.length := rfl
  have hmatched : (sieve.tally contents).matched = contents.length := by
    rw [matched_tally, selected_eq_self h]
  -- the laws of counting leave no line to be skipped
  obtain ⟨hsum, hle⟩ := sieve.wellFormed_tally contents
  omega

end AllSelected

variable (contents : List Bytes)

/-- The lines that the second scan meets are selected like those that the first one wrote. -/
theorem fate_of_mem_rescanned :
    ∀ content ∈ (sieve.selected contents).map Bytes.stripReturn,
      sieve.fate content = .selected := by
  intro content hcontent
  obtain ⟨original, horiginal, rfl⟩ := List.mem_map.mp hcontent
  rw [fate_stripReturn]
  exact of_decide_eq_true (List.mem_filter.mp horiginal).2

/-- **The second output is the first** if no selected line ends in a carriage return. -/
theorem output_rescanned_eq_iff {bytes : Bytes} {lines : List Bytes} (hcut : Cut bytes lines)
    (hwrites : sieve.countOnly = false) :
    sieve.output ((sieve.selected (lines.map Bytes.content)).map Bytes.stripReturn) =
        sieve.output (lines.map Bytes.content) ↔
      ∀ content ∈ sieve.selected (lines.map Bytes.content),
        content.getLast? ≠ some Bytes.carriageReturn := by
  -- no content holds a line feed, before or after a carriage return is taken off
  have hfeed : ∀ content ∈ sieve.selected (lines.map Bytes.content),
      Bytes.lineFeed ∉ content := by
    intro content hcontent
    exact hcut.lineFeed_notMem content (List.mem_of_mem_filter hcontent)
  have hfeed' : ∀ content ∈ (sieve.selected (lines.map Bytes.content)).map Bytes.stripReturn,
      Bytes.lineFeed ∉ content := by
    intro content hcontent
    obtain ⟨original, horiginal, rfl⟩ := List.mem_map.mp hcontent
    exact Bytes.lineFeed_notMem_stripReturn (hfeed original horiginal)
  rw [output_eq_flatMap sieve _ hwrites, output_eq_flatMap sieve _ hwrites,
    selected_eq_self (sieve.fate_of_mem_rescanned _),
    Bytes.flatMap_append_lineFeed_inj hfeed' hfeed]
  -- both lists come from the same lines, and are the same line by line
  conv_lhs => rhs; rw [← List.map_id (sieve.selected _)]
  rw [List.map_inj_left]
  simp only [id_eq, Bytes.stripReturn_eq_self_iff]

end Sieve

/-- **Scanning is a selection.** Let a scan, with any filter and rules and in either direction,
write the lines that it selects of some bytes. A second scan of its output with the same filter,
rules and direction reads as many lines as the first one matched, skips none and selects all of
them. It writes the same bytes as the first scan if and only if no line that the first one selected
ends in a carriage return, which then stood before the one that was taken off. -/
theorem scan_of_selection (filter : Expr) (rules : InputRules) (invert : Bool) (bytes : Bytes) :
    let sieve : Sieve := { filter, rules, invert, countOnly := false }
    let first := sieve.scan { bytes } {}
    let second := sieve.scan { bytes := first.2.bytes } {}
    ∃ lines, (∀ other, Cut bytes other ↔ other = lines) ∧
      let selected := (lines.map Bytes.content).filter (sieve.fate · = .selected)
      ∃ tally tally', first.1 = .ok tally ∧ second.1 = .ok tally' ∧
        tally'.read = tally.matched ∧ tally'.parsed = tally.matched ∧
        tally'.matched = tally.matched ∧ tally'.skipped = 0 ∧
        (second.2.bytes = first.2.bytes ↔
          ∀ content ∈ selected, content.getLast? ≠ some Bytes.carriageReturn) := by
  intro sieve first second
  obtain ⟨lines, hcut⟩ := exists_cut bytes
  refine ⟨lines, fun other => ⟨hcut.unique, fun h => h ▸ hcut⟩, ?_⟩
  intro selected
  have hfirst : first.1 = .ok (sieve.tally (lines.map Bytes.content)) ∧
      first.2.bytes = sieve.output (lines.map Bytes.content) := sieve.scan_of_unlimited hcut []
  -- the second scan reads the lines that the first one wrote
  have hcut' : Cut first.2.bytes (selected.map (· ++ [Bytes.lineFeed])) := by
    rw [hfirst.2]
    exact sieve.cut_output hcut rfl
  have hsecond : second.1 = .ok (sieve.tally (selected.map Bytes.stripReturn)) ∧
      second.2.bytes = sieve.output (selected.map Bytes.stripReturn) := by
    rw [← Bytes.map_content_append_lineFeed selected]
    exact sieve.scan_of_unlimited hcut' []
  obtain ⟨hread, hparsed, hskipped, hmatched⟩ :=
    Sieve.tally_of_all_selected (sieve.fate_of_mem_rescanned (lines.map Bytes.content))
  -- as many lines as were selected
  have hcount : (selected.map Bytes.stripReturn).length =
      (sieve.tally (lines.map Bytes.content)).matched := by
    rw [List.length_map, sieve.matched_tally]
    rfl
  refine ⟨_, _, hfirst.1, hsecond.1, hread.trans hcount, hparsed.trans hcount,
    hmatched.trans hcount, hskipped, ?_⟩
  rw [hfirst.2, hsecond.2]
  exact sieve.output_rescanned_eq_iff hcut rfl

end LogSieve
