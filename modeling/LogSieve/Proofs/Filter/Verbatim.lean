import LogSieve.Filter.Verdict
import LogSieve.Proofs.Text.Sigma

/-!
# Searching for what stands there

`contains` looks for one lower-case form in another, and the two are made apart from each other. A
text that stands in another one, letter by letter, is therefore found where its lower-case form in
that place is the one that it has by itself. Only capital sigmas can keep it from being so: a final
sigma is another letter than a sigma inside a word, and where a text is cut decides which of the two
it is.

The main statement is `contains_verbatim_iff`, which says for which texts this never happens,
whatever they are searched in.
-/

namespace LogSieve

/-- A text is searched in a text by their lower-case forms. -/
theorem Expr.holds_contains_iff {record : Record} {left : Expr} {text : Text}
    (h : left.value record = .string text) (needle : Text) :
    (contains left (.literal (.string needle))).holds record = true ↔
      Text.lower needle <:+: Text.lower text := by
  rw [holds, value, h]
  exact Text.occursIn_iff_isInfix _

/-- **Which texts are found wherever they stand.** (1) A text is found in every field and (2) in
every constant in which it stands if and only if its capital sigmas are settled within it; no other
text is found everywhere. (3) Without a capital sigma there is nothing to settle. (4) Whatever the
text, it is found where each of its capital sigmas is lower-cased as in the text by itself. -/
theorem contains_verbatim_iff (needle : Text) :
    ((∀ (record : Record) (path : FieldPath) (text : Text),
        record.resolve? path.segments = some (.string text) → needle <:+: text →
        (Expr.contains (.field path) (.literal (.string needle))).holds record = true) ↔
      needle.SettlesSigmas) ∧
    ((∀ (record : Record) (text : Text), needle <:+: text →
        (Expr.contains (.literal (.string text)) (.literal (.string needle))).holds record = true) ↔
      needle.SettlesSigmas) ∧
    ('Σ' ∉ needle → needle.SettlesSigmas) ∧
    ∀ (record : Record) (left : Expr) (before after : Text),
      left.value record = .string (before ++ needle ++ after) →
      (∀ front back, needle = front ++ 'Σ' :: back →
        Text.lowerSigma (front.reverse ++ before.reverse) (back ++ after) =
          Text.lowerSigma front.reverse back) →
      (Expr.contains left (.literal (.string needle))).holds record = true := by
  refine ⟨⟨?_, ?_⟩, ⟨?_, ?_⟩, Text.settlesSigmas_of_notMem, ?_⟩
  · intro hfound
    rw [← Text.isInfix_lower_iff]
    intro text hstands
    -- a record with the text in its one field
    have hfield : Record.resolve? [['m']] [(['m'], Json.string text)] = some (.string text) := rfl
    exact (Expr.holds_contains_iff (Expr.value_field hfield) needle).mp
      (hfound _ ⟨[['m']]⟩ text hfield hstands)
  · intro hsettles record path text hfield hstands
    rw [Expr.holds_contains_iff (Expr.value_field hfield)]
    exact hsettles.isInfix_lower hstands
  · intro hfound
    rw [← Text.isInfix_lower_iff]
    intro text hstands
    exact (Expr.holds_contains_iff rfl needle).mp (hfound [] text hstands)
  · intro hsettles record text hstands
    rw [Expr.holds_contains_iff rfl]
    exact hsettles.isInfix_lower hstands
  · intro record left before after hleft hsigmas
    rw [Expr.holds_contains_iff hleft, Text.lower_append_append]
    have hsame : Text.lowerWithin before.reverse needle after = Text.lower needle := by
      rw [Text.lower_eq_lowerWithin]
      apply Text.lowerWithin_congr
      intro front back hsplit
      rw [hsigmas front back hsplit, List.append_nil, List.append_nil]
    rw [hsame]
    exact ⟨_, _, rfl⟩

/-- A sigma in front of a letter is settled, whatever is before the two and behind them. -/
theorem holds_contains_inner_sigma :
    let record : Record := [(['m'], .string "ΟΣΑΣ".toList)]
    record.resolve? [['m']] = some (.string "ΟΣΑΣ".toList) ∧ "ΣΑ".toList <:+: "ΟΣΑΣ".toList ∧
      (Expr.contains (.field ⟨[['m']]⟩) (.literal (.string "ΣΑ".toList))).holds record = true := by
  intro record
  have hsettles : Text.SettlesSigmas "ΣΑ".toList := by
    intro front back hsplit
    change ['Σ', 'Α'] = _ at hsplit
    cases front with
    | nil =>
      obtain ⟨-, rfl⟩ := List.cons.inj hsplit
      exact .inl (by decide +kernel)
    | cons c front =>
      -- there is no other sigma
      have hmem : 'Σ' ∈ ['Α'] := by
        rw [(List.cons.inj hsplit).2]
        exact List.mem_append_right front List.mem_cons_self
      exact absurd hmem (by decide)
  have hstands : "ΣΑ".toList <:+: "ΟΣΑΣ".toList := ⟨['Ο'], ['Σ'], rfl⟩
  exact ⟨rfl, hstands, (contains_verbatim_iff _).1.mpr hsettles record ⟨[['m']]⟩ _ rfl hstands⟩

/-- **A text that is not found where it stands**: a sigma behind a letter is final, and by itself it
is none. -/
theorem not_holds_contains_final_sigma :
    let record : Record := [(['m'], .string ['Α', 'Σ'])]
    record.resolve? [['m']] = some (.string ['Α', 'Σ']) ∧ ['Σ'] <:+: ['Α', 'Σ'] ∧
      (Expr.contains (.field ⟨[['m']]⟩) (.literal (.string ['Σ']))).holds record = false := by
  refine ⟨rfl, ⟨['Α'], [], rfl⟩, ?_⟩
  decide +kernel

end LogSieve
