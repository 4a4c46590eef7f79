import LogSieve.Proofs.Filter.Composed
import LogSieve.Proofs.Filter.FieldTest
import LogSieve.Proofs.Json.Reading
import LogSieve.Proofs.Record.Numeral
import LogSieve.Proofs.Text.Words
import LogSieve.Record.Line

/-!
# Asking for a value by its own text

A line with one word `name=value` gives a record with that one field, whatever the value is, and the
filter `name = "value"` asks whether the field has the text of the value. It has, unless the value
is a numeral that is printed another way (`holds_own_text_iff`).

The line is not read as a value although its name may be `null` or `true`, since something other
than blanks follows (`Json.parse?_word`).
-/

namespace LogSieve

/-! ### A line that is one word -/

namespace Record

/-- The word of a name, an equals sign and a value. -/
theorem pair?_name_value {name value : Text} (hne : name ≠ []) (hname : '=' ∉ name) :
    pair? (name ++ '=' :: value) = some (name, value) := by
  have hrun : ∀ c ∈ name, decide (c ≠ '=') = true := fun c hc =>
    decide_eq_true fun heq => hname (heq ▸ hc)
  have hend : ∀ c ∈ ('=' :: value).head?, decide (c ≠ '=') = false := by
    rintro c ⟨⟩
    decide
  -- the name is all that stands before the first equals sign
  obtain ⟨htake, hdrop⟩ := takeWhile_append_of_closed hrun hend
  unfold pair?
  rw [htake, hdrop]
  cases name with
  | nil => exact absurd rfl hne
  | cons c rest => rfl

/-- **The record of a line with one word**: the one field that the word gives, its value typed. -/
theorem ofLine?_name_value {name value : Text} (hname : Lexeme name (.identifier name))
    (hblank : ∀ c ∈ value, Text.isBlank c = false) :
    ofLine? {} (name ++ '=' :: value) = some [(name, Scalar.coerce value)] := by
  obtain ⟨c, rest, hcons, hword, hdigit⟩ := hname.exists_cons_of_identifier
  have hne : name ≠ [] := hcons ▸ List.cons_ne_nil c rest
  have hequals : '=' ∉ name := fun h => ne_of_isWordChar (hword '=' h) (by decide) rfl
  -- there are no blanks in the line, so it is one word
  have hall : ∀ d ∈ name ++ '=' :: value, Text.isBlank d = false := by
    intro d hd
    rcases List.mem_append.mp hd with hd | hd
    · exact isBlank_eq_false_of_isWordChar (hword d hd)
    · rcases List.mem_cons.mp hd with rfl | hd
      · exact isBlank_equals
      · exact hblank d hd
  -- the name is no digit and an equals sign follows, so the line writes no value
  have hjson : Json.parse? (name ++ '=' :: value) = none := by
    rw [hcons, List.cons_append]
    refine Json.parse?_word (hword c ?_) hdigit (List.mem_append_right _ List.mem_cons_self)
    rw [hcons]
    exact List.mem_cons_self
  have hwords : Text.words (name ++ '=' :: value) = [name ++ '=' :: value] :=
    Text.words_eq_singleton hall (List.append_ne_nil_of_left_ne_nil hne _)
  have hpairs : ofPairs? true (name ++ '=' :: value) = some [(name, Scalar.coerce value)] := by
    rw [ofPairs?, ofWords, hwords, List.filterMap_cons_some (pair?_name_value hne hequals)]
    rfl
  unfold ofLine?
  simp only [Text.trim_eq_self hall, if_true, hjson, hpairs]

end Record

/-! ### The filter that asks for the text -/

/-- A text with its backslashes doubled, as it is written between quotes. -/
def Text.escaped (text : Text) : Text :=
  text.flatMap fun c => if c = '\\' then ['\\', '\\'] else [c]

theorem quotedBody_escaped {text : Text} (h : '"' ∉ text) : QuotedBody '"' text.escaped text := by
  induction text with
  | nil => exact .nil
  | cons c rest ih =>
    rw [List.mem_cons, not_or] at h
    have hrest := ih h.2
    rw [Text.escaped, List.flatMap_cons, ← Text.escaped]
    -- a backslash is written twice, any other character as it is
    split
    · next hbackslash =>
      rw [hbackslash]
      exact .escaped (escapes_iff.mpr rfl) hrest
    · next hbackslash => exact .plain (Ne.symm h.1) hbackslash hrest

/-- The filter that compares a field with a text. -/
def ownTextFilter (name value : Text) : Text :=
  name ++ ' ' :: '=' :: ' ' :: ('"' :: value.escaped ++ ['"'])

/-- **The filter compiles** to a comparison of the field with the text itself. -/
theorem compile_ownTextFilter {name value : Text} (hname : Lexeme name (.identifier name))
    (hdot : '.' ∉ name) (hquote : '"' ∉ value) :
    compile (ownTextFilter name value) =
      .ok (.equals (.field ⟨[name]⟩) (.literal (.string value))) := by
  have hoperand : Lexeme ('"' :: value.escaped ++ ['"']) (.string value) :=
    .quoted (.inl rfl) (quotedBody_escaped hquote)
  have hconstant : Derives .rightOperand [.string value] (.literal (.string value)) 0 :=
    Derives.string.rightOperand_of_ne_field fun path h => nomatch h
  exact compile_fieldTest hname hdot hoperand hconstant

/-! ### The answer -/

/-- The quotes that are stripped from values are those that open a text in a filter. -/
theorem Scalar.isQuote_iff {c : Char} : isQuote c = true ↔ IsQuote c := by
  rw [isQuote, Bool.or_eq_true, decide_eq_true_eq, decide_eq_true_eq, IsQuote]

/-- **Asking for a value by its own text.** For every name that a filter can ask for without a dot
and every value without blanks and quotes, the line `name=value` gives a record and the filter
`name = "value"` compiles. The record satisfies the filter unless the value is a numeral that is
printed in another way than it is written. -/
theorem holds_own_text_iff {name value : Text} (hname : Lexeme name (.identifier name))
    (hdot : '.' ∉ name) (hblank : ∀ c ∈ value, Text.isBlank c = false)
    (hquote : ∀ c ∈ value, ¬IsQuote c) :
    ∃ record filter, Record.ofLine? {} (name ++ '=' :: value) = some record ∧
      compile (ownTextFilter name value) = .ok filter ∧
      (filter.holds record = true ↔
        ∀ numeral : Scalar.Numeral, numeral.WellFormed → numeral.text = value →
          numeral.Stable) := by
  have hdouble : '"' ∉ value := fun h => hquote _ h (.inl rfl)
  have hquotes : ∀ c ∈ value, Scalar.isQuote c = false := fun c hc =>
    Bool.eq_false_iff.mpr fun h => hquote c hc (Scalar.isQuote_iff.mp h)
  have hfield : Fields.get? name [(name, Scalar.coerce value)] = some (Scalar.coerce value) :=
    if_pos rfl
  refine ⟨_, _, Record.ofLine?_name_value hname hblank,
    compile_ownTextFilter hname hdot hdouble, ?_⟩
  rw [holds_fieldTest hfield]
  exact Scalar.equals_string_coerce_iff hquotes

/-- A value without blanks and quotes, by evaluation. -/
theorem plain_of_all {value : Text}
    (h : value.all (fun c => !Text.isBlank c && c != '"' && c != '\'') = true) :
    (∀ c ∈ value, Text.isBlank c = false) ∧ ∀ c ∈ value, ¬IsQuote c := by
  have hall : ∀ c ∈ value, Text.isBlank c = false ∧ ¬IsQuote c := by
    intro c hc
    have hplain := List.all_eq_true.mp h c hc
    simp only [Bool.and_eq_true, Bool.not_eq_true', bne_iff_ne] at hplain
    exact ⟨hplain.1.1, fun hquote => hquote.elim hplain.1.2 hplain.2⟩
  exact ⟨fun c hc => (hall c hc).1, fun c hc => (hall c hc).2⟩

theorem lexeme_k : Lexeme ['k'] (.identifier ['k']) := lexeme_word (by decide) (by decide)

/-- The least number that is too large for 64 bits is a floating-point number, and keeps its
text. -/
theorem holds_own_text_two_pow_64 :
    ∃ record filter, Record.ofLine? {} "k=18446744073709551616".toList = some record ∧
      compile "k = \"18446744073709551616\"".toList = .ok filter ∧
      filter.holds record = true := by
  have hplain : "18446744073709551616".toList.all
      (fun c => !Text.isBlank c && c != '"' && c != '\'') = true := by decide
  obtain ⟨hblank, hquote⟩ := plain_of_all hplain
  obtain ⟨record, filter, hrecord, hcompile, hholds⟩ :=
    holds_own_text_iff lexeme_k (by decide) hblank hquote
  refine ⟨record, filter, hrecord, hcompile, hholds.mpr fun numeral h htext => ?_⟩
  have hread : Scalar.numeral? "18446744073709551616".toList =
      some ⟨false, "18446744073709551616".toList, none⟩ := rfl
  rw [Scalar.numeral?_eq_some_iff.mpr ⟨h, htext⟩] at hread
  obtain rfl := Option.some.inj hread
  have hdigits : Scalar.Numeral.digits ⟨false, "18446744073709551616".toList, none⟩ = 2 ^ 64 := by
    decide +kernel
  -- it does not fit, but it is below `10 ^ 21` and a power of two
  refine .whole rfl ?_ (fun hzero => nomatch hzero.1)
    (.inr ⟨?_, ⟨false, 2 ^ 52, 12, by decide⟩, ?_⟩)
  · rintro ⟨d, rest, hcons⟩
    exact absurd (List.cons.inj hcons).1 (by decide)
  · rw [hdigits]
    decide
  · rw [hdigits, Binary64.magnitude]
    norm_num

/-- **A value that is not equal to its own text**: the number one with a place behind the point,
which is printed without it. -/
theorem not_holds_own_text_one_point_zero :
    Lexeme ['k'] (.identifier ['k']) ∧ '.' ∉ ['k'] ∧
      (∀ c ∈ "1.0".toList, Text.isBlank c = false ∧ ¬IsQuote c) ∧
      ∃ record filter, Record.ofLine? {} "k=1.0".toList = some record ∧
        compile "k = \"1.0\"".toList = .ok filter ∧ filter.holds record = false := by
  have hplain : "1.0".toList.all (fun c => !Text.isBlank c && c != '"' && c != '\'') = true := by
    decide
  obtain ⟨hblank, hquote⟩ := plain_of_all hplain
  have hdouble : '"' ∉ "1.0".toList := by decide
  refine ⟨lexeme_k, by decide, fun c hc => ⟨hblank c hc, hquote c hc⟩, _, _,
    Record.ofLine?_name_value lexeme_k hblank,
    compile_ownTextFilter lexeme_k (by decide) hdouble, ?_⟩
  decide +kernel

end LogSieve
