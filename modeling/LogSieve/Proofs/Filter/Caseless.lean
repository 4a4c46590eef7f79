import LogSieve.Filter.Verdict

/-!
# Case does not count

Texts count as the same for a filter if they have the same lower-case form, wherever they come from:
from the filter, where any of its constants may be written another way, or from a record, where any
text at the top may be (`Expr.Recased`, `Record.Recased`).

Values of one type are compared as they are before their lower-case forms are, and a text counts as
true without its lower-case form being looked at, so case could show in either way. It does not. Two
texts that are the same have the same lower-case form, which makes the first comparison superfluous
where a text takes part in it (`Json.equals_string_left`). And no character is lost in lower case,
so that a text is empty just if its lower-case form is (`Text.lower_eq_nil_iff`). The value of an
expression is then either the same or a text in another case, by induction on the expression
(`Expr.Recased.value`).

The main statement is `holds_eq_of_recased`.
-/

namespace LogSieve

/-! ### Lower case -/

namespace Text

theorem lowerChar_ne_nil (c : Char) : lowerChar c ≠ [] := by
  unfold lowerChar
  split
  · exact List.cons_ne_nil _ _
  · exact List.cons_ne_nil _ _

/-- **No text is lost in lower case.** -/
theorem lower_eq_nil_iff {text : Text} : lower text = [] ↔ text = [] := by
  constructor
  · intro hnil
    cases text with
    | nil => rfl
    | cons c rest =>
      -- the first character alone comes to something
      obtain ⟨hfirst, -⟩ := List.append_eq_nil_iff.mp hnil
      -- a capital sigma becomes one letter or another, by where it stands
      split at hfirst
      · cases hfirst
      · exact absurd hfirst (lowerChar_ne_nil c)
  · rintro rfl
    rfl

theorem isEmpty_eq_of_lower_eq {text other : Text} (h : lower text = lower other) :
    text.isEmpty = other.isEmpty := by
  rw [Bool.eq_iff_iff, List.isEmpty_iff, List.isEmpty_iff, ← lower_eq_nil_iff, h, lower_eq_nil_iff]

end Text

/-! ### Values -/

namespace Json

/-- A text agrees with itself only. -/
theorem eq_string_of_agrees {text : Text} {value : Json}
    (h : (string text).agrees value = true) : value = string text := by
  cases value with
  | string other =>
    have heq : text = other := beq_iff_eq.mp h
    rw [heq]
  | _ => cases h

theorem agrees_comm_string (text : Text) (value : Json) :
    value.agrees (string text) = (string text).agrees value := by
  cases value with
  | string other => exact Bool.beq_comm
  | _ => rfl

/-- A text is compared by its lower-case form alone. -/
theorem equals_string_left (text : Text) (value : Json) :
    (string text).equals value = ((string text).foldedText == value.foldedText) := by
  rw [equals]
  -- values that agree have the same text, so the second comparison would have said so
  cases hagrees : (string text).agrees value with
  | false => exact Bool.false_or _
  | true => rw [eq_string_of_agrees hagrees, beq_self_eq_true, Bool.true_or]

theorem equals_string_right (value : Json) (text : Text) :
    value.equals (string text) = (value.foldedText == (string text).foldedText) := by
  rw [equals, agrees_comm_string]
  cases hagrees : (string text).agrees value with
  | false => exact Bool.false_or _
  | true => rw [eq_string_of_agrees hagrees, beq_self_eq_true, Bool.true_or]

/-- The same value, or a text with the same lower-case form. -/
inductive Recased : Json → Json → Prop where
  /-- Nothing is changed. -/
  | same (value : Json) : Recased value value
  /-- A text is written another way. -/
  | string {text other : Text} (h : Text.lower text = Text.lower other) :
    Recased (string text) (string other)

namespace Recased

variable {x x' y y' : Json}

theorem foldedText_eq (h : Recased x x') : x.foldedText = x'.foldedText := by
  cases h with
  | same => rfl
  | string h => exact h

theorem isTruthy_eq (h : Recased x x') : x.isTruthy = x'.isTruthy := by
  cases h with
  | same => rfl
  | string h =>
    rw [isTruthy, isTruthy, Text.isEmpty_eq_of_lower_eq h]

/-- **Whether two values are equal does not depend on case**: if one of them is a text, their
lower-case forms decide, and otherwise neither is changed. -/
theorem equals_eq (hx : Recased x x') (hy : Recased y y') : x.equals y = x'.equals y' := by
  -- by the side on which a text was written another way
  cases hx with
  | string h =>
    rw [equals_string_left, equals_string_left, (Recased.string h).foldedText_eq, hy.foldedText_eq]
  | same =>
    cases hy with
    | same => rfl
    | string h =>
      rw [equals_string_right, equals_string_right, (Recased.string h).foldedText_eq]

theorem contains_eq (hx : Recased x x') (hy : Recased y y') : x.contains y = x'.contains y' := by
  rw [contains, contains, hx.foldedText_eq, hy.foldedText_eq]

end Recased

end Json

/-! ### Records and expressions -/

/-- Two records with the same names, and with the same values up to the case of texts at the top. -/
def Record.Recased (record other : Record) : Prop :=
  ∀ name, Option.Rel Json.Recased (record.get? name) (other.get? name)

/-- What a path leads to is changed at most in its case. Below the top nothing is changed, and no
text has members, in whatever case it is. -/
theorem Record.Recased.resolve? {record other : Record} (h : record.Recased other)
    (names : List Text) :
    Json.Recased ((record.resolve? names).getD .null) ((other.resolve? names).getD .null) := by
  cases names with
  | nil => exact .same _
  | cons name names =>
    -- the two values under the first name, in place of the records
    have hname := h name
    generalize hvalue : record.get? name = value at hname
    generalize hvalue' : other.get? name = value' at hname
    cases names with
    | nil =>
      -- the path ends at the top
      rw [Record.resolve?, Record.resolve?, hvalue, hvalue']
      cases hname with
      | none => exact .same _
      | some hrecased => exact hrecased
    | cons second names =>
      simp only [Record.resolve?, hvalue, hvalue']
      cases hname with
      | none => exact .same _
      | some hrecased =>
        -- a text that was written another way had no members before
        cases hrecased with
        | same => exact .same _
        | string _ => exact .same _

namespace Expr

/-- The same expression up to the case of the texts among its constants. -/
inductive Recased : Expr → Expr → Prop where
  | field (path : FieldPath) : Recased (.field path) (.field path)
  | number (value : Nat) : Recased (.literal (.number value)) (.literal (.number value))
  /-- A text may be written another way. -/
  | string {text other : Text} (h : Text.lower text = Text.lower other) :
    Recased (.literal (.string text)) (.literal (.string other))
  | equals {left right left' right' : Expr} (hl : Recased left left') (hr : Recased right right') :
    Recased (.equals left right) (.equals left' right')
  | contains {left right left' right' : Expr} (hl : Recased left left')
    (hr : Recased right right') : Recased (.contains left right) (.contains left' right')
  | and {left right left' right' : Expr} (hl : Recased left left') (hr : Recased right right') :
    Recased (.and left right) (.and left' right')
  | or {left right left' right' : Expr} (hl : Recased left left') (hr : Recased right right') :
    Recased (.or left right) (.or left' right')
  | not {operand operand' : Expr} (h : Recased operand operand') :
    Recased (.not operand) (.not operand')

/-- **The value of an expression changes at most in its case**, and the truth values of operators do
not change at all. -/
theorem Recased.value {expr expr' : Expr} {record record' : Record} (h : expr.Recased expr')
    (hrecord : record.Recased record') :
    Json.Recased (expr.value record) (expr'.value record') := by
  -- the operators look at lower-case forms or at truth alone, and give a truth value that is the
  -- same
  induction h with
  | field path => exact hrecord.resolve? path.segments
  | number value => exact .same _
  | string h => exact .string h
  | equals _ _ ihl ihr =>
    rw [Expr.value, Expr.value, ihl.equals_eq ihr]
    exact .same _
  | contains _ _ ihl ihr =>
    rw [Expr.value, Expr.value, ihl.contains_eq ihr]
    exact .same _
  | and _ _ ihl ihr =>
    rw [Expr.value, Expr.value, ihl.isTruthy_eq, ihr.isTruthy_eq]
    exact .same _
  | or _ _ ihl ihr =>
    rw [Expr.value, Expr.value, ihl.isTruthy_eq, ihr.isTruthy_eq]
    exact .same _
  | not _ ih =>
    rw [Expr.value, Expr.value, ih.isTruthy_eq]
    exact .same _

end Expr

/-- **Case never counts.** Write any texts among the constants of an expression, and any texts at
the top of a record, in another way with the same lower-case form: the verdict stays the same, for
every expression, wherever the constants stand in it. -/
theorem holds_eq_of_recased {expr expr' : Expr} {record record' : Record}
    (hexpr : expr.Recased expr') (hrecord : record.Recased record') :
    expr'.holds record' = expr.holds record := by
  rw [Expr.holds, Expr.holds, (hexpr.value hrecord).isTruthy_eq]

/-- A word in capitals with a sigma at its end, whose lower-case form is another letter there than
elsewhere, and a constant beside a condition. -/
theorem holds_eq_of_recased_final_sigma :
    let filter (street truth : Text) : Expr :=
      .equals (.contains (.field ⟨[['a']]⟩) (.literal (.string street))) (.literal (.string truth))
    let record (street : Text) : Record := [(['a'], .string street)]
    (filter "ΟΔΟΣ".toList "True".toList).holds (record "η οδος".toList) = true ∧
      (filter "οδος".toList "TRUE".toList).holds (record "Η ΟΔΟΣ".toList) = true := by
  intro filter record
  have hstreet : Text.lower "ΟΔΟΣ".toList = Text.lower "οδος".toList := by decide +kernel
  have htruth : Text.lower "True".toList = Text.lower "TRUE".toList := by decide +kernel
  have hvalue : Text.lower "η οδος".toList = Text.lower "Η ΟΔΟΣ".toList := by decide +kernel
  have hrecord : (record "η οδος".toList).Recased (record "Η ΟΔΟΣ".toList) := by
    intro name
    simp only [record, Fields.get?]
    split
    · exact .some (.string hvalue)
    · exact .none
  have hholds : (filter "ΟΔΟΣ".toList "True".toList).holds (record "η οδος".toList) = true := by
    decide +kernel
  refine ⟨hholds, ?_⟩
  have hexpr : (filter "ΟΔΟΣ".toList "True".toList).Recased (filter "οδος".toList "TRUE".toList) :=
    .equals (.contains (.field _) (.string hstreet)) (.string htruth)
  rw [holds_eq_of_recased hexpr hrecord]
  exact hholds

end LogSieve
