import LogSieve.Filter.Verdict
import LogSieve.Proofs.Filter.Printed

/-!
# Asking for the value of a field

A filter `name = operand` compares the field of the name with a constant, if the operand is one
lexeme that stands for a constant on the right. It compiles (`compile_fieldTest`), and a record
satisfies it if the value of the field counts as equal to the constant (`holds_fieldTest`).
-/

namespace LogSieve

/-- A name that filters can ask for is a word that does not start with a digit. -/
theorem Lexeme.exists_cons_of_identifier {name : Text} (h : Lexeme name (.identifier name)) :
    ∃ c rest, name = c :: rest ∧ (∀ d ∈ name, isWordChar d = true) ∧ Text.isDigit c = false := by
  generalize hkind : TokenKind.identifier name = kind at h
  cases h with
  | word hword hdigit => exact ⟨_, _, rfl, hword, hdigit⟩
  | _ => cases hkind

/-- The filter that compares a field with an operand. -/
def fieldTest (name operand : Text) : Text :=
  name ++ ' ' :: '=' :: ' ' :: operand

section FieldTest

variable {name operand : Text} {kind : TokenKind} {constant : Literal}

/-- **The filter compiles** to a comparison of the field with what its operand stands for. -/
theorem compile_fieldTest (hname : Lexeme name (.identifier name)) (hdot : '.' ∉ name)
    (hoperand : Lexeme operand kind)
    (hconstant : Derives .rightOperand [kind] (.literal constant) 0) :
    compile (fieldTest name operand) = .ok (.equals (.field ⟨[name]⟩) (.literal constant)) := by
  have hsplit : name.splitOn '.' = [name] := List.splitOn_eq_singleton hdot
  -- a name without a dot is one segment, and not an empty one
  have hpath : IsPath name := by
    obtain ⟨c, rest, hcons, -, -⟩ := hname.exists_cons_of_identifier
    intro segment hsegment
    rw [hsplit, List.mem_singleton] at hsegment
    rw [hsegment, hcons]
    exact List.cons_ne_nil c rest
  have hfield : Derives .operand [.identifier name] (.field ⟨[name]⟩) 0 := hsplit ▸ .field hpath
  -- the blanks keep the three lexemes apart
  have hspells : Spells (fieldTest name operand) ([.identifier name] ++ .equals :: [kind]) [] := by
    have hlast : Spells operand [kind] [] := .lexeme_of_endsWords hoperand endsWords_nil
    have hequals : Spells (['='] ++ ' ' :: operand) (.equals :: [kind]) [] :=
      .lexeme_append .equals (endsWords_space _) (.blank isBlank_space hlast)
    exact .lexeme_append hname (endsWords_space _) (.blank isBlank_space hequals)
  have hderives :=
    (Derives.equals hfield hconstant).affirmation.conjunction_single.disjunction_single
  exact compile_eq_ok_iff.mpr (hspells.compilesWithin hderives (Nat.zero_le _))

/-- **A record satisfies the filter** if its field counts as equal to the constant. -/
theorem holds_fieldTest {record : Record} {value : Json} (h : record.get? name = some value)
    (constant : Literal) :
    (Expr.equals (.field ⟨[name]⟩) (.literal constant)).holds record =
      value.equals constant.value := by
  have hresolve : record.resolve? [name] = some value := h
  rw [Expr.holds, Expr.value, Expr.value_field hresolve]
  rfl

end FieldTest

end LogSieve
