import LogSieve.Proofs.Number.Written

/-!
# When two numbers count as equal

A filter compares two integers exactly, and rounds an integer before it compares it with a
floating-point number. So an integer counts as equal to the floating-point number nearest to it,
also where the two are not the same. This is the only way in which numbers that differ count as
equal, and it takes an integer beyond `2 ^ 53`, since all others are floating-point numbers
themselves (`holds_equals_numbers_iff`).

The comparison of texts that follows adds nothing, because numbers with one text have one value
(`Number.value_eq_of_comparedText_eq`), and numbers with one value agree
(`Number.agrees_of_value_eq`).
-/

namespace LogSieve

namespace Binary64

variable {x y : Binary64} {q : ℚ}

/-- A number is nearest to itself. -/
theorem isNearest_of_value_eq (h : x.value = q) : x.IsNearest q := by
  have hself : |q - x.value| = 0 := by rw [h, sub_self, abs_zero]
  refine ⟨fun y => ?_, fun y hne htie => ?_⟩
  · rw [hself]
    exact abs_nonneg _
  · rw [hself] at htie
    exact absurd ((sub_eq_zero.mp (abs_eq_zero.mp htie.symm)).symm.trans h.symm) hne

/-- What is nearest is a matter of the value. -/
theorem IsNearest.congr (h : x.IsNearest q) (hvalue : x.value = y.value) : y.IsNearest q := by
  have hmagnitude : x.magnitude = y.magnitude := by rw [← abs_value, hvalue, abs_value]
  obtain ⟨hsignificand, -⟩ := magnitude_inj hmagnitude
  refine ⟨fun z => hvalue ▸ h.nearest z, fun z hne htie => ?_⟩
  rw [← hsignificand]
  rw [← hvalue] at hne htie
  exact h.even z hne htie

end Binary64

namespace Number

/-- The numbers that records and filters hold: the integers that fit into 64 bits with or without a
sign, and all floating-point numbers. -/
def Held : Number → Prop
  | whole n => -2 ^ 63 ≤ n ∧ n < 2 ^ 64
  | binary _ => True

/-- **An integer agrees with the floating-point number nearest to it**, and with no other. -/
theorem agrees_iff_isNearest {n : ℤ} (hn : (whole n).Held) (x : Binary64) :
    ((whole n).agrees (binary x) = true ↔ x.IsNearest n) ∧
      ((binary x).agrees (whole n) = true ↔ x.IsNearest n) := by
  -- `y` is what the integer is rounded to before it is compared
  obtain ⟨y, hy⟩ := Binary64.exists_ofInt? hn.1 hn.2
  -- a number is nearest if it has the value of the one that is rounded to
  have hnearest : x.IsNearest n ↔ x.value = y.value :=
    ⟨fun h => h.value_eq hy, fun h => (Binary64.isNearest_of_ofInt? hy).congr h.symm⟩
  constructor
  · have hagrees : (whole n).agrees (binary x) = y.sameValue x := by
      simp only [agrees, toBinary?, hy]
    rw [hagrees, Binary64.sameValue_iff, hnearest, eq_comm]
  · have hagrees : (binary x).agrees (whole n) = x.sameValue y := by
      simp only [agrees, toBinary?, hy]
    rw [hagrees, Binary64.sameValue_iff, hnearest]

theorem agrees_whole_iff {m n : ℤ} : (whole m).agrees (whole n) = true ↔ m = n := beq_iff_eq

theorem agrees_binary_iff {x y : Binary64} :
    (binary x).agrees (binary y) = true ↔ x.value = y.value := Binary64.sameValue_iff

variable {a b : Number}

/-- Numbers of the same value agree. -/
theorem agrees_of_value_eq (ha : a.Held) (hb : b.Held) (h : a.value = b.value) :
    a.agrees b = true := by
  -- by the two sorts of numbers
  cases a with
  | whole m =>
    cases b with
    | whole n => exact agrees_whole_iff.mpr (Int.cast_injective h)
    | binary y => exact (agrees_iff_isNearest ha y).1.mpr (Binary64.isNearest_of_value_eq h.symm)
  | binary x =>
    cases b with
    | whole n => exact (agrees_iff_isNearest hb x).2.mpr (Binary64.isNearest_of_value_eq h)
    | binary y => exact agrees_binary_iff.mpr h

/-- One of the numbers is an integer that is no floating-point number for its size, and the other
one is the floating-point number nearest to it. -/
def Approximate (a b : Number) : Prop :=
  ∃ n x, (a = whole n ∧ b = binary x ∨ a = binary x ∧ b = whole n) ∧ 2 ^ 53 < n.natAbs ∧
    x.IsNearest n

/-- An integer and the floating-point number nearest to it have the same value unless the integer
lies beyond `2 ^ 53`. -/
theorem value_eq_or_lt_of_isNearest {n : ℤ} (hn : (whole n).Held) {x : Binary64}
    (h : x.IsNearest n) : x.value = n ∨ 2 ^ 53 < n.natAbs := by
  obtain ⟨y, hy⟩ := Binary64.exists_ofInt? hn.1 hn.2
  -- up to there an integer is rounded to itself
  rcases Nat.lt_or_ge (2 ^ 53) n.natAbs with hlt | hle
  · exact .inr hlt
  · exact .inl ((h.value_eq hy).trans (Binary64.value_eq_of_natAbs_le hy hle))

/-- **When numbers agree.** -/
theorem agrees_iff (ha : a.Held) (hb : b.Held) :
    a.agrees b = true ↔ a.value = b.value ∨ a.Approximate b := by
  constructor
  · intro h
    -- only an integer and a floating-point number can agree without being the same
    cases a with
    | whole m =>
      cases b with
      | whole n => exact .inl (congrArg Int.cast (agrees_whole_iff.mp h))
      | binary y =>
        have hnearest := (agrees_iff_isNearest ha y).1.mp h
        refine (value_eq_or_lt_of_isNearest ha hnearest).imp Eq.symm fun hlt => ?_
        exact ⟨m, y, .inl ⟨rfl, rfl⟩, hlt, hnearest⟩
    | binary x =>
      cases b with
      | whole n =>
        have hnearest := (agrees_iff_isNearest hb x).2.mp h
        refine (value_eq_or_lt_of_isNearest hb hnearest).imp id fun hlt => ?_
        exact ⟨n, x, .inr ⟨rfl, rfl⟩, hlt, hnearest⟩
      | binary y => exact .inl (agrees_binary_iff.mp h)
  · rintro (hvalue | ⟨n, x, ⟨rfl, rfl⟩ | ⟨rfl, rfl⟩, -, hnearest⟩)
    · exact agrees_of_value_eq ha hb hvalue
    · exact (agrees_iff_isNearest ha x).1.mpr hnearest
    · exact (agrees_iff_isNearest hb x).2.mpr hnearest

end Number

/-- The texts of two numbers make no difference to whether they are equal. -/
theorem Json.equals_number {a b : Number} (ha : a.Held) (hb : b.Held) :
    (number a).equals (number b) = a.agrees b := by
  -- the second half of the disjunction implies the first
  have htext : a.comparedText = b.comparedText → a.agrees b = true := fun h =>
    Number.agrees_of_value_eq ha hb (Number.value_eq_of_comparedText_eq h)
  rw [equals, Scalar.foldedText_number, Scalar.foldedText_number, Bool.eq_iff_iff, Bool.or_eq_true,
    beq_iff_eq]
  exact or_iff_left_of_imp htext

/-- **When two numbers count as equal.** Two expressions whose values in a record are numbers
satisfy `=` there if and only if the numbers are exactly the same, or one of them is an integer with
a magnitude beyond `2 ^ 53` and the other one is the floating-point number nearest to it. -/
theorem holds_equals_numbers_iff {left right : Expr} {record : Record} {a b : Number}
    (hleft : left.value record = .number a) (hright : right.value record = .number b) (ha : a.Held)
    (hb : b.Held) :
    (Expr.equals left right).holds record = true ↔ a.value = b.value ∨ a.Approximate b := by
  have hholds : (Expr.equals left right).holds record = a.agrees b := by
    rw [Expr.holds, Expr.value, hleft, hright, Json.equals_number ha hb]
    rfl
  rw [hholds, Number.agrees_iff ha hb]

/-- The greatest integer without a sign counts as equal to the next power of two, which is the
nearest floating-point number. -/
theorem holds_equals_two_pow_64 :
    ∃ x : Binary64, x.value = 2 ^ 64 ∧
      (Expr.equals (.field ⟨[['k']]⟩) (.literal (.number 18446744073709551615))).holds
        [(['k'], .number (.binary x))] = true := by
  have hround : Binary64.ofInt? 18446744073709551615 = some ⟨false, 2 ^ 52, 12, by decide⟩ := rfl
  have hheld : (Number.whole 18446744073709551615).Held := by
    constructor
    · decide
    · decide
  have hequals := @holds_equals_numbers_iff (.field ⟨[['k']]⟩)
    (.literal (.number 18446744073709551615))
    [(['k'], .number (.binary ⟨false, 2 ^ 52, 12, by decide⟩))] _ _ rfl rfl trivial hheld
  refine ⟨_, by norm_num [Binary64.value, Binary64.magnitude], hequals.mpr (.inr ?_)⟩
  exact ⟨_, _, .inr ⟨rfl, rfl⟩, by decide, Binary64.isNearest_of_ofInt? hround⟩

/-- **Numbers that differ can count as equal**: `2 ^ 53 + 1` is asked for, and `2 ^ 53` with a place
behind the point is there. -/
theorem holds_equals_two_pow_53_add_one :
    ∃ filter record x, compile "k = 9007199254740993".toList = .ok filter ∧
      Record.ofLine? {} "k=9007199254740992.0".toList = some record ∧
      record.get? ['k'] = some (.number (.binary x)) ∧ x.value ≠ (9007199254740993 : Nat) ∧
      filter.holds record = true := by
  have hplain : "9007199254740992.0".toList.all
      (fun c => !Text.isBlank c && c != '"' && c != '\'') = true := by decide
  have hdigits : Text.AllDigits "9007199254740993".toList := List.all_eq_true.mp (by decide)
  have hoperand : Lexeme "9007199254740993".toList (.number 9007199254740993) :=
    .number hdigits (by decide)
  have hconstant : Derives .rightOperand [.number 9007199254740993]
      (.literal (.number 9007199254740993)) 0 :=
    Derives.number.rightOperand_of_ne_field fun path h => nomatch h
  -- what the line holds is the power of two, and the filter asks for the number above it
  have hcoerce : Scalar.coerce "9007199254740992.0".toList =
      .number (.binary ⟨false, 2 ^ 52, 1, by decide⟩) :=
    Scalar.coerce_of_number? (by decide +kernel)
  have hrecord := Record.ofLine?_name_value lexeme_k (plain_of_all hplain).1
  rw [hcoerce] at hrecord
  refine ⟨_, _, _, compile_fieldTest lexeme_k (by decide) hoperand hconstant, hrecord, rfl, ?_, ?_⟩
  · norm_num [Binary64.value, Binary64.magnitude]
  · rfl

end LogSieve
