import LogSieve.Text.Basic
import Mathlib.Algebra.Group.Nat.Defs
import Mathlib.Data.List.Basic

/-!
# Digits and the number that they write

A run of digits is decided by its length and its number (`eq_of_numeralValue_eq`), and it is the
numeral of its number unless it has a needless zero in front (`numeral_numeralValue_iff`).
-/

namespace LogSieve.Text

/-- Whether all characters are ASCII digits. -/
def AllDigits (text : Text) : Prop :=
  ∀ c ∈ text, isDigit c = true

/-- Whether a run of digits could do without its first one, a zero. -/
def LeadingZero (digits : Text) : Prop :=
  ∃ d rest, digits = '0' :: d :: rest

/-- A digit is that of its value. -/
theorem digitChar_of_isDigit {c : Char} (h : isDigit c = true) :
    c.toNat - '0'.toNat < 10 ∧ Nat.digitChar (c.toNat - '0'.toNat) = c := by
  simp only [isDigit, Bool.and_eq_true, decide_eq_true_eq, Char.le_def,
    UInt32.le_iff_toNat_le] at h
  obtain ⟨hlow, hhigh⟩ := h
  change '0'.toNat ≤ c.toNat at hlow
  change c.toNat ≤ '9'.toNat at hhigh
  -- from here on in numbers
  have hzero : '0'.toNat = 48 := rfl
  have hnine : '9'.toNat = 57 := rfl
  have hlt : c.toNat - '0'.toNat < 10 := by omega
  refine ⟨hlt, ?_⟩
  apply Char.toNat_inj.mp
  rw [Nat.toNat_digitChar_of_lt_ten hlt]
  omega

theorem isDigit_of_mem_numeral {n : Nat} {c : Char} (h : c ∈ numeral n) : isDigit c = true := by
  have := Nat.isDigit_of_mem_toDigits (by decide) (by decide) h
  simpa only [Char.isDigit, isDigit, Bool.and_eq_true, decide_eq_true_eq, Char.le_def,
    ge_iff_le] using this

theorem allDigits_numeral (n : Nat) : AllDigits (numeral n) := fun _ => isDigit_of_mem_numeral

theorem AllDigits.append {digits more : Text} (h : AllDigits digits) (hmore : AllDigits more) :
    AllDigits (digits ++ more) :=
  List.forall_mem_append.mpr ⟨h, hmore⟩

theorem allDigits_zeros (count : Nat) : AllDigits (List.replicate count '0') := by
  intro c hc
  rw [List.eq_of_mem_replicate hc]
  decide

/-! ### A run of digits is decided by its length and its number -/

theorem numeralValue_append (digits more : Text) :
    numeralValue (digits ++ more) =
      10 ^ more.length * numeralValue digits + numeralValue more := by
  rw [numeralValue, Nat.ofDigitChars_append, Nat.ofDigitChars_eq_ofDigitChars_zero]
  rfl

theorem numeralValue_zeros_append (count : Nat) (digits : Text) :
    numeralValue (List.replicate count '0' ++ digits) = numeralValue digits := by
  rw [numeralValue, Nat.ofDigitChars_append, Nat.ofDigitChars_replicate_zero, Nat.mul_zero]
  rfl

/-- Zeros behind the digits are worth a place each. -/
theorem numeralValue_append_zeros (digits : Text) (count : Nat) :
    numeralValue (digits ++ List.replicate count '0') = 10 ^ count * numeralValue digits := by
  have hzeros : numeralValue (List.replicate count '0') = 0 := by
    have := numeralValue_zeros_append count []
    rwa [List.append_nil] at this
  rw [numeralValue_append, hzeros, List.length_replicate, Nat.add_zero]

/-- What the first digit is worth. -/
theorem numeralValue_cons (c : Char) (digits : Text) :
    numeralValue (c :: digits) =
      10 ^ digits.length * (c.toNat - '0'.toNat) + numeralValue digits := by
  rw [← List.singleton_append, numeralValue_append]
  have hc : numeralValue [c] = c.toNat - '0'.toNat := by
    rw [numeralValue, Nat.ofDigitChars_cons, Nat.mul_zero, Nat.zero_add, Nat.ofDigitChars_nil]
  rw [hc]

theorem numeralValue_lt {digits : Text} (h : AllDigits digits) :
    numeralValue digits < 10 ^ digits.length := by
  induction digits with
  | nil => decide
  | cons c digits ih =>
    have hdigits := ih fun d hd => h d (List.mem_cons_of_mem _ hd)
    have hlt := (digitChar_of_isDigit (h c List.mem_cons_self)).1
    rw [numeralValue_cons, List.length_cons, Nat.pow_succ]
    -- the first digit is nine at most, and the others do not reach its place
    have hworth : 10 ^ digits.length * (c.toNat - '0'.toNat) ≤ 10 ^ digits.length * 9 :=
      Nat.mul_le_mul_left _ (by omega)
    omega

/-- **Digits are decided by how many they are and by their number.** -/
theorem eq_of_numeralValue_eq {digits other : Text} (h : AllDigits digits) (h' : AllDigits other)
    (hlength : digits.length = other.length) (hvalue : numeralValue digits = numeralValue other) :
    digits = other := by
  induction digits generalizing other with
  | nil => exact (List.length_eq_zero_iff.mp hlength.symm).symm
  | cons c digits ih =>
    cases other with
    | nil => cases hlength
    | cons d other =>
      have hlength' : digits.length = other.length := Nat.succ.inj hlength
      have htail : AllDigits digits := fun e he => h e (List.mem_cons_of_mem _ he)
      have htail' : AllDigits other := fun e he => h' e (List.mem_cons_of_mem _ he)
      have hlt := numeralValue_lt htail
      have hlt' := numeralValue_lt htail'
      have hc := (digitChar_of_isDigit (h c List.mem_cons_self)).2
      have hd := (digitChar_of_isDigit (h' d List.mem_cons_self)).2
      rw [numeralValue_cons, numeralValue_cons, ← hlength'] at hvalue
      rw [← hlength'] at hlt'
      -- the first digit is the number without what the others are worth
      have hfirst : c.toNat - '0'.toNat = d.toNat - '0'.toNat := by
        have hdiv := congrArg (· / 10 ^ digits.length) hvalue
        simpa only [Nat.mul_add_div (Nat.pow_pos (by decide : 0 < 10)), Nat.div_eq_of_lt hlt,
          Nat.div_eq_of_lt hlt', Nat.add_zero] using hdiv
      rw [hfirst, Nat.add_left_cancel_iff] at hvalue
      rw [ih htail htail' hlength' hvalue, ← hc, hfirst, hd]

/-! ### Numerals -/

/-- The first digit of a numeral is no zero but for the number zero. -/
theorem head_numeral_ne_zero {n : Nat} (hn : n ≠ 0) : (numeral n).head? ≠ some '0' := by
  induction n using Nat.strongRecOn with
  | _ n ih =>
  rw [numeral, Nat.toDigits_eq_if (by decide)]
  split
  · next hlt =>
    rw [List.head?_cons]
    intro h
    have hdigit := congrArg Char.toNat (Option.some.inj h)
    rw [Nat.toNat_digitChar_of_lt_ten hlt] at hdigit
    have hzero : '0'.toNat = 48 := rfl
    omega
  · next hge =>
    -- the first digit is that of the number without its last digit
    rw [List.head?_append_of_ne_nil _ Nat.toDigits_ne_nil]
    exact ih (n / 10) (by omega) (by omega)

theorem not_leadingZero_numeral (n : Nat) : ¬LeadingZero (numeral n) := by
  rintro ⟨d, rest, h⟩
  by_cases hn : n = 0
  · rw [hn, numeral, Nat.toDigits_zero] at h
    cases h
  · exact head_numeral_ne_zero hn (by rw [h]; rfl)

theorem length_numeral_pos (n : Nat) : 0 < (numeral n).length :=
  Nat.length_toDigits_pos

theorem length_numeral_le_iff {n count : Nat} (hcount : 0 < count) :
    (numeral n).length ≤ count ↔ n < 10 ^ count :=
  Nat.length_toDigits_le_iff (by decide) hcount

/-- Filled up with zeros, the numeral of the number of some digits is the digits. -/
theorem zeros_append_numeral {digits : Text} (h : AllDigits digits) (hne : digits ≠ []) :
    List.replicate (digits.length - (numeral (numeralValue digits)).length) '0' ++
      numeral (numeralValue digits) = digits := by
  have hle : (numeral (numeralValue digits)).length ≤ digits.length :=
    (length_numeral_le_iff (List.length_pos_iff.mpr hne)).mpr (numeralValue_lt h)
  -- as many digits, and zeros in front change no number
  refine eq_of_numeralValue_eq ((allDigits_zeros _).append (allDigits_numeral _)) h ?_ ?_
  · rw [List.length_append, List.length_replicate, Nat.sub_add_cancel hle]
  · rw [numeralValue_zeros_append, numeralValue_numeral]

/-- **A numeral is a run of digits without a needless zero in front.** -/
theorem numeral_numeralValue_iff {digits : Text} (h : AllDigits digits) (hne : digits ≠ []) :
    numeral (numeralValue digits) = digits ↔ ¬LeadingZero digits := by
  constructor
  · intro heq
    rw [← heq]
    exact not_leadingZero_numeral _
  · intro hzero
    have hfill := zeros_append_numeral h hne
    generalize hcount : digits.length - (numeral (numeralValue digits)).length = count at hfill
    cases count with
    | zero => exact hfill
    | succ count =>
      -- a zero would have been filled in
      refine absurd ?_ hzero
      have hpos := length_numeral_pos (numeralValue digits)
      rw [List.replicate_succ, List.cons_append] at hfill
      cases hrest : List.replicate count '0' ++ numeral (numeralValue digits) with
      | nil =>
        have hlength := congrArg List.length hrest
        rw [List.length_append, List.length_nil] at hlength
        omega
      | cons d rest =>
        rw [hrest] at hfill
        exact ⟨d, rest, hfill.symm⟩

/-- The characters of a text that may have a minus sign in front. -/
theorem mem_sign_append {p : Prop} [Decidable p] {text : Text} {c : Char}
    (h : c ∈ (if p then ['-'] else []) ++ text) : c = '-' ∨ c ∈ text := by
  refine (List.mem_append.mp h).imp_left fun hsign => ?_
  split at hsign
  · exact List.mem_singleton.mp hsign
  · cases hsign

/-- A numeral with a sign, which zero has not, is its digits with that sign if these are a numeral
and the sign does not stand in front of a zero. -/
theorem signed_numeral_eq_iff {digits : Text} (h : AllDigits digits) (hne : digits ≠ [])
    (negative : Bool) (n : Nat) :
    (if negative && n ≠ 0 then ['-'] else []) ++ numeral n =
        (if negative then ['-'] else []) ++ digits ↔
      ¬LeadingZero digits ∧ n = numeralValue digits ∧ ¬(negative = true ∧ n = 0) := by
  have hself := numeral_numeralValue_iff h hne
  constructor
  · intro heq
    -- the signs are taken off both sides
    have hdigits : numeral n = digits ∧ ¬(negative = true ∧ n = 0) := by
      cases negative with
      | false => exact ⟨heq, fun hzero => nomatch hzero.1⟩
      | true =>
        by_cases hn : n = 0
        · -- the digit of zero stands against the sign
          subst hn
          rw [numeral, Nat.toDigits_zero] at heq
          cases heq
        · simp only [hn, ne_eq, not_false_eq_true, decide_true, Bool.and_self, if_true,
            List.cons_append, List.nil_append, List.cons.injEq, true_and] at heq
          exact ⟨heq, fun hzero => hn hzero.2⟩
    have hvalue : n = numeralValue digits := by rw [← hdigits.1, numeralValue_numeral]
    refine ⟨hself.mp ?_, hvalue, hdigits.2⟩
    rw [← hvalue, hdigits.1]
  · rintro ⟨hzero, rfl, hsign⟩
    rw [hself.mpr hzero]
    congr 1
    cases negative with
    | false => rfl
    | true =>
      have hpositive : numeralValue digits ≠ 0 := fun h => hsign ⟨rfl, h⟩
      simp only [hpositive, ne_eq, not_false_eq_true, decide_true, Bool.and_self]

/-! ### Digits with a sign -/

/-- Digits, with a minus sign in front if they are negative. -/
def signed (negative : Bool) (digits : Text) : Text :=
  (if negative then ['-'] else []) ++ digits

/-- The integer that digits write with or without a minus sign. -/
def signedValue (negative : Bool) (digits : Text) : Int :=
  if negative then -(numeralValue digits : Int) else numeralValue digits

theorem numeral_ne_nil (n : Nat) : numeral n ≠ [] := List.length_pos_iff.mp (length_numeral_pos n)

/-- The text of an integer writes that integer. -/
theorem signedValue_numeral (value : Int) :
    signedValue (decide (value < 0)) (numeral value.natAbs) = value := by
  rw [signedValue, numeralValue_numeral]
  by_cases h : value < 0
  · rw [decide_eq_true h, if_pos rfl]
    omega
  · rw [decide_eq_false h, if_neg Bool.false_ne_true]
    omega

end LogSieve.Text
