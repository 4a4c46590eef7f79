import LogSieve.Json.Reader
import LogSieve.Proofs.Filter.Tiling
import LogSieve.Proofs.Text.Digits
import Mathlib.Algebra.Group.Int.Defs

/-!
# Which values some texts write

What the reader of values makes of three kinds of text.

* A word with an equals sign is no value, also if it starts like one, since something other than
  blanks is left behind what is read (`parse?_word`).
* Digits without needless zeros, with or without a minus sign, are read up to where they end
  (`Numeral.read?_signed`); the text of an integer that fits into 64 bits is read as that integer
  (`readValue?_wholeText`).
* An object with one member is read if its value is, up to the brace behind it, and if nothing in
  its name has to be written with an escape (`parse?_objectText`).
-/

namespace LogSieve

namespace Json

/-! ### Words -/

/-- The blanks between the parts of a value are white space. -/
theorem isBlank_eq_false {c : Char} (h : Text.isBlank c = false) : isBlank c = false := by
  rw [Bool.eq_false_iff] at h ⊢
  intro hblank
  apply h
  simp only [isBlank, Bool.or_eq_true, decide_eq_true_eq] at hblank
  rcases hblank with ((rfl | rfl) | rfl) | rfl
  · decide
  · decide
  · decide
  · decide

/-- Nothing is skipped in front of a character that is not blank. -/
theorem skipBlank_cons {c : Char} (h : Text.isBlank c = false) (rest : Text) :
    skipBlank (c :: rest) = c :: rest :=
  List.dropWhile_cons_of_neg (by rw [isBlank_eq_false h]; exact Bool.false_ne_true)

/-- Nothing is a value with something other than blanks behind it. -/
theorem skipBlank_isEmpty_eq_false {c : Char} {text : Text} (h : Text.isBlank c = false)
    (hc : c ∈ text) : (skipBlank text).isEmpty = false := by
  rw [List.isEmpty_eq_false_iff]
  intro hnil
  have hblank := List.dropWhile_eq_nil_iff.mp hnil c hc
  rw [isBlank_eq_false h] at hblank
  cases hblank

section Word

variable {c : Char} {rest : Text} (hword : isWordChar c = true)

include hword

/-- A word that does not start with a digit starts no numeral. -/
theorem read?_word (hdigit : Text.isDigit c = false) : Numeral.read? (c :: rest) = none := by
  have hminus : c ≠ '-' := ne_of_isWordChar hword (by decide)
  have hread : Numeral.readMinus (c :: rest) = (false, c :: rest) := by
    unfold Numeral.readMinus
    split
    · next heq => exact absurd (List.cons.inj heq).1 hminus
    · rfl
  have hdigits : Numeral.digits? (c :: rest) = none := by
    have hnil : (c :: rest).takeWhile Text.isDigit = [] :=
      List.takeWhile_cons_of_neg (by rw [hdigit]; exact Bool.false_ne_true)
    rw [Numeral.digits?, hnil]
  have hwhole : Numeral.readWhole? (c :: rest) = none := by
    rw [Numeral.readWhole?, hdigits]
  rw [Numeral.read?, hread]
  simp only [hwhole]
  rfl

/-- What is read as a value at the start of a word leaves the equals sign behind it. -/
theorem equals_mem_of_readValue? (hdigit : Text.isDigit c = false) (hequals : '=' ∈ rest)
    {levels : Nat} {value : Json} {left : Text}
    (h : readValue? levels (c :: rest) = some (value, left)) : '=' ∈ left := by
  rw [readValue?.eq_def, skipBlank_cons (isBlank_eq_false_of_isWordChar hword)] at h
  -- what is read holds no equals sign, so the one of the word is in what is left
  have hleft : ∀ mark : Text, '=' ∉ mark → c :: rest = mark ++ left → '=' ∈ left := by
    intro mark hmark heq
    have hmem : '=' ∈ mark ++ left := heq ▸ List.mem_cons_of_mem c hequals
    exact (List.mem_append.mp hmem).resolve_left hmark
  have hopening : ∀ (opening : Char) (tail : Text), asciiSigns.has opening = true →
      c :: rest ≠ opening :: tail := fun opening tail hopening heq =>
    ne_of_isWordChar hword hopening (List.cons.inj heq).1
  -- the three names are the only values that a word can start with: the opening of any other is no
  -- word character
  split at h
  case h_1 tail heq =>
    obtain ⟨-, rfl⟩ := Prod.mk.inj (Option.some.inj h)
    exact hleft ['n', 'u', 'l', 'l'] (by decide) heq
  case h_2 tail heq =>
    obtain ⟨-, rfl⟩ := Prod.mk.inj (Option.some.inj h)
    exact hleft ['t', 'r', 'u', 'e'] (by decide) heq
  case h_3 tail heq =>
    obtain ⟨-, rfl⟩ := Prod.mk.inj (Option.some.inj h)
    exact hleft ['f', 'a', 'l', 's', 'e'] (by decide) heq
  case h_4 tail heq => exact absurd heq (hopening _ tail (by decide))
  case h_5 tail heq => exact absurd heq (hopening _ tail (by decide))
  case h_6 tail heq => exact absurd heq (hopening _ tail (by decide))
  case h_7 =>
    rw [read?_word hword hdigit] at h
    cases h

/-- **A word with an equals sign is no value**, also if it starts like one. -/
theorem parse?_word (hdigit : Text.isDigit c = false) (hequals : '=' ∈ rest) :
    parse? (c :: rest) = none := by
  unfold parse?
  split
  · next value left h =>
    have hmem := equals_mem_of_readValue? hword hdigit hequals h
    rw [skipBlank_isEmpty_eq_false isBlank_equals hmem, if_neg Bool.false_ne_true]
  · rfl

end Word

end Json

/-! ### Integers -/

theorem Number.wholeText_eq_signed (value : Int) :
    wholeText value = Text.signed (decide (value < 0)) (Text.numeral value.natAbs) := by
  rw [wholeText, Text.signed]
  simp only [decide_eq_true_eq]

namespace Json

namespace Numeral

/-- A numeral without fraction and exponent ends in front of the text. -/
def Ends (text : Text) : Prop :=
  ∀ c ∈ text.head?, Text.isDigit c = false ∧ c ≠ '.' ∧ c ≠ 'e' ∧ c ≠ 'E'

section Whole

variable {digits rest : Text} (hdigits : Text.AllDigits digits) (hne : digits ≠ [])
  (hrest : Ends rest)

include hdigits hne hrest

theorem digits?_append : digits? (digits ++ rest) = some (digits, rest) := by
  have hstop : ∀ c ∈ rest.head?, Text.isDigit c = false := fun c hc => (hrest c hc).1
  obtain ⟨htake, hdrop⟩ := takeWhile_append_of_closed hdigits hstop
  unfold digits?
  rw [htake, hdrop]
  cases digits with
  | nil => exact absurd rfl hne
  | cons c digits => rfl

theorem readWhole?_append (hzero : ¬Text.LeadingZero digits) :
    readWhole? (digits ++ rest) = some (digits, rest) := by
  rw [readWhole?, digits?_append hdigits hne hrest]
  split
  · next d tail left h =>
    obtain ⟨rfl, -⟩ := Prod.mk.inj (Option.some.inj h)
    exact absurd ⟨d, tail, rfl⟩ hzero
  · rfl

omit hdigits hne in
theorem readFraction?_of_ends : readFraction? rest = some (none, rest) := by
  unfold readFraction?
  split
  · exact absurd rfl (hrest '.' rfl).2.1
  · rfl

omit hdigits hne in
theorem readExponent?_of_ends : readExponent? rest = some (none, rest) := by
  cases rest with
  | nil => rfl
  | cons c rest =>
    obtain ⟨-, -, hlower, hupper⟩ := hrest c rfl
    rw [readExponent?, if_neg]
    simp only [Bool.or_eq_true, decide_eq_true_eq, not_or]
    exact ⟨hlower, hupper⟩

omit hrest in
theorem readMinus_signed (negative : Bool) :
    readMinus (Text.signed negative digits ++ rest) = (negative, digits ++ rest) := by
  cases negative with
  | true => rfl
  | false =>
    cases digits with
    | nil => exact absurd rfl hne
    | cons c digits =>
      -- the first digit is not taken for the sign
      have hc : c ≠ '-' := by
        rintro rfl
        exact absurd (hdigits '-' List.mem_cons_self) (by decide)
      unfold readMinus
      split
      · next heq => exact absurd (List.cons.inj heq).1 hc
      · rfl

/-- **Digits without needless zeros are read** up to where they end. -/
theorem read?_signed (hzero : ¬Text.LeadingZero digits) (negative : Bool) :
    read? (Text.signed negative digits ++ rest) = some (⟨negative, digits, none, none⟩, rest) := by
  rw [read?, readMinus_signed hdigits hne]
  simp only [readWhole?_append hdigits hne hrest hzero, readFraction?_of_ends hrest,
    readExponent?_of_ends hrest, Option.bind_eq_bind, Option.bind_some]
  rfl

end Whole

/-- The number of an integer's own text. -/
theorem number?_whole {value : Int} (hlow : -2 ^ 63 ≤ value) (hhigh : value < 2 ^ 64) :
    number? ⟨decide (value < 0), Text.numeral value.natAbs, none, none⟩ =
      some (.whole value) := by
  have hwhole :
      whole? ⟨decide (value < 0), Text.numeral value.natAbs, none, none⟩ = some value := by
    rw [whole?, if_neg (by simp)]
    simp only [Text.numeralValue_numeral, decide_eq_true_eq]
    by_cases hnegative : value < 0
    · have hmagnitude : 0 < value.natAbs ∧ value.natAbs ≤ Nat.pow 2 63 := by
        rw [Nat.pow_eq]
        omega
      rw [if_pos hnegative, if_pos (by simpa using hmagnitude)]
      exact congrArg some (by omega)
    · have hmagnitude : value.natAbs < Nat.pow 2 64 := by
        rw [Nat.pow_eq]
        omega
      rw [if_neg hnegative, if_pos hmagnitude]
      exact congrArg some (by omega)
  rw [number?, hwhole]

end Numeral

/-- Only a numeral starts with a digit or a minus sign. -/
theorem readValue?_numeral {c : Char} {rest : Text} (hc : Text.isDigit c = true ∨ c = '-')
    (levels : Nat) :
    readValue? levels (c :: rest) =
      (Numeral.read? (c :: rest)).bind fun read =>
        read.1.number?.bind fun number => some (.number number, read.2) := by
  have hblank : Text.isBlank c = false := by
    rcases hc with hdigit | rfl
    · exact isBlank_eq_false_of_isDigit hdigit
    · decide
  have hother : ∀ (opening : Char) (tail : Text), Text.isDigit opening = false → opening ≠ '-' →
      c :: rest ≠ opening :: tail := by
    intro opening tail hopening hminus heq
    rw [(List.cons.inj heq).1, hopening] at hc
    exact hc.elim (fun h => nomatch h) hminus
  rw [readValue?.eq_def, skipBlank_cons hblank]
  split
  case h_1 heq | h_2 heq | h_3 heq | h_4 heq | h_5 heq | h_6 heq =>
    exact absurd heq (hother _ _ (by decide) (by decide))
  case h_7 => rfl

/-- **The text of an integer** is read as that integer. -/
theorem readValue?_wholeText {value : Int} {rest : Text} (hlow : -2 ^ 63 ≤ value)
    (hhigh : value < 2 ^ 64) (hrest : Numeral.Ends rest) (levels : Nat) :
    readValue? levels (Number.wholeText value ++ rest) =
      some (.number (.whole value), rest) := by
  have hdigits := Text.allDigits_numeral value.natAbs
  have hne := Text.numeral_ne_nil value.natAbs
  have hread := Numeral.read?_signed hdigits hne hrest (Text.not_leadingZero_numeral value.natAbs)
    (decide (value < 0))
  -- there is a first character, the sign or a digit, by which the reader knows a numeral
  obtain ⟨c, tail, hcons, hc⟩ : ∃ c tail, Text.signed (decide (value < 0))
      (Text.numeral value.natAbs) = c :: tail ∧ (Text.isDigit c = true ∨ c = '-') := by
    cases decide (value < 0) with
    | true => exact ⟨_, _, rfl, .inr rfl⟩
    | false =>
      cases hnumeral : Text.numeral value.natAbs with
      | nil => exact absurd hnumeral hne
      | cons c tail => exact ⟨c, tail, rfl, .inl (hdigits c (hnumeral ▸ List.mem_cons_self))⟩
  rw [Number.wholeText_eq_signed, hcons, List.cons_append, readValue?_numeral hc,
    ← List.cons_append, ← hcons, hread]
  simp only [Option.bind_some, Numeral.number?_whole hlow hhigh]

/-! ### Objects with one member -/

/-- A string holds the character as it is. -/
def IsPlain (c : Char) : Prop :=
  c ≠ '"' ∧ c ≠ '\\' ∧ 0x20 ≤ c.toNat

theorem isPlain_of_isWordChar {c : Char} (h : isWordChar c = true) : IsPlain c :=
  ⟨ne_of_isWordChar h (by decide), ne_of_isWordChar h (by decide), le_toNat_of_isWordChar h⟩

section Member

variable {name : Text} (hname : ∀ c ∈ name, IsPlain c)

include hname

theorem readString?_append (rest : Text) :
    readString? (name ++ '"' :: rest) = some (name, rest) := by
  induction name with
  | nil => rw [List.nil_append, readString?, if_pos rfl]
  | cons c name ih =>
    rw [List.forall_mem_cons] at hname
    obtain ⟨⟨hquote, hbackslash, hcontrol⟩, hrest⟩ := hname
    rw [List.cons_append, readString?, if_neg hquote, if_neg hbackslash,
      if_neg (Nat.not_lt.mpr hcontrol), ih hrest]
    rfl

theorem readName?_append (rest : Text) :
    readName? ('"' :: (name ++ '"' :: ':' :: rest)) = some (name, rest) := by
  have hskip : skipBlank ('"' :: (name ++ '"' :: ':' :: rest)) =
      '"' :: (name ++ '"' :: ':' :: rest) := rfl
  rw [readName?, hskip]
  simp only [readString?_append hname, Option.bind_eq_bind, Option.bind_some]
  rfl

/-- A last member is put among those before it. -/
theorem readMembers?_last {text rest : Text} {value : Json} {item : Text → Option (Json × Text)}
    (hvalue : item text = some (value, '\x7d' :: rest)) (rounds : Nat) (members : Fields Json) :
    readMembers? item (rounds + 1) members ('"' :: (name ++ '"' :: ':' :: text)) =
      some (members.insert name value, rest) := by
  -- after the brace no further member is looked for
  have hskip : skipBlank ('\x7d' :: rest) = '\x7d' :: rest := rfl
  rw [readMembers?, readName?_append hname]
  simp only [hvalue, hskip, Option.bind_eq_bind, Option.bind_some]
  rfl

/-- The text of an object with one member. -/
def objectText (name text : Text) : Text :=
  '\x7b' :: '"' :: (name ++ '"' :: ':' :: (text ++ ['\x7d']))

/-- **An object with one member is read** if the value of the member is, up to the brace. -/
theorem parse?_objectText {text : Text} {value : Json}
    (hvalue : ∀ levels, readValue? levels (text ++ ['\x7d']) = some (value, ['\x7d'])) :
    parse? (objectText name text) = some (.object [(name, value)]) := by
  have hread : readValue? deepest (objectText name text) =
      some (.object [(name, value)], []) := by
    -- the object takes one level, and there are as many rounds for members as characters
    have hmembers := readMembers?_last hname (hvalue 126)
      (name ++ '"' :: ':' :: (text ++ ['\x7d'])).length []
    -- behind the brace stands a quote, and not the other brace
    change (readMembers? (readValue? 126) _ [] _).map _ = _
    rw [List.length_cons, hmembers]
    rfl
  rw [parse?, hread]
  rfl

end Member

end Json

end LogSieve
