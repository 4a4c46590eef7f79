import LogSieve.Text.Lower
import Mathlib.Data.List.Basic

/-!
# The lower-case form of a part of a text

Lower-casing goes character by character, but for the capital sigma, which looks at what stands
around it. So a part of a text has a lower-case form in its place, `lowerWithin`, and the form of
the whole is put together from those of its parts (`lower_append_append`); in another place the form
of the part may be another one.

It is the sigmas alone that can make a difference (`lowerWithin_congr`), and each of them looks for
the nearest character on either side that is not case-ignorable. If these two are in the text
itself, or one of them settles the matter, then its surroundings have no say: `SettlesSigmas` says
so of every capital sigma of a text.

The main statement is `isInfix_lower_iff`: the texts that are still found in lower case wherever
they stand are the ones that settle their sigmas. For a text that does not, one letter more is
enough: put before it or behind it, the letter turns one sigma into the other kind, and then the
whole has one sigma of the first kind less than the text.
-/

namespace LogSieve.Text

/-! ### The nearest character that counts -/

section StartsCased

variable {text : Text}

/-- Characters that are passed over do not keep what follows from counting. -/
theorem startsCased_append_of_ignorable (h : ∀ c ∈ text, isCaseIgnorable c = true) (more : Text) :
    startsCased (text ++ more) = startsCased more := by
  rw [startsCased, List.dropWhile_append_of_pos h, startsCased]

/-- A text of characters that are passed over starts with no letter. -/
theorem startsCased_eq_false_of_ignorable (h : ∀ c ∈ text, isCaseIgnorable c = true) :
    startsCased text = false := by
  rw [← List.append_nil text, startsCased_append_of_ignorable h]
  rfl

/-- The first character that is not passed over decides, whatever follows. -/
theorem startsCased_append_of_counts (h : ∃ c ∈ text, isCaseIgnorable c = false) (more : Text) :
    startsCased (text ++ more) = startsCased text := by
  induction text with
  | nil =>
    obtain ⟨c, hc, -⟩ := h
    cases hc
  | cons c rest ih =>
    cases hignorable : isCaseIgnorable c with
    | false =>
      have hfirst : ∀ tail : Text, startsCased (c :: tail) = isCased c := by
        intro tail
        rw [startsCased, List.dropWhile_cons_of_neg (by simp [hignorable])]
      rw [List.cons_append, hfirst, hfirst]
    | true =>
      have hskip : ∀ tail : Text, startsCased (c :: tail) = startsCased tail := by
        intro tail
        rw [startsCased, List.dropWhile_cons_of_pos hignorable, startsCased]
      obtain ⟨d, hd, hcounts⟩ := h
      rcases List.mem_cons.mp hd with rfl | hd
      · rw [hignorable] at hcounts
        cases hcounts
      · rw [List.cons_append, hskip, hskip]
        -- the character that counts is not the first one, which is passed over
        exact ih ⟨d, hd, hcounts⟩

/-- Something in a text counts, or all of it is passed over. -/
theorem counts_or_ignorable (text : Text) :
    (∃ c ∈ text, isCaseIgnorable c = false) ∨ ∀ c ∈ text, isCaseIgnorable c = true := by
  by_cases h : ∃ c ∈ text, isCaseIgnorable c = false
  · exact .inl h
  · refine .inr fun c hc => ?_
    by_contra hcounts
    exact h ⟨c, hc, Bool.eq_false_iff.mpr hcounts⟩

theorem exists_counts_of_startsCased (h : startsCased text = true) :
    ∃ c ∈ text, isCaseIgnorable c = false := by
  rcases counts_or_ignorable text with hcounts | hignorable
  · exact hcounts
  · rw [startsCased_eq_false_of_ignorable hignorable] at h
    cases h

/-- The letters that are looked at below count. -/
theorem counts_letters : isCaseIgnorable 'Σ' = false ∧ isCaseIgnorable 'a' = false := by
  decide +kernel

theorem counts_sigma : isCaseIgnorable 'Σ' = false := counts_letters.1

theorem startsCased_letter : startsCased ['a'] = true := by
  rw [startsCased, List.dropWhile_cons_of_neg (by simp [counts_letters])]
  rfl

/-- Behind a capital sigma, which is a letter itself, nothing is looked at. -/
theorem startsCased_append_sigma (text more more' : Text) :
    startsCased (text ++ 'Σ' :: more) = startsCased (text ++ 'Σ' :: more') := by
  have hsigma : ∀ tail : Text, startsCased (text ++ 'Σ' :: tail) = startsCased (text ++ ['Σ']) := by
    intro tail
    -- the sigma itself counts, if nothing before it does
    have hcounts : ∃ c ∈ text ++ ['Σ'], isCaseIgnorable c = false :=
      ⟨'Σ', List.mem_append_right _ List.mem_cons_self, counts_sigma⟩
    rw [← startsCased_append_of_counts hcounts tail, List.append_assoc]
    rfl
  rw [hsigma more, hsigma more']

theorem sigma_notMem_of_ignorable (h : ∀ c ∈ text, isCaseIgnorable c = true) : 'Σ' ∉ text := by
  intro hmem
  have hsigma := h 'Σ' hmem
  rw [counts_sigma] at hsigma
  cases hsigma

end StartsCased

/-! ### The lower-case form in a place -/

/-- The lower-case form that a text has between `before`, nearest character first, and `after`. -/
def lowerWithin (before : Text) : Text → Text → Text
  | [], _ => []
  | c :: rest, after =>
    (if c = 'Σ' then [lowerSigma before (rest ++ after)] else lowerChar c) ++
      lowerWithin (c :: before) rest after

theorem lowerWithin_nil (before text : Text) :
    lowerWithin before text [] = lowerAfter before text := by
  induction text generalizing before with
  | nil => rfl
  | cons c rest ih => rw [lowerWithin, lowerAfter, List.append_nil, ih]

theorem lower_eq_lowerWithin (text : Text) : lower text = lowerWithin [] text [] :=
  (lowerWithin_nil [] text).symm

/-- **Two parts in a row** are lower-cased one after the other, each in its place. -/
theorem lowerWithin_append (before text more after : Text) :
    lowerWithin before (text ++ more) after =
      lowerWithin before text (more ++ after) ++
        lowerWithin (text.reverse ++ before) more after := by
  induction text generalizing before with
  | nil => rfl
  | cons c rest ih =>
    rw [List.cons_append, lowerWithin, ih, lowerWithin, List.reverse_cons, List.append_assoc rest,
      List.append_assoc rest.reverse, List.append_assoc]
    rfl

/-- The lower-case form of a text holds those of its parts. -/
theorem lower_append_append (before text after : Text) :
    lower (before ++ text ++ after) =
      lowerWithin [] before (text ++ after) ++ lowerWithin before.reverse text after ++
        lowerWithin (text.reverse ++ before.reverse) after [] := by
  rw [lower_eq_lowerWithin, lowerWithin_append, lowerWithin_append, List.reverse_append]
  simp only [List.append_nil]

/-- The lower-case form around one capital sigma. -/
theorem lowerWithin_sigma (before text more after : Text) :
    lowerWithin before (text ++ 'Σ' :: more) after =
      lowerWithin before text ('Σ' :: more ++ after) ++
        lowerSigma (text.reverse ++ before) (more ++ after) ::
          lowerWithin ('Σ' :: (text.reverse ++ before)) more after := by
  rw [lowerWithin_append, lowerWithin, if_pos rfl]
  rfl

/-- **The surroundings matter to capital sigmas only.** A text has the same lower-case form in two
places in which each of its sigmas has. -/
theorem lowerWithin_congr {text before after before' after' : Text}
    (h : ∀ front back, text = front ++ 'Σ' :: back →
      lowerSigma (front.reverse ++ before) (back ++ after) =
        lowerSigma (front.reverse ++ before') (back ++ after')) :
    lowerWithin before text after = lowerWithin before' text after' := by
  induction text generalizing before before' with
  | nil => rfl
  | cons c rest ih =>
    have hrest : lowerWithin (c :: before) rest after = lowerWithin (c :: before') rest after' := by
      -- a sigma of the rest has one character more before it
      apply ih
      intro front back hsplit
      have hsigma := h (c :: front) back (by rw [hsplit, List.cons_append])
      rwa [List.reverse_cons, List.append_assoc, List.append_assoc] at hsigma
    rw [lowerWithin, lowerWithin, hrest]
    congr 1
    split
    · next hc =>
      -- the first character is a sigma: nothing of the text stands before it
      subst hc
      have hsigma := h [] rest rfl
      rw [List.reverse_nil, List.nil_append, List.nil_append] at hsigma
      rw [hsigma]
    · rfl

theorem lowerWithin_congr_of_notMem {text : Text} (h : 'Σ' ∉ text)
    (before after before' after' : Text) :
    lowerWithin before text after = lowerWithin before' text after' := by
  apply lowerWithin_congr
  intro front back hsplit
  rw [hsplit] at h
  exact absurd (List.mem_append_right front List.mem_cons_self) h

/-! ### Texts that settle their sigmas -/

/-- **No surroundings can change how the capital sigmas of a text are lower-cased.** Behind each of
them a letter follows; or something stands before it that counts, and that is no letter, or
something that counts follows too. -/
def SettlesSigmas (text : Text) : Prop :=
  ∀ front back, text = front ++ 'Σ' :: back →
    startsCased back = true ∨
      (∃ c ∈ front, isCaseIgnorable c = false) ∧
        (startsCased front.reverse = false ∨ ∃ c ∈ back, isCaseIgnorable c = false)

theorem settlesSigmas_of_notMem {text : Text} (h : 'Σ' ∉ text) : text.SettlesSigmas := by
  intro front back hsplit
  rw [hsplit] at h
  exact absurd (List.mem_append_right front List.mem_cons_self) h

/-- **A text that settles its sigmas** has its own lower-case form wherever it stands. -/
theorem SettlesSigmas.lowerWithin_eq {text : Text} (h : text.SettlesSigmas) (before after : Text) :
    lowerWithin before text after = lower text := by
  rw [lower_eq_lowerWithin]
  apply lowerWithin_congr
  intro front back hsplit
  rw [List.append_nil, List.append_nil]
  rcases h front back hsplit with hletter | ⟨⟨c, hc, hcounts⟩, hbefore⟩
  · -- a letter follows, and it is not a final sigma
    have hback := startsCased_append_of_counts (exists_counts_of_startsCased hletter) after
    rw [lowerSigma, lowerSigma, hback, hletter, Bool.not_true, Bool.and_false, Bool.and_false]
  · have hfront := startsCased_append_of_counts
      ⟨c, List.mem_reverse.mpr hc, hcounts⟩ before
    rw [lowerSigma, lowerSigma, hfront]
    rcases hbefore with hnone | hback
    · rw [hnone, Bool.false_and, Bool.false_and]
    · rw [startsCased_append_of_counts hback]

theorem SettlesSigmas.isInfix_lower {text whole : Text} (h : text.SettlesSigmas)
    (hstands : text <:+: whole) : lower text <:+: lower whole := by
  obtain ⟨before, after, rfl⟩ := hstands
  rw [lower_append_append, h.lowerWithin_eq]
  exact ⟨_, _, rfl⟩

/-- A text is not found where one character of it is another one: there are too few of the first. -/
theorem not_isInfix_of_replaced {c d : Char} (hne : d ≠ c) {first last : Text} (hfirst : c ∉ first)
    (hlast : c ∉ last) (before after : Text) :
    ¬before ++ c :: after <:+: first ++ (before ++ d :: after) ++ last := by
  intro hstands
  -- the first character occurs once less often
  have hcount := hstands.sublist.count_le c
  have hnone : first.count c = 0 ∧ last.count c = 0 :=
    ⟨List.count_eq_zero.mpr hfirst, List.count_eq_zero.mpr hlast⟩
  simp only [List.count_append, List.count_cons_self, List.count_cons_of_ne hne, hnone] at hcount
  omega

section Unsettled

variable {front back : Text}

/-- A sigma that nothing stands before is final behind a letter, if no letter follows. -/
theorem not_isInfix_lower_of_front (hfront : ∀ c ∈ front, isCaseIgnorable c = true)
    (hback : startsCased back = false) :
    ¬lower (front ++ 'Σ' :: back) <:+: lower ('a' :: (front ++ 'Σ' :: back)) := by
  have hreverse : ∀ c ∈ front.reverse, isCaseIgnorable c = true :=
    fun c hc => hfront c (List.mem_reverse.mp hc)
  have hnone : startsCased front.reverse = false := startsCased_eq_false_of_ignorable hreverse
  have hletter : startsCased (front.reverse ++ ['a']) = true := by
    rw [startsCased_append_of_ignorable hreverse, startsCased_letter]
  -- the one sigma, by itself and behind the letter
  have hplain : lowerSigma front.reverse back = 'σ' := by
    rw [lowerSigma, hnone, Bool.false_and, if_neg Bool.false_ne_true]
  have hfinal : lowerSigma (front.reverse ++ ['a']) back = 'ς' := by
    rw [lowerSigma, hletter, hback, Bool.not_false, Bool.and_self, if_pos rfl]
  -- nothing else changes: in front there is no sigma, and behind it the sigma shields the rest
  have hsame : lowerWithin ['a'] front ('Σ' :: back) = lowerWithin [] front ('Σ' :: back) :=
    lowerWithin_congr_of_notMem (sigma_notMem_of_ignorable hfront) _ _ _ _
  have hrest : lowerWithin ('Σ' :: (front.reverse ++ ['a'])) back [] =
      lowerWithin ('Σ' :: front.reverse) back [] := by
    apply lowerWithin_congr
    intro inner outer _
    rw [lowerSigma, lowerSigma, startsCased_append_sigma]
  have htext : lower (front ++ 'Σ' :: back) = lowerWithin [] front ('Σ' :: back) ++
      'σ' :: lowerWithin ('Σ' :: front.reverse) back [] := by
    rw [lower_eq_lowerWithin, lowerWithin_sigma, List.append_nil, List.append_nil, List.append_nil,
      hplain]
  have hwhole : lower ('a' :: (front ++ 'Σ' :: back)) =
      ['a'] ++ (lowerWithin [] front ('Σ' :: back) ++
        'ς' :: lowerWithin ('Σ' :: front.reverse) back []) ++ [] := by
    rw [lower_eq_lowerWithin, lowerWithin, if_neg (by decide), lowerWithin_sigma]
    simp only [List.append_nil]
    rw [hfinal, hsame, hrest]
    rfl
  rw [htext, hwhole]
  exact not_isInfix_of_replaced (by decide) (by decide) (by decide) _ _

/-- A final sigma that nothing follows is none in front of a letter. -/
theorem not_isInfix_lower_of_back (hfront : startsCased front.reverse = true)
    (hback : ∀ c ∈ back, isCaseIgnorable c = true) :
    ¬lower (front ++ 'Σ' :: back) <:+: lower (front ++ 'Σ' :: back ++ ['a']) := by
  have hnone : startsCased back = false := startsCased_eq_false_of_ignorable hback
  have hletter : startsCased (back ++ ['a']) = true := by
    rw [startsCased_append_of_ignorable hback, startsCased_letter]
  -- the one sigma, by itself and before the letter
  have hfinal : lowerSigma front.reverse back = 'ς' := by
    rw [lowerSigma, hfront, hnone, Bool.not_false, Bool.and_self, if_pos rfl]
  have hplain : lowerSigma front.reverse (back ++ ['a']) = 'σ' := by
    rw [lowerSigma, hletter, Bool.not_true, Bool.and_false, if_neg Bool.false_ne_true]
  have hsame : lowerWithin ('Σ' :: front.reverse) back ['a'] =
      lowerWithin ('Σ' :: front.reverse) back [] :=
    lowerWithin_congr_of_notMem (sigma_notMem_of_ignorable hback) _ _ _ _
  have hrest : lowerWithin [] front ('Σ' :: (back ++ ['a'])) =
      lowerWithin [] front ('Σ' :: back) := by
    apply lowerWithin_congr
    intro inner outer _
    rw [lowerSigma, lowerSigma, startsCased_append_sigma outer (back ++ ['a']) back]
  have htext : lower (front ++ 'Σ' :: back) = lowerWithin [] front ('Σ' :: back) ++
      'ς' :: lowerWithin ('Σ' :: front.reverse) back [] := by
    rw [lower_eq_lowerWithin, lowerWithin_sigma, List.append_nil, List.append_nil, List.append_nil,
      hfinal]
  have hwhole : lower (front ++ 'Σ' :: back ++ ['a']) =
      [] ++ (lowerWithin [] front ('Σ' :: back) ++
        'σ' :: lowerWithin ('Σ' :: front.reverse) back []) ++ ['a'] := by
    rw [lower_eq_lowerWithin, lowerWithin_append, lowerWithin_sigma, List.append_nil,
      List.append_nil, List.cons_append, hrest, hplain, hsame]
    rfl
  rw [htext, hwhole]
  exact not_isInfix_of_replaced (by decide) (by decide) (by decide) _ _

end Unsettled

/-- **Which texts are found in lower case wherever they stand**: those that settle their sigmas. -/
theorem isInfix_lower_iff (text : Text) :
    (∀ whole, text <:+: whole → lower text <:+: lower whole) ↔ text.SettlesSigmas := by
  constructor
  · intro hfound front back hsplit
    subst hsplit
    by_contra hunsettled
    rw [not_or] at hunsettled
    obtain ⟨hback, hfront⟩ := hunsettled
    rcases counts_or_ignorable front with hcounts | hignorable
    · -- the sigma is final by what stands before it, and nothing behind it says otherwise
      have hletter : startsCased front.reverse = true := by
        by_contra hletter
        exact hfront ⟨hcounts, .inl (Bool.eq_false_iff.mpr hletter)⟩
      have hnothing : ∀ c ∈ back, isCaseIgnorable c = true :=
        (counts_or_ignorable back).resolve_left fun hcounts' => hfront ⟨hcounts, .inr hcounts'⟩
      exact not_isInfix_lower_of_back hletter hnothing
        (hfound _ (List.prefix_append _ _).isInfix)
    · exact not_isInfix_lower_of_front hignorable (Bool.eq_false_iff.mpr hback)
        (hfound _ (List.suffix_cons _ _).isInfix)
  · intro hsettles whole hstands
    exact hsettles.isInfix_lower hstands

end LogSieve.Text
