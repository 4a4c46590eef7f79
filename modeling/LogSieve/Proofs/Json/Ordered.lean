import LogSieve.Json.Fields

/-!
# Fields in ascending order

An insertion puts a field at its place among the names (`Fields.Ordered.insert`), so that fields
which were put in one by one have ascending names. Such fields are the same when every name has the
same value in both (`Fields.Ordered.ext`), whatever way they were put in.
-/

namespace LogSieve.Fields

variable {α : Type} {fields fields' : Fields α} {name : Text}

/-- The names of the fields. -/
def names (fields : Fields α) : List Text :=
  fields.map (·.1)

/-- The names ascend, so that every name stands once. -/
def Ordered (fields : Fields α) : Prop :=
  fields.Pairwise fun field other => field.1 < other.1

theorem get?_eq_none_iff : fields.get? name = none ↔ name ∉ fields.names := by
  induction fields with
  | nil => exact iff_of_true rfl List.not_mem_nil
  | cons field fields ih =>
    rw [get?, names, List.map_cons, List.mem_cons, not_or, ← names, ← ih]
    -- the first field has the name, or the others have it
    split
    · next heq => exact iff_of_false (Option.some_ne_none _) fun h => h.1 heq
    · next hne => exact (and_iff_right hne).symm

theorem mem_names_iff : name ∈ fields.names ↔ ∃ value, fields.get? name = some value := by
  rw [← Option.ne_none_iff_exists', ne_eq, get?_eq_none_iff, Classical.not_not]

/-! ### Putting a field in -/

theorem mem_insert {value : α} {field : Text × α} (h : field ∈ fields.insert name value) :
    field = (name, value) ∨ field ∈ fields := by
  induction fields with
  | nil => exact .inl (List.mem_singleton.mp h)
  | cons first fields ih =>
    unfold insert at h
    split at h
    · exact (List.mem_cons.mp h).imp_right (List.mem_cons_of_mem _)
    split at h
    · exact List.mem_cons.mp h
    · rcases List.mem_cons.mp h with rfl | h
      · exact .inr List.mem_cons_self
      · exact (ih h).imp_right (List.mem_cons_of_mem _)

/-- **An insertion keeps the order.** -/
theorem Ordered.insert (h : fields.Ordered) (name : Text) (value : α) :
    (fields.insert name value).Ordered := by
  induction fields with
  | nil => exact List.pairwise_singleton _ _
  | cons field fields ih =>
    obtain ⟨hfirst, hrest⟩ := List.pairwise_cons.mp h
    unfold Fields.insert
    split
    · next heq =>
      -- the new value stands in the place of the old one
      exact List.pairwise_cons.mpr ⟨fun other hother => heq ▸ hfirst other hother, hrest⟩
    split
    · next hlt =>
      refine List.pairwise_cons.mpr ⟨fun other hother => ?_, h⟩
      rcases List.mem_cons.mp hother with rfl | hother
      · exact hlt
      · exact List.lt_trans hlt (hfirst other hother)
    · next hne hlt =>
      -- the names are not the same, and so the first one stays first
      have hbefore : field.1 < name :=
        Classical.byContradiction fun hnot =>
          hne (List.le_antisymm (List.not_lt.mp hnot) (List.not_lt.mp hlt))
      refine List.pairwise_cons.mpr ⟨fun other hother => ?_, ih hrest⟩
      rcases mem_insert hother with rfl | hother
      · exact hbefore
      · exact hfirst other hother

/-- Which names there are does not depend on the values. -/
theorem names_insert_congr {β : Type} {others : Fields β} (h : fields.names = others.names)
    (name : Text) (value : α) (value' : β) :
    (fields.insert name value).names = (others.insert name value').names := by
  induction fields generalizing others with
  | nil =>
    cases others with
    | nil => rfl
    | cons => cases h
  | cons field fields ih =>
    cases others with
    | nil => cases h
    | cons other others =>
      have hfirst : field.1 = other.1 := (List.cons.inj h).1
      have hrest : names fields = names others := (List.cons.inj h).2
      unfold Fields.insert
      -- the same comparisons of names on both sides, so the fields go to the same place
      rw [← hfirst]
      split
      · exact congrArg (name :: ·) hrest
      split
      · exact congrArg (name :: ·) h
      · exact List.cons_eq_cons.mpr ⟨hfirst, ih hrest⟩

/-! ### The same values -/

/-- A name before all others has no value. -/
theorem get?_eq_none_of_lt (h : ∀ field ∈ fields, name < field.1) : fields.get? name = none := by
  refine get?_eq_none_iff.mpr fun hmem => ?_
  obtain ⟨field, hfield, rfl⟩ := List.mem_map.mp hmem
  exact List.lt_irrefl _ (h field hfield)

/-- The first name of fields is not behind the first name of others with the same values. -/
theorem Ordered.not_lt {field field' : Text × α} (h : Ordered (field :: fields))
    (heq : ∀ name, get? name (field :: fields) = get? name (field' :: fields')) :
    ¬field'.1 < field.1 := by
  intro hlt
  -- that name would stand before all of the fields, and so have no value
  have hnone : get? field'.1 (field :: fields) = none := by
    refine get?_eq_none_of_lt fun other hother => ?_
    rcases List.mem_cons.mp hother with rfl | hother
    · exact hlt
    · exact List.lt_trans hlt ((List.pairwise_cons.mp h).1 other hother)
  rw [heq, get?, if_pos rfl] at hnone
  cases hnone

/-- **Fields in order are what their names have for values.** -/
theorem Ordered.ext (h : fields.Ordered) (h' : fields'.Ordered)
    (heq : ∀ name, fields.get? name = fields'.get? name) : fields = fields' := by
  induction fields generalizing fields' with
  | nil =>
    cases fields' with
    | nil => rfl
    | cons field' fields' =>
      have hfirst := heq field'.1
      rw [get?, get?, if_pos rfl] at hfirst
      cases hfirst
  | cons field fields ih =>
    cases fields' with
    | nil =>
      have hfirst := heq field.1
      rw [get?, get?, if_pos rfl] at hfirst
      cases hfirst
    | cons field' fields' =>
      obtain ⟨hfirst, hrest⟩ := List.pairwise_cons.mp h
      obtain ⟨hfirst', hrest'⟩ := List.pairwise_cons.mp h'
      -- neither of the first names is before the other
      have hname : field.1 = field'.1 :=
        List.le_antisymm (List.not_lt.mp (h.not_lt heq))
          (List.not_lt.mp (h'.not_lt fun name => (heq name).symm))
      have hvalue := heq field.1
      rw [get?, get?, if_pos rfl, if_pos hname, Option.some.injEq] at hvalue
      -- behind the first field its name does not come again
      have htail : fields = fields' := by
        refine ih hrest hrest' fun name => ?_
        have hrestName := heq name
        rw [get?, get?, ← hname] at hrestName
        split at hrestName
        · next hsame =>
          rw [hsame, get?_eq_none_of_lt hfirst, hname, get?_eq_none_of_lt hfirst']
        · exact hrestName
      rw [Prod.ext hname hvalue, htail]

end LogSieve.Fields
