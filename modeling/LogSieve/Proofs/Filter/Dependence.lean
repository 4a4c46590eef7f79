import LogSieve.Filter.Verdict
import Mathlib.Data.List.Basic

/-!
# What a verdict depends on

A filter sees a record through the paths it names, and through nothing else. Two records with the
same values at these paths have the same verdict, for every expression (`Expr.value_congr`, by
induction on the expression); where there is no value, it counts as null.

So a change outside the named paths makes no difference. To say what is outside, every value inside
a value has a place, the steps that lead to it by names of members and positions of items. Two
places are apart if neither leads through the other, and changing the value at one place leaves the
values at all places apart from it (`Json.at?_change_of_apart`). A named path is a place too
(`Record.resolve?_eq_at?`).

The main statement is `holds_eq_of_named_values`.
-/

namespace LogSieve

/-! ### The values at the named paths -/

namespace Expr

/-- The paths that an expression names. -/
def paths : Expr → List FieldPath
  | field path => [path]
  | literal _ => []
  | equals left right => left.paths ++ right.paths
  | contains left right => left.paths ++ right.paths
  | and left right => left.paths ++ right.paths
  | or left right => left.paths ++ right.paths
  | not operand => operand.paths

/-- **The value of an expression depends on the values at its paths alone.** -/
theorem value_congr {record other : Record} (expr : Expr)
    (h : ∀ path ∈ expr.paths,
      (record.resolve? path.segments).getD .null = (other.resolve? path.segments).getD .null) :
    expr.value record = expr.value other := by
  induction expr with
  | field path => exact h path List.mem_cons_self
  | literal constant => rfl
  | equals left right ihl ihr | contains left right ihl ihr | and left right ihl ihr
  | or left right ihl ihr =>
    -- each operand names some of the paths
    obtain ⟨hl, hr⟩ := List.forall_mem_append.mp h
    rw [value, value, ihl hl, ihr hr]
  | not operand ih => rw [value, value, ih h]

end Expr

/-- A name with the value null is as good as no value. -/
theorem Record.resolve?_insert_null {record : Record} {name : Text}
    (h : record.get? name = none) (names : List Text) :
    (resolve? names (record.insert name Json.null)).getD .null =
      (record.resolve? names).getD .null := by
  -- only the first name is looked up in the record itself
  cases names with
  | nil => rfl
  | cons first rest =>
    have hget : (record.insert name Json.null).get? first =
        if first = name then some .null else record.get? first :=
      Fields.get?_insert record name .null first
    by_cases hfirst : first = name
    · subst hfirst
      rw [if_pos rfl] at hget
      -- neither null nor nothing has members
      cases rest with
      | nil => simp only [resolve?, hget, h, Option.getD_some, Option.getD_none]
      | cons second rest => simp only [resolve?, hget, h]
    · rw [if_neg hfirst] at hget
      cases rest with
      | nil => simp only [resolve?, hget]
      | cons second rest => simp only [resolve?, hget]

/-! ### Places -/

namespace Json

/-- A step from a value to a value inside it. -/
inductive Step where
  /-- To the member of an object with the name. -/
  | member (name : Text)
  /-- To the item of an array at the position. -/
  | item (index : Nat)
  deriving DecidableEq

/-- The value that a step leads to. -/
def inside? : Step → Json → Option Json
  | .member name, object members => Fields.get? name members
  | .item index, array items => items[index]?
  | _, _ => none

/-- Puts what `f` makes of it in the place of the value that a step leads to, if there is one. -/
def modify (f : Json → Json) : Step → Json → Json
  | .member name, object members =>
    match Fields.get? name members with
    | some value => object (Fields.insert name (f value) members)
    | none => object members
  | .item index, array items => array (items.modify index f)
  | _, value => value

/-- The value at a place. -/
def at? : List Step → Json → Option Json
  | [], value => some value
  | step :: place, value => (value.inside? step).bind (at? place)

/-- Puts `new` in the place of the value at a place, if there is one. -/
def change (new : Json) : List Step → Json → Json
  | [], _ => new
  | step :: place, value => modify (change new place) step value

/-- Two places of which neither leads through the other. -/
def Apart (place other : List Step) : Prop :=
  ¬ place <+: other ∧ ¬ other <+: place

section Change

variable {step other : Step} {f : Json → Json} {new : Json}

/-- A modified value is found where the value was. -/
theorem inside?_modify_self (value : Json) :
    (modify f step value).inside? step = (value.inside? step).map f := by
  cases step with
  | member name =>
    cases value with
    | object members =>
      rw [modify]
      cases hget : Fields.get? name members with
      | none =>
        show Fields.get? name members = (Fields.get? name members).map f
        rw [hget, Option.map_none]
      | some value =>
        show Fields.get? name (Fields.insert name (f value) members) =
          (Fields.get? name members).map f
        rw [Fields.get?_insert, if_pos rfl, hget, Option.map_some]
    | _ => rfl
  | item index =>
    cases value with
    | array items =>
      show (items.modify index f)[index]? = items[index]?.map f
      rw [List.getElem?_modify_eq]
      rfl
    | _ => rfl

/-- Other steps lead where they led before. -/
theorem inside?_modify_of_ne (h : step ≠ other) (value : Json) :
    (modify f step value).inside? other = value.inside? other := by
  -- a step into an object does not lead into an array, nor the other way round
  cases step with
  | member name =>
    cases value with
    | object members =>
      rw [modify]
      cases hget : Fields.get? name members with
      | none => rfl
      | some value =>
        cases other with
        | member name' =>
          show Fields.get? name' (Fields.insert name (f value) members) =
            Fields.get? name' members
          rw [Fields.get?_insert, if_neg]
          rintro rfl
          exact h rfl
        | item index => rfl
    | _ => rfl
  | item index =>
    cases value with
    | array items =>
      cases other with
      | member name => rfl
      | item index' =>
        show (items.modify index f)[index']? = items[index']?
        refine List.getElem?_modify_ne f items ?_
        rintro rfl
        exact h rfl
    | _ => rfl

/-- **The value at the changed place** is the new one. -/
theorem at?_change_self {place : List Step} {value old : Json} (h : value.at? place = some old) :
    (change new place value).at? place = some new := by
  induction place generalizing value with
  | nil => rfl
  | cons step place ih =>
    obtain ⟨inner, hinner, hplace⟩ := Option.bind_eq_some_iff.mp h
    rw [change, at?, inside?_modify_self, hinner, Option.map_some, Option.bind_some]
    exact ih hplace

/-- After a common step, two places are still apart. -/
theorem Apart.tail {place place' : List Step} (h : Apart (step :: place) (step :: place')) :
    Apart place place' := by
  constructor
  · intro hle
    exact h.1 (List.cons_prefix_cons.mpr ⟨rfl, hle⟩)
  · intro hle
    exact h.2 (List.cons_prefix_cons.mpr ⟨rfl, hle⟩)

/-- **The values at all places apart from the changed one** stay as they are. -/
theorem at?_change_of_apart {place place' : List Step} (h : Apart place place') (value : Json) :
    (change new place value).at? place' = value.at? place' := by
  -- a place that is empty leads through every other, so both begin with a step
  induction place generalizing place' value with
  | nil => exact absurd List.nil_prefix h.1
  | cons step place ih =>
    cases place' with
    | nil => exact absurd List.nil_prefix h.2
    | cons step' place' =>
      rw [change, at?, at?]
      by_cases hstep : step = step'
      · -- the two places go on together
        subst hstep
        rw [inside?_modify_self]
        cases value.inside? step with
        | none => rfl
        | some inner => exact ih h.tail inner
      · rw [inside?_modify_of_ne hstep]

end Change

end Json

/-! ### Named paths as places -/

/-- The place that a path names in a record. -/
def FieldPath.place (path : FieldPath) : List Json.Step :=
  path.segments.map .member

/-- A path is followed name by name, and only objects have members. -/
theorem Record.resolve?_eq_at? (record : Record) {names : List Text} (h : names ≠ []) :
    record.resolve? names = (Json.object record).at? (names.map .member) := by
  -- on the names, with the record inside for the rest of them
  induction names generalizing record with
  | nil => exact absurd rfl h
  | cons name names ih =>
    have hstep : (Json.object record).inside? (.member name) = record.get? name := rfl
    rw [List.map_cons, Json.at?, hstep]
    cases names with
    | nil =>
      show record.get? name = (record.get? name).bind fun value => some value
      rw [Option.bind_fun_some]
    | cons second names =>
      simp only [resolve?]
      split
      · next members hget =>
        rw [hget, Option.bind_some]
        exact ih members (List.cons_ne_nil second names)
      · next hget =>
        -- the path goes on in what is no object
        cases hvalue : record.get? name with
        | none => rfl
        | some value =>
          cases value with
          | object members => exact absurd hvalue (hget members)
          | _ => rfl

/-- **A change apart from a path** leaves the value at the path. -/
theorem Record.resolve?_change {record changed : Record} {place : List Json.Step} {new : Json}
    (hchanged : Json.change new place (.object record) = .object changed) {path : FieldPath}
    (h : Json.Apart place path.place) :
    changed.resolve? path.segments = record.resolve? path.segments := by
  have hne : path.segments ≠ [] := by
    intro hnil
    -- a path without names would lead to the record itself
    apply h.2
    rw [FieldPath.place, hnil]
    exact List.nil_prefix
  rw [resolve?_eq_at? changed hne, resolve?_eq_at? record hne, ← hchanged]
  exact Json.at?_change_of_apart h _

/-! ### Verdicts -/

/-- **A verdict depends on the fields that the filter names.** For every expression: (1) Two records
have the same verdict if they have the same value at every path that occurs in the expression, where
no value counts as null. (2) A new name at the top of a record whose value is null does not change
the verdict. (3) Neither does a new value in the place of any value of the record, if no path of the
expression leads to it, through it, or to something around it. -/
theorem holds_eq_of_named_values (expr : Expr) :
    (∀ record other : Record,
      (∀ path ∈ expr.paths, (record.resolve? path.segments).getD .null =
        (other.resolve? path.segments).getD .null) →
      expr.holds record = expr.holds other) ∧
    (∀ (record : Record) (name : Text), record.get? name = none →
      expr.holds (record.insert name Json.null) = expr.holds record) ∧
    ∀ (record changed : Record) (place : List Json.Step) (old new : Json),
      (Json.object record).at? place = some old →
      Json.change new place (.object record) = .object changed →
      (∀ path ∈ expr.paths, ¬ place <+: path.place ∧ ¬ path.place <+: place) →
      (Json.object changed).at? place = some new ∧ expr.holds changed = expr.holds record := by
  -- the other two parts are cases of the first
  have hagree : ∀ record other : Record,
      (∀ path ∈ expr.paths, (record.resolve? path.segments).getD .null =
        (other.resolve? path.segments).getD .null) →
      expr.holds record = expr.holds other := by
    intro record other h
    rw [Expr.holds, Expr.holds, expr.value_congr h]
  refine ⟨hagree, ?_, ?_⟩
  · intro record name hname
    apply hagree
    intro path hpath
    exact Record.resolve?_insert_null hname path.segments
  · intro record changed place old new hold hchanged hapart
    refine ⟨?_, hagree changed record ?_⟩
    · rw [← hchanged]
      exact Json.at?_change_self hold
    · intro path hpath
      rw [Record.resolve?_change hchanged (hapart path hpath)]

/-- A filter on `a.b` sees neither what stands beside it, at `a.c` and in the items of an array
there, nor names that it does not use. -/
theorem holds_eq_of_named_values_beside :
    let filter : Expr := .equals (.field ⟨[['a'], ['b']]⟩) (.literal (.string ['x']))
    let inner : Fields Json := [(['b'], .string ['X'])]
    let record : Record := [(['a'], .object (inner ++ [(['c'], .array [.null, .bool true])]))]
    let changed : Record :=
      [(['a'], .object (inner ++ [(['c'], .array [.null, .string ['y']])]))]
    filter.holds record = true ∧ filter.holds changed = filter.holds record ∧
      filter.holds [(['a'], .object inner), (['b'], .null)] = filter.holds record ∧
      filter.holds (record.insert ['d'] Json.null) = filter.holds record := by
  intro filter inner record changed
  obtain ⟨hagree, hnull, hchange⟩ := holds_eq_of_named_values filter
  have hplace := hchange record changed [.member ['a'], .member ['c'], .item 1] (.bool true)
    (.string ['y']) rfl rfl (by decide)
  have hother := hagree [(['a'], .object inner), (['b'], .null)] record <| by
    intro path hpath
    obtain rfl := List.mem_singleton.mp hpath
    rfl
  exact ⟨by decide +kernel, hplace.2, hother, hnull record ['d'] rfl⟩

end LogSieve
