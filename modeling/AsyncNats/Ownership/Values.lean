import AsyncNats.Ownership.Wrappers
import AsyncNats.Transition.System
import Mathlib.Data.List.Forall2
import Mathlib.Logic.Function.Basic

/-! # Objects that have a record each

A move-only object has a record, or none after it was moved from. Records are made in one way
and then edited, and may be taken for good. Records that are edited alike stay related through
every run, in particular the record of an object and the list of the edits it came from.
-/

namespace Ownership

open Sync Transition

universe u v w

/-- A record that is made in one way and then edited. An edit may fail. -/
structure Editing (Record : Type u) (Edit : Type v) where
  default : Record
  apply : Record → Edit → Option Record

/-- What a program does with its objects. -/
inductive Usage (Edit : Type v) where
  | construct (object : ObjectId)
  | moveConstruct (source object : ObjectId)
  | moveAssign (target source : ObjectId)
  | destroy (object : ObjectId)
  | edit (object : ObjectId) (change : Edit)
  | take (object : ObjectId)

/-- The objects that have a record, or none, and the records that were taken. -/
structure Values (Record : Type u) where
  objects : ObjectId → Option (Option Record)
  taken : List Record

namespace Values

variable {Record : Type u} {Edit : Type v}

def move (values : Values Record) (source target : ObjectId) (record : Option Record) :
    Values Record :=
  { values with
    objects :=
      Function.update (Function.update values.objects target (some record)) source (some none) }

/-- A step is undefined on objects that are not there, and an edit and a take on one that was
moved from. -/
def step (editing : Editing Record Edit) (values : Values Record) :
    Usage Edit → Option (Values Record)
  | .construct object =>
    if values.objects object = none then
      some { values with
        objects := Function.update values.objects object (some (some editing.default)) }
    else none
  | .moveConstruct source object =>
    match values.objects object, values.objects source with
    | none, some record => some (values.move source object record)
    | _, _ => none
  | .moveAssign target source =>
    match values.objects target, values.objects source with
    | some _, some record =>
      if target = source then some values else some (values.move source target record)
    | _, _ => none
  | .destroy object =>
    match values.objects object with
    | some _ => some { values with objects := Function.update values.objects object none }
    | none => none
  | .edit object change =>
    match values.objects object with
    | some (some record) =>
        (editing.apply record change).map fun edited =>
          { values with objects := Function.update values.objects object (some (some edited)) }
    | _ => none
  | .take object =>
    match values.objects object with
    | some (some record) => some
        { objects := Function.update values.objects object (some none)
          taken := values.taken ++ [record] }
    | _ => none

def system (editing : Editing Record Edit) : System (Values Record) (Usage Edit) where
  init := ⟨fun _ => none, []⟩
  step := step editing

end Values

/-- Two kinds of records that are edited alike. -/
structure Editing.Follows {Record : Type u} {Other : Type w} {Edit : Type v}
    (relation : Record → Other → Prop) (editing : Editing Record Edit)
    (other : Editing Other Edit) : Prop where
  default : relation editing.default other.default
  apply : ∀ record mirrored change edited, relation record mirrored →
    editing.apply record change = some edited →
      ∃ next, other.apply mirrored change = some next ∧ relation edited next

/-- The edits themselves, as a record of what was done. -/
def Editing.history (Edit : Type v) : Editing (List Edit) Edit where
  default := []
  apply edits change := some (edits ++ [change])

/-- The record that some edits make. -/
def Editing.Replays {Record : Type u} {Edit : Type v} (editing : Editing Record Edit)
    (record : Record) (edits : List Edit) : Prop :=
  edits.foldlM editing.apply editing.default = some record

theorem Editing.follows_history {Record : Type u} {Edit : Type v} (editing : Editing Record Edit) :
    editing.Follows editing.Replays (history Edit) where
  default := rfl
  apply := by
    intro record edits change edited replays applied
    refine ⟨edits ++ [change], rfl, ?_⟩
    rw [Replays, List.foldlM_append, replays]
    exact (bind_pure _).trans applied

namespace Values

variable {Record : Type u} {Other : Type w} {Edit : Type v} {relation : Record → Other → Prop}
  {editing : Editing Record Edit} {other : Editing Other Edit}

theorem rel_imp {α : Type u} {β : Type w} {first second : α → β → Prop}
    (implies : ∀ a b, first a b → second a b) {a : Option α} {b : Option β}
    (related : Option.Rel first a b) : Option.Rel second a b := by
  cases related with
  | some same => exact .some (implies _ _ same)
  | none => exact .none

/-- Objects with related records. -/
structure Related (relation : Record → Other → Prop) (values : Values Record)
    (mirror : Values Other) : Prop where
  objects : ∀ object, Option.Rel (Option.Rel relation) (values.objects object)
    (mirror.objects object)
  taken : List.Forall₂ relation values.taken mirror.taken

namespace Related

variable {values next : Values Record} {mirror : Values Other}

theorem update (related : Related relation values mirror) (object : ObjectId)
    {first : Option (Option Record)} {second : Option (Option Other)}
    (rows : Option.Rel (Option.Rel relation) first second) :
    Related relation { values with objects := Function.update values.objects object first }
      { mirror with objects := Function.update mirror.objects object second } := by
  refine ⟨fun any => ?_, related.taken⟩
  by_cases same : any = object
  · subst same
    simpa only [Function.update_self] using rows
  · simpa only [Function.update_of_ne same] using related.objects any

theorem move (related : Related relation values mirror) (source target : ObjectId)
    {first : Option Record} {second : Option Other} (rows : Option.Rel relation first second) :
    Related relation (values.move source target first) (mirror.move source target second) :=
  (related.update target (.some rows)).update source (.some .none)

theorem imp {weaker : Record → Other → Prop} (related : Related relation values mirror)
    (implies : ∀ record mirrored, relation record mirrored → weaker record mirrored) :
    Related weaker values mirror := by
  refine ⟨fun object => ?_, related.taken.imp implies⟩
  exact rel_imp (fun _ _ => rel_imp implies) (related.objects object)

theorem none_of_none (related : Related relation values mirror) {object : ObjectId}
    (absent : values.objects object = none) : mirror.objects object = none := by
  have rows := related.objects object
  rw [absent] at rows
  cases found : mirror.objects object with
  | none => rfl
  | some row =>
      rw [found] at rows
      cases rows

theorem some_of_some (related : Related relation values mirror) {object : ObjectId}
    {first : Option Record} (found : values.objects object = some first) :
    ∃ second, mirror.objects object = some second ∧ Option.Rel relation first second := by
  have rows := related.objects object
  rw [found] at rows
  cases there : mirror.objects object with
  | none =>
      rw [there] at rows
      cases rows
  | some second =>
      rw [there] at rows
      cases rows with
      | some same => exact ⟨second, rfl, same⟩

theorem record_of_record (related : Related relation values mirror) {object : ObjectId}
    {record : Record} (found : values.objects object = some (some record)) :
    ∃ mirrored, mirror.objects object = some (some mirrored) ∧ relation record mirrored := by
  obtain ⟨second, there, rows⟩ := related.some_of_some found
  cases rows with
  | some same => exact ⟨_, there, same⟩

theorem record_of_mirrored (related : Related relation values mirror) {object : ObjectId}
    {mirrored : Other} (found : mirror.objects object = some (some mirrored)) :
    ∃ record, values.objects object = some (some record) ∧ relation record mirrored := by
  have rows := related.objects object
  rw [found] at rows
  generalize values.objects object = first at rows
  cases rows with
  | some same =>
      cases same with
      | some same => exact ⟨_, rfl, same⟩

/-- Records that are edited alike stay related. -/
theorem step (follows : editing.Follows relation other) (related : Related relation values mirror)
    {usage : Usage Edit} (taken : Values.step editing values usage = some next) :
    ∃ after, Values.step other mirror usage = some after ∧ Related relation next after := by
  cases usage with
  | construct object =>
      obtain ⟨fresh, made⟩ := Option.ite_none_right_eq_some.mp taken
      cases made
      refine ⟨_, if_pos (related.none_of_none fresh), related.update object ?_⟩
      exact .some (.some follows.default)
  | moveConstruct source object =>
      simp only [Values.step] at taken
      split at taken
      · next record fresh found =>
          cases taken
          obtain ⟨mirrored, there, rows⟩ := related.some_of_some found
          refine ⟨mirror.move source object mirrored, ?_, related.move source object rows⟩
          simp only [Values.step, related.none_of_none fresh, there]
      · cases taken
  | moveAssign target source =>
      simp only [Values.step] at taken
      split at taken
      · next old record assigned found =>
          obtain ⟨_, here, _⟩ := related.some_of_some assigned
          obtain ⟨mirrored, there, rows⟩ := related.some_of_some found
          simp only [Values.step, here, there]
          by_cases self : target = source
          · rw [if_pos self] at taken
            cases taken
            exact ⟨mirror, if_pos self, related⟩
          · rw [if_neg self] at taken
            cases taken
            exact ⟨_, if_neg self, related.move source target rows⟩
      · cases taken
  | destroy object =>
      simp only [Values.step] at taken
      split at taken
      · next old found =>
          cases taken
          obtain ⟨_, there, _⟩ := related.some_of_some found
          refine ⟨_, ?_, related.update object .none⟩
          simp only [Values.step, there]
      · cases taken
  | edit object change =>
      simp only [Values.step] at taken
      split at taken
      · next record found =>
          obtain ⟨edited, applied, rfl⟩ := Option.map_eq_some_iff.mp taken
          obtain ⟨mirrored, there, same⟩ := related.record_of_record found
          obtain ⟨copied, followed, same⟩ :=
            follows.apply record mirrored change edited same applied
          refine ⟨_, ?_, related.update object (.some (.some same))⟩
          simp only [Values.step, there, followed, Option.map_some]
      · cases taken
  | take object =>
      simp only [Values.step] at taken
      split at taken
      · next record found =>
          cases taken
          obtain ⟨mirrored, there, same⟩ := related.record_of_record found
          have updated := related.update object (.some .none)
          refine ⟨⟨Function.update mirror.objects object (some none), mirror.taken ++ [mirrored]⟩,
            ?_, updated.objects, ?_⟩
          · simp only [Values.step, there]
          · exact List.rel_append related.taken (.cons same .nil)
      · cases taken

/-- Runs on records that are edited alike end in related objects. -/
theorem runFrom (follows : editing.Follows relation other)
    (related : Related relation values mirror) {labels : List (Usage Edit)}
    (run : (system editing).runFrom values labels = some next) :
    ∃ after, (system other).runFrom mirror labels = some after ∧ Related relation next after := by
  induction labels generalizing values mirror with
  | nil =>
      cases run
      exact ⟨mirror, rfl, related⟩
  | cons usage rest ih =>
      obtain ⟨middle, taken, tail⟩ := System.runFrom_cons_eq_some _ |>.mp run
      obtain ⟨after, followed, related⟩ := related.step follows taken
      obtain ⟨last, finished, related⟩ := ih related tail
      exact ⟨last, System.runFrom_cons_eq_some _ |>.mpr ⟨after, followed, finished⟩, related⟩

end Related

end Values

end Ownership
