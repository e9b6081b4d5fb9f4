import AsyncNats.Ownership.Values

/-! # Boxed records

A move-only object holds the only pointer to a record on the heap. The library side edits the
record through the pointer, and may take it for good. A program cannot tell such objects from
ones that simply have the record: the two systems take the same runs, and are undefined together.
-/

namespace Ownership

open Sync Transition

universe u v

/-- The heap, the objects, a counter for new boxes, and the records that were taken. -/
structure Boxes (Record : Type u) where
  boxes : Table Pointer Record
  objects : Wrappers Unit
  created : Pointer
  taken : List Record

namespace Boxes

variable {Record : Type u} {Edit : Type v}

def init : Boxes Record where
  boxes := ∅
  objects := ∅
  created := 0
  taken := []

/-- The constructor, which has a new box made. -/
def construct (state : Boxes Record) (record : Record) (object : ObjectId) :
    Option (Boxes Record) :=
  if state.objects.lookup object = none then
    some { state with
      boxes := state.boxes.insert state.created record
      objects := state.objects.insert object ⟨(), some state.created⟩
      created := state.created + 1 }
  else none

/-- Free the box behind a pointer unless that is null. -/
def deleteUnlessNull (state : Boxes Record) : Option Pointer → Option (Boxes Record)
  | none => some state
  | some pointer =>
      (state.boxes.lookup pointer).map fun _ =>
        { state with boxes := state.boxes.erase pointer }

/-- The move constructor. -/
def moveConstruct (state : Boxes Record) (source object : ObjectId) : Option (Boxes Record) :=
  match state.objects.lookup object, state.objects.lookup source with
  | none, some _ => some { state with objects := Wrappers.move state.objects source object }
  | _, _ => none

/-- The move assignment. -/
def moveAssign (state : Boxes Record) (target source : ObjectId) : Option (Boxes Record) :=
  match state.objects.lookup target, state.objects.lookup source with
  | some wrapper, some _ =>
    if target = source then some state
    else
      (state.deleteUnlessNull wrapper.raw).map fun next =>
        { next with objects := Wrappers.move state.objects source target }
  | _, _ => none

/-- The destructor. -/
def destroy (state : Boxes Record) (object : ObjectId) : Option (Boxes Record) :=
  match state.objects.lookup object with
  | some wrapper =>
      (state.deleteUnlessNull wrapper.raw).map fun next =>
        { next with objects := state.objects.erase object }
  | none => none

/-- The record behind the pointer of an object. -/
def deref (state : Boxes Record) (object : ObjectId) : Option (Pointer × Record) :=
  (Wrappers.raw state.objects object).bind fun pointer =>
    (state.boxes.lookup pointer).map fun record => (pointer, record)

/-- A call that changes the record. -/
def edit (state : Boxes Record) (object : ObjectId) (change : Record → Option Record) :
    Option (Boxes Record) :=
  (state.deref object).bind fun (pointer, record) =>
    (change record).map fun edited =>
      { state with boxes := state.boxes.insert pointer edited }

/-- The object gives its pointer away, and the box is opened. -/
def take (state : Boxes Record) (object : ObjectId) : Option (Boxes Record) :=
  (state.deref object).map fun (pointer, record) =>
    { state with
      boxes := state.boxes.erase pointer
      objects := state.objects.insert object ⟨(), none⟩
      taken := state.taken ++ [record] }

/-- A step is undefined when it would touch null or a freed box. -/
def step (editing : Editing Record Edit) (state : Boxes Record) :
    Usage Edit → Option (Boxes Record)
  | .construct object => state.construct editing.default object
  | .moveConstruct source object => state.moveConstruct source object
  | .moveAssign target source => state.moveAssign target source
  | .destroy object => state.destroy object
  | .edit object change => state.edit object fun record => editing.apply record change
  | .take object => state.take object

def system (editing : Editing Record Edit) : System (Boxes Record) (Usage Edit) where
  init := init
  step := step editing

/-- What each object of a program stands for. -/
def standsFor (objects : Wrappers Unit) (boxes : Table Pointer Record) (object : ObjectId) :
    Option (Option Record) :=
  (objects.lookup object).map fun wrapper => wrapper.raw.bind fun pointer => boxes.lookup pointer

def values (state : Boxes Record) : Values Record where
  objects := standsFor state.objects state.boxes
  taken := state.taken

/-- Each box has one holder, and each holder a box. -/
structure Kept (holders : List Pointer) (boxes : Table Pointer Record) (created : Pointer) :
    Prop where
  nodup : holders.Nodup
  live : ∀ pointer, pointer ∈ holders ↔ ∃ record, boxes.lookup pointer = some record
  numbered : ∀ pointer ∈ holders, pointer < created

namespace Kept

variable {holders other : List Pointer} {boxes : Table Pointer Record} {created pointer : Pointer}

theorem perm (kept : Kept holders boxes created) (same : holders.Perm other) :
    Kept other boxes created where
  nodup := same.nodup_iff.mp kept.nodup
  live := fun pointer => same.mem_iff.symm.trans (kept.live pointer)
  numbered := fun pointer member => kept.numbered pointer (same.mem_iff.mpr member)

theorem alloc (kept : Kept holders boxes created) (record : Record) :
    Kept (created :: holders) (boxes.insert created record) (created + 1) where
  nodup := List.nodup_cons.mpr
    ⟨fun member => Nat.lt_irrefl _ (kept.numbered created member), kept.nodup⟩
  live := by
    intro pointer
    rw [List.mem_cons, kept.live]
    by_cases same : pointer = created
    · subst same
      exact iff_of_true (.inl rfl) ⟨record, AList.lookup_insert boxes⟩
    · rw [or_iff_right same, AList.lookup_insert_ne same]
  numbered := by
    refine List.forall_mem_cons.mpr ⟨Nat.lt_succ_self created, ?_⟩
    exact fun pointer member => Nat.lt_succ_of_lt (kept.numbered pointer member)

/-- The holder of a box frees it, and the others keep theirs. -/
theorem free (kept : Kept (pointer :: holders) boxes created) :
    Kept holders (boxes.erase pointer) created := by
  obtain ⟨fresh, nodup⟩ := List.nodup_cons.mp kept.nodup
  refine ⟨nodup, fun other => ?_, fun other member =>
    kept.numbered other (List.mem_cons_of_mem pointer member)⟩
  by_cases same : other = pointer
  · subst same
    rw [AList.lookup_erase]
    exact iff_of_false fresh fun ⟨_, found⟩ => by cases found
  · rw [AList.lookup_erase_ne same, ← kept.live, List.mem_cons, or_iff_right same]

theorem edit (kept : Kept holders boxes created) (member : pointer ∈ holders) (record : Record) :
    Kept holders (boxes.insert pointer record) created := by
  refine ⟨kept.nodup, fun other => ?_, kept.numbered⟩
  by_cases same : other = pointer
  · subst same
    exact iff_of_true member ⟨record, AList.lookup_insert boxes⟩
  · rw [AList.lookup_insert_ne same, kept.live]

end Kept

/-- The objects are the holders. -/
def Sound (state : Boxes Record) : Prop :=
  Kept (Wrappers.holders state.objects) state.boxes state.created

section StandsFor

variable {objects : Wrappers Unit} {boxes changed : Table Pointer Record} {object : ObjectId}
  {wrapper : Wrapper Unit}

theorem standsFor_of_lookup (found : objects.lookup object = some wrapper) :
    standsFor objects boxes object =
      some (wrapper.raw.bind fun pointer => boxes.lookup pointer) := by
  rw [standsFor, found, Option.map_some]

theorem standsFor_eq_none : standsFor objects boxes object = none ↔ objects.lookup object = none :=
  Option.map_eq_none_iff

/-- Objects stand for the same as long as their own boxes do. -/
theorem standsFor_congr
    (same : ∀ pointer ∈ Wrappers.holders objects, changed.lookup pointer = boxes.lookup pointer) :
    standsFor objects changed = standsFor objects boxes := by
  funext object
  cases found : objects.lookup object with
  | none => rw [standsFor_eq_none.mpr found, standsFor_eq_none.mpr found]
  | some wrapper =>
      rw [standsFor_of_lookup found, standsFor_of_lookup found]
      congr 1
      exact Option.bind_congr fun pointer held =>
        same pointer (Wrappers.mem_holders found pointer held)

theorem standsFor_insert (objects : Wrappers Unit) (boxes : Table Pointer Record)
    (object : ObjectId) (wrapper : Wrapper Unit) :
    standsFor (objects.insert object wrapper) boxes =
      Function.update (standsFor objects boxes) object
        (some (wrapper.raw.bind fun pointer => boxes.lookup pointer)) := by
  funext other
  by_cases same : other = object
  · subst same
    rw [Function.update_self, standsFor_of_lookup (AList.lookup_insert objects)]
  · rw [Function.update_of_ne same, standsFor, AList.lookup_insert_ne same, standsFor]

theorem standsFor_erase (objects : Wrappers Unit) (boxes : Table Pointer Record)
    (object : ObjectId) :
    standsFor (objects.erase object) boxes =
      Function.update (standsFor objects boxes) object none := by
  funext other
  by_cases same : other = object
  · subst same
    rw [Function.update_self, standsFor_eq_none, AList.lookup_erase]
  · rw [Function.update_of_ne same, standsFor, AList.lookup_erase_ne same, standsFor]

theorem standsFor_move {source : ObjectId} (found : objects.lookup source = some wrapper)
    (target : ObjectId) :
    standsFor (Wrappers.move objects source target) boxes =
      Function.update (Function.update (standsFor objects boxes) target
        (standsFor objects boxes source)) source (some none) := by
  simp only [Wrappers.move, found, standsFor_insert, standsFor_of_lookup found, Option.bind_none]

/-- If the boxes of the other objects stay, only one object stands for something else. -/
theorem standsFor_change
    (same : ∀ pointer ∈ Wrappers.holders (objects.erase object),
      changed.lookup pointer = boxes.lookup pointer) :
    standsFor objects changed =
      Function.update (standsFor objects boxes) object (standsFor objects changed object) := by
  have others := standsFor_congr same
  rw [standsFor_erase, standsFor_erase] at others
  funext other
  by_cases self : other = object
  · subst self
    rw [Function.update_self]
  · have there := congrFun others other
    rw [Function.update_of_ne self, Function.update_of_ne self] at there
    rw [Function.update_of_ne self, there]

end StandsFor

/-- An operation on boxes gives what the one on values gives, or both are undefined. -/
structure Agrees (result : Option (Boxes Record)) (expected : Option (Values Record)) : Prop where
  values : result.map values = expected
  sound : ∀ next ∈ result, Sound next

namespace Agrees

theorem none : Agrees (none : Option (Boxes Record)) none := ⟨rfl, fun _ member => by cases member⟩

theorem some {next : Boxes Record} {expected : Values Record} (sound : Sound next)
    (values : next.values = expected) : Agrees (some next) (some expected) :=
  ⟨congrArg Option.some values, fun other member => by cases member; exact sound⟩

end Agrees

variable {editing : Editing Record Edit} {state : Boxes Record} {object : ObjectId}
  {pointer : Pointer} {record : Record}

theorem deref_eq_some_iff : state.deref object = some (pointer, record) ↔
    Wrappers.raw state.objects object = some pointer ∧
      state.boxes.lookup pointer = some record := by
  simp only [deref, Option.bind_eq_some_iff, Option.map_eq_some_iff, Prod.mk.injEq]
  constructor
  · rintro ⟨_, held, _, found, rfl, rfl⟩
    exact ⟨held, found⟩
  · rintro ⟨held, found⟩
    exact ⟨pointer, held, record, found, rfl, rfl⟩

/-- The record of an object that can be used. -/
theorem values_of_deref (used : state.deref object = some (pointer, record)) :
    state.values.objects object = some (some record) := by
  obtain ⟨held, found⟩ := deref_eq_some_iff.mp used
  obtain ⟨wrapper, located, raw⟩ := Option.bind_eq_some_iff.mp held
  refine (standsFor_of_lookup located).trans ?_
  rw [raw, Option.bind_some, found]

/-- An object with a record can be used. -/
theorem deref_of_values (stands : state.values.objects object = some (some record)) :
    ∃ pointer, state.deref object = some (pointer, record) := by
  obtain ⟨wrapper, located, raw⟩ := Option.map_eq_some_iff.mp stands
  obtain ⟨pointer, held, found⟩ := Option.bind_eq_some_iff.mp raw
  exact ⟨pointer, deref_eq_some_iff.mpr ⟨(Wrappers.raw_of_lookup located).trans held, found⟩⟩

/-- What cannot be used has no record. -/
theorem values_of_deref_none (unused : state.deref object = none) (record : Record) :
    state.values.objects object ≠ some (some record) := by
  intro stands
  obtain ⟨pointer, used⟩ := deref_of_values stands
  cases unused.symm.trans used

namespace Sound

/-- A box is freed, if there is one. -/
theorem delete {raw : Option Pointer} {rest : List Pointer}
    (kept : Kept (raw.toList ++ rest) state.boxes state.created) :
    ∃ boxes, state.deleteUnlessNull raw = some { state with boxes } ∧
      Kept rest boxes state.created ∧
      ∀ pointer ∈ rest, boxes.lookup pointer = state.boxes.lookup pointer := by
  cases raw with
  | none => exact ⟨state.boxes, rfl, kept, fun _ _ => rfl⟩
  | some pointer =>
      obtain ⟨record, found⟩ := (kept.live pointer).mp List.mem_cons_self
      refine ⟨state.boxes.erase pointer, ?_, kept.free, fun other member => ?_⟩
      · rw [deleteUnlessNull, found, Option.map_some]
      · refine AList.lookup_erase_ne fun same => ?_
        exact (List.nodup_cons.mp kept.nodup).1 (same ▸ member)

theorem construct (sound : Sound state) :
    Agrees (state.construct editing.default object)
      (Values.step editing state.values (.construct object)) := by
  by_cases fresh : state.objects.lookup object = none
  · have stands : state.values.objects object = none := standsFor_eq_none.mpr fresh
    rw [Boxes.construct, if_pos fresh, Values.step, if_pos stands]
    refine .some ?_ ?_
    · unfold Sound
      rw [Wrappers.holders_insert_new fresh]
      exact sound.alloc editing.default
    · have others : ∀ pointer ∈ Wrappers.holders state.objects,
          (state.boxes.insert state.created editing.default).lookup pointer =
            state.boxes.lookup pointer :=
        fun pointer member => AList.lookup_insert_ne (Nat.ne_of_lt (sound.numbered pointer member))
      simp only [values, standsFor_insert, standsFor_congr others, Option.bind_some,
        AList.lookup_insert]
  · have stands : state.values.objects object ≠ none :=
      fun none => fresh (standsFor_eq_none.mp none)
    rw [Boxes.construct, if_neg fresh, Values.step, if_neg stands]
    exact .none

theorem moveConstruct (sound : Sound state) (source : ObjectId) :
    Agrees (state.moveConstruct source object)
      (Values.step editing state.values (.moveConstruct source object)) := by
  cases there : state.objects.lookup object with
  | some wrapper =>
      have stands : state.values.objects object = _ := standsFor_of_lookup there
      simp only [Boxes.moveConstruct, there, Values.step, stands]
      exact .none
  | none =>
      have absent : state.values.objects object = none := standsFor_eq_none.mpr there
      cases found : state.objects.lookup source with
      | none =>
          have none : state.values.objects source = none := standsFor_eq_none.mpr found
          simp only [Boxes.moveConstruct, there, found, Values.step, absent, none]
          exact .none
      | some wrapper =>
          have stands : state.values.objects source = _ := standsFor_of_lookup found
          simp only [Boxes.moveConstruct, there, found, Values.step, absent, stands]
          refine .some (sound.perm (Wrappers.holders_move_new found there).symm) ?_
          simp only [values, standsFor_move found, standsFor_of_lookup found, Values.move]

theorem moveAssign (sound : Sound state) (target source : ObjectId) :
    Agrees (state.moveAssign target source)
      (Values.step editing state.values (.moveAssign target source)) := by
  cases there : state.objects.lookup target with
  | none =>
      have absent : state.values.objects target = none := standsFor_eq_none.mpr there
      simp only [Boxes.moveAssign, there, Values.step, absent]
      exact .none
  | some old =>
      have assigned : state.values.objects target = _ := standsFor_of_lookup there
      cases found : state.objects.lookup source with
      | none =>
          have absent : state.values.objects source = none := standsFor_eq_none.mpr found
          simp only [Boxes.moveAssign, there, found, Values.step, assigned, absent]
          exact .none
      | some wrapper =>
          have stands : state.values.objects source = _ := standsFor_of_lookup found
          simp only [Boxes.moveAssign, there, found, Values.step, assigned, stands]
          by_cases self : target = source
          · rw [if_pos self, if_pos self]
            exact .some sound rfl
          · rw [if_neg self, if_neg self]
            have moved := Wrappers.holders_move found fun same => self same.symm
            rw [Wrappers.raw_of_lookup there] at moved
            obtain ⟨boxes, deleted, kept, same⟩ := delete (sound.perm moved.symm)
            rw [deleted, Option.map_some]
            refine .some kept ?_
            simp only [values, standsFor_congr same, standsFor_move found,
              standsFor_of_lookup found, Values.move]

theorem destroy (sound : Sound state) :
    Agrees (state.destroy object) (Values.step editing state.values (.destroy object)) := by
  cases there : state.objects.lookup object with
  | none =>
      have absent : state.values.objects object = none := standsFor_eq_none.mpr there
      simp only [Boxes.destroy, there, Values.step, absent]
      exact .none
  | some wrapper =>
      have stands : state.values.objects object = _ := standsFor_of_lookup there
      have split := Wrappers.holders_perm state.objects object
      rw [Wrappers.raw_of_lookup there] at split
      obtain ⟨boxes, deleted, kept, same⟩ := delete (sound.perm split)
      simp only [Boxes.destroy, there, Values.step, stands, deleted, Option.map_some]
      refine .some kept ?_
      simp only [values, standsFor_congr same, standsFor_erase]

/-- The pointer of an object that can be used, apart from those of the others. -/
theorem apart (sound : Sound state) (held : Wrappers.raw state.objects object = some pointer) :
    Kept (pointer :: Wrappers.holders (state.objects.erase object)) state.boxes state.created := by
  have split := Wrappers.holders_perm state.objects object
  rw [held] at split
  exact sound.perm split

/-- A box has one object that holds it. -/
theorem holder (sound : Sound state) (found : state.boxes.lookup pointer = some record) :
    ∃ object, Wrappers.raw state.objects object = some pointer ∧
      ∀ other, Wrappers.raw state.objects other = some pointer → other = object := by
  have member := (sound.live pointer).mpr ⟨record, found⟩
  obtain ⟨object, wrapper, located, held⟩ := (Table.mem_gather _).mp member
  have raw : Wrappers.raw state.objects object = some pointer :=
    (Wrappers.raw_of_lookup located).trans (Option.mem_toList.mp held)
  refine ⟨object, raw, fun other holds => ?_⟩
  by_contra distinct
  obtain ⟨row, there, same⟩ := Option.bind_eq_some_iff.mp holds
  have still : (state.objects.erase object).lookup other = some row :=
    (AList.lookup_erase_ne distinct).trans there
  exact (List.nodup_cons.mp (sound.apart raw).nodup).1 (Wrappers.mem_holders still pointer same)

theorem edit (sound : Sound state) (change : Edit) :
    Agrees (state.edit object fun record => editing.apply record change)
      (Values.step editing state.values (.edit object change)) := by
  cases used : state.deref object with
  | none =>
      have unused := values_of_deref_none used
      rw [Boxes.edit, used, Option.bind_none, Values.step]
      split
      · next record stands => exact (unused record stands).elim
      · exact .none
  | some place =>
      obtain ⟨pointer, record⟩ := place
      have stands := values_of_deref used
      simp only [Boxes.edit, used, Option.bind_some, Values.step, stands]
      cases editing.apply record change with
      | none => exact .none
      | some edited =>
          obtain ⟨held, found⟩ := deref_eq_some_iff.mp used
          have kept := sound.apart held
          have member : pointer ∈ Wrappers.holders state.objects :=
            (sound.live pointer).mpr ⟨record, found⟩
          refine .some (Kept.edit sound member edited) ?_
          obtain ⟨wrapper, located, raw⟩ := Option.bind_eq_some_iff.mp held
          have others : ∀ other ∈ Wrappers.holders (state.objects.erase object),
              (state.boxes.insert pointer edited).lookup other = state.boxes.lookup other := by
            refine fun other member => AList.lookup_insert_ne fun same => ?_
            exact (List.nodup_cons.mp kept.nodup).1 (same ▸ member)
          simp only [values, standsFor_change others, standsFor_of_lookup located, raw,
            Option.bind_some, AList.lookup_insert]

theorem take (sound : Sound state) :
    Agrees (state.take object) (Values.step editing state.values (.take object)) := by
  cases used : state.deref object with
  | none =>
      have unused := values_of_deref_none used
      rw [Boxes.take, used, Option.map_none, Values.step]
      split
      · next record stands => exact (unused record stands).elim
      · exact .none
  | some place =>
      obtain ⟨pointer, record⟩ := place
      have stands := values_of_deref used
      simp only [Boxes.take, used, Option.map_some, Values.step, stands]
      obtain ⟨held, found⟩ := deref_eq_some_iff.mp used
      have kept := sound.apart held
      have emptied : Wrappers.holders (state.objects.insert object ⟨(), none⟩) =
          Wrappers.holders (state.objects.erase object) := Wrappers.holders_insert ..
      refine .some ?_ ?_
      · unfold Sound
        rw [emptied]
        exact kept.free
      · have others : ∀ other ∈ Wrappers.holders (state.objects.insert object ⟨(), none⟩),
            (state.boxes.erase pointer).lookup other = state.boxes.lookup other := by
          rw [emptied]
          refine fun other member => AList.lookup_erase_ne fun same => ?_
          exact (List.nodup_cons.mp kept.nodup).1 (same ▸ member)
        simp only [values, standsFor_congr others, standsFor_insert, Option.bind_none]

/-- Each step on boxes is the step on values. -/
theorem step (sound : Sound state) (usage : Usage Edit) :
    Agrees (step editing state usage) (Values.step editing state.values usage) := by
  cases usage with
  | construct object => exact sound.construct
  | moveConstruct source object => exact sound.moveConstruct source
  | moveAssign target source => exact sound.moveAssign target source
  | destroy object => exact sound.destroy
  | edit object change => exact sound.edit change
  | take object => exact sound.take

end Sound

/-- The box that a use frees. -/
def freed (state : Boxes Record) : Usage Edit → Option Pointer
  | .moveAssign target source =>
    if target = source then none else Wrappers.raw state.objects target
  | .destroy object | .take object => Wrappers.raw state.objects object
  | _ => none

/-- The box that a use edits or frees. -/
def touched (state : Boxes Record) : Usage Edit → Option Pointer
  | .edit object _ => Wrappers.raw state.objects object
  | usage => state.freed usage

/-- The boxes after a use. -/
inductive Change (state : Boxes Record) (usage : Usage Edit) : Table Pointer Record → Prop where
  | keep (unfreed : state.freed usage = none) : Change state usage state.boxes
  | make (record : Record) (unfreed : state.freed usage = none) :
      Change state usage (state.boxes.insert state.created record)
  | free (pointer : Pointer) (freed : state.freed usage = some pointer)
      (touched : state.touched usage = some pointer) :
      Change state usage (state.boxes.erase pointer)
  | edit (pointer : Pointer) (record : Record) (touched : state.touched usage = some pointer)
      (unfreed : state.freed usage = none) : Change state usage (state.boxes.insert pointer record)

theorem change_of_delete {raw : Option Pointer} {next : Boxes Record} {usage : Usage Edit}
    (deleted : state.deleteUnlessNull raw = some next) (frees : state.freed usage = raw)
    (touches : state.touched usage = raw) : Change state usage next.boxes := by
  cases raw with
  | none =>
      cases deleted
      exact .keep frees
  | some pointer =>
      obtain ⟨_, _, rfl⟩ := Option.map_eq_some_iff.mp deleted
      exact .free pointer frees touches

theorem change_of_step {usage : Usage Edit} {next : Boxes Record}
    (taken : step editing state usage = some next) : Change state usage next.boxes := by
  cases usage with
  | construct object =>
      obtain ⟨_, made⟩ := Option.ite_none_right_eq_some.mp taken
      cases made
      exact .make editing.default rfl
  | moveConstruct source object =>
      simp only [step, Boxes.moveConstruct] at taken
      split at taken <;> cases taken
      exact .keep rfl
  | moveAssign target source =>
      simp only [step, Boxes.moveAssign] at taken
      split at taken
      · next wrapper _ found _ =>
          by_cases self : target = source
          · rw [if_pos self] at taken
            cases taken
            exact .keep (if_pos self)
          · rw [if_neg self] at taken
            obtain ⟨after, deleted, rfl⟩ := Option.map_eq_some_iff.mp taken
            have frees : state.freed (.moveAssign target source : Usage Edit) = wrapper.raw :=
              (if_neg self).trans (Wrappers.raw_of_lookup found)
            have change := change_of_delete deleted frees frees
            exact change
      · cases taken
  | destroy object =>
      simp only [step, Boxes.destroy] at taken
      split at taken
      · next wrapper found =>
          obtain ⟨after, deleted, rfl⟩ := Option.map_eq_some_iff.mp taken
          have frees : state.freed (.destroy object : Usage Edit) = wrapper.raw :=
            Wrappers.raw_of_lookup found
          have change := change_of_delete deleted frees frees
          exact change
      · cases taken
  | edit object change =>
      obtain ⟨⟨pointer, record⟩, used, changed⟩ := Option.bind_eq_some_iff.mp taken
      obtain ⟨edited, _, rfl⟩ := Option.map_eq_some_iff.mp changed
      have held : state.touched (.edit object change) = some pointer :=
        (deref_eq_some_iff.mp used).1
      exact .edit pointer edited held rfl
  | take object =>
      obtain ⟨⟨pointer, record⟩, used, rfl⟩ := Option.map_eq_some_iff.mp taken
      have held : state.freed (.take object : Usage Edit) = some pointer :=
        (deref_eq_some_iff.mp used).1
      exact .free pointer held held

section Change

variable {usage : Usage Edit}

/-- A live box that is not freed is live afterwards. -/
theorem Change.live {boxes : Table Pointer Record} (change : Change state usage boxes)
    (live : ∃ record, state.boxes.lookup pointer = some record)
    (unfreed : state.freed usage ≠ some pointer) :
    ∃ record, boxes.lookup pointer = some record := by
  cases change with
  | keep => exact live
  | make record | edit _ record => exact Table.exists_lookup_insert (fun _ => live) record
  | free other freed =>
      obtain ⟨record, found⟩ := live
      refine ⟨record, (AList.lookup_erase_ne ?_).trans found⟩
      rintro rfl
      exact unfreed freed

/-- A box that is freed is not live afterwards. -/
theorem Change.gone {boxes : Table Pointer Record} (change : Change state usage boxes)
    (freed : state.freed usage = some pointer) : boxes.lookup pointer = none := by
  cases change with
  | keep unfreed | make _ unfreed | edit _ _ _ unfreed =>
      rw [unfreed] at freed
      cases freed
  | free other again =>
      rw [again] at freed
      cases freed
      exact AList.lookup_erase ..

/-- A box that is not touched keeps its record. -/
theorem Change.same {boxes : Table Pointer Record} (change : Change state usage boxes)
    (sound : Sound state) (found : state.boxes.lookup pointer = some record)
    (untouched : state.touched usage ≠ some pointer) : boxes.lookup pointer = some record := by
  cases change with
  | keep => exact found
  | make =>
      have member := (sound.live pointer).mpr ⟨record, found⟩
      rw [AList.lookup_insert_ne (Nat.ne_of_lt (sound.numbered pointer member)), found]
  | free other _ touched =>
      refine (AList.lookup_erase_ne ?_).trans found
      rintro rfl
      exact untouched touched
  | edit other _ touched =>
      refine (AList.lookup_insert_ne ?_).trans found
      rintro rfl
      exact untouched touched

end Change

theorem sound_init : Sound (init : Boxes Record) where
  nodup := List.nodup_nil
  live := fun _ => iff_of_false List.not_mem_nil fun ⟨_, found⟩ => by cases found
  numbered := fun _ member => (List.not_mem_nil member).elim

theorem agrees_runFrom (editing : Editing Record Edit) (sound : Sound state)
    (labels : List (Usage Edit)) :
    Agrees ((system editing).runFrom state labels)
      ((Values.system editing).runFrom state.values labels) := by
  induction labels generalizing state with
  | nil => exact .some sound rfl
  | cons usage rest ih =>
      have agrees : Agrees (step editing state usage) (Values.step editing state.values usage) :=
        sound.step usage
      simp only [System.runFrom]
      rw [show (Values.system editing).step state.values usage = _ from agrees.values.symm]
      cases taken : step editing state usage with
      | none =>
          rw [show (system editing).step state usage = none from taken]
          exact .none
      | some next =>
          rw [show (system editing).step state usage = some next from taken]
          exact ih (agrees.sound next taken)

/-- The runs on boxes are the runs on values. -/
theorem agrees_run (editing : Editing Record Edit) (labels : List (Usage Edit)) :
    Agrees ((system editing).run labels) ((Values.system editing).run labels) := by
  have same : (init : Boxes Record).values = (Values.system editing).init := by
    refine congrArg (Values.mk · []) (funext fun object => ?_)
    exact standsFor_eq_none.mpr rfl
  have agrees := agrees_runFrom editing sound_init labels
  rwa [same] at agrees

/-- Each object stands for the record that its edits make, and each box has one holder. -/
theorem run_replays {labels : List (Usage Edit)} (run : (system editing).run labels = some state) :
    Sound state ∧ ∃ histories,
      (Values.system (Editing.history Edit)).run labels = some histories ∧
        Values.Related editing.Replays state.values histories := by
  have agrees := agrees_run editing labels
  rw [run] at agrees
  refine ⟨agrees.sound state rfl, ?_⟩
  have started : Values.Related editing.Replays (Values.system editing).init
      (Values.system (Editing.history Edit)).init := ⟨fun _ => .none, .nil⟩
  exact started.runFrom editing.follows_history agrees.values.symm

end Boxes

end Ownership
