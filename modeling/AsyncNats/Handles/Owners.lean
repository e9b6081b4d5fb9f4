import AsyncNats.Handles.Basic

/-! # Who owns the boxes

Every live box that can still be freed has one owner: an object, or the task that
unsubscribes a deleted subscription. An object therefore never refers to a freed
box. This needs no assumption on the run.
-/

namespace AsyncNats.Handles

open Sync Ownership Transition

/-- The outcomes of a step. -/
inductive Step (state : State) : Event → State → Prop where
  | defaultConstruct {object : ObjectId} {kind : Kind}
      (fresh : state.objects.lookup object = none) :
      Step state (.defaultConstruct object kind)
        { state with objects := state.objects.insert object ⟨kind, none⟩ }
  | connected {object : ObjectId} (fresh : state.objects.lookup object = none) :
      Step state (.connected object) (state.allocate .connection object)
  | copyConstruct {source object : ObjectId} (fresh : state.objects.lookup object = none) :
      Step state (.copyConstruct source object) (state.allocate .connection object)
  | moveConstruct {source object : ObjectId} {wrapper : Wrapper Kind}
      (fresh : state.objects.lookup object = none)
      (found : state.objects.lookup source = some wrapper) :
      Step state (.moveConstruct source object)
        { state with objects := Wrappers.move state.objects source object }
  | copyAssignSelf {object : ObjectId} : Step state (.copyAssign object object) state
  | copyAssign {target source : ObjectId} {raw : Option Pointer}
      (found : state.objects.lookup target = some ⟨.connection, raw⟩)
      (distinct : target ≠ source) :
      Step state (.copyAssign target source)
        ((state.delete .connection raw).allocate .connection target)
  | moveAssignSelf {object : ObjectId} : Step state (.moveAssign object object) state
  | moveAssign {target source : ObjectId} {kind : Kind} {raw : Option Pointer}
      {wrapper : Wrapper Kind} (found : state.objects.lookup target = some ⟨kind, raw⟩)
      (given : state.objects.lookup source = some wrapper) (distinct : target ≠ source) :
      Step state (.moveAssign target source)
        { state.delete kind raw with objects := Wrappers.move state.objects source target }
  | destroy {object : ObjectId} {kind : Kind} {raw : Option Pointer}
      (found : state.objects.lookup object = some ⟨kind, raw⟩) :
      Step state (.destroy object)
        { state.delete kind raw with objects := state.objects.erase object }
  | start {object : ObjectId} {operation : Operation} {kind : Kind} {box : Pointer}
      (found : state.objects.lookup object = some ⟨kind, some box⟩)
      (caller : operation.caller = some kind) :
      Step state (.start object operation) (state.spawn operation box)
  | resume {id : TaskId} {task : Task} (found : state.tasks.lookup id = some task) :
      Step state (.resume id) (state.refer id task)
  | finish {id : TaskId} {task : Task} (found : state.tasks.lookup id = some task)
      (other : task.operation ≠ .unsubscribe) :
      Step state (.finish id none) { state.refer id task with tasks := state.tasks.erase id }
  | subscribed {id : TaskId} {object : ObjectId} {task : Task}
      (found : state.tasks.lookup id = some task) (subscribe : task.operation = .subscribe)
      (fresh : state.objects.lookup object = none) :
      Step state (.finish id (some object))
        ({ state.refer id task with tasks := state.tasks.erase id }.allocate .subscribtion object)
  | unsubscribed {id : TaskId} {task : Task} (found : state.tasks.lookup id = some task)
      (unsubscribe : task.operation = .unsubscribe) :
      Step state (.finish id none)
        { state.refer id task with
          tasks := state.tasks.erase id, boxes := state.boxes.erase task.box }

/-- A poll changes no box, object or task. -/
theorem State.refer_eq (state : State) (id : TaskId) (task : Task) :
    state.refer id task = { state with dangling := (state.refer id task).dangling } := by
  unfold State.refer
  cases state.boxes.lookup task.box <;> rfl

variable {state next : State} {event : Event}

theorem copyConstruct_cases {source object : ObjectId}
    (taken : state.copyConstruct source object = some next) :
    Step state (.copyConstruct source object) next := by
  unfold State.copyConstruct at taken
  split at taken
  · next fresh _ =>
      cases taken
      exact .copyConstruct fresh
  · cases taken

theorem moveConstruct_cases {source object : ObjectId}
    (taken : state.moveConstruct source object = some next) :
    Step state (.moveConstruct source object) next := by
  unfold State.moveConstruct at taken
  split at taken
  · next fresh found =>
      cases taken
      exact .moveConstruct fresh found
  · cases taken

theorem copyAssign_cases {target source : ObjectId}
    (taken : state.copyAssign target source = some next) :
    Step state (.copyAssign target source) next := by
  unfold State.copyAssign at taken
  split at taken
  · next raw box found given =>
      by_cases same : target = source
      · subst same
        simp only [↓reduceIte, Option.some.injEq] at taken
        subst taken
        exact .copyAssignSelf
      · simp only [same, ↓reduceIte, Option.some.injEq] at taken
        subst taken
        exact .copyAssign found same
  · cases taken

theorem moveAssign_cases {target source : ObjectId}
    (taken : state.moveAssign target source = some next) :
    Step state (.moveAssign target source) next := by
  unfold State.moveAssign at taken
  split at taken
  · next kind raw same given found source_found =>
      simp only [Option.ite_none_left_eq_some] at taken
      obtain ⟨_, taken⟩ := taken
      by_cases self : target = source
      · subst self
        simp only [↓reduceIte, Option.some.injEq] at taken
        subst taken
        exact .moveAssignSelf
      · simp only [self, ↓reduceIte, Option.some.injEq] at taken
        subst taken
        exact .moveAssign found source_found self
  · cases taken

theorem finish_cases {id : TaskId} {object : Option ObjectId}
    (taken : state.finish id object = some next) : Step state (.finish id object) next := by
  unfold State.finish at taken
  cases found : state.tasks.lookup id with
  | none => simp only [found, reduceCtorEq] at taken
  | some task =>
      simp only [found] at taken
      split at taken
      · next object subscribe =>
          simp only [Option.ite_none_right_eq_some, Option.some.injEq] at taken
          obtain ⟨fresh, rfl⟩ := taken
          exact .subscribed found subscribe fresh
      · next unsubscribe =>
          simp only [Option.some.injEq] at taken
          subst taken
          rw [State.refer_eq]
          have step := Step.unsubscribed found unsubscribe
          rw [State.refer_eq] at step
          exact step
      · next other =>
          simp only [Option.some.injEq] at taken
          subst taken
          exact .finish found other
      · cases taken

/-- Every step has one of the listed outcomes. -/
theorem step_cases (taken : step state event = some next) : Step state event next := by
  cases event with
  | defaultConstruct object kind =>
      simp only [step, State.defaultConstruct, Option.ite_none_right_eq_some,
        Option.some.injEq] at taken
      obtain ⟨fresh, rfl⟩ := taken
      exact .defaultConstruct fresh
  | connected object =>
      simp only [step, State.connected, Option.ite_none_right_eq_some, Option.some.injEq] at taken
      obtain ⟨fresh, rfl⟩ := taken
      exact .connected fresh
  | copyConstruct source object => exact copyConstruct_cases taken
  | moveConstruct source object => exact moveConstruct_cases taken
  | copyAssign target source => exact copyAssign_cases taken
  | moveAssign target source => exact moveAssign_cases taken
  | destroy object =>
      simp only [step, State.destroy] at taken
      cases found : state.objects.lookup object with
      | none => simp only [found, reduceCtorEq] at taken
      | some wrapper =>
          simp only [found, Option.some.injEq] at taken
          subst taken
          exact .destroy found
  | start object operation =>
      simp only [step, State.start] at taken
      split at taken
      · next kind box found =>
          simp only [Option.ite_none_right_eq_some, Option.some.injEq] at taken
          obtain ⟨caller, rfl⟩ := taken
          exact .start found caller
      · cases taken
  | resume id =>
      simp only [step, State.resume, Option.map_eq_some_iff] at taken
      obtain ⟨task, found, rfl⟩ := taken
      exact .resume found
  | finish id object => exact finish_cases taken

/-- The box a task owns. The other tasks only borrow. -/
def Task.owned (task : Task) : List Pointer :=
  match task.operation with
  | .unsubscribe => [task.box]
  | _ => []

/-- The boxes owned by unsubscribe tasks. -/
def cleanups (tasks : Table TaskId Task) : List Pointer :=
  Table.gather Task.owned tasks

/-- The boxes that an object or a task will free. -/
def State.owners (state : State) : List Pointer :=
  Wrappers.holders state.objects ++ cleanups state.tasks

/-- Owned boxes are live and have one owner. Boxes are numbered as they are made. -/
structure Owned (boxes : Table Pointer Kind) (created : Pointer) (owners : List Pointer) :
    Prop where
  nodup : owners.Nodup
  live : ∀ box ∈ owners, ∃ kind, boxes.lookup box = some kind
  created : ∀ box kind, boxes.lookup box = some kind → box < created

namespace Owned

variable {boxes : Table Pointer Kind} {created : Pointer} {owners other rest : List Pointer}
  {box : Pointer}

theorem perm (owned : Owned boxes created owners) (same : owners.Perm other) :
    Owned boxes created other where
  nodup := same.nodup_iff.mp owned.nodup
  live := fun box member => owned.live box (same.mem_iff.mpr member)
  created := owned.created

/-- A new box for a new owner. -/
theorem allocate (owned : Owned boxes created owners) (kind : Kind) :
    Owned (boxes.insert created kind) (created + 1) (created :: owners) where
  nodup := by
    refine List.nodup_cons.mpr ⟨fun member => ?_, owned.nodup⟩
    obtain ⟨kind, live⟩ := owned.live created member
    exact Nat.lt_irrefl created (owned.created created kind live)
  live := fun box member => by
    apply Table.exists_lookup_insert
    intro old
    exact owned.live box ((List.mem_cons.mp member).resolve_left old)
  created := Table.numbered_insert owned.created kind

/-- The owner frees its box. -/
theorem erase (owned : Owned boxes created (box :: rest)) :
    Owned (boxes.erase box) created rest where
  nodup := (List.nodup_cons.mp owned.nodup).2
  live := fun other member => by
    have distinct : other ≠ box := by
      rintro rfl
      exact (List.nodup_cons.mp owned.nodup).1 member
    rw [AList.lookup_erase_ne distinct]
    exact owned.live other (List.mem_cons_of_mem _ member)
  created := Table.forall_erase owned.created

end Owned

/-- Every box that can be freed has one owner, and tasks are numbered as they are
spawned. -/
structure Sound (state : State) : Prop where
  owned : Owned state.boxes state.created state.owners
  spawned : ∀ id task, state.tasks.lookup id = some task → id < state.spawned

theorem Sound.unspawned (sound : Sound state) : state.tasks.lookup state.spawned = none := by
  cases found : state.tasks.lookup state.spawned with
  | none => rfl
  | some task => exact (Nat.lt_irrefl _ (sound.spawned _ task found)).elim

theorem cleanups_spawn (unspawned : state.tasks.lookup state.spawned = none)
    (operation : Operation) (box : Pointer) :
    cleanups (state.spawn operation box).tasks =
      Task.owned ⟨operation, box⟩ ++ cleanups state.tasks :=
  Table.gather_insert_of_lookup_none _ unspawned _

/-- Deleting what an object holds: a connection's box is freed, and a subscription's
box changes its owner. -/
theorem Owned.delete (kind : Kind) {raw : Option Pointer} {rest : List Pointer}
    (unspawned : state.tasks.lookup state.spawned = none)
    (owned : Owned state.boxes state.created (raw.toList ++ (rest ++ cleanups state.tasks))) :
    Owned (state.delete kind raw).boxes (state.delete kind raw).created
      (rest ++ cleanups (state.delete kind raw).tasks) := by
  cases raw with
  | none => cases kind <;> exact owned
  | some box =>
      cases kind with
      | connection => exact owned.erase
      | subscribtion =>
          have spawned := cleanups_spawn unspawned .unsubscribe box
          change Owned state.boxes state.created
            (rest ++ cleanups (state.spawn .unsubscribe box).tasks)
          rw [spawned]
          exact owned.perm (List.perm_append_comm_assoc [box] rest _)

theorem delete_objects (state : State) (kind : Kind) (raw : Option Pointer) :
    (state.delete kind raw).objects = state.objects := by
  cases raw with
  | none => cases kind <;> rfl
  | some box => cases kind <;> rfl

theorem delete_spawned {kind : Kind} {raw : Option Pointer}
    (spawned : ∀ id task, state.tasks.lookup id = some task → id < state.spawned) :
    ∀ id task, (state.delete kind raw).tasks.lookup id = some task →
      id < (state.delete kind raw).spawned := by
  cases raw with
  | none => cases kind <;> exact spawned
  | some box =>
      cases kind with
      | connection => exact spawned
      | subscribtion => exact Table.numbered_insert spawned _

/-- The box of one object apart from the other owned boxes. -/
theorem owners_perm {object : ObjectId} {wrapper : Wrapper Kind} {rest : List Pointer}
    (found : state.objects.lookup object = some wrapper)
    (others : ((Wrappers.raw state.objects object).toList ++ rest).Perm
      (Wrappers.holders state.objects)) :
    state.owners.Perm (wrapper.raw.toList ++ (rest ++ cleanups state.tasks)) := by
  rw [Wrappers.raw_of_lookup found] at others
  rw [← List.append_assoc]
  exact others.symm.append_right _

/-- The box that a finished task owned. -/
theorem cleanups_perm {id : TaskId} {task : Task} (found : state.tasks.lookup id = some task) :
    (cleanups state.tasks).Perm (task.owned ++ cleanups (state.tasks.erase id)) :=
  Table.gather_perm_of_lookup _ found

theorem Task.owned_of_unsubscribe {task : Task} (unsubscribe : task.operation = .unsubscribe) :
    task.owned = [task.box] := by
  simp only [Task.owned, unsubscribe]

theorem Task.owned_of_other {task : Task} (other : task.operation ≠ .unsubscribe) :
    task.owned = [] := by
  cases operation : task.operation with
  | unsubscribe => exact (other operation).elim
  | _ => simp only [Task.owned, operation]

theorem Owned.finish {id : TaskId} {task : Task} (found : state.tasks.lookup id = some task)
    (other : task.operation ≠ .unsubscribe) (sound : Sound state) :
    Owned state.boxes state.created
      (Wrappers.holders state.objects ++ cleanups (state.tasks.erase id)) := by
  have perm := cleanups_perm found
  rw [Task.owned_of_other other, List.nil_append] at perm
  exact sound.owned.perm (perm.append_left _)

/-- A new box goes to a new object, or to one whose old box is gone. -/
theorem Owned.allocated {kind : Kind} {object : ObjectId}
    (owned : Owned state.boxes state.created
      (Wrappers.holders (AList.erase object state.objects) ++ cleanups state.tasks)) :
    Owned (state.allocate kind object).boxes (state.allocate kind object).created
      (state.allocate kind object).owners := by
  have holders : Wrappers.holders (state.allocate kind object).objects =
      [state.created] ++ Wrappers.holders (AList.erase object state.objects) :=
    Wrappers.holders_insert state.objects object ⟨kind, some state.created⟩
  rw [State.owners, holders, List.append_assoc]
  exact owned.allocate kind

theorem Sound.allocate {object : ObjectId} (sound : Sound state)
    (fresh : state.objects.lookup object = none) (kind : Kind) :
    Sound (state.allocate kind object) := by
  refine ⟨Owned.allocated ?_, sound.spawned⟩
  rw [Table.erase_of_lookup_none fresh]
  exact sound.owned

/-- Objects are replaced by others that hold the same boxes. -/
theorem Sound.objects {objects : Wrappers Kind} (sound : Sound state)
    (same : (Wrappers.holders state.objects).Perm (Wrappers.holders objects)) :
    Sound { state with objects } :=
  ⟨sound.owned.perm (same.append_right _), sound.spawned⟩

theorem Sound.refer (sound : Sound state) (id : TaskId) (task : Task) :
    Sound (state.refer id task) := by
  rw [State.refer_eq]
  exact ⟨sound.owned, sound.spawned⟩

theorem Step.sound (step : Step state event next) (sound : Sound state) : Sound next := by
  cases step with
  | @defaultConstruct object kind fresh =>
      apply sound.objects
      rw [Wrappers.holders_insert_new fresh]
      exact .refl _
  | connected fresh | copyConstruct fresh => exact sound.allocate fresh .connection
  | @moveConstruct source object wrapper fresh found =>
      apply sound.objects
      exact (Wrappers.holders_move_new found fresh).symm
  | copyAssignSelf | moveAssignSelf => exact sound
  | @copyAssign target source raw found distinct =>
      have apart := owners_perm found (Wrappers.holders_perm state.objects target).symm
      have deleted := (sound.owned.perm apart).delete .connection sound.unspawned
      refine ⟨Owned.allocated ?_, delete_spawned sound.spawned⟩
      rw [delete_objects]
      exact deleted
  | @moveAssign target source kind raw wrapper found given distinct =>
      have apart := owners_perm found (Wrappers.holders_move given distinct.symm)
      exact ⟨(sound.owned.perm apart).delete kind sound.unspawned, delete_spawned sound.spawned⟩
  | @destroy object kind raw found =>
      have apart := owners_perm found (Wrappers.holders_perm state.objects object).symm
      exact ⟨(sound.owned.perm apart).delete kind sound.unspawned, delete_spawned sound.spawned⟩
  | @start object operation kind box found caller =>
      refine ⟨?_, Table.numbered_insert sound.spawned _⟩
      have borrows : Task.owned ⟨operation, box⟩ = [] := by
        apply Task.owned_of_other
        intro unsubscribe
        have same : operation = .unsubscribe := unsubscribe
        rw [same] at caller
        cases caller
      rw [State.owners, cleanups_spawn sound.unspawned, borrows]
      exact sound.owned
  | resume found => exact sound.refer _ _
  | @finish id task found other =>
      rw [State.refer_eq]
      exact ⟨.finish found other sound, Table.forall_erase sound.spawned⟩
  | @subscribed id object task found subscribe fresh =>
      have other : task.operation ≠ .unsubscribe := by
        rw [subscribe]
        exact Operation.noConfusion
      have finished : Sound { state with tasks := state.tasks.erase id } :=
        ⟨.finish found other sound, Table.forall_erase sound.spawned⟩
      rw [State.refer_eq]
      have allocated := finished.allocate fresh .subscribtion
      exact ⟨allocated.owned, allocated.spawned⟩
  | @unsubscribed id task found unsubscribe =>
      rw [State.refer_eq]
      refine ⟨?_, Table.forall_erase sound.spawned⟩
      have perm := cleanups_perm found
      rw [Task.owned_of_unsubscribe unsubscribe] at perm
      have apart := (perm.append_left (Wrappers.holders state.objects)).trans
        (List.perm_append_comm_assoc _ [task.box] _)
      exact (sound.owned.perm apart).erase

theorem sound_init : Sound State.init where
  owned :=
    { nodup := List.nodup_nil
      live := fun _ member => (List.not_mem_nil member).elim
      created := fun _ _ live => by cases live }
  spawned := fun _ _ found => by cases found

theorem sound_of_reachable (reached : system.Reachable state) : Sound state :=
  System.Reachable.induction (motive := Sound) sound_init
    (fun _ _ _ _ sound taken => (step_cases taken).sound sound) reached

end AsyncNats.Handles
