import AsyncNats.Handles.Owners

/-! # What the tasks borrow

A task refers to its box without owning it. Nothing keeps the owner from freeing
the box first, so the polls are safe in the runs that free a box only when no other
task refers to it, and in no others.
-/

namespace AsyncNats.Handles

open Sync Ownership Transition

/-- The box that deleting an object's pointer frees at once. -/
def frees : Kind → Option Pointer → Option Pointer
  | .connection, raw => raw
  | .subscribtion, _ => none

/-- The box that a deletion of what the object holds frees at once. -/
def State.deletes (state : State) (object : ObjectId) : Option Pointer :=
  (state.objects.lookup object).bind fun wrapper => frees wrapper.kind wrapper.raw

/-- The box that a step frees. -/
def State.freed (state : State) : Event → Option Pointer
  | .copyAssign target source | .moveAssign target source =>
      if target = source then none else state.deletes target
  | .destroy object => state.deletes object
  | .finish id _ => (state.tasks.lookup id).bind fun task => task.owned.head?
  | _ => none

/-- The task that a step ends. -/
def Event.finishes : Event → Option TaskId
  | .finish id _ => some id
  | _ => none

/-- A step frees a box only when no other task refers to it. -/
def FreesUnused (state : State) (event : Event) : Prop :=
  ∀ box ∈ state.freed event, ∀ entry ∈ state.tasks.entries, entry.2.box = box →
    event.finishes = some entry.1

instance (state : State) (event : Event) : Decidable (FreesUnused state event) :=
  inferInstanceAs (Decidable (∀ box ∈ state.freed event, ∀ entry ∈ state.tasks.entries,
    entry.2.box = box → event.finishes = some entry.1))

variable {state next : State} {event : Event}

theorem FreesUnused.finishes (unused : FreesUnused state event) {id : TaskId} {task : Task}
    (found : state.tasks.lookup id = some task) (freed : state.freed event = some task.box) :
    event.finishes = some id :=
  unused task.box freed ⟨id, task⟩ (AList.mem_lookup_iff.mp found) rfl

/-- All tasks refer to live boxes. -/
def Borrows (state : State) : Prop :=
  ∀ id task, state.tasks.lookup id = some task → ∃ kind, state.boxes.lookup task.box = some kind

theorem delete_boxes (kind : Kind) (raw : Option Pointer) (box : Pointer) :
    (state.delete kind raw).boxes.lookup box =
      if frees kind raw = some box then none else state.boxes.lookup box := by
  cases raw with
  | none => cases kind <;> rfl
  | some other =>
      cases kind with
      | subscribtion => rfl
      | connection =>
          change (state.boxes.erase other).lookup box = _
          by_cases same : box = other
          · subst same
            exact (AList.lookup_erase box _).trans (if_pos rfl).symm
          · rw [AList.lookup_erase_ne same]
            exact (if_neg fun freed => same (Option.some.inj freed).symm).symm

theorem delete_created (kind : Kind) (raw : Option Pointer) :
    (state.delete kind raw).created = state.created := by
  cases raw with
  | none => cases kind <;> rfl
  | some box => cases kind <;> rfl

/-- Deleting adds at most the task that owns the box. -/
theorem task_of_delete {kind : Kind} {raw : Option Pointer} {id : TaskId} {task : Task}
    (found : (state.delete kind raw).tasks.lookup id = some task) :
    state.tasks.lookup id = some task ∨ raw = some task.box ∧ frees kind raw = none := by
  cases raw with
  | none => cases kind <;> exact .inl found
  | some box =>
      cases kind with
      | connection => exact .inl found
      | subscribtion =>
          rcases Table.lookup_of_insert found with ⟨_, rfl⟩ | ⟨_, old⟩
          · exact .inr ⟨rfl, rfl⟩
          · exact .inl old

theorem task_delete {kind : Kind} {raw : Option Pointer} {id : TaskId} {task : Task}
    (spawned : id < state.spawned) (found : state.tasks.lookup id = some task) :
    (state.delete kind raw).tasks.lookup id = some task := by
  cases raw with
  | none => cases kind <;> exact found
  | some box =>
      cases kind with
      | connection => exact found
      | subscribtion =>
          exact (AList.lookup_insert_ne (Nat.ne_of_lt spawned)).trans found

/-- What an object holds is owned. -/
theorem mem_owners {object : ObjectId} {kind : Kind} {raw : Option Pointer} {box : Pointer}
    (found : state.objects.lookup object = some ⟨kind, raw⟩) (held : raw = some box) :
    box ∈ state.owners :=
  List.mem_append_left _
    ((Table.mem_gather _).mpr ⟨object, _, found, Option.mem_toList.mpr held⟩)

/-- A task after a step was there before and the step has not ended it, or it is new
and refers to an owned box that the step does not free. -/
theorem Step.task (step : Step state event next) {id : TaskId} {task : Task}
    (found : next.tasks.lookup id = some task) :
    state.tasks.lookup id = some task ∧ event.finishes ≠ some id ∨
      task.box ∈ state.owners ∧ state.freed event = none := by
  have kept : ∀ other : TaskId, (state.tasks.erase other).lookup id = some task →
      state.tasks.lookup id = some task ∧ some other ≠ some id := by
    intro other found
    obtain ⟨distinct, old⟩ := Table.lookup_of_erase found
    exact ⟨old, fun same => distinct (Option.some.inj same).symm⟩
  have deleted : ∀ (object : ObjectId) (kind : Kind) (raw : Option Pointer),
      state.objects.lookup object = some ⟨kind, raw⟩ →
        (state.delete kind raw).tasks.lookup id = some task →
          state.tasks.lookup id = some task ∨
            task.box ∈ state.owners ∧ state.deletes object = none := by
    intro object kind raw held found
    refine (task_of_delete found).imp_right fun ⟨box, unfreed⟩ => ⟨mem_owners held box, ?_⟩
    rw [State.deletes, held, Option.bind_some]
    exact unfreed
  cases step with
  | @copyAssign target source raw held distinct =>
      rcases deleted target .connection raw held found with old | ⟨owned, unfreed⟩
      · exact .inl ⟨old, (Option.some_ne_none id).symm⟩
      · exact .inr ⟨owned, by rw [State.freed, if_neg distinct, unfreed]⟩
  | @moveAssign target source kind raw wrapper held given distinct =>
      rcases deleted target kind raw held found with old | ⟨owned, unfreed⟩
      · exact .inl ⟨old, (Option.some_ne_none id).symm⟩
      · exact .inr ⟨owned, by rw [State.freed, if_neg distinct, unfreed]⟩
  | @destroy object kind raw held =>
      rcases deleted object kind raw held found with old | ⟨owned, unfreed⟩
      · exact .inl ⟨old, (Option.some_ne_none id).symm⟩
      · exact .inr ⟨owned, unfreed⟩
  | @start object operation kind box held caller =>
      rcases Table.lookup_of_insert found with ⟨_, rfl⟩ | ⟨_, old⟩
      · exact .inr ⟨mem_owners held rfl, rfl⟩
      · exact .inl ⟨old, (Option.some_ne_none id).symm⟩
  | resume =>
      rw [State.refer_eq] at found
      exact .inl ⟨found, (Option.some_ne_none id).symm⟩
  | finish | subscribed | unsubscribed => exact .inl (kept _ found)
  | _ => exact .inl ⟨found, (Option.some_ne_none id).symm⟩

/-- A box that a step does not free stays live. -/
theorem Step.live (step : Step state event next) {box : Pointer}
    (live : ∃ kind, state.boxes.lookup box = some kind) (kept : state.freed event ≠ some box) :
    ∃ kind, next.boxes.lookup box = some kind := by
  have deleted : ∀ (object : ObjectId) (kind : Kind) (raw : Option Pointer),
      state.objects.lookup object = some ⟨kind, raw⟩ → state.deletes object ≠ some box →
        ∃ any, (state.delete kind raw).boxes.lookup box = some any := by
    intro object kind raw held unfreed
    rw [State.deletes, held, Option.bind_some] at unfreed
    rw [delete_boxes, if_neg unfreed]
    exact live
  cases step with
  | connected | copyConstruct => exact Table.exists_lookup_insert (fun _ => live) _
  | @copyAssign target source raw held distinct =>
      rw [State.freed, if_neg distinct] at kept
      apply Table.exists_lookup_insert
      exact fun _ => deleted target .connection raw held kept
  | @moveAssign target source kind raw wrapper held given distinct =>
      rw [State.freed, if_neg distinct] at kept
      exact deleted target kind raw held kept
  | @destroy object kind raw held => exact deleted object kind raw held kept
  | resume | finish =>
      rw [State.refer_eq]
      exact live
  | subscribed =>
      rw [State.refer_eq]
      exact Table.exists_lookup_insert (fun _ => live) _
  | @unsubscribed id task found unsubscribe =>
      have distinct : box ≠ task.box := by
        rintro rfl
        apply kept
        rw [State.freed, found, Option.bind_some, Task.owned_of_unsubscribe unsubscribe,
          List.head?_cons]
      obtain ⟨kind, live⟩ := live
      exact ⟨kind, (AList.lookup_erase_ne distinct).trans live⟩
  | _ => exact live

theorem Step.borrows (step : Step state event next) (sound : Sound state)
    (unused : FreesUnused state event) (borrows : Borrows state) : Borrows next := by
  intro id task found
  rcases step.task found with ⟨old, unfinished⟩ | ⟨owned, unfreed⟩
  · exact step.live (borrows id task old) fun freed => unfinished (unused.finishes old freed)
  · refine step.live (sound.owned.live task.box owned) fun freed => ?_
    rw [unfreed] at freed
    cases freed

theorem refer_of_live {id : TaskId} {task : Task}
    (live : ∃ kind, state.boxes.lookup task.box = some kind) : state.refer id task = state := by
  obtain ⟨kind, live⟩ := live
  simp only [State.refer, live]

/-- A task whose box is live can be polled. -/
theorem Step.dangling (step : Step state event next) (borrows : Borrows state) :
    next.dangling = state.dangling := by
  have deleted : ∀ (kind : Kind) (raw : Option Pointer),
      (state.delete kind raw).dangling = state.dangling := by
    intro kind raw
    cases raw with
    | none => cases kind <;> rfl
    | some box => cases kind <;> rfl
  cases step with
  | copyAssign | moveAssign | destroy => exact deleted _ _
  | subscribed found =>
      rw [refer_of_live (borrows _ _ found)]
      rfl
  | resume found | finish found | unsubscribed found =>
      rw [refer_of_live (borrows _ _ found)]
  | _ => rfl

/-- A freed box is gone. -/
theorem Step.gone (step : Step state event next) (sound : Sound state) {box : Pointer}
    (freed : state.freed event = some box) : next.boxes.lookup box = none := by
  have deleted : ∀ (object : ObjectId) (kind : Kind) (raw : Option Pointer),
      state.objects.lookup object = some ⟨kind, raw⟩ → state.deletes object = some box →
        (state.delete kind raw).boxes.lookup box = none ∧ box ≠ state.created := by
    intro object kind raw held freed
    rw [State.deletes, held, Option.bind_some] at freed
    have holds : raw = some box := by
      cases kind with
      | connection => exact freed
      | subscribtion => cases freed
    obtain ⟨other, live⟩ := sound.owned.live box (mem_owners held holds)
    rw [delete_boxes, if_pos freed]
    exact ⟨rfl, Nat.ne_of_lt (sound.owned.created box other live)⟩
  cases step with
  | @copyAssign target source raw held distinct =>
      rw [State.freed, if_neg distinct] at freed
      obtain ⟨gone, old⟩ := deleted target .connection raw held freed
      refine (AList.lookup_insert_ne ?_).trans gone
      rw [delete_created]
      exact old
  | @moveAssign target source kind raw wrapper held given distinct =>
      rw [State.freed, if_neg distinct] at freed
      exact (deleted target kind raw held freed).1
  | @destroy object kind raw held => exact (deleted object kind raw held freed).1
  | @finish id task found other =>
      rw [State.freed, found, Option.bind_some, Task.owned_of_other other] at freed
      cases freed
  | @subscribed id object task found subscribe fresh =>
      rw [State.freed, found, Option.bind_some, Task.owned_of_other] at freed
      · cases freed
      · rw [subscribe]
        exact Operation.noConfusion
  | @unsubscribed id task found unsubscribe =>
      rw [State.freed, found, Option.bind_some, Task.owned_of_unsubscribe unsubscribe,
        List.head?_cons] at freed
      cases freed
      exact AList.lookup_erase task.box state.boxes
  | copyAssignSelf | moveAssignSelf =>
      rw [State.freed, if_pos rfl] at freed
      cases freed
  | _ => cases freed

/-- A task that a step does not end is still there. -/
theorem Step.keeps (step : Step state event next) (sound : Sound state) {id : TaskId}
    {task : Task} (found : state.tasks.lookup id = some task)
    (unfinished : event.finishes ≠ some id) : next.tasks.lookup id = some task := by
  have spawned := sound.spawned id task found
  have erased : ∀ other : TaskId, some other ≠ some id →
      (state.tasks.erase other).lookup id = some task := by
    intro other distinct
    rw [AList.lookup_erase_ne fun same => distinct (by rw [same])]
    exact found
  cases step with
  | copyAssign | moveAssign | destroy => exact task_delete spawned found
  | start => exact (AList.lookup_insert_ne (Nat.ne_of_lt spawned)).trans found
  | resume =>
      rw [State.refer_eq]
      exact found
  | finish | subscribed | unsubscribed => exact erased _ unfinished
  | _ => exact found

/-- No poll refers to a freed box in a run that frees a box only when no other task
refers to it; and after a step that frees a box in use some task's next poll does. -/
theorem no_dangling_of_freesUnused (state : State) :
    (system.ReachableUnder FreesUnused state → state.dangling = []) ∧
    (∀ event next, system.Reachable state → step state event = some next →
      ¬ FreesUnused state event →
        ∃ id last, system.runFrom next [.resume id] = some last ∧ last.dangling ≠ []) := by
  constructor
  · intro reached
    refine (System.ReachableUnder.induction
      (motive := fun state => Borrows state ∧ state.dangling = []) ⟨?_, rfl⟩ ?_ reached).2
    · intro id task found
      cases found
    · intro before event after reached unused ⟨borrows, none_yet⟩ taken
      have step := step_cases taken
      exact ⟨step.borrows (sound_of_reachable reached) unused borrows,
        (step.dangling borrows).trans none_yet⟩
  · intro event next reached taken used
    have sound := sound_of_reachable reached
    have step := step_cases taken
    unfold FreesUnused at used
    push Not at used
    obtain ⟨box, freed, ⟨id, task⟩, member, rfl, unfinished⟩ := used
    have found := step.keeps sound (AList.mem_lookup_iff.mpr member) unfinished
    have gone := step.gone sound freed
    have polled : next.resume id =
        some { next with dangling := next.dangling ++ [(id, task.box)] } := by
      rw [State.resume, found, Option.map_some, State.refer, gone]
    refine ⟨id, _, (system.runFrom_singleton next (.resume id)).trans polled, ?_⟩
    exact List.append_ne_nil_of_right_ne_nil _ (List.cons_ne_nil _ _)

/-- The application waits for each callback before it destroys a handle. -/
theorem no_dangling_of_freesUnused_of_waiting :
    ∃ state,
      system.run
        [.connected 0, .start 0 .publish, .resume 0, .finish 0 none, .start 0 .subscribe,
          .finish 1 (some 1), .destroy 0, .start 1 .receive, .resume 2, .finish 2 none,
          .destroy 1, .resume 3, .finish 3 none] = some state ∧
      (state.created = 2 ∧ state.boxes.entries = []) ∧ state.dangling = [] := by
  have evaluated :
      (system.run
        [.connected 0, .start 0 .publish, .resume 0, .finish 0 none, .start 0 .subscribe,
          .finish 1 (some 1), .destroy 0, .start 1 .receive, .resume 2, .finish 2 none,
          .destroy 1, .resume 3, .finish 3 none]).map
            (fun state => (state.created, state.boxes.entries)) = some (2, []) := by decide
  obtain ⟨state, run, values⟩ := Option.map_eq_some_iff.mp evaluated
  simp only [Prod.mk.injEq] at values
  exact ⟨state, run, values, (no_dangling_of_freesUnused state).1 ⟨_, by decide, run⟩⟩

/-- A publish has been started, and the connection is destroyed before its task is
polled. -/
theorem dangling_after_destroy : ¬ ∀ state, system.Reachable state → state.dangling = [] := by
  have evaluated :
      (system.run [.connected 0, .start 0 .publish, .destroy 0, .resume 0]).map State.dangling =
        some [(0, 0)] := by decide
  obtain ⟨state, run, dangling⟩ := Option.map_eq_some_iff.mp evaluated
  intro always
  have none_dangles := always state ⟨_, run⟩
  rw [dangling] at none_dangles
  cases none_dangles

end AsyncNats.Handles
