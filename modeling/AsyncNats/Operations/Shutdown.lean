import AsyncNats.Operations.Waiting

/-! # Deleting the runtime

`async_nats_tokio_runtime_delete` drops every task where it waits. A task that is between two
waits goes on until it would wait again, and one that is spawned later through the handle of a
connection is dropped at once. The callbacks of dropped tasks are never invoked, and the other
operations complete as they do without the deletion.
-/

namespace AsyncNats.Operations.Shutdown

open Sync Coroutine Transition

variable {Value Error : Type}

/-- The operations with their tasks, whether the runtime has been deleted, and the tasks that
were dropped. -/
structure State (Value Error : Type) where
  operations : Operations.State Value Error
  deleted : Bool
  dropped : List TaskId

inductive Event (Value Error : Type) where
  | operation (event : Operations.Event Value Error)
  | runtimeDelete

namespace State

def init : State Value Error where
  operations := .init
  deleted := false
  dropped := []

/-- The operation is started through the runtime itself. -/
def needsRuntime : Operation → Bool
  | .connect _ => true
  | _ => false

/-- `spawn` on the runtime or on a handle to it. -/
def start (describe : Error → Bytes) (state : State Value Error) (operation : Operation)
    (context : Context) : Option (State Value Error) :=
  if state.deleted = true then
    if needsRuntime operation = true then none
    else some { state with
      operations := state.operations.start describe operation context
      dropped := state.operations.spawned :: state.dropped }
  else some { state with operations := state.operations.start describe operation context }

/-- The tasks that wait. -/
def waiting (state : State Value Error) : List TaskId :=
  (state.operations.rows.entries.filter fun entry => waits entry.2.task).map Sigma.fst

/-- `async_nats_tokio_runtime_delete`. -/
def runtimeDelete (state : State Value Error) : Option (State Value Error) :=
  if state.deleted = true then none
  else some { state with deleted := true, dropped := state.waiting }

end State

def step (describe : Error → Bytes) (state : State Value Error) :
    Event Value Error → Option (State Value Error)
  | .operation (.start operation context) => state.start describe operation context
  | .operation (.resolve id response) =>
    if id ∈ state.dropped then none
    else (state.operations.resolve id response).map fun operations => { state with operations }
  | .operation (.run id) =>
    if id ∈ state.dropped then none
    else (state.operations.run id).map fun operations => { state with operations }
  | .runtimeDelete => state.runtimeDelete

/-- All interleavings of the application, the client, the tasks and one deletion. -/
def system (Value : Type) (describe : Error → Bytes) :
    System (State Value Error) (Event Value Error) where
  init := State.init
  step := step describe

variable {describe : Error → Bytes} {state next : State Value Error} {id : TaskId}

/-- A step of the operations is one without the deletion, and drops nothing but a new task. -/
theorem operation_of_step {event : Operations.Event Value Error}
    (taken : step describe state (.operation event) = some next) :
    Operations.step describe state.operations event = some next.operations ∧
      (next.dropped = state.dropped ∨
        next.dropped = state.operations.spawned :: state.dropped) := by
  cases event with
  | start operation context =>
      simp only [step, State.start] at taken
      split at taken
      · obtain ⟨_, started⟩ := Option.ite_none_left_eq_some.mp taken
        cases started
        exact ⟨rfl, .inr rfl⟩
      · cases taken
        exact ⟨rfl, .inl rfl⟩
  | resolve id response =>
      obtain ⟨_, resolved⟩ := Option.ite_none_left_eq_some.mp taken
      obtain ⟨operations, stepped, rfl⟩ := Option.map_eq_some_iff.mp resolved
      exact ⟨stepped, .inl rfl⟩
  | run id =>
      obtain ⟨_, ran⟩ := Option.ite_none_left_eq_some.mp taken
      obtain ⟨operations, stepped, rfl⟩ := Option.map_eq_some_iff.mp ran
      exact ⟨stepped, .inl rfl⟩

theorem runtimeDelete_eq_some_iff : state.runtimeDelete = some next ↔
    state.deleted = false ∧
      { state with deleted := true, dropped := state.waiting } = next := by
  rw [State.runtimeDelete, Option.ite_none_left_eq_some, Bool.not_eq_true, Option.some_inj]

/-- Without the deletion the run is one of the operations. -/
theorem operations_reachable (reached : (system Value describe).Reachable state) :
    (Operations.system Value describe).Reachable state.operations := by
  refine System.Reachable.induction (motive := fun state =>
    (Operations.system Value describe).Reachable state.operations) .init ?_ reached
  intro state event next _ before taken
  cases event with
  | operation event => exact before.step (operation_of_step taken).1
  | runtimeDelete =>
      obtain ⟨_, rfl⟩ := runtimeDelete_eq_some_iff.mp taken
      exact before

/-- The dropped tasks wait, and after the deletion no other task does. -/
structure Sound (state : State Value Error) : Prop where
  first : ∀ id row, state.operations.rows.lookup id = some row → row.task.body.WaitsFirst
  dropped : ∀ id ∈ state.dropped, ∃ row, state.operations.rows.lookup id = some row ∧
    waits row.task = true
  left : state.deleted = true → ∀ id row, state.operations.rows.lookup id = some row →
    id ∉ state.dropped → waits row.task = false

theorem mem_waiting : id ∈ state.waiting ↔
    ∃ row, state.operations.rows.lookup id = some row ∧ waits row.task = true := by
  simp only [State.waiting, List.mem_map, List.mem_filter]
  constructor
  · rintro ⟨⟨id, row⟩, ⟨member, waiting⟩, rfl⟩
    exact ⟨row, AList.mem_lookup_iff.mpr member, waiting⟩
  · rintro ⟨row, found, waiting⟩
    exact ⟨⟨id, row⟩, ⟨AList.mem_lookup_iff.mp found, waiting⟩, rfl⟩

namespace Sound

theorem init : Sound (State.init : State Value Error) where
  first := fun _ _ found => by cases found
  dropped := fun _ member => by cases member
  left := fun deleted => by cases deleted

/-- A task that was not dropped takes a step after which it does not wait. -/
theorem advance (sound : Sound state) {operations : Operations.State Value Error}
    {after : Row Value Error} (undropped : id ∉ state.dropped)
    (rows : operations.rows = state.operations.rows.insert id after)
    (straight : after.task.body.Straight) : Sound { state with operations } := by
  refine ⟨?_, fun other member => ?_, fun deleted => ?_⟩
  · simp only [rows]
    exact Table.forall_insert sound.first straight.waitsFirst
  · obtain ⟨old, found, waiting⟩ := sound.dropped other member
    simp only [rows]
    refine ⟨old, (AList.lookup_insert_ne ?_).trans found, waiting⟩
    rintro rfl
    exact undropped member
  · simp only [rows]
    refine Table.forall_insert (sound.left deleted) fun _ => not_waits_of_straight straight

/-- A new task waits, and is dropped if the runtime is gone. -/
theorem start (sound : Sound state) (numbered : ∀ id row,
      state.operations.rows.lookup id = some row → id < state.operations.spawned)
    {operation : Operation} {context : Context}
    (started : state.start describe operation context = some next) : Sound next := by
  have first : ∀ id row, (state.operations.start describe operation context).rows.lookup id =
      some row → row.task.body.WaitsFirst :=
    Table.forall_insert sound.first (task_waitsFirst operation context)
  have dropped : ∀ id ∈ state.dropped, ∃ row,
      (state.operations.start describe operation context).rows.lookup id = some row ∧
        waits row.task = true := by
    intro id member
    obtain ⟨row, found, waiting⟩ := sound.dropped id member
    exact ⟨row, (AList.lookup_insert_ne (Nat.ne_of_lt (numbered id row found))).trans found,
      waiting⟩
  unfold State.start at started
  by_cases deleted : state.deleted = true
  · rw [if_pos deleted] at started
    obtain ⟨_, made⟩ := Option.ite_none_left_eq_some.mp started
    cases made
    refine ⟨first, List.forall_mem_cons.mpr ⟨?_, dropped⟩, fun _ => ?_⟩
    · exact ⟨_, AList.lookup_insert _, waits_spawn operation context⟩
    · refine Table.forall_insert (fun id row found undropped => ?_) fun undropped => ?_
      · exact sound.left deleted id row found fun member =>
          undropped (List.mem_cons_of_mem _ member)
      · exact (undropped List.mem_cons_self).elim
  · rw [if_neg deleted] at started
    cases started
    exact ⟨first, dropped, fun gone => (deleted gone).elim⟩

theorem keep (sound : Sound state) (numbered : ∀ id row,
      state.operations.rows.lookup id = some row → id < state.operations.spawned)
    {event : Event Value Error} (taken : step describe state event = some next) : Sound next := by
  cases event with
  | runtimeDelete =>
      obtain ⟨_, rfl⟩ := runtimeDelete_eq_some_iff.mp taken
      refine ⟨sound.first, fun id => mem_waiting.mp, fun _ id row found undropped => ?_⟩
      exact Bool.eq_false_iff.mpr fun waiting => undropped (mem_waiting.mpr ⟨row, found, waiting⟩)
  | operation event =>
      cases event with
      | start operation context => exact sound.start numbered taken
      | resolve id response =>
          obtain ⟨undropped, called⟩ := Option.ite_none_left_eq_some.mp taken
          obtain ⟨operations, stepped, rfl⟩ := Option.map_eq_some_iff.mp called
          obtain ⟨row, found, task, resolved, rfl⟩ := resolve_eq_some_iff.mp stepped
          exact sound.advance undropped rfl
            (Routine.straight_of_resolve (sound.first id row found) resolved)
      | run id =>
          obtain ⟨undropped, called⟩ := Option.ite_none_left_eq_some.mp taken
          obtain ⟨operations, stepped, rfl⟩ := Option.map_eq_some_iff.mp called
          obtain ⟨row, found, task, heap, reports, ran, rfl⟩ := run_eq_some_iff.mp stepped
          exact sound.advance undropped rfl
            (Routine.straight_of_run (sound.first id row found) ran).2

end Sound

theorem sound_of_reachable (noNul : ∀ error, 0 ∉ describe error)
    (reached : (system Value describe).Reachable state) : Sound state := by
  refine System.Reachable.induction (motive := Sound) .init ?_ reached
  intro state event next reached sound taken
  exact sound.keep (kept_of_reachable noNul (operations_reachable reached)).spawned taken

/-- A dropped task stays dropped. -/
theorem dropped_subset (noNul : ∀ error, 0 ∉ describe error) {last : State Value Error}
    {labels : List (Event Value Error)} (reached : (system Value describe).Reachable state)
    (run : (system Value describe).runFrom state labels = some last) :
    state.dropped ⊆ last.dropped := by
  refine System.runFrom_relation (motive := fun before after => before.dropped ⊆ after.dropped)
    (fun _ => List.Subset.refl _) (fun _ _ _ => List.Subset.trans) ?_ reached run
  intro state event next reached taken
  cases event with
  | operation event =>
      obtain ⟨_, same | more⟩ := operation_of_step taken
      · rw [same]
        exact List.Subset.refl _
      · rw [more]
        exact List.subset_cons_self ..
  | runtimeDelete =>
      obtain ⟨_, rfl⟩ := runtimeDelete_eq_some_iff.mp taken
      exact fun id member => mem_waiting.mpr ((sound_of_reachable noNul reached).dropped id member)

/-- From here the task invokes its callback, once, without another step of anybody else. -/
def Reports (describe : Error → Bytes) (id : TaskId) (state : State Value Error) : Prop :=
  ∃ events last invocation, (∀ event ∈ events, event = Event.operation (.run id)) ∧
    (system Value describe).runFrom state events = some last ∧
    last.operations.callsOf id = [invocation]

theorem Reports.step
    (taken : (system Value describe).step state (.operation (.run id)) = some next)
    (later : Reports describe id next) : Reports describe id state := by
  obtain ⟨events, last, invocation, own, run, called⟩ := later
  refine ⟨.operation (.run id) :: events, last, invocation, List.forall_mem_cons.mpr ⟨rfl, own⟩,
    ?_, called⟩
  exact (System.runFrom_cons_eq_some _).mpr ⟨next, taken, run⟩

theorem step_of_run (undropped : id ∉ state.dropped) {row : Row Value Error}
    (found : state.operations.rows.lookup id = some row)
    {task : Routine ClientCall (Except Error Value) (Content Value Error) Invocation}
    {heap : List (Content Value Error)} {reports : List Invocation}
    (ran : row.task.run state.operations.heap = some (task, heap, reports)) :
    (system Value describe).step state (.operation (.run id)) =
      some { state with operations :=
        { state.operations with
          heap
          rows := state.operations.rows.insert id { row with task }
          calls := state.operations.calls ++ reports.map (id, ·) } } := by
  refine (if_neg undropped).trans ?_
  rw [run_eq_some_iff.mpr ⟨row, found, task, heap, reports, ran, rfl⟩, Option.map_some]

/-- A task that reports once on every path and does not wait reports by itself. -/
theorem reports_of_body {operation : Operation} {context : Context} (body : TaskBody Value Error)
    (straight : body.Straight) {last : Option (Except Error Value)}
    {allocated : List (Nat × Content Value Error)}
    (once : body.ReportsOnce (Answers describe operation context) last allocated)
    (found : state.operations.rows.lookup id = some ⟨operation, context, ⟨body, last, .running⟩⟩)
    (undropped : id ∉ state.dropped) (silent : state.operations.callsOf id = []) :
    Reports describe id state := by
  induction body generalizing state allocated with
  | await call resume ih => exact straight.elim
  | alloc content resume ih =>
      refine Reports.step (step_of_run undropped found rfl)
        (ih state.operations.heap.length (straight _) (once _) ?_ undropped ?_)
      · exact AList.lookup_insert _
      · refine (callsOf_append state.operations id id []).trans ?_
        rw [if_pos rfl, List.append_nil, silent]
  | report value rest ih =>
      refine Reports.step (step_of_run undropped found rfl)
        ⟨[], _, value, fun _ member => (List.not_mem_nil member).elim, rfl, ?_⟩
      refine (callsOf_append state.operations id id [value]).trans ?_
      rw [if_pos rfl, silent, List.nil_append]
  | panic => exact once.elim
  | ret => exact once.elim

/-- What a deletion of the runtime does to the operations. -/
structure ShutsDown (describe : Error → Bytes) (state : State Value Error) : Prop where
  /-- No callback is invoked twice. -/
  once : ∀ id row, state.operations.rows.lookup id = some row →
    (state.operations.callsOf id).length ≤ 1
  /-- The callback of a dropped task is never invoked. -/
  silent : ∀ id ∈ state.dropped, ∀ labels last,
    (system Value describe).runFrom state labels = some last → last.operations.callsOf id = []
  /-- After the deletion, a task that was not dropped has invoked its callback, or does so
  without waiting for anything. -/
  finishes : state.deleted = true → ∀ id row, state.operations.rows.lookup id = some row →
    id ∉ state.dropped →
      (∃ invocation, state.operations.callsOf id = [invocation]) ∨ Reports describe id state

/-- Whenever the runtime is deleted, each operation that was started completes once or, if it
waited for the client or was started later, never. -/
theorem shuts_down (noNul : ∀ error, 0 ∉ describe error)
    (reached : (system Value describe).Reachable state) : ShutsDown describe state := by
  have kept := kept_of_reachable noNul (operations_reachable reached)
  have sound := sound_of_reachable noNul reached
  refine ⟨fun id row found => ?_, fun id member labels last run => ?_,
    fun deleted id row found undropped => ?_⟩
  · have keeps := kept.rows id row found
    generalize state.operations.callsOf id = calls at keeps ⊢
    cases keeps with
    | before => exact Nat.zero_le 1
    | after => exact Nat.le_refl 1
  · have later := reached.runFrom run
    obtain ⟨row, found, waiting⟩ := (sound_of_reachable noNul later).dropped id
      (dropped_subset noNul reached run member)
    exact callsOf_of_waits (kept_of_reachable noNul (operations_reachable later)) found waiting
  · have first := sound.first id row found
    have busy := sound.left deleted id row found undropped
    have keeps := kept.rows id row found
    cases invoked : state.operations.callsOf id with
    | cons invocation more =>
        rw [invoked] at keeps
        cases keeps with
        | after => exact .inl ⟨invocation, rfl⟩
    | nil =>
        rw [invoked] at keeps
        cases keeps with
        | before allocated running _ once =>
            have located : state.operations.rows.lookup id =
                some ⟨row.operation, row.context, ⟨row.task.body, row.task.last, .running⟩⟩ := by
              rw [found, ← running]
            refine .inr (reports_of_body row.task.body ?_ once located undropped invoked)
            exact straight_of_not_waits first busy

/-- The runtime is deleted while one operation waits and another has its response, and a third
is started afterwards. -/
theorem shuts_down_of_three :
    ∃ state : State Nat Unit,
      (system Nat fun _ => [0x65]).run
        [.operation (.start (.publish [0x61] [1]) 10),
          .operation (.start (.request ⟨[0x61], by decide⟩ [2]) 11),
          .operation (.resolve 1 (.ok 5)), .runtimeDelete, .operation (.run 1),
          .operation (.start (.publish [0x61] [3]) 12), .operation (.run 1)] = some state ∧
      state.dropped = [2, 0] ∧ state.operations.calls = [(1, .request (some 0) none 11)] ∧
      ShutsDown (fun _ => [0x65]) state := by
  have evaluated :
      ((system Nat fun _ : Unit => [0x65]).run
        [.operation (.start (.publish [0x61] [1]) 10),
          .operation (.start (.request ⟨[0x61], by decide⟩ [2]) 11),
          .operation (.resolve 1 (.ok 5)), .runtimeDelete, .operation (.run 1),
          .operation (.start (.publish [0x61] [3]) 12), .operation (.run 1)]).map
            (fun state => (state.dropped, state.operations.calls)) =
        some ([2, 0], [(1, .request (some 0) none 11)]) := by decide
  obtain ⟨state, run, same⟩ := Option.map_eq_some_iff.mp evaluated
  obtain ⟨dropped, calls⟩ := Prod.ext_iff.mp same
  exact ⟨state, run, dropped, calls, shuts_down (fun _ => by decide) ⟨_, run⟩⟩

end AsyncNats.Operations.Shutdown
