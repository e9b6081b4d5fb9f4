import AsyncNats.Operations.Basic

/-! # Every operation completes once

Each of the six tasks reports once on every path, and its report fits what the
client gave it. The tasks share the heap and nothing else, so this stays true in
every interleaving.
-/

namespace AsyncNats.Operations

open Sync Coroutine Transition

variable {Value Error : Type} {describe : Error → Bytes}

/-- The operation has a result. A publish has none. -/
def Operation.returns : Operation → Bool
  | .publish .. | .publishWithReply .. => false
  | .connect .. | .subscribe .. | .request .. | .sendRequest .. => true

/-- What the operation boxes of the client's response. -/
def Operation.boxed (describe : Error → Bytes) :
    Operation → Except Error Value → Option (Content Value Error)
  | .connect .. => boxConnect
  | .publish .. | .publishWithReply .. => fun _ => none
  | .subscribe .. => boxSubscribe describe
  | .request .. | .sendRequest .. => boxRequest

/-- The box for a response contains what the client gave: its value or its error, and for a
subscribe that failed the text of the error. -/
inductive Carries (describe : Error → Bytes) :
    Operation → Except Error Value → Content Value Error → Prop
  | connected (cfg : ConnectionParams) (conn : Value) :
      Carries describe (.connect cfg) (.ok conn) (.connection conn)
  | connectFailed (cfg : ConnectionParams) (err : Error) :
      Carries describe (.connect cfg) (.error err) (.connectError err)
  | subscribed (topic : CString) (sub : Value) :
      Carries describe (.subscribe topic) (.ok sub) (.subscribtion sub)
  | subscribeFailed (topic : CString) (e : Error) (text : CString)
      (same : text.val = describe e) :
      Carries describe (.subscribe topic) (.error e) (.text text)
  | requested (topic : CString) (message : Bytes) (msg : Value) :
      Carries describe (.request topic message) (.ok msg) (.message msg)
  | requestFailed (topic : CString) (message : Bytes) (err : Error) :
      Carries describe (.request topic message) (.error err) (.requestError err)
  | requestSent (topic : CString) (request : Request) (msg : Value) :
      Carries describe (.sendRequest topic request) (.ok msg) (.message msg)
  | sendRequestFailed (topic : CString) (request : Request) (err : Error) :
      Carries describe (.sendRequest topic request) (.error err) (.requestError err)

/-- The operation's callback. -/
def Operation.callback : Operation → Context → Option Pointer → Option Pointer → Invocation
  | .connect .., d => (.connect · · d)
  | .publish .., d | .publishWithReply .., d => fun _ _ => .publish d
  | .subscribe .., d => (.subscribe · · d)
  | .request .., d | .sendRequest .., d => (.request · · d)

/-- The invocation that passes a box on, in the place that fits the response. -/
def passes (callback : Option Pointer → Option Pointer → Invocation) (pointer : Pointer) :
    Except Error Value → Invocation
  | .ok _ => callback (some pointer) none
  | .error _ => callback none (some pointer)

/-- The invocation fits the operation, the context it was started with and what the
client gave it. -/
def Answers (describe : Error → Bytes) (operation : Operation) (context : Context)
    (response : Except Error Value) (holds : Nat → Content Value Error → Prop)
    (invocation : Invocation) : Prop :=
  if operation.returns then
    ∃ pointer content, Carries describe operation response content ∧
      holds pointer content ∧ invocation = passes (operation.callback context) pointer response
  else invocation = .publish context

theorem answers_stable (operation : Operation) (context : Context) :
    Routine.Stable (Answers describe operation context :
      Except Error Value → (Nat → Content Value Error → Prop) → Invocation → Prop) := by
  intro response invocation weak strong implies answers
  unfold Answers at answers ⊢
  cases returns : operation.returns with
  | true =>
      simp only [returns, ↓reduceIte] at answers ⊢
      obtain ⟨pointer, content, carries, held, passed⟩ := answers
      exact ⟨pointer, content, carries, implies pointer content held, passed⟩
  | false =>
      simp only [returns, Bool.false_eq_true, ↓reduceIte] at answers ⊢
      exact answers

/-- A C string has the bytes that it was made of. -/
theorem val_of_cstringNew {text : Bytes} {string : CString}
    (made : cstringNew text = some string) : string.val = text := by
  obtain ⟨_, same⟩ := Option.dite_none_right_eq_some.mp made
  cases same
  rfl

/-- Each operation boxes its own result. -/
theorem carries_of_boxed {operation : Operation} {response : Except Error Value}
    {content : Content Value Error} (boxed : operation.boxed describe response = some content) :
    Carries describe operation response content := by
  cases operation with
  | connect cfg =>
      cases response <;> cases boxed
      · exact .connectFailed cfg _
      · exact .connected cfg _
  | publish | publishWithReply => cases boxed
  | subscribe topic =>
      cases response with
      | ok sub =>
          cases boxed
          exact .subscribed topic sub
      | error e =>
          obtain ⟨text, made, rfl⟩ := Option.map_eq_some_iff.mp boxed
          exact .subscribeFailed topic e text (val_of_cstringNew made)
  | request topic message =>
      cases response <;> cases boxed
      · exact .requestFailed topic message _
      · exact .requested topic message _
  | sendRequest topic request =>
      cases response <;> cases boxed
      · exact .sendRequestFailed topic request _
      · exact .requestSent topic request _

/-- A task with a result reports once, when boxing does not panic. -/
theorem answer_reportsOnce {call : ClientCall} {operation : Operation} {context : Context}
    (returns : operation.returns = true)
    (boxes : ∀ response : Except Error Value, operation.boxed describe response ≠ none) :
    (answer call (operation.boxed describe) (operation.callback context) :
      TaskBody Value Error).ReportsOnce (Answers describe operation context) none [] := by
  intro response
  beta_reduce
  cases boxed : operation.boxed describe response with
  | none => exact (boxes response boxed).elim
  | some content =>
      have fits : ∀ pointer, Answers describe operation context response
          (fun address held => (address, held) ∈ [(pointer, content)])
          (passes (operation.callback context) pointer response) := by
        intro pointer
        rw [Answers, if_pos returns]
        exact ⟨pointer, content, carries_of_boxed boxed, List.mem_singleton_self _, rfl⟩
      intro pointer
      cases response with
      | ok value => exact ⟨⟨_, rfl, fits pointer⟩, rfl⟩
      | error error => exact ⟨⟨_, rfl, fits pointer⟩, rfl⟩

theorem notify_reportsOnce {call : ClientCall} {operation : Operation} {context : Context}
    (returns : operation.returns = false) :
    (notify call (.publish context) : TaskBody Value Error).ReportsOnce
      (Answers describe operation context) none [] := by
  intro response
  refine ⟨⟨response, rfl, ?_⟩, rfl⟩
  rw [Answers, if_neg (by rw [returns]; exact Bool.false_ne_true)]

/-- Boxing fails only for the text of an error that has a NUL byte in it. -/
theorem boxed_ne_none (noNul : ∀ error, 0 ∉ describe error) {operation : Operation}
    (returns : operation.returns = true) (response : Except Error Value) :
    operation.boxed describe response ≠ none := by
  cases operation with
  | publish | publishWithReply => cases returns
  | connect | request | sendRequest => cases response <;> exact Option.some_ne_none _
  | subscribe =>
      cases response with
      | ok sub => exact Option.some_ne_none _
      | error error =>
          simp only [Operation.boxed, boxSubscribe, cstringNew, dif_pos (noNul error),
            Option.map_some, ne_eq, reduceCtorEq, not_false_eq_true]

/-- Each of the six tasks reports once, and with the answer to its operation. -/
theorem task_reportsOnce (noNul : ∀ error, 0 ∉ describe error) (operation : Operation)
    (context : Context) :
    (operation.task describe context : TaskBody Value Error).ReportsOnce
      (Answers describe operation context) none [] := by
  cases operation with
  | publish | publishWithReply => exact notify_reportsOnce rfl
  | connect | subscribe | request | sendRequest =>
      exact answer_reportsOnce rfl (boxed_ne_none noNul rfl)

/-- Every started operation keeps its promise, and nobody else has invoked a callback. -/
structure Kept (describe : Error → Bytes) (state : State Value Error) : Prop where
  rows : ∀ id row, state.rows.lookup id = some row →
    Routine.Keeps (Answers describe row.operation row.context) row.task state.heap
      (state.callsOf id)
  spawned : ∀ id row, state.rows.lookup id = some row → id < state.spawned
  started : ∀ call ∈ state.calls, ∃ row, state.rows.lookup call.1 = some row

variable {state next : State Value Error}

theorem callsOf_append (state : State Value Error) (id other : TaskId)
    (reports : List Invocation) :
    { state with calls := state.calls ++ reports.map (id, ·) }.callsOf other =
      state.callsOf other ++ if id = other then reports else [] := by
  unfold State.callsOf
  rw [List.filter_append, List.map_append]
  congr 1
  by_cases same : id = other
  · subst same
    rw [if_pos rfl, List.filter_eq_self.mpr, List.map_map]
    · exact List.map_id _
    · intro call member
      obtain ⟨_, _, rfl⟩ := List.mem_map.mp member
      exact decide_eq_true rfl
  · rw [if_neg same, List.filter_eq_nil_iff.mpr, List.map_nil]
    intro call member
    obtain ⟨_, _, rfl⟩ := List.mem_map.mp member
    simp only [same, decide_false, Bool.false_eq_true, not_false_eq_true]

/-- A task that was not started has invoked nothing. -/
theorem Kept.callsOf_spawned (kept : Kept describe state) : state.callsOf state.spawned = [] := by
  unfold State.callsOf
  rw [List.filter_eq_nil_iff.mpr, List.map_nil]
  intro call member same
  obtain ⟨row, found⟩ := kept.started call member
  have spawned := kept.spawned call.1 row found
  rw [of_decide_eq_true same] at spawned
  exact Nat.lt_irrefl _ spawned

/-- Replacing the row of a task keeps the others. -/
theorem started_insert {calls : List (TaskId × Invocation)} {id : TaskId}
    {row : Row Value Error} (added : ∀ call ∈ calls, call.1 = id ∨
      ∃ row, state.rows.lookup call.1 = some row) :
    ∀ call ∈ calls, ∃ any, (state.rows.insert id row).lookup call.1 = some any := by
  intro call member
  exact Table.exists_lookup_insert (added call member).resolve_left row

theorem Kept.start (kept : Kept describe state) (noNul : ∀ error, 0 ∉ describe error)
    (operation : Operation) (context : Context) :
    Kept describe (state.start describe operation context) where
  rows := Table.forall_insert kept.rows (by
    change Routine.Keeps _ _ _ (state.callsOf state.spawned)
    rw [kept.callsOf_spawned]
    exact Routine.keeps_spawn (task_reportsOnce noNul operation context) state.heap)
  spawned := Table.numbered_insert kept.spawned _
  started := started_insert fun call member => .inr (kept.started call member)

theorem Kept.resolve {id : TaskId} {response : Except Error Value} (kept : Kept describe state)
    (resolved : state.resolve id response = some next) : Kept describe next := by
  unfold State.resolve at resolved
  cases found : state.rows.lookup id with
  | none => simp only [found, reduceCtorEq] at resolved
  | some row =>
      simp only [found, Option.map_eq_some_iff] at resolved
      obtain ⟨task, resolved, rfl⟩ := resolved
      exact
        { rows := Table.forall_insert kept.rows ((kept.rows id row found).resolve resolved)
          spawned := Table.forall_insert kept.spawned (kept.spawned id row found)
          started := started_insert fun call member => .inr (kept.started call member) }

theorem Kept.run {id : TaskId} (kept : Kept describe state) (ran : state.run id = some next) :
    Kept describe next := by
  unfold State.run at ran
  cases found : state.rows.lookup id with
  | none => simp only [found, reduceCtorEq] at ran
  | some row =>
      simp only [found, Option.map_eq_some_iff] at ran
      obtain ⟨⟨task, heap, reports⟩, ran, rfl⟩ := ran
      obtain ⟨added, rfl⟩ := Routine.heap_of_run ran
      have own := (kept.rows id row found).run (answers_stable row.operation row.context) ran
      exact
        { rows := by
            intro other any located
            have calls := callsOf_append state id other reports
            rcases Table.lookup_of_insert located with ⟨rfl, rfl⟩ | ⟨distinct, old⟩
            · rw [if_pos rfl] at calls
              exact (congrArg _ calls).mpr own
            · rw [if_neg distinct.symm, List.append_nil] at calls
              have others := (kept.rows other any old).grow
                (answers_stable any.operation any.context) added
              exact (congrArg _ calls).mpr others
          spawned := Table.forall_insert kept.spawned (kept.spawned id row found)
          started := started_insert fun call member => by
            rcases List.mem_append.mp member with old | new
            · exact .inr (kept.started call old)
            · obtain ⟨_, _, rfl⟩ := List.mem_map.mp new
              exact .inl rfl }

theorem kept_init : Kept describe (State.init : State Value Error) where
  rows := fun _ _ found => by cases found
  spawned := fun _ _ found => by cases found
  started := fun _ member => (List.not_mem_nil member).elim

theorem kept_of_reachable (noNul : ∀ error, 0 ∉ describe error)
    (reached : (system Value describe).Reachable state) : Kept describe state := by
  refine System.Reachable.induction (motive := Kept describe) kept_init ?_ reached
  intro before event after _ kept taken
  cases event with
  | start operation context =>
      cases taken
      exact kept.start noNul operation context
  | resolve id response => exact kept.resolve taken
  | run id => exact kept.run taken

/-- The context pointer an invocation passes. -/
def Invocation.context : Invocation → Context
  | .connect _ _ d | .publish d | .subscribe _ _ d | .request _ _ d => d

/-- The value pointer an invocation passes. -/
def Invocation.value : Invocation → Option Pointer
  | .connect conn _ _ => conn
  | .publish _ => none
  | .subscribe sub _ _ => sub
  | .request msg _ _ => msg

/-- The error pointer an invocation passes. -/
def Invocation.error : Invocation → Option Pointer
  | .connect _ err _ => err
  | .publish _ => none
  | .subscribe _ err _ => err
  | .request _ err _ => err

/-- From this state the task can come to its end. -/
def CanEnd (describe : Error → Bytes) (id : TaskId) (state : State Value Error) : Prop :=
  ∃ events last row, (system Value describe).runFrom state events = some last ∧
    last.rows.lookup id = some row ∧ row.task.status = .ended

theorem CanEnd.step {id : TaskId} {event : Event Value Error}
    (taken : (system Value describe).step state event = some next)
    (later : CanEnd describe id next) : CanEnd describe id state := by
  obtain ⟨events, last, row, run, found, ended⟩ := later
  exact ⟨event :: events, last, row, System.runFrom_cons_eq_some _ |>.mpr ⟨next, taken, run⟩,
    found, ended⟩

end AsyncNats.Operations
