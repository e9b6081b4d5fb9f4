import AsyncNats.Coroutine.Straight
import AsyncNats.Operations.Completion

/-! # Tasks that wait for the client

Every task waits for the client at its start and then not again. A task that waits has not
invoked its callback, and one that does not wait goes on by itself.
-/

namespace AsyncNats.Operations

open Sync Coroutine Transition

variable {Value Error : Type} {describe : Error → Bytes} {id : TaskId}

/-- The task waits for the client. -/
def waits (task : Routine ClientCall (Except Error Value) (Content Value Error) Invocation) :
    Bool :=
  match task.body with
  | .await _ _ => true
  | _ => false

theorem resolve_eq_some_iff {operations after : State Value Error}
    {response : Except Error Value} : operations.resolve id response = some after ↔
      ∃ row, operations.rows.lookup id = some row ∧ ∃ task, row.task.resolve response = some task ∧
        { operations with rows := operations.rows.insert id { row with task } } = after := by
  unfold Operations.State.resolve
  cases found : operations.rows.lookup id with
  | none => exact iff_of_false (Option.some_ne_none after).symm fun ⟨_, same, _⟩ => by cases same
  | some row =>
      simp only [Option.map_eq_some_iff, Option.some.injEq, exists_eq_left']

theorem run_eq_some_iff {operations after : State Value Error} :
    operations.run id = some after ↔
      ∃ row, operations.rows.lookup id = some row ∧ ∃ task heap reports,
        row.task.run operations.heap = some (task, heap, reports) ∧
          { operations with
            heap
            rows := operations.rows.insert id { row with task }
            calls := operations.calls ++ reports.map (id, ·) } = after := by
  unfold Operations.State.run
  cases found : operations.rows.lookup id with
  | none => exact iff_of_false (Option.some_ne_none after).symm fun ⟨_, same, _⟩ => by cases same
  | some row =>
      simp only [Option.map_eq_some_iff, Option.some.injEq, exists_eq_left', Prod.exists]

theorem answer_waitsFirst (call : ClientCall)
    (boxed : Except Error Value → Option (Content Value Error))
    (callback : Option Pointer → Option Pointer → Invocation) :
    (answer call boxed callback).WaitsFirst := by
  intro response
  beta_reduce
  cases boxed response with
  | none => trivial
  | some content =>
      intro pointer
      cases response <;> trivial

/-- Every task waits for the client first and then not again. -/
theorem task_waitsFirst (operation : Operation) (context : Context) :
    (operation.task describe context : TaskBody Value Error).WaitsFirst := by
  cases operation with
  | publish | publishWithReply => exact fun _ => trivial
  | connect cfg =>
      exact answer_waitsFirst (.connect cfg.addrs cfg.name) boxConnect (.connect · · context)
  | subscribe topic =>
      exact answer_waitsFirst (.subscribe (lossyConvert topic)) (boxSubscribe describe)
        (.subscribe · · context)
  | request topic message =>
      exact answer_waitsFirst (.request (lossyConvert topic) message) boxRequest
        (.request · · context)
  | sendRequest topic request =>
      exact answer_waitsFirst (.sendRequest (lossyConvert topic) request.build) boxRequest
        (.request · · context)

theorem waits_spawn (operation : Operation) (context : Context) :
    waits (Routine.spawn (operation.task describe context : TaskBody Value Error)) = true := by
  cases operation <;> rfl

theorem not_waits_of_straight
    {task : Routine ClientCall (Except Error Value) (Content Value Error) Invocation}
    (straight : task.body.Straight) : waits task = false := by
  unfold waits
  split
  · next body =>
      rw [body] at straight
      exact straight.elim
  · rfl

theorem straight_of_not_waits
    {task : Routine ClientCall (Except Error Value) (Content Value Error) Invocation}
    (first : task.body.WaitsFirst) (busy : waits task = false) : task.body.Straight := by
  unfold waits at busy
  cases body : task.body with
  | await =>
      rw [body] at busy
      cases busy
  | alloc | report | panic | ret =>
      rw [body] at first
      exact first

theorem waits_of_resolve
    {task next : Routine ClientCall (Except Error Value) (Content Value Error) Invocation}
    {response : Except Error Value} (resolved : task.resolve response = some next) :
    waits task = true := by
  unfold Routine.resolve at resolved
  unfold waits
  split at resolved
  · next body => rw [body]
  · cases resolved

/-- A task that waits has not invoked its callback. -/
theorem callsOf_of_waits {operations : State Value Error} {row : Row Value Error}
    (kept : Kept describe operations) (found : operations.rows.lookup id = some row)
    (waiting : waits row.task = true) : operations.callsOf id = [] := by
  have keeps := kept.rows id row found
  generalize operations.callsOf id = calls at keeps
  cases keeps with
  | before => rfl
  | after _ _ _ isOver =>
      rw [waits, isOver] at waiting
      cases waiting

end AsyncNats.Operations
