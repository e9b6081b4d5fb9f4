import Mathlib.Data.List.Basic

/-! # Asynchronous tasks

The body of a task is a resumption tree: it waits for the result of a call,
allocates an object, reports, or is over. `ReportsOnce` holds of a body that
reports once on every path, with a report that fits the last result and the
objects allocated so far, and has nothing to do after that. A task that was
spawned with such a body keeps its promise while other tasks share the heap.
-/

namespace Coroutine

universe u

/-- What is left to do in a task: calls are of type `Call` with results in `Result`,
allocated objects have contents in `Content`, and `Report` is what the task tells the
outside. -/
inductive Body (Call Result Content Report : Type u) where
  | await (call : Call) (resume : Result → Body Call Result Content Report)
  | alloc (content : Content) (resume : Nat → Body Call Result Content Report)
  | report (value : Report) (rest : Body Call Result Content Report)
  | panic
  | ret

inductive Status where
  | running
  | ended
  | panicked
  deriving DecidableEq, Repr

/-- A spawned task, with the result of its last call. -/
structure Routine (Call Result Content Report : Type u) where
  body : Body Call Result Content Report
  last : Option Result
  status : Status

variable {Call Result Content Report : Type u}

/-- Whatever the results and the addresses are, the body reports once and is over then.
`allocated` are the objects it has made, and `fits` relates a report to the result and
to what the addresses hold. -/
def Body.ReportsOnce (fits : Result → (Nat → Content → Prop) → Report → Prop) :
    Option Result → List (Nat × Content) → Body Call Result Content Report → Prop
  | _, allocated, .await _ resume =>
      ∀ result, (resume result).ReportsOnce fits (some result) allocated
  | last, allocated, .alloc content resume =>
      ∀ address, (resume address).ReportsOnce fits last ((address, content) :: allocated)
  | last, allocated, .report value rest =>
      (∃ result, last = some result ∧
        fits result (fun address content => (address, content) ∈ allocated) value) ∧
      rest = .ret
  | _, _, .panic => False
  | _, _, .ret => False

namespace Routine

def spawn (body : Body Call Result Content Report) : Routine Call Result Content Report where
  body := body
  last := none
  status := .running

/-- The call the task waits for is over. -/
def resolve (task : Routine Call Result Content Report) (result : Result) :
    Option (Routine Call Result Content Report) :=
  match task.body with
  | .await _ resume => some { task with body := resume result, last := some result }
  | _ => none

/-- The task does its next action, which may make an object at the end of the heap and
may report. It cannot go on while it waits for a call. -/
def run (task : Routine Call Result Content Report) (heap : List Content) :
    Option (Routine Call Result Content Report × List Content × List Report) :=
  match task.status, task.body with
  | .running, .alloc content resume =>
      some ({ task with body := resume heap.length }, heap ++ [content], [])
  | .running, .report value rest => some ({ task with body := rest }, heap, [value])
  | .running, .panic => some ({ task with status := .panicked }, heap, [])
  | .running, .ret => some ({ task with status := .ended }, heap, [])
  | _, _ => none

variable {fits : Result → (Nat → Content → Prop) → Report → Prop}
  {task next : Routine Call Result Content Report} {heap after : List Content}
  {reports more : List Report}

/-- The task has not reported and will do so once, or it has reported once, it is over,
and the report fits the result and the heap. -/
inductive Keeps (fits : Result → (Nat → Content → Prop) → Report → Prop)
    (task : Routine Call Result Content Report) (heap : List Content) :
    List Report → Prop where
  | before (allocated : List (Nat × Content)) (running : task.status = .running)
      (held : ∀ object ∈ allocated, heap[object.1]? = some object.2)
      (body : task.body.ReportsOnce fits task.last allocated) : Keeps fits task heap []
  | after (result : Result) (value : Report) (status : task.status ≠ .panicked)
      (body : task.body = .ret) (last : task.last = some result)
      (fit : fits result (fun address content => heap[address]? = some content) value) :
      Keeps fits task heap [value]

theorem keeps_spawn {body : Body Call Result Content Report}
    (once : body.ReportsOnce fits none []) (heap : List Content) :
    Keeps fits (spawn body) heap [] :=
  .before [] rfl (fun _ member => (List.not_mem_nil member).elim) once

theorem Keeps.resolve {result : Result} (keeps : Keeps fits task heap reports)
    (resolved : task.resolve result = some next) : Keeps fits next heap reports := by
  unfold Routine.resolve at resolved
  cases body : task.body with
  | await call resume =>
      simp only [body, Option.some.injEq] at resolved
      subst resolved
      cases keeps with
      | before allocated running held once =>
          rw [body] at once
          exact .before allocated running held (once result)
      | after _ value status ret =>
          rw [body] at ret
          cases ret
  | _ => simp only [body, reduceCtorEq] at resolved

/-- A report that fits keeps fitting when the addresses hold more. -/
def Stable (fits : Result → (Nat → Content → Prop) → Report → Prop) : Prop :=
  ∀ ⦃result : Result⦄ ⦃value : Report⦄ ⦃weak strong : Nat → Content → Prop⦄,
    (∀ address content, weak address content → strong address content) →
      fits result weak value → fits result strong value

/-- Other tasks only add objects. -/
theorem Keeps.grow (stable : Stable fits) (keeps : Keeps fits task heap reports)
    (added : List Content) : Keeps fits task (heap ++ added) reports := by
  have kept : ∀ (address : Nat) (content : Content), heap[address]? = some content →
      (heap ++ added)[address]? = some content := by
    intro address content held
    rw [List.getElem?_append_left (List.getElem?_eq_some_iff.mp held).1]
    exact held
  cases keeps with
  | before allocated running held once =>
      exact .before allocated running (fun object member => kept _ _ (held object member)) once
  | after result value status ret last fit =>
      exact .after result value status ret last (stable kept fit)

/-- A task only adds objects to the heap. -/
theorem heap_of_run (ran : task.run heap = some (next, after, more)) :
    ∃ added, after = heap ++ added := by
  unfold Routine.run at ran
  split at ran
  · cases ran
    exact ⟨_, rfl⟩
  · cases ran
    exact ⟨[], (List.append_nil _).symm⟩
  · cases ran
    exact ⟨[], (List.append_nil _).symm⟩
  · cases ran
    exact ⟨[], (List.append_nil _).symm⟩
  · cases ran

theorem Keeps.run (stable : Stable fits) (keeps : Keeps fits task heap reports)
    (ran : task.run heap = some (next, after, more)) :
    Keeps fits next after (reports ++ more) := by
  unfold Routine.run at ran
  cases keeps with
  | after result value status ret last fit =>
      rw [ret] at ran
      cases running : task.status with
      | running =>
          simp only [running, Option.some.injEq, Prod.mk.injEq] at ran
          obtain ⟨rfl, rfl, rfl⟩ := ran
          exact .after result value Status.noConfusion rfl last fit
      | ended | panicked => simp only [running, reduceCtorEq] at ran
  | before allocated running held once =>
      cases body : task.body with
      | await call resume => simp only [running, body, reduceCtorEq] at ran
      | alloc content resume =>
          simp only [running, body, Option.some.injEq, Prod.mk.injEq] at ran
          obtain ⟨rfl, rfl, rfl⟩ := ran
          rw [body] at once
          refine .before ((heap.length, content) :: allocated) rfl ?_ (once heap.length)
          intro object member
          rcases List.mem_cons.mp member with rfl | old
          · exact List.getElem?_concat_length
          · rw [List.getElem?_append_left (List.getElem?_eq_some_iff.mp (held object old)).1]
            exact held object old
      | report value rest =>
          simp only [running, body, Option.some.injEq, Prod.mk.injEq] at ran
          obtain ⟨rfl, rfl, rfl⟩ := ran
          rw [body] at once
          obtain ⟨⟨result, last, fit⟩, isOver⟩ := once
          refine .after result value Status.noConfusion isOver last ?_
          exact stable (fun address content member => held (address, content) member) fit
      | panic =>
          rw [body] at once
          exact once.elim
      | ret =>
          rw [body] at once
          exact once.elim

end Routine

end Coroutine
