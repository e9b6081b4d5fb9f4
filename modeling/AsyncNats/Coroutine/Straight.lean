import AsyncNats.Coroutine.Body

/-! # Tasks that wait at most once

A body is straight if it does not wait any more. A task whose body waits only at its start is
straight from the first result on, so that it runs to its end without another call.
-/

namespace Coroutine

universe u

variable {Call Result Content Report : Type u}

/-- The body does not wait. -/
def Body.Straight : Body Call Result Content Report → Prop
  | .await _ _ => False
  | .alloc _ resume => ∀ address, (resume address).Straight
  | .report _ rest => rest.Straight
  | .panic | .ret => True

/-- The body waits at its start or not at all. -/
def Body.WaitsFirst : Body Call Result Content Report → Prop
  | .await _ resume => ∀ result, (resume result).Straight
  | body => body.Straight

theorem Body.Straight.waitsFirst {body : Body Call Result Content Report}
    (straight : body.Straight) : body.WaitsFirst := by
  cases body with
  | await => exact straight.elim
  | alloc | report | panic | ret => exact straight

namespace Routine

variable {task next : Routine Call Result Content Report} {heap after : List Content}
  {reports : List Report}

theorem straight_of_resolve {result : Result} (first : task.body.WaitsFirst)
    (resolved : task.resolve result = some next) : next.body.Straight := by
  unfold Routine.resolve at resolved
  split at resolved
  · next call resume body =>
      cases resolved
      rw [body] at first
      exact first result
  · cases resolved

/-- A task that can go on does not wait, and does not wait afterwards. -/
theorem straight_of_run (first : task.body.WaitsFirst)
    (ran : task.run heap = some (next, after, reports)) :
    task.body.Straight ∧ next.body.Straight := by
  unfold Routine.run at ran
  split at ran
  · next content resume _ body =>
      cases ran
      rw [body] at first ⊢
      exact ⟨first, first _⟩
  · next value rest _ body =>
      cases ran
      rw [body] at first ⊢
      exact ⟨first, first⟩
  · next _ body =>
      cases ran
      rw [body]
      exact ⟨trivial, trivial⟩
  · next _ body =>
      cases ran
      rw [body]
      exact ⟨trivial, trivial⟩
  · cases ran

end Routine

end Coroutine
