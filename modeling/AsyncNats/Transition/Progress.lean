import AsyncNats.Transition.System
import Mathlib.Data.List.Count

/-! # Progress of one party

A party of a system owns some of its labels. A measure that the party's steps lower and that
no other step raises bounds how often the party has to be scheduled: however the others
interleave, after as many of its own steps the measure is zero. A party that can take a step
whenever the measure is positive is never blocked before that.
-/

namespace Transition

universe u v

namespace System

variable {State : Type u} {Label : Type v}

/-- The measure bounds how many steps are left to the party that owns the labels in `own`, as
long as the others take only `allowed` steps. -/
structure Bounded (M : System State Label) (own : Label → Bool)
    (allowed : State → Label → Prop) (invariant : State → Prop) (measure : State → Nat) :
    Prop where
  kept : ∀ state label next, invariant state → allowed state label →
    M.step state label = some next → invariant next
  lowers : ∀ state label next, invariant state → allowed state label → own label = true →
    M.step state label = some next → measure next ≤ measure state - 1
  stays : ∀ state label next, invariant state → allowed state label → own label = false →
    M.step state label = some next → measure next ≤ measure state

/-- Steps from `state` to `last` that are all `allowed`, at least `count` of them of the party. -/
structure Turn (M : System State Label) (own : Label → Bool) (allowed : State → Label → Prop)
    (count : Nat) (state : State) (labels : List Label) (last : State) : Prop where
  meets : M.Meets allowed state labels
  run : M.runFrom state labels = some last
  enough : count ≤ labels.countP own

/-- The party makes progress: it can also take the next of these steps. -/
structure Progress (M : System State Label) (own : Label → Bool)
    (allowed : State → Label → Prop) (invariant : State → Prop) (measure : State → Nat) : Prop
    extends Bounded M own allowed invariant measure where
  enabled : ∀ state, invariant state → 0 < measure state →
    ∃ label next, own label = true ∧ allowed state label ∧ M.step state label = some next

namespace Bounded

variable {M : System State Label} {own : Label → Bool} {allowed : State → Label → Prop}
  {invariant : State → Prop} {measure : State → Nat} {state last : State} {labels : List Label}

/-- Each step of the party counts, whatever the others do in between. -/
theorem run (bounded : M.Bounded own allowed invariant measure) (holds : invariant state)
    (meets : M.Meets allowed state labels) (run : M.runFrom state labels = some last) :
    invariant last ∧ measure last ≤ measure state - labels.countP own := by
  induction labels generalizing state with
  | nil =>
      cases run
      exact ⟨holds, Nat.le_refl _⟩
  | cons label rest ih =>
      obtain ⟨next, taken, tail⟩ := M.runFrom_cons_eq_some.mp run
      have kept := bounded.kept state label next holds meets.1 taken
      obtain ⟨after, bound⟩ := ih kept (meets.2 next taken) tail
      refine ⟨after, Nat.le_trans bound ?_⟩
      cases mine : own label with
      | true =>
          have lower := bounded.lowers state label next holds meets.1 mine taken
          rw [List.countP_cons_of_pos mine]
          omega
      | false =>
          have same := bounded.stays state label next holds meets.1 mine taken
          rw [List.countP_cons_of_neg (by rw [mine]; exact Bool.false_ne_true)]
          omega

/-- After enough steps of the party the measure is zero. -/
theorem finishes (bounded : M.Bounded own allowed invariant measure) (holds : invariant state)
    (meets : M.Meets allowed state labels) (run : M.runFrom state labels = some last)
    (enough : measure state ≤ labels.countP own) : measure last = 0 := by
  have bound := (bounded.run holds meets run).2
  omega

theorem turn (bounded : M.Bounded own allowed invariant measure) (holds : invariant state)
    {count : Nat} (turn : M.Turn own allowed count state labels last)
    (within : measure state ≤ count) : invariant last ∧ measure last = 0 :=
  ⟨(bounded.run holds turn.meets turn.run).1,
    bounded.finishes holds turn.meets turn.run (Nat.le_trans within turn.enough)⟩

end Bounded

end System

end Transition
