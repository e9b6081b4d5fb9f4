import AsyncNats.Transition.Progress

/-! # Parts of a system

A system may be put together from others that run side by side. Each of its steps keeps such a
part as it is or is a step of the part, so that what holds of all reachable states of the part
alone holds of it inside the whole.
-/

namespace Transition

universe u v w x

/-- A part of the states of `M` that takes steps of `N`. -/
structure Component {State : Type u} {Label : Type v} {Part : Type w} {Action : Type x}
    (M : System State Label) (N : System Part Action) where
  part : State → Part
  init : part M.init = N.init
  step : ∀ {state next label}, M.step state label = some next →
    part next = part state ∨ ∃ action, N.step (part state) action = some (part next)

namespace Component

variable {State : Type u} {Label : Type v} {Part : Type w} {Action : Type x}
  {M : System State Label} {N : System Part Action}

/-- A step of the whole is at most one step of the part. -/
def simulation (component : Component M N) : Simulation M N where
  related := fun state part => component.part state = part
  init := component.init
  step := by
    rintro state next label _ _ rfl taken
    rcases component.step taken with same | ⟨action, moved⟩
    · exact ⟨[], component.part state, rfl, same⟩
    · exact ⟨[action], component.part next, (N.runFrom_singleton _ _).trans moved, rfl⟩

theorem reachable (component : Component M N) {state : State} (reached : M.Reachable state) :
    N.Reachable (component.part state) := by
  obtain ⟨part, reachable, rfl⟩ := component.simulation.reachable reached
  exact reachable

end Component

/-- A bound on the steps of a party of a part bounds its steps in the whole. -/
theorem System.Bounded.lift {State : Type u} {Label : Type v} {Part : Type w} {Action : Type x}
    {M : System State Label} {N : System Part Action} {part : State → Part}
    {own : Label → Bool} {allowed : State → Label → Prop} {acts : Action → Bool}
    {permitted : Part → Action → Prop} {invariant : Part → Prop} {measure : Part → Nat}
    (bounded : N.Bounded acts permitted invariant measure)
    (moves : ∀ state label next, allowed state label → M.step state label = some next →
      own label = false ∧ part next = part state ∨
        ∃ action, acts action = own label ∧ permitted (part state) action ∧
          N.step (part state) action = some (part next)) :
    M.Bounded own allowed (fun state => invariant (part state))
      (fun state => measure (part state)) where
  kept := by
    intro state label next holds allows taken
    rcases moves state label next allows taken with ⟨_, same⟩ | ⟨action, _, permits, moved⟩
    · rw [same]
      exact holds
    · exact bounded.kept _ action _ holds permits moved
  lowers := by
    intro state label next holds allows mine taken
    rcases moves state label next allows taken with ⟨other, _⟩ | ⟨action, acts, permits, moved⟩
    · rw [mine] at other
      cases other
    · exact bounded.lowers _ action _ holds permits (acts.trans mine) moved
  stays := by
    intro state label next holds allows other taken
    rcases moves state label next allows taken with ⟨_, same⟩ | ⟨action, acts, permits, moved⟩
    · exact Nat.le_of_eq (congrArg measure same)
    · exact bounded.stays _ action _ holds permits (acts.trans other) moved

end Transition
