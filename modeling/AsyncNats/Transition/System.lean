import Mathlib.Logic.Basic
import Mathlib.Data.List.Basic
import Mathlib.Data.List.Induction

/-! # Labelled systems with partial steps

A system is an initial state and a step function that is undefined on the
labels a state does not enable. Nondeterminism is the choice of the label, so a
run is a list of labels and an interleaving is one order of that list. The
module gives runs, reachability, the induction rules for invariants (for all
runs, and for the runs whose steps meet a condition) and forward simulation.
-/

namespace Transition

universe u v w x

/-- An initial state and a partial step function. `none` says that the label is
not enabled in the state. -/
structure System (State : Type u) (Label : Type v) where
  init : State
  step : State → Label → Option State

namespace System

variable {State : Type u} {Label : Type v} (M : System State Label)

/-- Take the labels in order; the run is undefined as soon as one is not
enabled. -/
def runFrom : State → List Label → Option State
  | state, [] => some state
  | state, label :: rest => (M.step state label).bind fun next => runFrom next rest

/-- A run from the initial state. -/
def run (labels : List Label) : Option State :=
  M.runFrom M.init labels

@[simp] theorem runFrom_nil (state : State) : M.runFrom state [] = some state := rfl

theorem runFrom_cons_eq_some {state last : State} {label : Label} {rest : List Label} :
    M.runFrom state (label :: rest) = some last ↔
      ∃ next, M.step state label = some next ∧ M.runFrom next rest = some last := by
  simp only [runFrom, Option.bind_eq_some_iff]

theorem runFrom_singleton (state : State) (label : Label) :
    M.runFrom state [label] = M.step state label := by
  simp only [runFrom, Option.bind_fun_some]

/-- Running appended lists is running one after the other. -/
theorem runFrom_append (state : State) (front rest : List Label) :
    M.runFrom state (front ++ rest) =
      (M.runFrom state front).bind fun middle => M.runFrom middle rest := by
  induction front generalizing state with
  | nil => rfl
  | cons label front ih =>
      simp only [List.cons_append, runFrom, Option.bind_assoc, ih]

theorem runFrom_append_eq_some {state last : State} {front rest : List Label} :
    M.runFrom state (front ++ rest) = some last ↔
      ∃ middle, M.runFrom state front = some middle ∧ M.runFrom middle rest = some last := by
  rw [runFrom_append, Option.bind_eq_some_iff]

/-- The last step of a run that ends with `label`. -/
theorem runFrom_concat_eq_some {state last : State} {front : List Label} {label : Label} :
    M.runFrom state (front ++ [label]) = some last ↔
      ∃ middle, M.runFrom state front = some middle ∧ M.step middle label = some last := by
  rw [runFrom_append_eq_some]
  simp only [runFrom_singleton]

/-- Every step of the run along `labels` meets `allowed` in the state where it
is taken. -/
def Meets (allowed : State → Label → Prop) : State → List Label → Prop
  | _, [] => True
  | state, label :: rest =>
      allowed state label ∧ ∀ next, M.step state label = some next → Meets allowed next rest

instance decidableMeets {allowed : State → Label → Prop}
    [∀ state label, Decidable (allowed state label)] :
    ∀ (state : State) (labels : List Label), Decidable (M.Meets allowed state labels)
  | _, [] => .isTrue trivial
  | state, label :: rest =>
    match stepped : M.step state label with
    | none => decidable_of_iff (allowed state label) <| by
        simp only [Meets, stepped, reduceCtorEq, false_imp_iff, implies_true, and_true]
    | some next =>
      have : Decidable (M.Meets allowed next rest) := decidableMeets next rest
      decidable_of_iff (allowed state label ∧ M.Meets allowed next rest) <| by
        simp only [Meets, stepped, Option.some.injEq, forall_eq']

/-- A condition on labels alone is met by a run exactly when each of its labels
satisfies it, as far as the run goes. -/
theorem Meets.of_forall {allowed : Label → Prop} {state : State} {labels : List Label}
    (every : ∀ label ∈ labels, allowed label) :
    M.Meets (fun _ label => allowed label) state labels := by
  induction labels generalizing state with
  | nil => trivial
  | cons label rest ih =>
      exact ⟨every label List.mem_cons_self,
        fun _ _ => ih fun later member => every later (List.mem_cons_of_mem _ member)⟩

/-- The last step of a run meets what all its steps meet. -/
theorem Meets.concat {allowed : State → Label → Prop} {state middle : State}
    {front : List Label} {label : Label} (meets : M.Meets allowed state (front ++ [label]))
    (run : M.runFrom state front = some middle) : allowed middle label := by
  induction front generalizing state with
  | nil =>
      cases run
      exact meets.1
  | cons first rest ih =>
      obtain ⟨next, taken, tail⟩ := M.runFrom_cons_eq_some.mp run
      exact ih (meets.2 next taken) tail

/-- The first steps of a run meet what all its steps meet. -/
theorem Meets.front {allowed : State → Label → Prop} {state : State} {front rest : List Label}
    (meets : M.Meets allowed state (front ++ rest)) : M.Meets allowed state front := by
  induction front generalizing state with
  | nil => trivial
  | cons label front ih => exact ⟨meets.1, fun next taken => ih (meets.2 next taken)⟩

/-- The last steps of a run meet what all its steps meet. -/
theorem Meets.rest {allowed : State → Label → Prop} {state middle : State}
    {front rest : List Label} (meets : M.Meets allowed state (front ++ rest))
    (run : M.runFrom state front = some middle) : M.Meets allowed middle rest := by
  induction front generalizing state with
  | nil =>
      cases run
      exact meets
  | cons label front ih =>
      obtain ⟨next, taken, tail⟩ := M.runFrom_cons_eq_some.mp run
      exact ih (meets.2 next taken) tail

theorem Meets.append {allowed : State → Label → Prop} {state middle : State}
    {front rest : List Label} (meets : M.Meets allowed state front)
    (run : M.runFrom state front = some middle) (after : M.Meets allowed middle rest) :
    M.Meets allowed state (front ++ rest) := by
  induction front generalizing state with
  | nil =>
      cases run
      exact after
  | cons label front ih =>
      obtain ⟨next, taken, tail⟩ := M.runFrom_cons_eq_some.mp run
      refine ⟨meets.1, fun other again => ?_⟩
      cases taken.symm.trans again
      exact ih (meets.2 next taken) tail

/-- A run ends in `state`. -/
def Reachable (state : State) : Prop :=
  ∃ labels, M.run labels = some state

/-- A run all of whose steps meet `allowed` ends in `state`. -/
def ReachableUnder (allowed : State → Label → Prop) (state : State) : Prop :=
  ∃ labels, M.Meets allowed M.init labels ∧ M.run labels = some state

variable {M}

theorem Reachable.init : M.Reachable M.init := ⟨[], rfl⟩

theorem Reachable.step {state next : State} {label : Label} (reached : M.Reachable state)
    (step : M.step state label = some next) : M.Reachable next := by
  obtain ⟨labels, run⟩ := reached
  exact ⟨labels ++ [label], M.runFrom_concat_eq_some.mpr ⟨state, run, step⟩⟩

theorem Reachable.runFrom {state last : State} {labels : List Label}
    (reached : M.Reachable state) (run : M.runFrom state labels = some last) :
    M.Reachable last := by
  obtain ⟨front, before⟩ := reached
  exact ⟨front ++ labels, M.runFrom_append_eq_some.mpr ⟨state, before, run⟩⟩

theorem ReachableUnder.reachable {allowed : State → Label → Prop} {state : State}
    (reached : M.ReachableUnder allowed state) : M.Reachable state := by
  obtain ⟨labels, _, run⟩ := reached
  exact ⟨labels, run⟩

theorem ReachableUnder.runFrom {allowed : State → Label → Prop} {state last : State}
    {labels : List Label} (reached : M.ReachableUnder allowed state)
    (meets : M.Meets allowed state labels) (run : M.runFrom state labels = some last) :
    M.ReachableUnder allowed last := by
  obtain ⟨front, before, ran⟩ := reached
  exact ⟨front ++ labels, before.append M ran meets, M.runFrom_append_eq_some.mpr ⟨_, ran, run⟩⟩

/-- What holds of a state and is kept by the steps that meet `allowed` holds
after every run from it whose steps meet `allowed`. The step may use that its
source is reachable, so invariants proved earlier are at hand. -/
theorem meets_induction {allowed : State → Label → Prop} {motive : State → Prop}
    (kept : ∀ state label next, M.Reachable state → allowed state label → motive state →
      M.step state label = some next → motive next)
    {state last : State} {labels : List Label} (reached : M.Reachable state)
    (holds : motive state) (meets : M.Meets allowed state labels)
    (run : M.runFrom state labels = some last) : motive last := by
  induction labels generalizing state with
  | nil =>
      cases run
      exact holds
  | cons label rest ih =>
      obtain ⟨next, step, tail⟩ := M.runFrom_cons_eq_some.mp run
      exact ih (reached.step step) (kept state label next reached meets.1 holds step)
        (meets.2 next step) tail

/-- The invariant rule for all runs. -/
theorem Reachable.induction {motive : State → Prop} (init : motive M.init)
    (kept : ∀ state label next, M.Reachable state → motive state →
      M.step state label = some next → motive next)
    {state : State} (reached : M.Reachable state) : motive state := by
  obtain ⟨labels, run⟩ := reached
  have meets : M.Meets (fun _ _ => True) M.init labels :=
    Meets.of_forall M fun _ _ => trivial
  exact meets_induction (fun state label next reached _ => kept state label next reached)
    Reachable.init init meets run

/-- The invariant rule for the runs whose steps meet a condition. -/
theorem ReachableUnder.induction {allowed : State → Label → Prop} {motive : State → Prop}
    (init : motive M.init)
    (kept : ∀ state label next, M.Reachable state → allowed state label → motive state →
      M.step state label = some next → motive next)
    {state : State} (reached : M.ReachableUnder allowed state) : motive state := by
  obtain ⟨labels, meets, run⟩ := reached
  exact meets_induction kept Reachable.init init meets run

/-- The invariant rule for properties that look back on the labels of the run. -/
theorem run_induction {motive : List Label → State → Prop} (init : motive [] M.init)
    (kept : ∀ labels state label next, M.run labels = some state → motive labels state →
      M.step state label = some next → motive (labels ++ [label]) next)
    {labels : List Label} {state : State} (run : M.run labels = some state) :
    motive labels state := by
  induction labels using List.reverseRecOn generalizing state with
  | nil =>
      cases run
      exact init
  | append_singleton front label ih =>
      obtain ⟨middle, before, taken⟩ := M.runFrom_concat_eq_some.mp run
      exact kept front middle label state before (ih before) taken

/-- Two conditions that agree on all steps are met by the same runs. -/
theorem meets_congr {allowed promised : State → Label → Prop}
    (same : ∀ state label next, M.step state label = some next →
      (promised state label ↔ allowed state label))
    {state last : State} {labels : List Label} (run : M.runFrom state labels = some last) :
    M.Meets promised state labels ↔ M.Meets allowed state labels := by
  induction labels generalizing state with
  | nil => exact Iff.rfl
  | cons label rest ih =>
      obtain ⟨next, taken, tail⟩ := M.runFrom_cons_eq_some.mp run
      refine and_congr (same state label next taken) ?_
      simp only [taken, Option.some.injEq, forall_eq']
      exact ih tail

/-- Steps that meet a condition meet another one that follows from it under an invariant. -/
theorem Meets.imp {allowed promised : State → Label → Prop} {invariant : State → Prop}
    (kept : ∀ state label next, invariant state → allowed state label →
      M.step state label = some next → invariant next)
    (implies : ∀ state label, invariant state → allowed state label → promised state label)
    {state : State} {labels : List Label} (holds : invariant state)
    (meets : M.Meets allowed state labels) : M.Meets promised state labels := by
  induction labels generalizing state with
  | nil => trivial
  | cons label rest ih =>
      refine ⟨implies state label holds meets.1, fun next taken => ?_⟩
      exact ih (kept state label next holds meets.1 taken) (meets.2 next taken)

/-- `property` holds of every state of the run along `labels`, from the first to the last. -/
def Always (M : System State Label) (property : State → Prop) : State → List Label → Prop
  | state, [] => property state
  | state, label :: rest =>
      property state ∧ ∀ next, M.step state label = some next → M.Always property next rest

theorem Always.first {property : State → Prop} {state : State} {labels : List Label}
    (always : M.Always property state labels) : property state := by
  cases labels with
  | nil => exact always
  | cons => exact always.1

theorem Always.last {property : State → Prop} {state last : State} {labels : List Label}
    (always : M.Always property state labels) (run : M.runFrom state labels = some last) :
    property last := by
  induction labels generalizing state with
  | nil =>
      cases run
      exact always
  | cons label rest ih =>
      obtain ⟨next, step, tail⟩ := M.runFrom_cons_eq_some.mp run
      exact ih (always.2 next step) tail

/-- A property holds all along a run exactly when each step meets a condition, if an
invariant that implies the property is kept by the steps that meet the condition, and the
property is lost with the first step that does not. -/
theorem always_iff_meets {allowed : State → Label → Prop} {property : State → Prop}
    (invariant : State → Prop) (implies : ∀ state, invariant state → property state)
    (kept : ∀ state label next, invariant state → allowed state label →
      M.step state label = some next → invariant next)
    (broken : ∀ state label next, invariant state → ¬ allowed state label →
      M.step state label = some next → ¬ property next)
    {state last : State} {labels : List Label} (holds : invariant state)
    (run : M.runFrom state labels = some last) :
    M.Always property state labels ↔ M.Meets allowed state labels := by
  induction labels generalizing state with
  | nil => exact iff_of_true (implies state holds) trivial
  | cons label rest ih =>
      obtain ⟨next, taken, tail⟩ := M.runFrom_cons_eq_some.mp run
      constructor
      · intro always
        have meets : allowed state label := by
          by_contra broke
          exact broken state label next holds broke taken (always.2 next taken).first
        refine ⟨meets, fun other step => ?_⟩
        cases taken.symm.trans step
        exact (ih (kept state label next holds meets taken) tail).mp (always.2 next taken)
      · intro meets
        refine ⟨implies state holds, fun other step => ?_⟩
        cases taken.symm.trans step
        exact (ih (kept state label next holds meets.1 taken) tail).mpr (meets.2 next taken)

/-- A step relation that every step refines is kept along runs when it is
reflexive and transitive. -/
theorem runFrom_relation {motive : State → State → Prop}
    (refl : ∀ state, motive state state)
    (trans : ∀ first second third, motive first second → motive second third →
      motive first third)
    (steps : ∀ state label next, M.Reachable state → M.step state label = some next →
      motive state next)
    {state last : State} {labels : List Label} (reached : M.Reachable state)
    (run : M.runFrom state labels = some last) : motive state last := by
  induction labels generalizing state with
  | nil =>
      cases run
      exact refl _
  | cons label rest ih =>
      obtain ⟨next, step, tail⟩ := M.runFrom_cons_eq_some.mp run
      exact trans _ _ _ (steps state label next reached step) (ih (reached.step step) tail)

end System

/-- A forward simulation: related states start together, and each step of the
concrete system is matched by a finite run of the abstract one. -/
structure Simulation {State : Type u} {Label : Type v} {Abstract : Type w} {Action : Type x}
    (M : System State Label) (N : System Abstract Action) where
  related : State → Abstract → Prop
  init : related M.init N.init
  step : ∀ {state next label abstract}, M.Reachable state → related state abstract →
    M.step state label = some next →
      ∃ actions after, N.runFrom abstract actions = some after ∧ related next after

namespace Simulation

variable {State : Type u} {Label : Type v} {Abstract : Type w} {Action : Type x}
  {M : System State Label} {N : System Abstract Action}

/-- Every reachable concrete state is related to a reachable abstract one. -/
theorem reachable (simulation : Simulation M N) {state : State} (reached : M.Reachable state) :
    ∃ abstract, N.Reachable abstract ∧ simulation.related state abstract := by
  refine System.Reachable.induction (motive := fun state => ∃ abstract, N.Reachable abstract ∧
    simulation.related state abstract) ⟨N.init, .init, simulation.init⟩ ?_ reached
  intro before label next reached ih step
  obtain ⟨abstract, reachable, related⟩ := ih
  obtain ⟨actions, after, run, related⟩ := simulation.step reached related step
  exact ⟨after, reachable.runFrom run, related⟩

end Simulation

end Transition
