import AsyncNats.NamedSender.Permits
import AsyncNats.Transition.Progress

/-! # The calls are wait-free

A call of `try_send` or `send` is over after three steps of its own thread, also when the queue
is full, the worker is gone or other calls are stuck halfway.
-/

namespace AsyncNats.NamedSender

open Sync Transition

variable {state next last : State} {event : Event}

/-- How many steps of its thread a call at a stage still takes. -/
def Stage.left : Stage → Nat
  | .entered => 3
  | .acquired _ => 2
  | .built _ => 1

/-- The steps of a thread within its call. -/
def Event.isOf (thread : ThreadId) : Event → Bool
  | .acquire other | .build other | .sendToChannel other => other == thread
  | _ => false

/-- How many steps the call numbered `number` of a thread still takes. -/
def State.left (thread : ThreadId) (number : Nat) (state : State) : Nat :=
  match state.calls.lookup thread with
  | some pending => if pending.call.number = number then pending.stage.left else 0
  | none => 0

variable {thread : ThreadId} {number : Nat}

theorem left_of_none (idle : state.calls.lookup thread = none) : state.left thread number = 0 := by
  simp only [State.left, idle]

theorem left_of_some {pending : Pending} (calling : state.calls.lookup thread = some pending) :
    state.left thread number =
      if pending.call.number = number then pending.stage.left else 0 := by
  simp only [State.left, calling]

/-- A step that leaves the row of the thread alone. -/
theorem left_of_same (same : next.calls.lookup thread = state.calls.lookup thread) :
    next.left thread number = state.left thread number := by
  simp only [State.left, same]

/-- A call goes on to a later stage, and others do not notice. -/
theorem left_setStage {caller : ThreadId} {pending : Pending} {stage : Stage}
    (calling : state.calls.lookup caller = some pending)
    (calls : next.calls = state.calls.insert caller { pending with stage })
    (later : stage.left = pending.stage.left - 1) :
    next.left thread number ≤ state.left thread number ∧
      ((caller == thread) = true → next.left thread number ≤ state.left thread number - 1) := by
  by_cases same : thread = caller
  · subst same
    have after : next.calls.lookup thread = some { pending with stage } := by
      rw [calls, AList.lookup_insert]
    rw [left_of_some calling, left_of_some after]
    by_cases mine : pending.call.number = number
    · simp only [if_pos mine, later]
      omega
    · simp only [if_neg mine]
      omega
  · have kept : next.calls.lookup thread = state.calls.lookup thread := by
      rw [calls, AList.lookup_insert_ne same]
    rw [left_of_same kept]
    exact ⟨Nat.le_refl _, fun mine => (same (beq_iff_eq.mp mine).symm).elim⟩

/-- A call that returns has no steps left. -/
theorem left_leave {caller : ThreadId} (calls : next.calls = state.calls.erase caller) :
    next.left thread number ≤ state.left thread number ∧
      ((caller == thread) = true → next.left thread number ≤ state.left thread number - 1) := by
  by_cases same : thread = caller
  · subst same
    have gone : next.calls.lookup thread = none := by rw [calls, AList.lookup_erase]
    rw [left_of_none gone]
    exact ⟨Nat.zero_le _, fun _ => Nat.zero_le _⟩
  · have kept : next.calls.lookup thread = state.calls.lookup thread := by
      rw [calls, AList.lookup_erase_ne same]
    rw [left_of_same kept]
    exact ⟨Nat.le_refl _, fun mine => (same (beq_iff_eq.mp mine).symm).elim⟩

/-- A step of the thread takes its call one step on, and no other step takes it back. -/
theorem Step.left (step : Step state event next) (old : number < state.entered) :
    next.left thread number ≤ state.left thread number ∧
      (event.isOf thread = true → next.left thread number ≤ state.left thread number - 1) := by
  cases step with
  | acquired calling stage =>
      exact left_setStage calling rfl (by rw [stage]; rfl)
  | unpermitted calling stage =>
      exact left_setStage calling rfl (by rw [stage]; rfl)
  | build calling stage =>
      exact left_setStage calling rfl (by rw [stage]; rfl)
  | refused | sent | discarded =>
      exact left_leave rfl
  | @enter caller handle entry topic data live idle =>
      refine ⟨?_, fun mine => by cases mine⟩
      by_cases same : thread = caller
      · subst same
        rw [left_of_some (AList.lookup_insert _)]
        simp only [if_neg (Nat.ne_of_gt old), Nat.zero_le]
      · exact Nat.le_of_eq (left_of_same (AList.lookup_insert_ne same))
  | _ => exact ⟨Nat.le_refl _, fun mine => by cases mine⟩

/-- A thread in a call can always go on. -/
theorem call_enabled {pending : Pending} (calling : state.calls.lookup thread = some pending) :
    ∃ event next, event.isOf thread = true ∧ step state event = some next := by
  cases stage : pending.stage with
  | entered =>
      refine ⟨.acquire thread, ?_⟩
      cases entry : pending.entry with
      | trySend => exact ⟨_, beq_self_eq_true thread, acquire_of_trySend calling stage entry⟩
      | send => exact ⟨_, beq_self_eq_true thread, acquire_of_send calling stage entry⟩
  | acquired permit =>
      refine ⟨.build thread, state.built thread pending permit, beq_self_eq_true thread, ?_⟩
      simp only [step, State.build, calling, stage]
      rfl
  | built message =>
      refine ⟨.sendToChannel thread, ?_⟩
      simp only [step, State.sendToChannel, calling, stage]
      cases state.channel.trySend message with
      | ok channel => exact ⟨_, beq_self_eq_true thread, rfl⟩
      | error error => exact ⟨_, beq_self_eq_true thread, rfl⟩

/-- Each thread makes progress in each of its calls. -/
theorem call_progress (init : State) (thread : ThreadId) (number : Nat) :
    (system init).Progress (Event.isOf thread) (fun _ _ => True)
      (fun state => number < state.entered) (State.left thread number) where
  kept := by
    intro state event next old _ taken
    cases step_cases taken with
    | enter => exact Nat.lt_succ_of_lt old
    | _ => exact old
  lowers := fun _ _ _ old _ mine taken => ((step_cases taken).left old).2 mine
  stays := fun _ _ _ old _ _ taken => ((step_cases taken).left old).1
  enabled := by
    intro state old positive
    cases calling : state.calls.lookup thread with
    | none =>
        rw [left_of_none calling] at positive
        exact (Nat.lt_irrefl 0 positive).elim
    | some pending =>
        obtain ⟨event, next, mine, taken⟩ := call_enabled calling
        exact ⟨event, next, mine, trivial, taken⟩

/-- The call is in progress, or it has returned, with a result if it is one of `try_send`. -/
def Handled (thread : ThreadId) (entry : EntryPoint) (call : Call) (state : State) : Prop :=
  (∃ handle stage, state.calls.lookup thread = some ⟨entry, handle, call, stage⟩) ∨
    (entry = .trySend → ∃ result, (call, result) ∈ state.returned)

theorem Handled.keep {entry : EntryPoint} {call : Call} (handled : Handled thread entry call state)
    (calls : next.calls.lookup thread = state.calls.lookup thread)
    (returned : state.returned ⊆ next.returned) : Handled thread entry call next := by
  refine handled.imp (fun pending => ?_) fun ended trying => ?_
  · rw [calls]
    exact pending
  · obtain ⟨result, member⟩ := ended trying
    exact ⟨result, returned member⟩

/-- The call of a thread at a new stage. -/
theorem Handled.setStage {entry : EntryPoint} {call : Call} {caller : ThreadId}
    {pending : Pending} {stage : Stage} (handled : Handled thread entry call state)
    (calling : state.calls.lookup caller = some pending)
    (calls : next.calls = state.calls.insert caller { pending with stage })
    (returned : next.returned = state.returned) : Handled thread entry call next := by
  by_cases same : thread = caller
  · subst same
    rcases handled with ⟨handle, before, found⟩ | ended
    · cases calling.symm.trans found
      exact .inl ⟨handle, stage, by rw [calls, AList.lookup_insert]⟩
    · exact .inr fun trying => by rw [returned]; exact ended trying
  · refine handled.keep ?_ (by rw [returned]; exact List.Subset.refl _)
    rw [calls, AList.lookup_insert_ne same]

/-- A call returns. -/
theorem Handled.leave {entry : EntryPoint} {call : Call} {caller : ThreadId}
    {pending : Pending} {results : List (Call × Bool)} (handled : Handled thread entry call state)
    (calling : state.calls.lookup caller = some pending)
    (calls : next.calls = state.calls.erase caller)
    (returned : next.returned = state.returned ++ results)
    (reports : pending.entry = .trySend → ∃ result, (pending.call, result) ∈ results) :
    Handled thread entry call next := by
  by_cases same : thread = caller
  · subst same
    refine .inr fun trying => ?_
    rw [returned]
    rcases handled with ⟨handle, before, found⟩ | ended
    · cases calling.symm.trans found
      obtain ⟨result, member⟩ := reports trying
      exact ⟨result, List.mem_append_right _ member⟩
    · obtain ⟨result, member⟩ := ended trying
      exact ⟨result, List.mem_append_left _ member⟩
  · refine handled.keep ?_ (by rw [returned]; exact List.subset_append_left _ _)
    rw [calls, AList.lookup_erase_ne same]

theorem Step.handled (step : Step state event next) {entry : EntryPoint} {call : Call}
    (handled : Handled thread entry call state) : Handled thread entry call next := by
  have reports : ∀ pending : Pending, pending.entry = .trySend →
      ∃ result, (pending.call, result) ∈ State.report pending := by
    intro pending trying
    refine ⟨true, ?_⟩
    rw [State.report, trying]
    exact List.mem_singleton_self _
  cases step with
  | acquired calling | unpermitted calling | build calling =>
      exact handled.setStage calling rfl rfl
  | refused calling =>
      exact handled.leave calling rfl rfl fun _ => ⟨false, List.mem_singleton_self _⟩
  | sent calling | discarded calling => exact handled.leave calling rfl rfl (reports _)
  | @enter caller handle other topic data live free =>
      by_cases same : thread = caller
      · subst same
        rcases handled with ⟨_, _, found⟩ | ended
        · cases free.symm.trans found
        · exact .inr ended
      · exact handled.keep (AList.lookup_insert_ne same) (List.Subset.refl _)
  | _ => exact handled.keep rfl (List.Subset.refl _)

section Runs

variable {name : CString} {capacity : Nat} {init : State}

/-- No call waits for anything: in every run from a state in which a thread is in a call, three
steps of that thread are enough for the call to return, and `try_send` with a result, whatever
the other threads and the worker do or fail to do. Until then the thread can take its step. -/
theorem calls_wait_free (created : withCapacity name capacity = some init)
    (reached : (system init).Reachable state) {pending : Pending}
    (calling : state.calls.lookup thread = some pending) {events : List Event}
    (run : (system init).runFrom state events = some last) :
    (∀ row, last.calls.lookup thread = some row →
      ∃ event next, event.isOf thread = true ∧ step last event = some next) ∧
    (3 ≤ events.countP (Event.isOf thread) →
      (∀ row, last.calls.lookup thread = some row → row.call ≠ pending.call) ∧
      (pending.entry = .trySend → ∃ result, (pending.call, result) ∈ last.returned)) := by
  have everywhere : (system init).Meets (fun _ _ => True) state events :=
    System.Meets.of_forall (system init) fun _ _ => trivial
  have row := (callsOk_of_reachable created reached).rows thread pending calling
  refine ⟨fun _ found => call_enabled found, fun enough => ?_⟩
  have few : state.left thread pending.call.number ≤ 3 := by
    rw [left_of_some calling, if_pos rfl]
    cases pending.stage <;> simp only [Stage.left] <;> omega
  have finished : last.left thread pending.call.number = 0 :=
    (call_progress init thread pending.call.number).finishes row.number_lt everywhere run
      (Nat.le_trans few enough)
  have ended : ∀ found, last.calls.lookup thread = some found → found.call ≠ pending.call := by
    intro found looked same
    rw [left_of_some looked, if_pos (congrArg Call.number same)] at finished
    cases stage : found.stage <;> simp only [stage, Stage.left] at finished <;> omega
  refine ⟨ended, fun trying => ?_⟩
  have handled : Handled thread pending.entry pending.call last := by
    refine System.meets_induction (motive := Handled thread pending.entry pending.call)
      (fun _ _ _ _ _ handled taken => (step_cases taken).handled handled) reached ?_ everywhere
      run
    exact .inl ⟨pending.handle, pending.stage, calling⟩
  rcases handled with ⟨handle, stage, found⟩ | returned
  · exact (ended _ found rfl).elim
  · exact returned trying

/-- A thread is in `try_send` while another one is stuck with the second permit and the runtime
is deleted. -/
theorem calls_wait_free_of_deleted :
    ∃ init state last, withCapacity ⟨[0x74], by decide⟩ 2 = some init ∧
      (system init).run
        [.clone 0 1, .enter 1 1 .send none [1], .acquire 1, .enter 0 0 .trySend none [2]] =
          some state ∧
      (system init).runFrom state
        [.runtimeDelete, .acquire 0, .closeReceiver, .build 0, .drain, .sendToChannel 0] =
          some last ∧
      ∃ result, ((⟨1, 0, none, [2]⟩ : Call), result) ∈ last.returned := by
  have evaluated :
      ((withCapacity ⟨[0x74], by decide⟩ 2).bind fun init =>
        ((system init).run
          [.clone 0 1, .enter 1 1 .send none [1], .acquire 1,
            .enter 0 0 .trySend none [2]]).bind fun state =>
          ((system init).runFrom state
            [.runtimeDelete, .acquire 0, .closeReceiver, .build 0, .drain,
              .sendToChannel 0]).map fun _ => state.calls.lookup 0) =
        some (some ⟨.trySend, 0, ⟨1, 0, none, [2]⟩, .entered⟩) := by decide
  obtain ⟨init, created, ran⟩ := Option.bind_eq_some_iff.mp evaluated
  obtain ⟨state, before, ran⟩ := Option.bind_eq_some_iff.mp ran
  obtain ⟨last, run, calling⟩ := Option.map_eq_some_iff.mp ran
  exact ⟨init, state, last, created, before, run,
    ((calls_wait_free created ⟨_, before⟩ calling run).2 (by decide)).2 rfl⟩

end Runs

end AsyncNats.NamedSender
