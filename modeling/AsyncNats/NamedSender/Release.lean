import AsyncNats.NamedSender.Steps

/-! # When the sending half goes

The inner object owns the only sending half of the channel, and the worker task owns a
reference to the inner object. The channel loses its sender with the last reference, so
after the last handle is gone it waits for the task, and the task waits for the channel:
`recv` never finds the channel disconnected. Only a task that was ended otherwise, by a
failed publish or by the deletion of the runtime, gives its reference up.
-/

namespace AsyncNats.NamedSender

open Sync Transition

/-- The references of the worker task to the inner object. -/
def Worker.refs : Worker → Nat
  | .ended => 0
  | _ => 1

/-- Who keeps the sending half alive, and who closes the channel. -/
structure Retains (state : State) : Prop where
  refs : state.innerRefs = state.handles.length + state.worker.refs
  senders : state.channel.senders = if state.innerRefs = 0 then 0 else 1
  closed : state.channel.closed = true → state.worker = .draining ∨ state.worker = .ended

/-- Without handles there is no sending half, and a worker that has published the queue
leaves its loop with the next `recv`. -/
def Orphaned (state : State) : Prop :=
  state.handles = [] → state.channel.senders = 0 ∧
    (state.worker = .receiving → state.channel.queue = [] →
      step state .recv = some { state with worker := .dropping })

/-- The last handle is deleted after the worker task is gone. -/
def DeletesLate (state : State) (event : Event) : Prop :=
  ∀ handle, event = .delete handle → state.handles = [handle] → state.worker = .ended

variable {state next : State} {event : Event}

/-- What stays as it is while references, handles and the worker's do. -/
theorem Retains.stay (retains : Retains state) (refs : next.innerRefs = state.innerRefs)
    (handles : next.handles = state.handles) (worker : next.worker.refs = state.worker.refs)
    (senders : next.channel.senders = state.channel.senders)
    (closed : next.channel.closed = true → next.worker = .draining ∨ next.worker = .ended) :
    Retains next where
  refs := by rw [refs, handles, worker, retains.refs]
  senders := by rw [senders, refs, retains.senders]
  closed := closed

/-- The channel is open while the worker is in its loop, and stays so when it goes on or
leaves. -/
theorem Retains.work (retains : Retains state)
    (loop : state.worker = .receiving ∨ ∃ message, state.worker = .publishing message)
    (refs : next.innerRefs = state.innerRefs) (handles : next.handles = state.handles)
    (worker : next.worker.refs = 1) (senders : next.channel.senders = state.channel.senders)
    (closed : next.channel.closed = state.channel.closed) : Retains next := by
  have one : state.worker.refs = 1 := by
    rcases loop with waiting | ⟨message, publishing⟩
    · rw [waiting, Worker.refs]
      exact Worker.noConfusion
    · rw [publishing, Worker.refs]
      exact Worker.noConfusion
  refine retains.stay refs handles (worker.trans one.symm) senders fun isClosed => ?_
  rw [closed] at isClosed
  rcases retains.closed isClosed with draining | ended <;>
    rcases loop with waiting | ⟨message, publishing⟩
  · cases draining.symm.trans waiting
  · cases draining.symm.trans publishing
  · cases ended.symm.trans waiting
  · cases ended.symm.trans publishing

/-- One reference goes, and the sending half with the last one. -/
theorem dropInner_senders (senders : state.channel.senders = if state.innerRefs = 0 then 0 else 1)
    (held : 0 < state.innerRefs) :
    state.dropInner.channel.senders = if state.dropInner.innerRefs = 0 then 0 else 1 := by
  rw [if_neg (Nat.ne_of_gt held)] at senders
  unfold State.dropInner
  by_cases last : state.innerRefs = 1
  · simp only [last, ↓reduceIte, Channel.dropSender_senders, senders, Nat.sub_self]
  · have left : state.innerRefs - 1 ≠ 0 := by omega
    simp only [last, ↓reduceIte, senders, left]

@[simp] theorem State.dropInner_closed (state : State) :
    state.dropInner.channel.closed = state.channel.closed := by
  unfold State.dropInner
  split <;> rfl

theorem Step.retains (step : Step state event next) (retains : Retains state) : Retains next := by
  have closed := retains.closed
  cases step with
  | clone live unused =>
      have refs := retains.refs
      have senders := retains.senders
      have positive := List.length_pos_of_mem live
      rw [if_neg (by omega)] at senders
      refine ⟨?_, senders.trans (if_neg (Nat.succ_ne_zero _)).symm, closed⟩
      simp only [List.length_cons]
      omega
  | @delete handle live idle =>
      have refs := retains.refs
      have length := List.length_erase_of_mem live
      have positive := List.length_pos_of_mem live
      have held : 0 < state.innerRefs := by omega
      refine ⟨?_, dropInner_senders retains.senders held, ?_⟩
      · simp only [State.dropInner]
        omega
      · rw [State.dropInner_closed]
        exact closed
  | broke waiting | cancelledReceiving waiting | received waiting =>
      exact retains.work (.inl waiting) rfl rfl rfl rfl rfl
  | cancelledPublishing publishing =>
      exact retains.work (.inr ⟨_, publishing⟩) rfl rfl rfl rfl rfl
  | @published message succeeded publishing =>
      refine retains.work (.inr ⟨_, publishing⟩) rfl rfl ?_ rfl rfl
      cases succeeded <;> rfl
  | closed dropping => exact retains.stay rfl rfl (by rw [dropping]; rfl) rfl fun _ => .inl rfl
  | drained draining => exact retains.stay rfl rfl (by rw [draining]) rfl fun _ => .inl rfl
  | ended draining =>
      have refs := retains.refs
      rw [draining] at refs
      have held : 0 < state.innerRefs := by simp only [refs, Worker.refs, Nat.succ_pos]
      refine ⟨?_, dropInner_senders retains.senders held, fun _ => .inr rfl⟩
      simp only [State.dropInner, refs, Worker.refs, Nat.add_sub_cancel, Nat.add_zero]
  | enter | acquired | refused | unpermitted | build | sent | discarded | alreadyOver =>
      exact retains.stay rfl rfl rfl rfl closed

theorem withCapacity_retains {name : CString} {capacity : Nat} {init : State}
    (created : withCapacity name capacity = some init) : Retains init := by
  unfold withCapacity at created
  obtain ⟨sem, _, rfl⟩ := Option.map_eq_some_iff.mp created
  exact ⟨rfl, rfl, fun isClosed => by cases isClosed⟩

/-- Without handles the sending half is gone exactly when the task is. -/
theorem Retains.senders_eq_zero_iff (retains : Retains state) (gone : state.handles = []) :
    state.channel.senders = 0 ↔ state.worker = .ended := by
  have refs := retains.refs
  rw [gone, List.length_nil, Nat.zero_add] at refs
  rw [retains.senders, refs]
  cases state.worker <;> simp [Worker.refs]

/-- The worker's `recv` does not return `None`, with or without handles. -/
theorem Retains.recv_of_receiving (retains : Retains state) (waiting : state.worker = .receiving) :
    state.channel.tryRecv ≠ .disconnected := by
  intro found
  obtain ⟨_, isClosed | gone⟩ := Channel.tryRecv_eq_disconnected.mp found
  · rcases retains.closed isClosed with isOver | isOver <;> cases waiting.symm.trans isOver
  · have refs := retains.refs
    have senders := retains.senders
    rw [waiting] at refs
    simp only [Worker.refs] at refs
    rw [if_neg (by omega), gone] at senders
    cases senders

/-- The task stays gone. -/
theorem Step.worker_ended (step : Step state event next) (isOver : state.worker = .ended) :
    next.worker = .ended := by
  cases step with
  | received waiting | broke waiting | cancelledReceiving waiting => cases waiting.symm.trans isOver
  | published publishing | cancelledPublishing publishing => cases publishing.symm.trans isOver
  | closed dropping => cases dropping.symm.trans isOver
  | drained draining => cases draining.symm.trans isOver
  | ended => rfl
  | _ => exact isOver

/-- A step that leaves no handle either found none or deletes the last one. -/
theorem Step.handles_eq_nil (step : Step state event next) (gone : next.handles = []) :
    state.handles = [] ∨ ∃ handle, event = .delete handle ∧ state.handles = [handle] := by
  cases step with
  | clone => cases gone
  | @delete handle live idle =>
      refine .inr ⟨handle, rfl, ?_⟩
      have length := List.length_erase_of_mem live
      have none : (state.handles.erase handle).length = 0 := List.length_eq_zero_iff.mpr gone
      have positive := List.length_pos_of_mem live
      obtain ⟨only, single⟩ := List.length_eq_one_iff.mp (show state.handles.length = 1 by omega)
      rw [single] at live
      rw [single, List.mem_singleton.mp live]
  | _ => exact .inl gone

section Runs

variable {name : CString} {capacity : Nat} {init last : State}

/-- All along a run no sending half outlives the handles exactly when the last handle is
deleted after the worker task is gone. -/
theorem orphaned_iff_deletesLate (created : withCapacity name capacity = some init)
    {events : List Event} (run : (system init).run events = some last) :
    (system init).Always Orphaned init events ↔ (system init).Meets DeletesLate init events := by
  refine System.always_iff_meets (M := system init)
    (fun state => Retains state ∧ (state.handles = [] → state.worker = .ended))
    ?_ ?_ ?_ ⟨withCapacity_retains created, fun gone => ?_⟩ run
  · intro state ⟨retains, isOver⟩ gone
    refine ⟨(retains.senders_eq_zero_iff gone).mpr (isOver gone), fun waiting => ?_⟩
    cases waiting.symm.trans (isOver gone)
  · intro state event next ⟨retains, isOver⟩ late taken
    have step := step_cases taken
    refine ⟨step.retains retains, fun gone => step.worker_ended ?_⟩
    rcases step.handles_eq_nil gone with before | ⟨handle, rfl, single⟩
    · exact isOver before
    · exact late handle rfl single
  · intro state event next ⟨retains, _⟩ early taken orphaned
    unfold DeletesLate at early
    push Not at early
    obtain ⟨handle, rfl, single, running⟩ := early
    have step : Step state (.delete handle) next := step_cases taken
    have after := step.retains retains
    cases step with
    | delete live idle =>
        have gone : state.handles.erase handle = [] := by
          rw [single, List.erase_cons_head]
        exact running ((after.senders_eq_zero_iff gone).mp (orphaned gone).1)
  · unfold withCapacity at created
    obtain ⟨sem, _, rfl⟩ := Option.map_eq_some_iff.mp created
    cases gone

/-- The only handle is deleted while the worker waits: the sending half stays. -/
theorem not_orphaned_of_delete :
    ∃ init, withCapacity ⟨[0x74], by decide⟩ 1 = some init ∧
      ¬ ∀ state, (system init).Reachable state → Orphaned state := by
  have evaluated :
      ((withCapacity ⟨[0x74], by decide⟩ 1).bind fun init =>
        ((system init).run [.delete 0]).map fun state =>
          (state.handles, state.channel.senders)) = some ([], 1) := by decide
  obtain ⟨init, created, ran⟩ := Option.bind_eq_some_iff.mp evaluated
  obtain ⟨state, run, values⟩ := Option.map_eq_some_iff.mp ran
  simp only [Prod.mk.injEq] at values
  refine ⟨init, created, fun always => ?_⟩
  have gone := (always state ⟨_, run⟩ values.1).1
  rw [values.2] at gone
  cases gone

/-- A publish fails, the task unwinds, and the handles are deleted after it. -/
theorem orphaned_iff_deletesLate_of_panic :
    ∃ init state, withCapacity ⟨[0x74], by decide⟩ 1 = some init ∧
      (system init).run
        [.clone 0 1, .enter 0 1 .trySend none [1], .acquire 0, .build 0, .sendToChannel 0, .recv,
          .publishDone false, .delete 0, .closeReceiver, .drain, .delete 1] = some state ∧
      (state.handles, state.channel.senders) = ([], 0) ∧
      ((system init).Always Orphaned init
          [.clone 0 1, .enter 0 1 .trySend none [1], .acquire 0, .build 0, .sendToChannel 0, .recv,
            .publishDone false, .delete 0, .closeReceiver, .drain, .delete 1] ↔
        (system init).Meets DeletesLate init
          [.clone 0 1, .enter 0 1 .trySend none [1], .acquire 0, .build 0, .sendToChannel 0, .recv,
            .publishDone false, .delete 0, .closeReceiver, .drain, .delete 1]) := by
  have evaluated :
      ((withCapacity ⟨[0x74], by decide⟩ 1).bind fun init =>
        ((system init).run
          [.clone 0 1, .enter 0 1 .trySend none [1], .acquire 0, .build 0, .sendToChannel 0, .recv,
            .publishDone false, .delete 0, .closeReceiver, .drain, .delete 1]).map fun state =>
              (state.handles, state.channel.senders)) = some ([], 0) := by decide
  obtain ⟨init, created, ran⟩ := Option.bind_eq_some_iff.mp evaluated
  obtain ⟨state, run, values⟩ := Option.map_eq_some_iff.mp ran
  exact ⟨init, state, created, run, values, orphaned_iff_deletesLate created run⟩

/-- In every run the worker leaves its loop only through a failure or the end of the runtime. -/
theorem recv_of_reachable (created : withCapacity name capacity = some init)
    (reached : (system init).Reachable state) (waiting : state.worker = .receiving) :
    state.channel.tryRecv ≠ .disconnected := by
  have retains : Retains state := System.Reachable.induction (withCapacity_retains created)
    (fun _ _ _ _ retains taken => (step_cases taken).retains retains) reached
  exact retains.recv_of_receiving waiting

end Runs

end AsyncNats.NamedSender
