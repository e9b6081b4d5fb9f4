import AsyncNats.NamedReceiver.End

/-! # Receiving with a callback

`async_nats_subscribtion_receive_async` spawns a task that calls `pop` and passes what it returns
to its callback; a missing message is a null pointer. `pop` unsubscribes when it has taken a
cancel, and panics when the client's unsubscribe fails. The task is gone then, and its callback
with it; in a release build the process aborts. The worker of a nonblocking receiver ends in
the same way.
-/

namespace AsyncNats.Subscribtion

open Sync Transition

abbrev Context := Nat

/-- The task of a receive: not yet run, in `pop`, or with the value that `pop` has returned. -/
inductive Task (Msg : Type) where
  | spawned (d : Context)
  | popping (d : Context)
  | popped (d : Context) (res : Option Msg)
  deriving DecidableEq

/-- The context pointer of the task's callback. -/
def Task.context {Msg : Type} : Task Msg → Context
  | .spawned d | .popping d | .popped d _ => d

/-- The value that the task has not passed on yet. -/
def Task.result {Msg : Type} : Task Msg → Option (Option Msg)
  | .spawned _ | .popping _ => none
  | .popped _ res => some res

/-- A subscription with the receive in progress. From `received` on the fields are history: the
receives in their order, the invocations of their callbacks, and the callbacks that a panic
has dropped. -/
structure Receives (capacity : Option Nat) (Msg : Type) where
  sub : State capacity Msg
  task : Option (Task Msg)
  received : List Context
  calls : List (Context × Option Msg)
  dropped : List Context

variable {capacity : Option Nat} {Msg : Type}

namespace Receives

def init (capacity : Option Nat) (Msg : Type) : Receives capacity Msg where
  sub := new capacity Msg
  task := none
  received := []
  calls := []
  dropped := []

/-- `async_nats_subscribtion_receive_async`. A subscription is not thread safe: there is one
receive at a time. -/
def receiveAsync (state : Receives capacity Msg) (d : Context) : Option (Receives capacity Msg) :=
  match state.task with
  | none => some { state with task := some (.spawned d), received := state.received ++ [d] }
  | some _ => none

/-- The task goes on after a step of its `pop` call, which may have returned or panicked. -/
def resume (state : Receives capacity Msg) (d : Context) (sub : State capacity Msg) :
    Receives capacity Msg :=
  match state.sub.popResult sub with
  | some res => { state with sub, task := some (.popped d res) }
  | none =>
      if sub.panics = state.sub.panics then { state with sub, task := some (.popping d) }
      else { state with sub, task := none, dropped := state.dropped ++ [d] }

/-- A step of the subscription. Only the task that has nothing to pass on calls `pop`. -/
def subscribtion (state : Receives capacity Msg) (event : Event Msg) :
    Option (Receives capacity Msg) :=
  match event.caller with
  | .pop =>
    match state.task with
    | some (.spawned d) | some (.popping d) => (step state.sub event).map (state.resume d)
    | _ => none
  | .handle | .outside => (step state.sub event).map fun sub => { state with sub }

/-- The task invokes its callback, with the message in a box or a null pointer. -/
def report (state : Receives capacity Msg) : Option (Receives capacity Msg) :=
  match state.task with
  | some (.popped d res) => some { state with task := none, calls := state.calls ++ [(d, res)] }
  | _ => none

end Receives

/-- One step of the application, of the subscription or of the task. -/
inductive ReceiveEvent (Msg : Type) where
  | receiveAsync (d : Context)
  | subscribtion (event : Event Msg)
  | report

/-- All interleavings of receives, arrivals, cancels and the client's answers. -/
def receives (capacity : Option Nat) (Msg : Type) :
    System (Receives capacity Msg) (ReceiveEvent Msg) where
  init := Receives.init capacity Msg
  step := fun state event =>
    match event with
    | .receiveAsync d => state.receiveAsync d
    | .subscribtion event => state.subscribtion event
    | .report => state.report

namespace Receives

variable {state next : Receives capacity Msg}

@[simp] theorem resume_sub (state : Receives capacity Msg) (d : Context)
    (sub : State capacity Msg) :
    (state.resume d sub).sub = sub := by
  unfold resume
  split
  · rfl
  · split <;> rfl

/-- A step of the subscription is one of the task in its `pop`, or one that no task takes. -/
theorem subscribtion_cases {event : Event Msg} (taken : state.subscribtion event = some next) :
    ∃ sub, Step state.sub event sub ∧
      ((∃ task, state.task = some task ∧ task.result = none ∧
          next = state.resume task.context sub) ∨
        (event.caller ≠ .pop ∧ next = { state with sub })) := by
  unfold subscribtion at taken
  cases caller : event.caller with
  | pop =>
      simp only [caller] at taken
      split at taken
      · next d running =>
          obtain ⟨sub, stepped, rfl⟩ := Option.map_eq_some_iff.mp taken
          exact ⟨sub, step_cases stepped, .inl ⟨.spawned d, running, rfl, rfl⟩⟩
      · next d running =>
          obtain ⟨sub, stepped, rfl⟩ := Option.map_eq_some_iff.mp taken
          exact ⟨sub, step_cases stepped, .inl ⟨.popping d, running, rfl, rfl⟩⟩
      · cases taken
  | handle | outside =>
      simp only [caller] at taken
      obtain ⟨sub, stepped, rfl⟩ := Option.map_eq_some_iff.mp taken
      exact ⟨sub, step_cases stepped, .inr ⟨Caller.noConfusion, rfl⟩⟩

end Receives

/-- Each receive is in progress, or its callback was invoked once, in their order, with what
`pop` returned. -/
structure Answering (state : Receives capacity Msg) : Prop where
  panics : state.sub.panics = 0
  dropped : state.dropped = []
  answered : state.calls.map Prod.fst ++ state.task.toList.map Task.context = state.received
  values : state.calls.map Prod.snd ++ (state.task.bind Task.result).toList = state.sub.returned

/-- Only a failed unsubscribe panics. -/
theorem Step.panics {before after : State capacity Msg} {event : Event Msg}
    (step : Step before event after) (succeeds : event ≠ .unsubscribed false) :
    after.panics = before.panics := by
  cases step with
  | panicked => exact (succeeds rfl).elim
  | _ => rfl

/-- A failed unsubscribe does. -/
theorem Step.panics_of_failed {before after : State capacity Msg}
    (step : Step before (.unsubscribed false) after) : after.panics = before.panics + 1 := by
  cases step with
  | panicked => rfl

/-- An unsubscribe of `pop` succeeds. -/
def UnsubscribesOk (_ : Receives capacity Msg) (event : ReceiveEvent Msg) : Prop :=
  event ≠ .subscribtion (.unsubscribed false)

namespace Answering

variable {state next : Receives capacity Msg}

theorem init (capacity : Option Nat) (Msg : Type) : Answering (Receives.init capacity Msg) :=
  ⟨rfl, rfl, rfl, rfl⟩

theorem receiveAsync {d : Context} (answering : Answering state)
    (taken : state.receiveAsync d = some next) : Answering next := by
  obtain ⟨panics, dropped, answered, values⟩ := answering
  unfold Receives.receiveAsync at taken
  split at taken
  · next free =>
      cases taken
      rw [free] at answered values
      refine ⟨panics, dropped, ?_, values⟩
      rw [← answered, Option.toList_none, List.map_nil, List.append_nil]
      rfl
  · cases taken

theorem report (answering : Answering state) (taken : state.report = some next) :
    Answering next := by
  obtain ⟨panics, dropped, answered, values⟩ := answering
  unfold Receives.report at taken
  split at taken
  · next d res popped =>
      cases taken
      rw [popped] at answered values
      refine ⟨panics, dropped, ?_, ?_⟩
      · rw [List.map_append, List.append_assoc]
        exact answered
      · rw [List.map_append, List.append_assoc]
        exact values
  · cases taken

/-- The task goes on, unless its `pop` panics. -/
theorem resume {sub : State capacity Msg} {event : Event Msg} {task : Task Msg}
    (answering : Answering state) (running : state.task = some task)
    (pending : task.result = none) (taken : Step state.sub event sub)
    (succeeds : event ≠ .unsubscribed false) : Answering (state.resume task.context sub) := by
  obtain ⟨panics, dropped, answered, values⟩ := answering
  rw [running] at answered values
  change _ ++ [task.context] = _ at answered
  change _ ++ task.result.toList = _ at values
  rw [pending] at values
  have same := taken.panics succeeds
  have returns : ∀ res, sub.returned = state.sub.returned ++ [res] →
      Answering (state.resume task.context sub) := by
    intro res returned
    rw [Receives.resume, State.popResult_of_append returned]
    refine ⟨same.trans panics, dropped, answered, ?_⟩
    rw [returned, ← values, Option.toList_none, List.append_nil]
    rfl
  cases taken.adds with
  | nothing returned =>
      rw [Receives.resume, State.popResult_of_same returned]
      simp only [same, ↓reduceIte]
      exact ⟨same.trans panics, dropped, answered, values.trans returned.symm⟩
  | message head returned => exact returns (some head) returned
  | none returned => exact returns none returned
  | panic => exact (succeeds rfl).elim

/-- Steps outside of `pop` return nothing from it. -/
theorem others {sub : State capacity Msg} {event : Event Msg} (answering : Answering state)
    (taken : Step state.sub event sub) (succeeds : event ≠ .unsubscribed false)
    (apart : event.caller ≠ .pop) : Answering { state with sub } := by
  have returned : sub.returned = state.sub.returned := by
    cases taken.adds with
    | nothing returned => exact returned
    | message | none | panic => exact (apart rfl).elim
  exact ⟨(taken.panics succeeds).trans answering.panics, answering.dropped, answering.answered,
    answering.values.trans returned.symm⟩

theorem subscribtion {event : Event Msg} (answering : Answering state)
    (succeeds : event ≠ .unsubscribed false) (taken : state.subscribtion event = some next) :
    Answering next := by
  obtain ⟨sub, step, ⟨task, running, pending, rfl⟩ | ⟨apart, rfl⟩⟩ :=
    Receives.subscribtion_cases taken
  · exact answering.resume running pending step succeeds
  · exact answering.others step succeeds apart

theorem step {event : ReceiveEvent Msg} (answering : Answering state)
    (succeeds : UnsubscribesOk state event)
    (taken : (receives capacity Msg).step state event = some next) : Answering next := by
  cases event with
  | receiveAsync d => exact answering.receiveAsync taken
  | subscribtion event =>
      exact answering.subscribtion (fun same => succeeds (congrArg _ same)) taken
  | report => exact answering.report taken

end Answering

/-- A failed unsubscribe is a panic of the task. -/
theorem panics_of_failed {state next : Receives capacity Msg}
    (taken : state.subscribtion (.unsubscribed false) = some next) :
    next.sub.panics = state.sub.panics + 1 := by
  obtain ⟨sub, step, ⟨task, _, _, rfl⟩ | ⟨_, rfl⟩⟩ := Receives.subscribtion_cases taken
  · rw [Receives.resume_sub, step.panics_of_failed]
  · exact step.panics_of_failed

/-- Every receive is answered: no `pop` has panicked, no callback was dropped, each receive is in
progress or its callback was invoked once with what `pop` returned, and a task with a value
can always pass it on. -/
structure Completes (state : Receives capacity Msg) : Prop extends Answering state where
  passes : ∀ d res, state.task = some (.popped d res) →
    (receives capacity Msg).step state .report =
      some { state with task := none, calls := state.calls ++ [(d, res)] }

theorem Answering.completes {state : Receives capacity Msg} (answering : Answering state) :
    Completes state where
  toAnswering := answering
  passes := fun d res popped => by
    change state.report = _
    rw [Receives.report, popped]

end AsyncNats.Subscribtion

namespace AsyncNats.NamedReceiver

open Sync Transition

variable {buffering : Option Nat} {capacity : Nat} {Msg : Type}

/-- The worker leaves its loop only when `pop` returns `None`, or with the runtime. -/
def LeavesByReturn (state : State buffering capacity Msg) (event : Event Msg) : Prop :=
  ∀ next, step state event = some next → next.worker.left = true → state.worker.left = false →
    state.sub.popResult next.sub = some none ∨ event = .runtimeDelete

/-- An unsubscribe of the worker's `pop` succeeds. -/
def UnsubscribesOk (_ : State buffering capacity Msg) (event : Event Msg) : Prop :=
  event ≠ .subscribtion (.unsubscribed false)

variable {state next : State buffering capacity Msg} {event : Event Msg}

/-- The worker panics in the step in which the unsubscribe fails. -/
theorem leavesByReturn_iff (taken : step state event = some next) :
    LeavesByReturn state event ↔ UnsubscribesOk state event := by
  constructor
  · rintro leaves rfl
    have leaves := leaves next taken
    unfold step State.subscribtion at taken
    simp only [Subscribtion.Event.caller] at taken
    cases popping : state.worker with
    | popping =>
        simp only [popping] at taken
        obtain ⟨sub, stepped, rfl⟩ := Option.map_eq_some_iff.mp taken
        have panicked := Subscribtion.step_cases stepped
        have grown : sub.panics ≠ state.sub.panics := by
          rw [panicked.panics_of_failed]
          exact Nat.succ_ne_self _
        cases panicked.adds with
        | nothing returned same => exact grown same
        | panic returned =>
            have nothing := Subscribtion.State.popResult_of_same returned
            have resumed : state.resume sub = { state with sub, worker := .ending } := by
              rw [State.resume, nothing]
              simp only [grown, ↓reduceIte]
            rw [resumed, popping] at leaves
            rcases leaves rfl rfl with ended | deleted
            · cases nothing.symm.trans ended
            · cases deleted
    | _ => simp only [popping, reduceCtorEq] at taken
  · intro succeeds after taken left stays
    cases step_cases taken with
    | sawEnd step popping returned =>
        exact .inl (Subscribtion.State.popResult_of_append returned)
    | panicked => exact (succeeds rfl).elim
    | runtimeDelete => exact .inr rfl
    | popped | stored | rejected | passed => cases left
    | dropSubscribtion ending | dropSender ending =>
        rw [ending] at stays
        cases stays
    | subscribtion | clone | delete | recvStart | received | disconnected | tryReceived
    | tryEmpty => cases stays.symm.trans left

end AsyncNats.NamedReceiver

namespace AsyncNats.Subscribtion

open Sync Transition

variable {capacity : Option Nat} {Msg : Type}

theorem completes_iff_unsubscribesOk {events : List (ReceiveEvent Msg)}
    {last : Receives capacity Msg} (run : (receives capacity Msg).run events = some last) :
    (receives capacity Msg).Always Completes (Receives.init capacity Msg) events ↔
      (receives capacity Msg).Meets UnsubscribesOk (Receives.init capacity Msg) events := by
  refine System.always_iff_meets (M := receives capacity Msg) Answering
    (fun _ => Answering.completes) (fun _ _ _ answering succeeds taken =>
      answering.step succeeds taken) ?_ (Answering.init capacity Msg) run
  intro state event next answering fails taken completes
  unfold UnsubscribesOk at fails
  push Not at fails
  subst fails
  have panics := panics_of_failed taken
  rw [completes.panics] at panics
  cases panics

/-- Every receive is answered, and the worker of a receiver ends by its return, exactly when
every unsubscribe that a `pop` makes succeeds. -/
theorem answers_iff_unsubscribesOk (capacity : Option Nat) (Msg : Type) :
    (∀ (events : List (ReceiveEvent Msg)) (last : Receives capacity Msg),
      (receives capacity Msg).run events = some last →
        ((receives capacity Msg).Always Completes (Receives.init capacity Msg) events ↔
          (receives capacity Msg).Meets UnsubscribesOk (Receives.init capacity Msg) events)) ∧
    ∀ (sub : State capacity Msg) (slots : Nat) (events : List (NamedReceiver.Event Msg))
      (last : NamedReceiver.State capacity slots Msg),
      (NamedReceiver.system sub slots).run events = some last →
        ((NamedReceiver.system sub slots).Meets NamedReceiver.LeavesByReturn
            (NamedReceiver.new sub slots) events ↔
          (NamedReceiver.system sub slots).Meets NamedReceiver.UnsubscribesOk
            (NamedReceiver.new sub slots) events) :=
  ⟨fun _ _ run => completes_iff_unsubscribesOk run, fun _ _ _ _ run =>
    System.meets_congr (fun _ _ _ taken => NamedReceiver.leavesByReturn_iff taken) run⟩

/-- A receive waits, the subscription is cancelled, and the client cannot unsubscribe. -/
theorem not_completes_of_cancel :
    ¬ ∀ (events : List (ReceiveEvent Nat)) (last : Receives none Nat),
      (receives none Nat).run events = some last →
        (receives none Nat).Always Completes (Receives.init none Nat) events := by
  intro always
  have evaluated : ((receives none Nat).run
      [.subscribtion (.getCancellationToken 0), .receiveAsync 7, .subscribtion .popStart,
        .subscribtion .pollNext, .subscribtion (.tokenCancel 0), .subscribtion .pollShutdown,
        .subscribtion (.unsubscribed false)]).map (fun state => (state.dropped, state.calls)) =
      some ([7], []) := by decide
  obtain ⟨last, run, values⟩ := Option.map_eq_some_iff.mp evaluated
  have completes := (always _ last run).last run
  rw [completes.dropped] at values
  cases values

/-- A message, a cancel that succeeds, and the end. -/
def messageAndEnd : List (ReceiveEvent Nat) :=
  [.subscribtion (.getCancellationToken 0), .receiveAsync 7, .subscribtion (.arrive 5),
    .subscribtion .popStart, .subscribtion .pollNext, .report, .receiveAsync 8,
    .subscribtion .popStart, .subscribtion .pollNext, .subscribtion (.tokenCancel 0),
    .subscribtion .pollShutdown, .subscribtion (.unsubscribed true), .subscribtion .pollNext,
    .report]

theorem answers_iff_unsubscribesOk_of_messageAndEnd :
    ∃ last, (receives none Nat).run messageAndEnd = some last ∧
      last.calls = [(7, some 5), (8, none)] ∧
      ((receives none Nat).Always Completes (Receives.init none Nat) messageAndEnd ↔
        (receives none Nat).Meets UnsubscribesOk (Receives.init none Nat) messageAndEnd) := by
  have evaluated : ((receives none Nat).run messageAndEnd).map Receives.calls =
      some [(7, some 5), (8, none)] := by decide
  obtain ⟨last, run, calls⟩ := Option.map_eq_some_iff.mp evaluated
  exact ⟨last, run, calls, (answers_iff_unsubscribesOk none Nat).1 messageAndEnd last run⟩

end AsyncNats.Subscribtion
