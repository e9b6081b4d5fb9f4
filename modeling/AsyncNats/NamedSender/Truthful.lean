import AsyncNats.NamedSender.Calls

/-! # What `try_send` reports

`try_send` reports success after its channel send whatever the channel answered.
Its answers are right as long as the channel is open when it sends, and wrong as
soon as it sends to a channel the worker task has dropped.
-/

namespace AsyncNats.NamedSender

open Sync Transition

/-- Every result that was returned says whether the call's message was put on the
queue. -/
def Truthful (state : State) : Prop :=
  ∀ call result, (call, result) ∈ state.returned → (result = true ↔ call ∈ state.accepted)

/-- A `try_send` call that goes to its channel send finds the channel open. -/
def SendsToOpen (state : State) (event : Event) : Prop :=
  ∀ thread pending, event = .sendToChannel thread → state.calls.lookup thread = some pending →
    pending.entry = .trySend → state.channel.closed = false

/-- Results stay returned, and their calls are not accepted later. -/
structure Settles (before after : State) : Prop where
  kept : ∀ result ∈ before.returned, result ∈ after.returned
  settled : ∀ result ∈ before.returned, result.1 ∈ after.accepted → result.1 ∈ before.accepted

variable {state next last : State} {event : Event}

theorem Settles.refl (state : State) : Settles state state :=
  ⟨fun _ member => member, fun _ _ member => member⟩

theorem Settles.trans {first second third : State} (left : Settles first second)
    (right : Settles second third) : Settles first third where
  kept := fun result member => right.kept result (left.kept result member)
  settled := fun result member accepted =>
    left.settled result member (right.settled result (left.kept result member) accepted)

/-- A step that adds results and accepts nothing. -/
theorem Settles.of_returned {results : List (Call × Bool)}
    (returned : next.returned = state.returned ++ results)
    (accepted : next.accepted = state.accepted) : Settles state next where
  kept := fun result member => by rw [returned]; exact List.mem_append_left _ member
  settled := fun result _ member => accepted ▸ member

theorem Step.settles (step : Step state event next) (ok : state.CallsOk) :
    Settles state next := by
  cases step with
  | @sent thread pending message calling stage opened =>
      refine ⟨fun result member => List.mem_append_left _ member,
        fun result member accepted => ?_⟩
      rcases List.mem_append.mp accepted with before | now
      · exact before
      · exact ((ok.rows thread pending calling).unreturned result member
          (List.mem_singleton.mp now)).elim
  | refused | discarded => exact .of_returned rfl rfl
  | clone | delete | enter | acquired | unpermitted | build | received | broke | published
  | cancelledReceiving | cancelledPublishing | alreadyOver | closed | drained | ended =>
      exact .of_returned (List.append_nil _).symm rfl

/-- A call in progress has not been accepted. -/
theorem State.CallsOk.not_accepted (ok : state.CallsOk) {thread : ThreadId} {pending : Pending}
    (calling : state.calls.lookup thread = some pending) : pending.call ∉ state.accepted := by
  have row := ok.rows thread pending calling
  exact fun member => Nat.lt_irrefl _ (row.later pending.call member row.thread_eq)

/-- What was returned before a step is as right after it as it was before. -/
theorem Settles.truthful (settles : Settles state next)
    (growing : ∀ call ∈ state.accepted, call ∈ next.accepted) (truthful : Truthful state)
    {call : Call} {result : Bool} (member : (call, result) ∈ state.returned) :
    result = true ↔ call ∈ next.accepted :=
  (truthful call result member).trans ⟨growing call, settles.settled _ member⟩

/-- A step that sends to an open channel, if it sends, keeps all results right. -/
theorem Step.truthful (step : Step state event next) (ok : state.CallsOk)
    (sends : SendsToOpen state event) (truthful : Truthful state) : Truthful next := by
  have settles := step.settles ok
  cases step with
  | @refused thread pending calling stage entry exhausted =>
      intro call result member
      rcases List.mem_append.mp member with before | now
      · exact truthful call result before
      · cases List.mem_singleton.mp now
        exact iff_of_false Bool.false_ne_true (ok.not_accepted calling)
  | @sent thread pending message calling stage opened =>
      intro call result member
      rcases List.mem_append.mp member with before | now
      · exact settles.truthful (fun _ accepted => List.mem_append_left _ accepted) truthful before
      · unfold State.report at now
        cases entry : pending.entry with
        | send =>
            rw [entry] at now
            cases now
        | trySend =>
            rw [entry] at now
            cases List.mem_singleton.mp now
            exact iff_of_true rfl (List.mem_append_right _ List.mem_cons_self)
  | @discarded thread pending message calling stage closed =>
      intro call result member
      rcases List.mem_append.mp member with before | now
      · exact truthful call result before
      · unfold State.report at now
        cases entry : pending.entry with
        | send =>
            rw [entry] at now
            cases now
        | trySend =>
            have opened := sends thread pending rfl calling entry
            rw [closed] at opened
            cases opened
  | clone | delete | enter | acquired | unpermitted | build | received | broke | published
  | cancelledReceiving | cancelledPublishing | alreadyOver | closed | drained | ended =>
      exact truthful

/-- After a `try_send` call has sent to a closed channel its result is wrong. -/
theorem Step.untruthful (step : Step state event next) (ok : state.CallsOk)
    (wrong : ¬ SendsToOpen state event) :
    ∃ call, (call, true) ∈ next.returned ∧ call ∉ next.accepted := by
  unfold SendsToOpen at wrong
  push Not at wrong
  obtain ⟨thread, pending, rfl, calling, entry, closed⟩ := wrong
  have report : State.report pending = [(pending.call, true)] := by
    simp only [State.report, entry]
  cases step with
  | @sent _ other message found stage opened => exact (closed opened).elim
  | @discarded _ other message found stage _ =>
      cases calling.symm.trans found
      refine ⟨pending.call, ?_, ok.not_accepted calling⟩
      rw [report]
      exact List.mem_append_right _ List.mem_cons_self

section Runs

variable {name : CString} {capacity : Nat} {init : State}

/-- What a run has returned and accepted stays as it is in the rest of the run. -/
theorem settles_of_runFrom (created : withCapacity name capacity = some init)
    (reached : (system init).Reachable state) {events : List Event}
    (run : (system init).runFrom state events = some last) : Settles state last :=
  System.runFrom_relation Settles.refl (fun _ _ _ => Settles.trans)
    (fun _ _ _ reached taken => (step_cases taken).settles (callsOk_of_reachable created reached))
    reached run

/-- A run that ends with right results has sent to open channels only. -/
theorem meets_of_truthful (created : withCapacity name capacity = some init)
    (truthful : Truthful last) (reached : (system init).Reachable state) {events : List Event}
    (run : (system init).runFrom state events = some last) :
    (system init).Meets SendsToOpen state events := by
  induction events generalizing state with
  | nil => trivial
  | cons event rest ih =>
      obtain ⟨next, taken, tail⟩ := (system init).runFrom_cons_eq_some.mp run
      refine ⟨?_, fun other step => ?_⟩
      · by_contra wrong
        obtain ⟨call, returned, lost⟩ :=
          (step_cases taken).untruthful (callsOk_of_reachable created reached) wrong
        have settles := settles_of_runFrom created (reached.step taken) tail
        have accepted := (truthful call true (settles.kept _ returned)).mp rfl
        exact lost (settles.settled _ returned accepted)
      · cases taken.symm.trans step
        exact ih (reached.step taken) tail

/-- In every run the results of `try_send` are right exactly when each of its
channel sends met an open channel. -/
theorem truthful_iff_sendsToOpen (created : withCapacity name capacity = some init)
    {events : List Event} (run : (system init).run events = some last) :
    Truthful last ↔ (system init).Meets SendsToOpen init events := by
  constructor
  · intro truthful
    exact meets_of_truthful created truthful .init run
  · intro meets
    have kept : ∀ state event next, (system init).Reachable state → SendsToOpen state event →
        Truthful state → (system init).step state event = some next → Truthful next :=
      fun state event next reached sends truthful taken =>
        (step_cases taken).truthful (callsOk_of_reachable created reached) sends truthful
    refine System.meets_induction (motive := Truthful) kept .init ?_ meets run
    unfold withCapacity at created
    obtain ⟨sem, _, rfl⟩ := Option.map_eq_some_iff.mp created
    intro call result member
    cases member

/-- The runtime is deleted, its task drops the receiver, and `try_send` still
reports success for a message that the channel refused. -/
theorem untruthful_after_runtimeDelete :
    ∃ init, withCapacity ⟨[0x74], by decide⟩ 1 = some init ∧
      ¬ ∀ state, (system init).Reachable state → Truthful state := by
  have evaluated :
      ((withCapacity ⟨[0x74], by decide⟩ 1).bind fun init =>
        ((system init).run
          [.runtimeDelete, .closeReceiver, .drain, .enter 0 0 .trySend none [1], .acquire 0,
            .build 0, .sendToChannel 0]).map fun state => (state.returned, state.accepted)) =
        some ([(⟨0, 0, none, [1]⟩, true)], []) := by decide
  obtain ⟨init, created, ran⟩ := Option.bind_eq_some_iff.mp evaluated
  obtain ⟨state, run, values⟩ := Option.map_eq_some_iff.mp ran
  simp only [Prod.mk.injEq] at values
  refine ⟨init, created, fun always => ?_⟩
  have truthful := always state ⟨_, run⟩ ⟨0, 0, none, [1]⟩ true
  rw [values.1, values.2] at truthful
  exact List.not_mem_nil ((truthful List.mem_cons_self).mp rfl)

/-- In a run that keeps the runtime the condition is met, and the result is
right. -/
theorem truthful_iff_sendsToOpen_of_delivery :
    ∃ init state, withCapacity ⟨[0x74], by decide⟩ 1 = some init ∧
      (system init).run
        [.enter 0 0 .trySend none [1], .acquire 0, .build 0, .sendToChannel 0] = some state ∧
      state.returned = [(⟨0, 0, none, [1]⟩, true)] ∧
      (Truthful state ↔ (system init).Meets SendsToOpen init
        [.enter 0 0 .trySend none [1], .acquire 0, .build 0, .sendToChannel 0]) := by
  have evaluated :
      ((withCapacity ⟨[0x74], by decide⟩ 1).bind fun init =>
        ((system init).run
          [.enter 0 0 .trySend none [1], .acquire 0, .build 0, .sendToChannel 0]).map
            State.returned) = some [(⟨0, 0, none, [1]⟩, true)] := by decide
  obtain ⟨init, created, ran⟩ := Option.bind_eq_some_iff.mp evaluated
  obtain ⟨state, run, returned⟩ := Option.map_eq_some_iff.mp ran
  exact ⟨init, state, created, run, returned, truthful_iff_sendsToOpen created run⟩

end Runs

end AsyncNats.NamedSender
