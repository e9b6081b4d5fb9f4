import AsyncNats.NamedReceiver.End

/-! # When nobody can receive any more

With the last receiver the channel is closed, and the worker's next `try_send` says so. The
worker ignores both errors of `try_send` alike and goes back to `pop`: it keeps the
subscription and takes every message that the server still sends.
-/

namespace AsyncNats.Subscribtion

open Sync

variable {buffering : Option Nat} {Msg : Type} {before after : State buffering Msg}
  {event : Event Msg}

/-- A step that returns a message ends its `pop` call. -/
theorem Step.idle_of_delivered (step : Step before event after) {message : Msg}
    (delivered : after.delivered = before.delivered ++ [message]) : after.pop = .idle := by
  cases step with
  | returnedMessage | returnedNone | panicked => rfl
  | _ =>
      have lengths := congrArg List.length delivered
      rw [List.length_append, List.length_singleton] at lengths
      exact absurd lengths (Nat.ne_of_lt (Nat.lt_succ_self _))

/-- Somebody else's step leaves the `pop` call alone. -/
theorem Step.pop_of_outside (step : Step before event after) (outside : event.caller = .outside) :
    after.pop = before.pop := by
  cases step with
  | arrived | lost | endOfStream | tokenClone | tokenDelete | signalled | ignored => rfl
  | _ => cases outside

/-- A message for an open stream leaves something in the buffer, itself or what filled it. -/
theorem State.arrive_of_not_over (open_ : ¬ before.Over) (slots : ∀ bound ∈ buffering, 0 < bound)
    (message : Msg) :
    ∃ after head rest, before.arrive message = some after ∧ after.sub.queue = head :: rest ∧
      after.pop = before.pop ∧ ¬ after.Over := by
  unfold State.Over at open_
  rw [not_or, Bool.not_eq_true] at open_
  obtain ⟨opened, fed⟩ := open_
  unfold State.arrive
  rw [if_neg fed]
  by_cases room : before.sub.Room
  · rw [Channel.trySend_of_room opened room]
    obtain ⟨head, rest, queue⟩ := List.exists_cons_of_ne_nil
      (List.append_ne_nil_of_right_ne_nil before.sub.queue (List.cons_ne_nil message []))
    refine ⟨_, head, rest, rfl, queue, rfl, ?_⟩
    rintro (closed | ended)
    · exact Bool.false_ne_true (opened.symm.trans closed)
    · exact fed ended
  · have full : before.sub.queue ≠ [] := by
      intro empty
      apply room
      intro bound member
      rw [empty]
      exact slots bound member
    obtain ⟨head, rest, queue⟩ := List.exists_cons_of_ne_nil full
    refine ⟨before, head, rest, ?_, queue, rfl, ?_⟩
    · cases sent : before.sub.trySend message with
      | ok sub => exact absurd (Channel.trySend_eq_ok.mp sent).2.1 room
      | error => rfl
    · rintro (closed | ended)
      · exact Bool.false_ne_true (opened.symm.trans closed)
      · exact fed ended

end AsyncNats.Subscribtion

namespace AsyncNats.NamedReceiver

open Sync Transition

variable {buffering : Option Nat} {capacity : Nat} {Msg : Type}
  {state next : State buffering capacity Msg} {event : Event Msg}

/-- Without receivers the channel is closed, and a worker that holds a message is in no `pop`
call. -/
structure Deserts (state : State buffering capacity Msg) : Prop where
  closed : state.receivers = [] → state.channel.closed = true
  idle : ∀ letter, state.worker = .holding letter → state.sub.pop = .idle

/-- A worker that holds a message takes no step of the subscription. -/
theorem pop_of_holding {event : Subscribtion.Event Msg} {letter : Letter Msg}
    (taken : state.subscribtion event = some next) (holding : state.worker = .holding letter) :
    next.sub.pop = state.sub.pop := by
  unfold State.subscribtion at taken
  cases caller : event.caller with
  | handle => simp only [caller, reduceCtorEq] at taken
  | pop => simp only [caller, holding, reduceCtorEq] at taken
  | outside =>
      simp only [caller, Option.map_eq_some_iff] at taken
      obtain ⟨sub, taken, rfl⟩ := taken
      exact (Subscribtion.step_cases taken).pop_of_outside caller

theorem Deserts.step (deserts : Deserts state) (taken : step state event = some next) :
    Deserts next := by
  cases step_cases taken with
  | subscribtion =>
      exact ⟨deserts.closed, fun letter holding =>
        (pop_of_holding taken holding).trans (deserts.idle letter holding)⟩
  | popped popped popping delivered =>
      exact ⟨deserts.closed, fun _ _ => popped.idle_of_delivered delivered⟩
  | sawEnd | panicked | stored | rejected | passed | dropSubscribtion | dropSender
  | runtimeDelete =>
      exact ⟨deserts.closed, fun _ holding => (by cases holding)⟩
  | clone => exact ⟨fun gone => (List.cons_ne_nil _ _ gone).elim, deserts.idle⟩
  | @delete receiver unused =>
      refine ⟨fun gone => ?_, deserts.idle⟩
      simp only [if_pos gone, Channel.close_closed]
  | recvStart | received | disconnected | tryReceived | tryEmpty =>
      exact ⟨deserts.closed, deserts.idle⟩

/-- The worker's next step ends the task, which gives the subscription up, and no message is
popped afterwards. -/
structure Stops (sub : Subscribtion.State buffering Msg)
    (state : State buffering capacity Msg) : Prop where
  ends : ∀ partner next, step state (.trySend partner) = some next → next.worker.left = true
  final : ∀ partner next events last, step state (.trySend partner) = some next →
    (system sub capacity).runFrom next events = some last → last.popped = next.popped

/-- A worker whose subscription goes on although nobody can receive. -/
structure Serves (state : State buffering capacity Msg) : Prop where
  worker : state.worker = .popping
  closed : state.channel.closed = true
  idle : state.sub.pop = .idle
  isOpen : ¬ state.sub.Over

/-- The server sends a message, and the worker pops one and cannot store it. -/
def serve (message : Msg) : List (Event Msg) :=
  [.subscribtion (.arrive message), .subscribtion .popStart, .subscribtion .pollNext,
    .trySend none]

section Runs

variable {sub : Subscribtion.State buffering Msg}

theorem popStart_of_idle (popping : state.worker = .popping) (idle : state.sub.pop = .idle) :
    step state (.subscribtion .popStart) = some { state with
      sub := { state.sub with pop := .atNext, armed := state.sub.cancelled } } := by
  simp only [step, State.subscribtion, Subscribtion.Event.caller, popping, Subscribtion.step,
    Subscribtion.State.popStart, idle, Option.map_some, State.resume,
    Subscribtion.State.popResult_of_same, ↓reduceIte]

theorem pollNext_of_queue (state : State buffering capacity Msg)
    (popping : state.worker = .popping) (polling : state.sub.pop = .atNext)
    {head : Msg} {rest : List Msg} (queue : state.sub.sub.queue = head :: rest) :
    step state (.subscribtion .pollNext) = some { state with
      sub := { state.sub with sub := state.sub.sub.advance }.popReturn (some head)
      worker := .holding ⟨state.popped.length, head⟩
      popped := state.popped ++ [⟨state.popped.length, head⟩] } := by
  have found : state.sub.sub.tryRecv = .message head state.sub.sub.advance :=
    Channel.tryRecv_eq_message.mpr ⟨by rw [queue, List.head?_cons], rfl⟩
  have polled : Subscribtion.step state.sub .pollNext =
      some ({ state.sub with sub := state.sub.sub.advance }.popReturn (some head)) := by
    simp only [Subscribtion.step, Subscribtion.State.pollNext, polling, found]
  have returned : state.sub.popResult
      ({ state.sub with sub := state.sub.sub.advance }.popReturn (some head)) =
        some (some head) := Subscribtion.State.popResult_of_append rfl
  simp only [step, State.subscribtion, Subscribtion.Event.caller, popping, polled,
    Option.map_some, State.resume, returned]

theorem trySend_of_closed (state : State buffering capacity Msg) {letter : Letter Msg}
    (holding : state.worker = .holding letter)
    (closed : state.channel.closed = true) :
    step state (.trySend none) = some { state with
      worker := .popping
      rejected := state.rejected ++ [⟨letter, state.channel.queue.length, true⟩] } := by
  simp only [step, State.trySend, holding, Channel.trySend, closed, ↓reduceIte]

variable (sub) in
/-- A `pop` call that finds a message in the buffer, and the `try_send` of what it returns. -/
theorem Serves.pop (serves : Serves state) {head : Msg} {rest : List Msg}
    (queue : state.sub.sub.queue = head :: rest) :
    ∃ last, (system sub capacity).runFrom state
        [.subscribtion .popStart, .subscribtion .pollNext, .trySend none] = some last ∧
      Serves last ∧ last.popped = state.popped ++ [⟨state.popped.length, head⟩] := by
  let started : State buffering capacity Msg := { state with
    sub := { state.sub with pop := .atNext, armed := state.sub.cancelled } }
  let holding : State buffering capacity Msg := { started with
    sub := { started.sub with sub := started.sub.sub.advance }.popReturn (some head)
    worker := .holding ⟨started.popped.length, head⟩
    popped := started.popped ++ [⟨started.popped.length, head⟩] }
  refine ⟨_, (System.runFrom_cons_eq_some _).mpr
    ⟨started, popStart_of_idle serves.worker serves.idle, (System.runFrom_cons_eq_some _).mpr
      ⟨holding, pollNext_of_queue started serves.worker rfl queue,
        (System.runFrom_cons_eq_some _).mpr
          ⟨_, trySend_of_closed holding rfl serves.closed, rfl⟩⟩⟩, ?_, ?_⟩
  · exact ⟨rfl, serves.closed, rfl, serves.isOpen⟩
  · rfl

variable (sub) in
theorem Serves.serve (serves : Serves state) (slots : ∀ bound ∈ buffering, 0 < bound)
    (message : Msg) :
    ∃ last, (system sub capacity).runFrom state (NamedReceiver.serve message) = some last ∧
      Serves last ∧ last.popped.length = state.popped.length + 1 := by
  obtain ⟨arrived, head, rest, taken, queue, pop, isOpen⟩ :=
    Subscribtion.State.arrive_of_not_over serves.isOpen slots message
  have step : (system sub capacity).step state (.subscribtion (.arrive message)) =
      some { state with sub := arrived } := by
    change (state.sub.arrive message).map _ = _
    rw [taken]
    rfl
  have serves : Serves { state with sub := arrived } :=
    ⟨serves.worker, serves.closed, pop.trans serves.idle, isOpen⟩
  obtain ⟨last, run, serves, popped⟩ := serves.pop sub queue
  refine ⟨last, (System.runFrom_cons_eq_some _).mpr ⟨_, step, run⟩, serves, ?_⟩
  rw [popped, List.length_append, List.length_singleton]

variable (sub) in
/-- However many messages come, the worker pops one for each. -/
theorem Serves.run (serves : Serves state) (slots : ∀ bound ∈ buffering, 0 < bound)
    (messages : List Msg) :
    ∃ last, (system sub capacity).runFrom state (messages.flatMap NamedReceiver.serve) = some last ∧
      Serves last ∧ last.popped.length = state.popped.length + messages.length := by
  induction messages generalizing state with
  | nil => exact ⟨state, rfl, serves, rfl⟩
  | cons message messages ih =>
      obtain ⟨middle, served, serves, first⟩ := serves.serve sub slots message
      obtain ⟨last, run, serves, others⟩ := ih serves
      refine ⟨last, ?_, serves, ?_⟩
      · rw [List.flatMap_cons]
        exact (System.runFrom_append_eq_some _).mpr ⟨middle, served, run⟩
      · rw [others, first, List.length_cons]
        omega

theorem deserts_of_reachable (reached : (system sub capacity).Reachable state) :
    Deserts state :=
  System.Reachable.induction (motive := Deserts)
    ⟨fun gone => (List.cons_ne_nil _ _ gone).elim, fun _ holding => by cases holding⟩
    (fun _ _ _ _ deserts taken => deserts.step taken) reached

/-- In every run, whenever the worker's next step would find the channel without receivers,
the worker does not stop: the step leaves the subscription as it is and goes back to `pop`, and
as long as the stream is open it pops one message for each that the server sends. -/
theorem goes_on_without_receivers (reached : (system sub capacity).Reachable state)
    (gone : state.receivers = []) {letter : Letter Msg}
    (holding : state.worker = .holding letter) :
    state.channel.trySend letter = .error .closed ∧ ¬ Stops sub state ∧
      ∃ next, step state (.trySend none) = some next ∧ next.worker = .popping ∧
        next.sub = state.sub ∧ next.popped = state.popped ∧
        (¬ state.sub.Over → (∀ bound ∈ buffering, 0 < bound) → ∀ messages : List Msg,
          ∃ last, (system sub capacity).runFrom next (messages.flatMap serve) = some last ∧
            last.popped.length = state.popped.length + messages.length) := by
  have deserts := deserts_of_reachable reached
  have closed := deserts.closed gone
  have taken := trySend_of_closed state holding closed
  refine ⟨?_, fun stops => ?_, _, taken, rfl, rfl, rfl, fun isOpen slots messages => ?_⟩
  · simp only [Channel.trySend, closed, ↓reduceIte]
  · cases stops.ends none _ taken
  · have serves : Serves { state with
        worker := .popping
        rejected := state.rejected ++ [⟨letter, state.channel.queue.length, true⟩] } :=
      ⟨rfl, closed, deserts.idle letter holding, isOpen⟩
    obtain ⟨last, run, _, popped⟩ := serves.run sub slots messages
    exact ⟨last, run, popped⟩

end Runs

/-- The receiver is deleted while the worker holds a message, and the worker goes on. -/
theorem goes_on_without_receivers_of_delete :
    ∃ state : State none 1 Nat,
      (system (Subscribtion.new none Nat) 1).run
        [.subscribtion (.arrive 7), .subscribtion .popStart, .subscribtion .pollNext, .delete 0] =
          some state ∧
      state.channel.trySend ⟨0, 7⟩ = .error .closed ∧ ¬ Stops (Subscribtion.new none Nat) state ∧
      ∃ next, step state (.trySend none) = some next ∧ next.worker = .popping ∧
        next.sub = state.sub ∧ next.popped = state.popped ∧
        (¬ state.sub.Over → (∀ bound ∈ (none : Option Nat), 0 < bound) → ∀ messages : List Nat,
          ∃ last, (system (Subscribtion.new none Nat) 1).runFrom next (messages.flatMap serve) =
              some last ∧ last.popped.length = state.popped.length + messages.length) := by
  have evaluated :
      ((system (Subscribtion.new none Nat) 1).run
        [.subscribtion (.arrive 7), .subscribtion .popStart, .subscribtion .pollNext,
          .delete 0]).map (fun state => (state.receivers, state.worker)) =
        some ([], Worker.holding ⟨0, 7⟩) := by decide
  obtain ⟨state, run, values⟩ := Option.map_eq_some_iff.mp evaluated
  simp only [Prod.mk.injEq] at values
  exact ⟨state, run, goes_on_without_receivers ⟨_, run⟩ values.1 values.2⟩

/-- The same run, and a message that arrives afterwards is popped. -/
theorem not_stops_of_delete :
    ¬ ∀ state : State none 1 Nat, (system (Subscribtion.new none Nat) 1).Reachable state →
      state.receivers = [] → Stops (Subscribtion.new none Nat) state := by
  have evaluated :
      ((system (Subscribtion.new none Nat) 1).run
        [.subscribtion (.arrive 7), .subscribtion .popStart, .subscribtion .pollNext,
          .delete 0]).bind (fun state =>
        (step state (.trySend none)).bind fun next =>
          ((system (Subscribtion.new none Nat) 1).runFrom next (serve 8)).map fun last =>
            (state.receivers, next.worker, next.popped, last.popped)) =
        some ([], .popping, [⟨0, 7⟩], [⟨0, 7⟩, ⟨1, 8⟩]) := by decide
  obtain ⟨state, run, rest⟩ := Option.bind_eq_some_iff.mp evaluated
  obtain ⟨next, taken, rest⟩ := Option.bind_eq_some_iff.mp rest
  obtain ⟨last, later, values⟩ := Option.map_eq_some_iff.mp rest
  simp only [Prod.mk.injEq] at values
  obtain ⟨gone, _, before, after⟩ := values
  intro always
  have final := (always state ⟨_, run⟩ gone).final none next (serve 8) last taken later
  rw [before, after] at final
  cases final

end AsyncNats.NamedReceiver
