import AsyncNats.NamedReceiver.Deserted
import AsyncNats.NamedReceiver.End
import AsyncNats.Transition.Progress

/-! # Nobody waits for ever in `receive`

A blocking call waits only for the worker: it can return as soon as a message is stored or the
worker is gone. And the worker is gone a bounded number of its own steps after the stream is
over, or at once after its loop was left otherwise, whatever the callers, the token holders and
the connection do meanwhile.
-/

namespace AsyncNats.Subscribtion

open Sync

variable {buffering : Option Nat} {Msg : Type} {before after : State buffering Msg}
  {event : Event Msg}

/-- How many steps a `pop` call takes at most until it next polls the buffer of a stream that is
over, and one more. -/
def Pop.left : Pop → Nat
  | .atNext => 1
  | .idle => 2
  | .unsubscribing => 3
  | .atShutdown => 4

/-- How many steps `pop` calls take until the buffer of a stream that is over is found empty,
with one step of the caller in between two of them. -/
def State.left (state : State buffering Msg) : Nat :=
  3 * state.sub.queue.length + state.pop.left

theorem State.left_pos (state : State buffering Msg) : 0 < state.left := by
  unfold State.left
  cases state.pop <;> simp only [Pop.left] <;> omega

/-- A stream that is over gets no new messages, and each step of `pop` brings it closer to its
end or returns it. -/
theorem Step.left (step : Step before event after) (isOver : before.Over) :
    after.left ≤ before.left + 1 ∧
      (event.caller ≠ .pop → after.left ≤ before.left) ∧
      (event.caller = .pop → after.returned = before.returned → after.left < before.left) ∧
      (after.delivered.length = before.delivered.length + 1 → after.left + 2 ≤ before.left) := by
  cases step with
  | arrived fed opened =>
      rcases isOver with closed | ended
      · rw [opened] at closed
        cases closed
      · exact (fed ended).elim
  | popStart idle =>
      simp only [State.left, idle, Pop.left, State.delivered]
      refine ⟨by omega, fun _ => by omega, fun _ _ => by omega, fun more => by omega⟩
  | @returnedMessage head rest polling queue =>
      simp only [State.left, State.popReturn, polling, Pop.left, Channel.advance_queue, queue,
        List.tail_cons, List.length_cons, Event.caller]
      refine ⟨by omega, fun other => (other rfl).elim, fun _ same => ?_, fun _ => by omega⟩
      have length := congrArg List.length same
      rw [List.length_append, List.length_singleton] at length
      omega
  | returnedNone polling queue =>
      simp only [State.left, State.popReturn, polling, Pop.left, queue, List.length_nil,
        Event.caller, State.delivered, List.reduceOption_append]
      refine ⟨by omega, fun other => (other rfl).elim, fun _ same => ?_, fun more => ?_⟩
      · have length := congrArg List.length same
        rw [List.length_append, List.length_singleton] at length
        omega
      · rw [List.length_append] at more
        cases Nat.add_left_cancel more
  | pending polling queue opened fed =>
      rcases isOver with closed | ended
      · rw [opened] at closed
        cases closed
      · exact (fed ended).elim
  | takeSignal polling | noSender polling | noSignal polling =>
      simp only [State.left, polling, Pop.left, State.delivered]
      refine ⟨by omega, fun _ => by omega, fun _ _ => by omega, fun more => by omega⟩
  | unsubscribed waiting | panicked waiting =>
      simp only [State.left, waiting, Pop.left, State.delivered, Channel.close_queue]
      refine ⟨by omega, fun _ => by omega, fun _ _ => by omega, fun more => by omega⟩
  | _ =>
      refine ⟨Nat.le_succ _, fun _ => Nat.le_refl _, fun other => (by cases other), fun more => ?_⟩
      exact (Nat.succ_ne_self _ more.symm).elim

/-- `pop` can always take its next step. -/
theorem pop_enabled (before : State buffering Msg) :
    ∃ event after, event.caller = .pop ∧ event ≠ .unsubscribed false ∧
      step before event = some after := by
  cases pop : before.pop with
  | idle =>
      refine ⟨.popStart, { before with pop := .atNext, armed := before.cancelled }, rfl,
        fun same => (by cases same), ?_⟩
      simp only [step, State.popStart, pop]
  | atNext =>
      have polled : (step before .pollNext).isSome = true := by
        simp only [step, State.pollNext, pop]
        cases before.sub.tryRecv <;> rfl
      obtain ⟨after, taken⟩ := Option.isSome_iff_exists.mp polled
      exact ⟨.pollNext, after, rfl, fun same => (by cases same), taken⟩
  | atShutdown =>
      have polled : (step before .pollShutdown).isSome = true := by
        simp only [step, State.pollShutdown, pop]
        cases before.shutdown.tryRecv <;> rfl
      obtain ⟨after, taken⟩ := Option.isSome_iff_exists.mp polled
      exact ⟨.pollShutdown, after, rfl, fun same => (by cases same), taken⟩
  | unsubscribing =>
      refine ⟨.unsubscribed true, { before with sub := before.sub.close, pop := .atNext }, rfl,
        fun same => (by cases same), ?_⟩
      simp only [step, State.unsubscribed, pop, ↓reduceIte]

end AsyncNats.Subscribtion

namespace AsyncNats.NamedReceiver

open Sync Transition

variable {buffering : Option Nat} {capacity : Nat} {Msg : Type}
  {state next last : State buffering capacity Msg} {event : Event Msg}

/-- The steps of the worker task. -/
def Event.isWork : Event Msg → Bool
  | .subscribtion event => event.caller == .pop
  | .trySend _ | .dropSubscribtion | .dropSender => true
  | _ => false

/-- How many steps the worker takes until it is gone, if its stream is over. -/
def State.left (state : State buffering capacity Msg) : Nat :=
  match state.worker with
  | .popping => state.sub.left + 2
  | .holding _ => state.sub.left + 3
  | .ending => 2
  | .closing => 1
  | .done => 0

/-- The worker is about to end: its stream is over, or it has left its loop. -/
def Ends (state : State buffering capacity Msg) : Prop :=
  state.sub.Over ∨ state.worker.left = true

theorem Ends.over (ends : Ends state) (loops : state.worker.left = false) : state.sub.Over :=
  ends.resolve_right (by rw [loops]; exact Bool.false_ne_true)

/-- A worker that ends goes on ending. -/
theorem Step.ends (step : Step state event next) (ends : Ends state) : Ends next := by
  cases step with
  | subscribtion taken => exact ends.imp_left taken.over
  | popped taken popping =>
      exact .inl (taken.over (ends.over (by rw [popping]; rfl)))
  | sawEnd | panicked | runtimeDelete | dropSubscribtion | dropSender => exact .inr rfl
  | stored holding | rejected holding | passed holding =>
      exact .inl (ends.over (by rw [holding]; rfl))
  | _ => exact ends

/-- Only a worker that is popping calls `pop`. -/
theorem popping_of_pop {event : Subscribtion.Event Msg} (caller : event.caller = .pop)
    (taken : step state (.subscribtion event) = some next) : state.worker = .popping := by
  simp only [step, State.subscribtion, caller] at taken
  cases worker : state.worker with
  | popping => rfl
  | holding | ending | closing | done => simp only [worker, reduceCtorEq] at taken

/-- Each step of the worker brings it closer to its end, and no other step sets it back. -/
theorem Step.left (step : Step state event next) (ends : Ends state)
    (called : ∀ inner, event = .subscribtion inner → inner.caller = .pop →
      state.worker = .popping) :
    next.left ≤ state.left ∧ (event.isWork = true → next.left ≤ state.left - 1) := by
  have positive := state.sub.left_pos
  cases step with
  | @subscribtion event sub taken returned =>
      by_cases caller : event.caller = .pop
      · have popping := called event rfl caller
        have less := (taken.left (ends.over (by rw [popping]; rfl))).2.2.1 caller returned
        simp only [State.left, popping]
        omega
      · refine ⟨?_, fun work => (caller (beq_iff_eq.mp work)).elim⟩
        cases worker : state.worker with
        | popping | holding =>
            have less := (taken.left (ends.over (by rw [worker]; rfl))).2.1 caller
            simp only [State.left, worker]
            omega
        | ending | closing | done => simp only [State.left, worker, Nat.le_refl]
  | @popped event sub message taken popping delivered =>
      have more : sub.delivered.length = state.sub.delivered.length + 1 := by
        rw [delivered, List.length_append, List.length_singleton]
      have less := (taken.left (ends.over (by rw [popping]; rfl))).2.2.2 more
      simp only [State.left, popping]
      omega
  | sawEnd taken popping | panicked taken popping | runtimeDelete popping =>
      simp only [State.left, popping]
      omega
  | stored holding | rejected holding | passed holding =>
      simp only [State.left, holding]
      omega
  | dropSubscribtion ending =>
      simp only [State.left, ending]
      omega
  | dropSender closing =>
      simp only [State.left, closing]
      omega
  | _ => exact ⟨Nat.le_refl _, fun work => by cases work⟩

theorem staysAlive_of_isWork (work : event.isWork = true)
    (succeeds : event ≠ .subscribtion (.unsubscribed false)) : StaysAlive state event := by
  refine ⟨fun same => ?_, succeeds⟩
  rw [same] at work
  cases work

/-- A worker that is there can take its next step. -/
theorem work_enabled (runs : state.worker ≠ .done) :
    ∃ event next, event.isWork = true ∧ StaysAlive state event ∧ step state event = some next := by
  cases worker : state.worker with
  | popping =>
      obtain ⟨inner, sub, caller, alive, taken⟩ := Subscribtion.pop_enabled state.sub
      refine ⟨.subscribtion inner, state.resume sub, beq_iff_eq.mpr caller,
        staysAlive_of_isWork (beq_iff_eq.mpr caller) fun same =>
          alive (Event.subscribtion.inj same), ?_⟩
      simp only [step, State.subscribtion, caller, worker, taken, Option.map_some]
  | holding letter =>
      have alive : StaysAlive state (.trySend none) :=
        staysAlive_of_isWork rfl fun same => (by cases same)
      refine ⟨.trySend none, ?_⟩
      simp only [step, State.trySend, worker]
      cases state.channel.trySend letter with
      | ok channel => exact ⟨_, rfl, alive, rfl⟩
      | error error => exact ⟨_, rfl, alive, rfl⟩
  | ending =>
      refine ⟨.dropSubscribtion, ?_⟩
      simp only [step, State.dropSubscribtion, worker]
      exact ⟨_, rfl, staysAlive_of_isWork rfl fun same => (by cases same), rfl⟩
  | closing =>
      refine ⟨.dropSender, ?_⟩
      simp only [step, State.dropSender, worker]
      exact ⟨_, rfl, staysAlive_of_isWork rfl fun same => (by cases same), rfl⟩
  | done => exact (runs worker).elim

/-- The worker makes progress towards its end. -/
theorem worker_progress (sub : Subscribtion.State buffering Msg) (capacity : Nat) :
    (system sub capacity).Progress Event.isWork (fun _ _ => True) Ends State.left where
  kept := fun _ _ _ ends _ taken => (step_cases taken).ends ends
  lowers := by
    intro state event next ends _ work taken
    refine ((step_cases taken).left ends fun inner same caller => ?_).2 work
    subst same
    exact popping_of_pop caller taken
  stays := by
    intro state event next ends _ _ taken
    refine ((step_cases taken).left ends fun inner same caller => ?_).1
    subst same
    exact popping_of_pop caller taken
  enabled := by
    intro state ends positive
    have runs : state.worker ≠ .done := by
      intro done
      simp only [State.left, done, Nat.lt_irrefl] at positive
    obtain ⟨event, next, work, _, taken⟩ := work_enabled runs
    exact ⟨event, next, work, trivial, taken⟩

/-- The channel has its sender as long as the worker is not gone. -/
theorem Step.senders (step : Step state event next)
    (senders : state.channel.senders = state.worker.senders) :
    next.channel.senders = next.worker.senders := by
  cases step with
  | popped taken moving | sawEnd taken moving | panicked taken moving | runtimeDelete moving
  | dropSubscribtion moving | stored moving | rejected moving | passed moving =>
      rw [moving] at senders
      exact senders
  | dropSender closing =>
      rw [closing] at senders
      change state.channel.senders - 1 = 0
      rw [senders]
      rfl
  | @delete receiver =>
      by_cases last : state.receivers.erase receiver = []
      · simp only [if_pos last, Channel.close_senders, senders]
      · simp only [if_neg last, senders]
  | _ => exact senders

section Runs

variable {sub : Subscribtion.State buffering Msg} {receiver : ReceiverId}

theorem senders_of_reachable (reached : (system sub capacity).Reachable state) :
    state.channel.senders = state.worker.senders :=
  System.Reachable.induction (motive := fun state : State buffering capacity Msg =>
    state.channel.senders = state.worker.senders) rfl
    (fun _ _ _ _ senders taken => (step_cases taken).senders senders) reached

/-- A blocking call waits as long as nothing is stored and the worker is there, and no longer.
It returns what was stored first. -/
theorem recvReturn_iff (reached : (system sub capacity).Reachable state)
    (waits : receiver ∈ state.waiting) :
    (∃ next, step state (.recvReturn receiver) = some next ∧
        next.returned = state.returned ++ [⟨receiver, .recv, state.channel.queue.head?⟩]) ↔
      state.channel.queue ≠ [] ∨ state.worker = .done := by
  have opened := (attended_of_reachable reached).opened waits
  have senders := senders_of_reachable reached
  cases queue : state.channel.queue with
  | cons letter rest =>
      have found : state.channel.tryRecv = .message letter state.channel.advance :=
        Channel.tryRecv_eq_message.mpr ⟨by rw [queue, List.head?_cons], rfl⟩
      refine iff_of_true ?_ (.inl (List.cons_ne_nil _ _))
      simp only [step, State.recvReturn, if_pos waits, State.take, found, Option.some.injEq,
        exists_eq_left', List.head?_cons]
  | nil =>
      constructor
      · intro returns
        obtain ⟨next, taken, _⟩ := returns
        cases step_cases taken with
        | received _ stored =>
            rw [queue] at stored
            cases stored
        | disconnected _ _ finished =>
            refine .inr (Worker.done_of_senders ?_)
            rw [← senders]
            refine finished.resolve_left fun closed => ?_
            rw [opened] at closed
            cases closed
      · intro possible
        have done := possible.resolve_left fun some_stored => some_stored rfl
        rw [done] at senders
        exact recvReturn_of_disconnected waits
          (Channel.tryRecv_eq_disconnected.mpr ⟨queue, .inr senders⟩)

/-- What a call waits for. -/
structure Blocks (state : State buffering capacity Msg) : Prop where
  /-- `receive` returns what was stored first, and waits only if nothing is stored and the worker
  is there. -/
  receive : ∀ receiver ∈ state.waiting,
    (∃ next, step state (.recvReturn receiver) = some next ∧
        next.returned = state.returned ++ [⟨receiver, .recv, state.channel.queue.head?⟩]) ↔
      state.channel.queue ≠ [] ∨ state.worker = .done
  /-- `try_receive` returns what was stored first, and waits for nothing. -/
  tryReceive : ∀ receiver ∈ state.receivers, ∃ next, step state (.tryRecv receiver) = some next ∧
    next.returned = state.returned ++ [⟨receiver, .tryRecv, state.channel.queue.head?⟩]

/-- In every reachable state the calls wait for what they should and for nothing else. -/
theorem blocks_while_empty (reached : (system sub capacity).Reachable state) : Blocks state where
  receive := fun _ waits => recvReturn_iff reached waits
  tryReceive := by
    intro receiver live
    cases queue : state.channel.queue with
    | cons letter rest =>
        have found : state.channel.tryRecv = .message letter state.channel.advance :=
          Channel.tryRecv_eq_message.mpr ⟨by rw [queue, List.head?_cons], rfl⟩
        simp only [step, State.tryRecv, if_pos live, State.take, found, Option.some_or,
          Option.some.injEq, exists_eq_left', List.head?_cons]
    | nil =>
        simp only [step, State.tryRecv, if_pos live, State.take, List.head?_nil]
        cases found : state.channel.tryRecv with
        | message letter rest =>
            rw [Channel.queue_of_message found] at queue
            cases queue
        | empty => exact ⟨_, rfl, rfl⟩
        | disconnected => exact ⟨_, rfl, rfl⟩

/-- Two receivers, one stored message: both calls can take it. -/
theorem blocks_while_empty_of_clone :
    ∃ state : State none 1 Nat,
      (system (Subscribtion.new none Nat) 1).run
        [.clone 0 1, .recvStart 0, .recvStart 1, .subscribtion (.arrive 7),
          .subscribtion .popStart, .subscribtion .pollNext, .trySend none] = some state ∧
      (state.waiting = [1, 0] ∧ state.channel.queue = [⟨0, 7⟩]) ∧ Blocks state := by
  have evaluated :
      ((system (Subscribtion.new none Nat) 1).run
        [.clone 0 1, .recvStart 0, .recvStart 1, .subscribtion (.arrive 7),
          .subscribtion .popStart, .subscribtion .pollNext, .trySend none]).map
          (fun state => (state.waiting, state.channel.queue)) = some ([1, 0], [⟨0, 7⟩]) := by
    decide
  obtain ⟨state, run, values⟩ := Option.map_eq_some_iff.mp evaluated
  simp only [Prod.mk.injEq] at values
  exact ⟨state, run, values, blocks_while_empty ⟨_, run⟩⟩

/-- When the stream is over, or the worker has left its loop, nobody waits for ever: in every
run on from there the worker is gone after a number of its own steps that the buffered messages
bound, it can always take the next one, and once it is gone every waiting call can return. -/
theorem receivers_released (reached : (system sub capacity).Reachable state)
    (ends : Ends state) {events : List (Event Msg)}
    (run : (system sub capacity).runFrom state events = some last) :
    state.left ≤ 3 * state.sub.sub.queue.length + 7 ∧
    (state.left ≤ events.countP Event.isWork → last.worker = .done) ∧
    (last.worker ≠ .done → ∃ event next, event.isWork = true ∧ step last event = some next) ∧
    (last.worker = .done → ∀ receiver ∈ last.waiting, ∃ next,
      step last (.recvReturn receiver) = some next ∧
        next.returned = last.returned ++ [⟨receiver, .recv, last.channel.queue.head?⟩]) := by
  have everywhere : (system sub capacity).Meets (fun _ _ => True) state events :=
    System.Meets.of_forall (system sub capacity) fun _ _ => trivial
  have progress := worker_progress sub capacity
  refine ⟨?_, fun enough => ?_, fun runs => ?_, fun done receiver waits => ?_⟩
  · cases worker : state.worker <;> cases pop : state.sub.pop <;>
      simp only [State.left, worker, Subscribtion.State.left, pop, Subscribtion.Pop.left] <;>
      omega
  · have finished := progress.finishes ends everywhere run enough
    cases worker : last.worker with
    | done => rfl
    | popping | holding | ending | closing =>
        have positive := last.sub.left_pos
        simp only [State.left, worker] at finished
        omega
  · obtain ⟨event, next, work, _, taken⟩ := work_enabled runs
    exact ⟨event, next, work, taken⟩
  · exact (recvReturn_iff (reached.runFrom run) waits).mpr (.inr done)

/-- The connection ends the stream while a message is buffered and two calls wait. -/
theorem receivers_released_of_end :
    ∃ state last : State none 1 Nat,
      (system (Subscribtion.new none Nat) 1).run
        [.clone 0 1, .recvStart 0, .recvStart 1, .subscribtion (.arrive 7),
          .subscribtion .endOfStream] = some state ∧
      (system (Subscribtion.new none Nat) 1).runFrom state
        [.subscribtion .popStart, .subscribtion .pollNext, .trySend none, .recvReturn 1,
          .subscribtion .popStart, .subscribtion .pollNext, .dropSubscribtion, .dropSender] =
        some last ∧
      last.worker = .done ∧ ∃ next, step last (.recvReturn 0) = some next ∧
        next.returned = last.returned ++ [⟨0, .recv, last.channel.queue.head?⟩] := by
  have evaluated :
      ((system (Subscribtion.new none Nat) 1).run
        [.clone 0 1, .recvStart 0, .recvStart 1, .subscribtion (.arrive 7),
          .subscribtion .endOfStream]).bind (fun state =>
        ((system (Subscribtion.new none Nat) 1).runFrom state
          [.subscribtion .popStart, .subscribtion .pollNext, .trySend none, .recvReturn 1,
            .subscribtion .popStart, .subscribtion .pollNext, .dropSubscribtion,
            .dropSender]).map fun last => (state.sub.sub.senders, state.left, last.waiting)) =
        some (0, 7, [0]) := by decide
  obtain ⟨state, before, ran⟩ := Option.bind_eq_some_iff.mp evaluated
  obtain ⟨last, run, values⟩ := Option.map_eq_some_iff.mp ran
  simp only [Prod.mk.injEq] at values
  obtain ⟨senders, left, waiting⟩ := values
  have released := receivers_released ⟨_, before⟩ (.inl (.inr senders)) run
  have done := released.2.1 (by rw [left]; decide)
  exact ⟨state, last, before, run, done,
    released.2.2.2 done 0 (by rw [waiting]; exact List.mem_singleton_self _)⟩

end Runs

end AsyncNats.NamedReceiver
