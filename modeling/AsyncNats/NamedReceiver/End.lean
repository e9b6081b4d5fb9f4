import AsyncNats.NamedReceiver.Delivery

/-! # The end of the stream

A blocking call returns an empty message when the channel is empty and has lost
its sender. The worker drops the sender after `pop` has returned `None`, and a
subscription whose `pop` returns `None` is over and drained. So the empty message
means the end, and it stays the answer.
-/

namespace AsyncNats.Subscribtion

variable {buffering : Option Nat} {Msg : Type} {before after : State buffering Msg}
  {event : Event Msg}

/-- A step keeps the accepted messages apart into returned and buffered ones. -/
theorem Step.order (step : Step before event after)
    (order : before.delivered ++ before.sub.queue = before.accepted) :
    after.delivered ++ after.sub.queue = after.accepted := by
  have implements : Implements before ⟨before.delivered, before.sub.queue⟩ := ⟨rfl, rfl, order⟩
  obtain ⟨_, fifo, _, implements⟩ := step.implements implements
  rw [← implements.put, ← implements.taken, ← implements.pending]
  rfl

/-- A drained stream that is over stays so. -/
theorem Step.drained (step : Step before event after) (isOver : before.Over)
    (queue : before.sub.queue = []) : after.sub.queue = [] := by
  cases step with
  | arrived fed opened room =>
      rcases isOver with closed | ended
      · rw [opened] at closed
        cases closed
      · exact (fed ended).elim
  | @returnedMessage head rest polling found =>
      rw [queue] at found
      cases found
  | _ => exact queue

end AsyncNats.Subscribtion

namespace AsyncNats.NamedReceiver

open Sync Transition

variable {buffering : Option Nat} {capacity : Nat} {Msg : Type}
  {state next : State buffering capacity Msg} {event : Event Msg}

/-- The runtime stays alive, and the client's unsubscribe has succeeded if the step is
its end. -/
def StaysAlive (_ : State buffering capacity Msg) (event : Event Msg) : Prop :=
  event ≠ .runtimeDelete ∧ event ≠ .subscribtion (.unsubscribed false)

/-- The accepted messages are those `pop` has returned and the buffered ones, and a
subscription whose end the worker has seen is over and drained. -/
structure Drained (state : State buffering capacity Msg) : Prop where
  order : state.sub.delivered ++ state.sub.sub.queue = state.sub.accepted
  seen : state.sawEnd = true → state.sub.Over ∧ state.sub.sub.queue = []

theorem Step.drained (step : Step state event next) (drained : Drained state) :
    Drained next := by
  cases step with
  | subscribtion taken | popped taken | panicked taken =>
      refine ⟨taken.order drained.order, fun seen => ?_⟩
      obtain ⟨isOver, queue⟩ := drained.seen seen
      exact ⟨taken.over isOver, taken.drained isOver queue⟩
  | sawEnd taken popping returned queue isOver =>
      exact ⟨taken.order drained.order, fun _ => ⟨isOver, queue⟩⟩
  | dropSubscribtion ending =>
      exact ⟨drained.order, fun seen => ⟨.inl rfl, (drained.seen seen).2⟩⟩
  | _ => exact ⟨drained.order, drained.seen⟩

/-- The worker has left its loop. -/
def Worker.left : Worker Msg → Bool
  | .ending | .closing | .done => true
  | .popping | .holding _ => false

/-- The sending halves of the channel that the task owns. -/
def Worker.senders : Worker Msg → Nat
  | .done => 0
  | .popping | .holding _ | .ending | .closing => 1

theorem Worker.done_of_senders {worker : Worker Msg} (none_left : worker.senders = 0) :
    worker = .done := by
  cases worker with
  | done => rfl
  | popping | holding | ending | closing => cases none_left

/-- The worker leaves its loop when it has seen the end, and the channel loses its
sender when the worker is gone. -/
structure Leaves (state : State buffering capacity Msg) : Prop where
  sawEnd : state.worker.left = true → state.sawEnd = true
  senders : state.channel.senders = state.worker.senders

theorem Step.leaves (step : Step state event next) (alive : StaysAlive state event)
    (leaves : Leaves state) : Leaves next := by
  have senders := leaves.senders
  cases step with
  | popped taken popping =>
      rw [popping] at senders
      exact ⟨fun left => (Bool.false_ne_true left).elim, senders⟩
  | stored holding | rejected holding | passed holding =>
      rw [holding] at senders
      exact ⟨fun left => (Bool.false_ne_true left).elim, senders⟩
  | sawEnd taken popping =>
      rw [popping] at senders
      exact ⟨fun _ => rfl, senders⟩
  | panicked => exact (alive.2 rfl).elim
  | runtimeDelete => exact (alive.1 rfl).elim
  | dropSubscribtion ending =>
      rw [ending] at senders
      exact ⟨fun _ => leaves.sawEnd (by rw [ending]; rfl), senders⟩
  | dropSender closing =>
      rw [closing] at senders
      refine ⟨fun _ => leaves.sawEnd (by rw [closing]; rfl), ?_⟩
      rw [Channel.dropSender_senders, senders]
      rfl
  | @delete receiver =>
      refine ⟨leaves.sawEnd, ?_⟩
      by_cases last : state.receivers.erase receiver = []
      · simp only [if_pos last, Channel.close_senders, senders]
      · simp only [if_neg last, senders]
  | _ => exact ⟨leaves.sawEnd, senders⟩

/-- The worker is gone and all it stored has been taken. -/
structure Finished (state : State buffering capacity Msg) : Prop where
  worker : state.worker = .done
  queue : state.channel.queue = []

theorem Step.finished (step : Step state event next) (finished : Finished state) :
    Finished next := by
  obtain ⟨worker, empty⟩ := finished
  cases step with
  | popped _ moving | sawEnd _ moving | panicked _ moving | stored moving | rejected moving
  | passed moving | dropSubscribtion moving | dropSender moving | runtimeDelete moving =>
      rw [worker] at moving
      cases moving
  | received waits queue | tryReceived queue =>
      rw [empty] at queue
      cases queue
  | @delete receiver unused =>
      refine ⟨worker, ?_⟩
      by_cases last : state.receivers.erase receiver = []
      · simp only [if_pos last, Channel.close_queue, empty]
      · simp only [if_neg last, empty]
  | _ => exact ⟨worker, empty⟩

/-- A call that takes effect later returns what a finished receiver returns. -/
theorem Step.returned (step : Step state event next) :
    next.returned = state.returned ∨ ∃ entry, next.returned = state.returned ++ [entry] ∧
      (Finished state → entry.value = none) := by
  cases step with
  | passed holding =>
      refine .inr ⟨_, rfl, fun finished => ?_⟩
      rw [finished.worker] at holding
      cases holding
  | received waits queue | tryReceived queue =>
      refine .inr ⟨_, rfl, fun finished => ?_⟩
      rw [finished.queue] at queue
      cases queue
  | disconnected | tryEmpty => exact .inr ⟨_, rfl, fun _ => rfl⟩
  | _ => exact .inl rfl

/-- An empty message from a blocking call: the receiver is finished, and the calls
after it have returned empty messages too. -/
def NullEnd (state : State buffering capacity Msg) : Prop :=
  ∀ front entry back, state.returned = front ++ entry :: back → entry.call = .recv →
    entry.value = none → Finished state ∧ ∀ later ∈ back, later.value = none

/-- An element of a list with one more element is the new one or an old one. -/
theorem concat_eq_append_cons {α : Type} {list front back : List α} {last entry : α}
    (split : list ++ [last] = front ++ entry :: back) :
    entry = last ∧ back = [] ∨ ∃ rest, back = rest ++ [last] ∧ list = front ++ entry :: rest := by
  rcases List.eq_nil_or_concat back with rfl | ⟨rest, other, rfl⟩
  · have ends := (List.append_inj' split rfl).2
    exact .inl ⟨(List.singleton_inj.mp ends).symm, rfl⟩
  · have regrouped : list ++ [last] = (front ++ entry :: rest) ++ [other] := by
      rw [split, List.concat_eq_append, List.append_assoc, List.cons_append]
    obtain ⟨same, ends⟩ := List.append_inj' regrouped rfl
    exact .inr ⟨rest, by rw [List.concat_eq_append, List.singleton_inj.mp ends], same⟩

/-- A blocking call that returns an empty message meets a finished receiver. -/
theorem Step.finished_of_null (step : Step state event next) (attended : Attended state)
    (leaves : Leaves state) {entry : Return Msg}
    (returned : next.returned = state.returned ++ [entry])
    (call : entry.call = .recv) (value : entry.value = none) : Finished next := by
  cases step with
  | disconnected waits queue finished =>
      refine ⟨?_, queue⟩
      rcases finished with closed | ended
      · rw [attended.opened waits] at closed
        cases closed
      · exact Worker.done_of_senders (leaves.senders.symm.trans ended)
  | passed | received | tryReceived | tryEmpty =>
      have same := List.singleton_inj.mp (List.append_cancel_left returned)
      subst same
      cases value <;> cases call
  | _ =>
      have longer := congrArg List.length returned
      rw [List.length_append, List.length_singleton] at longer
      exact (Nat.ne_of_lt (Nat.lt_succ_self _) longer).elim

theorem Step.nullEnd (step : Step state event next) (attended : Attended state)
    (leaves : Leaves state) (nullEnd : NullEnd state) : NullEnd next := by
  intro front entry back split call value
  rcases step.returned with same | ⟨last, appended, silent⟩
  · rw [same] at split
    obtain ⟨finished, later⟩ := nullEnd front entry back split call value
    exact ⟨step.finished finished, later⟩
  · rw [appended] at split
    rcases concat_eq_append_cons split with ⟨rfl, rfl⟩ | ⟨rest, rfl, before⟩
    · exact ⟨step.finished_of_null attended leaves appended call value,
        fun later member => by cases member⟩
    · obtain ⟨finished, later⟩ := nullEnd front entry rest before call value
      refine ⟨step.finished finished, fun other member => ?_⟩
      rcases List.mem_append.mp member with old | new
      · exact later other old
      · rw [List.mem_singleton.mp new]
        exact silent finished

/-- The worker has seen the end of the subscription, all messages it ever accepted have
been popped, and all that the worker stored have been handed out. -/
structure SeenEnd (state : State buffering capacity Msg) : Prop where
  sawEnd : state.sawEnd = true
  isOver : state.sub.Over
  popped : state.sub.delivered = state.sub.accepted
  handedOut : state.handedOut = state.stored

/-- What an empty message says. -/
structure EndsLast (state : State buffering capacity Msg) : Prop where
  /-- A blocking call has returned an empty message only after the end, and the calls
  after it have returned empty messages. -/
  receive : ∀ front entry back, state.returned = front ++ entry :: back → entry.call = .recv →
    entry.value = none → SeenEnd state ∧ ∀ later ∈ back, later.value = none
  /-- From then on every call returns, and with an empty message. -/
  after : ∀ entry ∈ state.returned, entry.call = .recv → entry.value = none →
    (∀ receiver ∈ state.waiting, ∃ next, step state (.recvReturn receiver) = some next ∧
      next.returned = state.returned ++ [⟨receiver, .recv, none⟩]) ∧
    ∀ receiver ∈ state.receivers, ∃ next, step state (.tryRecv receiver) = some next ∧
      next.returned = state.returned ++ [⟨receiver, .tryRecv, none⟩]
  /-- A call that does not block returns an empty message only from an empty buffer. -/
  tryReceive : ∀ receiver next, step state (.tryRecv receiver) = some next →
    next.returned = state.returned ++ [⟨receiver, .tryRecv, none⟩] → state.channel.queue = []

/-- What a call finds in the channel of a finished receiver. -/
theorem Finished.tryRecv (finished : Finished state) (leaves : Leaves state) :
    state.channel.tryRecv = .disconnected := by
  have senders := leaves.senders
  rw [finished.worker] at senders
  exact Channel.tryRecv_eq_disconnected.mpr ⟨finished.queue, .inr senders⟩

theorem recvReturn_of_disconnected {receiver : ReceiverId} (waits : receiver ∈ state.waiting)
    (found : state.channel.tryRecv = .disconnected) :
    ∃ next, step state (.recvReturn receiver) = some next ∧
      next.returned = state.returned ++ [⟨receiver, .recv, none⟩] := by
  simp only [step, State.recvReturn, if_pos waits, State.take, found, Option.some.injEq,
    exists_eq_left']

theorem tryRecv_of_disconnected {receiver : ReceiverId} (live : receiver ∈ state.receivers)
    (found : state.channel.tryRecv = .disconnected) :
    ∃ next, step state (.tryRecv receiver) = some next ∧
      next.returned = state.returned ++ [⟨receiver, .tryRecv, none⟩] := by
  simp only [step, State.tryRecv, if_pos live, State.take, found, Option.some_or,
    Option.some.injEq, exists_eq_left']

theorem queue_of_null {receiver : ReceiverId} (step : Step state (.tryRecv receiver) next)
    (returned : next.returned = state.returned ++ [⟨receiver, .tryRecv, none⟩]) :
    state.channel.queue = [] := by
  cases step with
  | tryReceived queue =>
      cases List.singleton_inj.mp (List.append_cancel_left returned)
  | tryEmpty queue => exact queue

/-- The end of the stream in every state that a run reaches in which the runtime stays
alive and unsubscribe calls succeed. -/
theorem endsLast {sub : Subscribtion.State buffering Msg}
    (handed : (Subscribtion.system buffering Msg).Reachable sub)
    (reached : (system sub capacity).ReachableUnder StaysAlive state) : EndsLast state := by
  have attended := attended_of_reachable reached.reachable
  have letters := letters_of_reachable reached.reachable
  have drained := System.Reachable.induction (motive := Drained)
    ⟨Subscribtion.delivered_append_queue handed, fun seen => (Bool.false_ne_true seen).elim⟩
    (fun _ _ _ _ drained taken => (step_cases taken).drained drained) reached.reachable
  obtain ⟨leaves, nullEnd⟩ : Leaves state ∧ NullEnd state := by
    refine System.ReachableUnder.induction
      (motive := fun state : State buffering capacity Msg => Leaves state ∧ NullEnd state)
      ⟨⟨?_, rfl⟩, ?_⟩ ?_ reached
    · intro left
      cases left
    · intro front entry back split
      exact (List.append_ne_nil_of_right_ne_nil front (List.cons_ne_nil entry back) split.symm).elim
    · intro before event after reached alive ⟨leaves, nullEnd⟩ taken
      have step := step_cases taken
      exact ⟨step.leaves alive leaves,
        step.nullEnd (attended_of_reachable reached) leaves nullEnd⟩
  exact
    { receive := fun front entry back split call value => by
        obtain ⟨finished, later⟩ := nullEnd front entry back split call value
        have sawEnd := leaves.sawEnd (by rw [finished.worker]; rfl)
        obtain ⟨isOver, queue⟩ := drained.seen sawEnd
        have order := drained.order
        have taken := letters.taken
        rw [queue, List.append_nil] at order
        rw [finished.queue, List.append_nil] at taken
        exact ⟨⟨sawEnd, isOver, order, taken⟩, later⟩
      after := fun entry member call value => by
        obtain ⟨front, back, split⟩ := List.append_of_mem member
        have found := (nullEnd front entry back split call value).1.tryRecv leaves
        constructor
        · exact fun receiver waits => recvReturn_of_disconnected waits found
        · exact fun receiver live => tryRecv_of_disconnected live found
      tryReceive := fun receiver next taken returned =>
        queue_of_null (step_cases taken) returned }

/-- A token cancels the subscription of a receiver: the stored message comes first, and
then both kinds of call return empty messages. -/
theorem endsLast_of_cancel :
    ∃ (sub : Subscribtion.State none Nat) (state : State none 1 Nat),
      (Subscribtion.system none Nat).run [.getCancellationToken 0] = some sub ∧
      (system sub 1).run
        [.subscribtion (.arrive 7), .subscribtion (.tokenCancel 0), .subscribtion .popStart,
          .subscribtion .pollNext, .trySend none, .subscribtion .popStart,
          .subscribtion .pollNext, .subscribtion .pollShutdown,
          .subscribtion (.unsubscribed true), .subscribtion .pollNext, .dropSubscribtion,
          .dropSender, .recvStart 0, .recvReturn 0, .recvStart 0, .recvReturn 0,
          .tryRecv 0] = some state ∧
      state.returned =
        [⟨0, .recv, some ⟨0, 7⟩⟩, ⟨0, .recv, none⟩, ⟨0, .tryRecv, none⟩] ∧
      EndsLast state := by
  have evaluated :
      ((Subscribtion.system none Nat).run [.getCancellationToken 0]).bind (fun sub =>
        ((system sub 1).run
          [.subscribtion (.arrive 7), .subscribtion (.tokenCancel 0), .subscribtion .popStart,
            .subscribtion .pollNext, .trySend none, .subscribtion .popStart,
            .subscribtion .pollNext, .subscribtion .pollShutdown,
            .subscribtion (.unsubscribed true), .subscribtion .pollNext, .dropSubscribtion,
            .dropSender, .recvStart 0, .recvReturn 0, .recvStart 0, .recvReturn 0,
            .tryRecv 0]).map State.returned) =
        some [⟨0, .recv, some ⟨0, 7⟩⟩, ⟨0, .recv, none⟩, ⟨0, .tryRecv, none⟩] := by decide
  obtain ⟨sub, handed, ran⟩ := Option.bind_eq_some_iff.mp evaluated
  obtain ⟨state, run, returned⟩ := Option.map_eq_some_iff.mp ran
  refine ⟨sub, state, handed, run, returned, endsLast ⟨_, handed⟩ ⟨_, ?_, run⟩⟩
  exact System.Meets.of_forall _ (by simp)

end AsyncNats.NamedReceiver
