import AsyncNats.Subscribtion.Basic

/-! # Cancelling and draining a subscription

The values `pop` returns are the accepted messages in order, and then `None` for
ever. A signal that finds the shutdown slot full is not needed: until the stream
is over, the slot holds a signal or a `pop` is acting on one.
-/

namespace AsyncNats.Subscribtion

open Sync Transition

variable {capacity : Option Nat} {Msg : Type} {state next : State capacity Msg}
  {event : Event Msg}

theorem State.popReturn_delivered (state : State capacity Msg) (value : Option Msg) :
    (state.popReturn value).delivered = state.delivered ++ value.toList := by
  have split := List.reduceOption_append state.returned [value]
  cases value <;> exact split

/-- A stream that is over stays over. -/
theorem Step.over (step : Step state event next) (isOver : state.Over) : next.Over := by
  cases step with
  | endOfStream =>
      refine isOver.imp_right fun ended => ?_
      change state.sub.senders - 1 = 0
      rw [ended]
  | unsubscribed waiting => exact .inl rfl
  | _ => exact isOver

/-- A stream that is over accepts nothing. -/
theorem Step.accepted_of_over (step : Step state event next) (isOver : state.Over) :
    next.accepted = state.accepted := by
  cases step with
  | arrived fed opened room =>
      rcases isOver with closed | ended
      · rw [opened] at closed
        cases closed
      · exact (fed ended).elim
  | _ => rfl

theorem runFrom_of_over {last : State capacity Msg} {events : List (Event Msg)}
    (isOver : state.Over) (run : (system capacity Msg).runFrom state events = some last) :
    last.Over ∧ last.accepted = state.accepted := by
  induction events generalizing state with
  | nil =>
      cases run
      exact ⟨isOver, rfl⟩
  | cons event rest ih =>
      obtain ⟨next, taken, tail⟩ := (system capacity Msg).runFrom_cons_eq_some.mp run
      have step := step_cases taken
      obtain ⟨later, accepted⟩ := ih (step.over isOver) tail
      exact ⟨later, accepted.trans (step.accepted_of_over isOver)⟩

/-- A subscription and the queue it implements. -/
structure Implements (state : State capacity Msg) (fifo : Fifo Msg) : Prop where
  taken : fifo.taken = state.delivered
  pending : fifo.pending = state.sub.queue
  put : fifo.put = state.accepted

/-- Every step of the subscription is at most one operation of the queue. -/
theorem Step.implements (step : Step state event next) {fifo : Fifo Msg}
    (implements : Implements state fifo) :
    ∃ actions after, (Fifo.system Msg).runFrom fifo actions = some after ∧
      Implements next after := by
  cases step with
  | @arrived message fed opened room =>
      refine ⟨[.put message], _, rfl, implements.taken, ?_, ?_⟩
      · rw [implements.pending]
        rfl
      · rw [Fifo.put_of_put, implements.put]
  | @returnedMessage head rest polling queue =>
      have pending := implements.pending
      rw [queue] at pending
      refine ⟨[.take], ⟨fifo.taken ++ [head], rest⟩, ?_, ?_, ?_, ?_⟩
      · simp only [System.runFrom_singleton, Fifo.system, pending]
      · rw [State.popReturn_delivered, implements.taken]
        rfl
      · change rest = state.sub.queue.tail
        rw [queue, List.tail_cons]
      · have put := implements.put
        rw [Fifo.put, pending] at put
        rw [Fifo.put, List.append_assoc]
        exact put
  | returnedNone polling queue isOver =>
      refine ⟨[], fifo, rfl, ?_, implements.pending, implements.put⟩
      rw [State.popReturn_delivered, Option.toList_none, List.append_nil]
      exact implements.taken
  | _ => exact ⟨[], fifo, rfl, implements.taken, implements.pending, implements.put⟩

/-- The subscription refines the queue of its messages. -/
def simulation (capacity : Option Nat) (Msg : Type) :
    Simulation (system capacity Msg) (Fifo.system Msg) where
  related := Implements
  init := ⟨rfl, rfl, rfl⟩
  step := fun _ implements taken => (step_cases taken).implements implements

theorem delivered_append_queue (reached : (system capacity Msg).Reachable state) :
    state.delivered ++ state.sub.queue = state.accepted := by
  obtain ⟨fifo, _, implements⟩ := (simulation capacity Msg).reachable reached
  rw [← implements.put, ← implements.taken, ← implements.pending]
  rfl

/-- `pop` has returned messages first and then only `None`, and it has returned
`None` only at the end of a stream that is over. -/
def Ends (state : State capacity Msg) : Prop :=
  ∃ nones, state.returned = state.delivered.map some ++ List.replicate nones none ∧
    (0 < nones → state.sub.queue = [] ∧ state.Over)

theorem Step.ends (step : Step state event next) (ends : Ends state) : Ends next := by
  obtain ⟨nones, returned, finished⟩ := ends
  cases step with
  | arrived fed opened room =>
      refine ⟨nones, returned, fun positive => ?_⟩
      rcases (finished positive).2 with closed | ended
      · rw [opened] at closed
        cases closed
      · exact (fed ended).elim
  | @returnedMessage head rest polling queue =>
      have none_yet : nones = 0 := by
        by_contra some_yet
        have empty := (finished (Nat.pos_of_ne_zero some_yet)).1
        rw [queue] at empty
        cases empty
      subst none_yet
      rw [List.replicate_zero, List.append_nil] at returned
      refine ⟨0, ?_, fun positive => (Nat.lt_irrefl 0 positive).elim⟩
      rw [State.popReturn_delivered, List.map_append, List.replicate_zero, List.append_nil]
      exact congrArg (· ++ [some head]) returned
  | returnedNone polling queue isOver =>
      refine ⟨nones + 1, ?_, fun _ => ⟨queue, isOver⟩⟩
      rw [State.popReturn_delivered, Option.toList_none, List.append_nil, List.replicate_succ',
        ← List.append_assoc]
      exact congrArg (· ++ [none]) returned
  | endOfStream | unsubscribed =>
      refine ⟨nones, returned, fun positive => ⟨(finished positive).1, ?_⟩⟩
      first
        | exact .inl rfl
        | exact Step.endOfStream.over (finished positive).2
  | _ => exact ⟨nones, returned, finished⟩

theorem ends_of_reachable (reached : (system capacity Msg).Reachable state) : Ends state :=
  System.Reachable.induction (motive := Ends)
    ⟨0, rfl, fun positive => (Nat.lt_irrefl 0 positive).elim⟩
    (fun _ _ _ _ ends taken => (step_cases taken).ends ends) reached

/-- The client's unsubscribe, if the step is its end, has succeeded. -/
def UnsubscribeSucceeds (_ : State capacity Msg) (event : Event Msg) : Prop :=
  event ≠ .unsubscribed false

/-- After a cancel there is a signal in the slot, or a `pop` is unsubscribing, or
the stream is over. The shutdown channel itself stays open. -/
structure Signals (state : State capacity Msg) : Prop where
  opened : state.shutdown.closed = false
  signal : state.cancelled = true →
    state.shutdown.queue ≠ [] ∨ state.pop = .unsubscribing ∨ state.Over

/-- A slot without room holds a signal. -/
theorem queue_ne_nil_of_not_room {slot : Channel (some 1) Unit} (full : ¬ slot.Room) :
    slot.queue ≠ [] := by
  intro empty
  apply full
  intro bound member
  cases member
  rw [empty]
  exact Nat.zero_lt_one

/-- A step that keeps the slot and does not end an unsubscribe call. -/
theorem Signals.keep (signals : Signals state) (shutdown : next.shutdown = state.shutdown)
    (cancelled : next.cancelled = state.cancelled) (pop : state.pop ≠ .unsubscribing)
    (isOver : state.Over → next.Over) : Signals next where
  opened := by rw [shutdown]; exact signals.opened
  signal := fun after => by
    rw [cancelled] at after
    rw [shutdown]
    rcases signals.signal after with held | unsubscribing | ended
    · exact .inl held
    · exact (pop unsubscribing).elim
    · exact .inr (.inr (isOver ended))

theorem Step.signals (step : Step state event next) (succeeds : UnsubscribeSucceeds state event)
    (signals : Signals state) : Signals next := by
  cases step with
  | arrived | lost | getCancellationToken | tokenClone | tokenDelete =>
      exact ⟨signals.opened, signals.signal⟩
  | endOfStream =>
      exact ⟨signals.opened, fun after =>
        (signals.signal after).imp_right (.imp_right Step.endOfStream.over)⟩
  | signalled room =>
      exact ⟨signals.opened, fun _ => .inl (List.append_ne_nil_of_right_ne_nil _ (by simp))⟩
  | ignored full =>
      refine ⟨signals.opened, fun _ => .inl ?_⟩
      rcases full with closed | full
      · rw [signals.opened] at closed
        cases closed
      · exact queue_ne_nil_of_not_room full
  | popStart pop =>
      exact signals.keep rfl rfl (by rw [pop]; exact Pop.noConfusion) id
  | returnedMessage polling | returnedNone polling | pending polling | noSignal polling =>
      exact signals.keep rfl rfl (by rw [polling]; exact Pop.noConfusion) id
  | takeSignal polling | noSender polling =>
      exact ⟨signals.opened, fun _ => .inr (.inl rfl)⟩
  | unsubscribed waiting => exact ⟨signals.opened, fun _ => .inr (.inr (.inl rfl))⟩
  | panicked waiting => exact (succeeds rfl).elim

/-- The buffer is closed by the one unsubscribe call, and no `pop` looks at the
shutdown channel after that. -/
structure UnsubscribesOnce (state : State capacity Msg) : Prop where
  opened : state.pop = .atShutdown ∨ state.pop = .unsubscribing → state.sub.closed = false
  before : state.unsubscribes = 0 → state.sub.closed = false ∧ state.pop ≠ .unsubscribing
  after : state.unsubscribes ≠ 0 →
    state.unsubscribes = 1 ∧ (state.pop = .unsubscribing ∨ state.sub.closed = true)

/-- A step between two places of `pop` that are not in an unsubscribe call. -/
theorem UnsubscribesOnce.move (once : UnsubscribesOnce state)
    (unsubscribes : next.unsubscribes = state.unsubscribes)
    (closed : next.sub.closed = state.sub.closed) (from_pop : state.pop ≠ .unsubscribing)
    (to_pop : next.pop ≠ .unsubscribing)
    (opened : next.pop = .atShutdown → state.sub.closed = false) : UnsubscribesOnce next where
  opened := fun pop => by
    rw [closed]
    exact opened (pop.resolve_right to_pop)
  before := fun zero => by
    rw [unsubscribes] at zero
    exact ⟨closed.trans (once.before zero).1, to_pop⟩
  after := fun positive => by
    rw [unsubscribes] at positive ⊢
    obtain ⟨one, calling | isOver⟩ := once.after positive
    · exact (from_pop calling).elim
    · exact ⟨one, .inr (closed.trans isOver)⟩

/-- A `pop` that takes the signal makes the first unsubscribe call. -/
theorem UnsubscribesOnce.call (once : UnsubscribesOnce state) (polling : state.pop = .atShutdown)
    (unsubscribes : next.unsubscribes = state.unsubscribes + 1)
    (closed : next.sub.closed = state.sub.closed) (pop : next.pop = .unsubscribing) :
    UnsubscribesOnce next := by
  have opened := once.opened (.inl polling)
  have first : state.unsubscribes = 0 := by
    by_contra again
    rcases (once.after again).2 with calling | isOver
    · rw [polling] at calling
      cases calling
    · rw [opened] at isOver
      cases isOver
  exact
    { opened := fun _ => closed.trans opened
      before := fun zero => by omega
      after := fun _ => ⟨by omega, .inl pop⟩ }

theorem Step.unsubscribesOnce (step : Step state event next)
    (succeeds : UnsubscribeSucceeds state event) (once : UnsubscribesOnce state) :
    UnsubscribesOnce next := by
  cases step with
  | arrived | lost | endOfStream | getCancellationToken | tokenClone | tokenDelete | signalled
  | ignored => exact ⟨once.opened, once.before, once.after⟩
  | popStart pop =>
      exact once.move rfl rfl (by rw [pop]; exact Pop.noConfusion) Pop.noConfusion Pop.noConfusion
  | returnedMessage polling | returnedNone polling | noSignal polling =>
      exact once.move rfl rfl (by rw [polling]; exact Pop.noConfusion) Pop.noConfusion
        Pop.noConfusion
  | pending polling queue opened fed =>
      exact once.move rfl rfl (by rw [polling]; exact Pop.noConfusion) Pop.noConfusion
        fun _ => opened
  | takeSignal polling | noSender polling => exact once.call polling rfl rfl rfl
  | unsubscribed waiting =>
      have positive : state.unsubscribes ≠ 0 := fun zero => (once.before zero).2 waiting
      exact
        { opened := fun pop => by rcases pop with pop | pop <;> cases pop
          before := fun zero => (positive zero).elim
          after := fun _ => ⟨(once.after positive).1, .inr rfl⟩ }
  | panicked waiting => exact (succeeds rfl).elim

/-- A poll that finds a message returns it. -/
theorem pollNext_of_message {head : Msg} {rest : List Msg} (polling : state.pop = .atNext)
    (queue : state.sub.queue = head :: rest) :
    state.pollNext = some ({ state with sub := state.sub.advance }.popReturn (some head)) := by
  have found : state.sub.tryRecv = .message head state.sub.advance :=
    Channel.tryRecv_eq_message.mpr ⟨by rw [queue, List.head?_cons], rfl⟩
  simp only [State.pollNext, polling, found]

/-- A poll of a drained stream that is over returns `None`. -/
theorem pollNext_of_over (polling : state.pop = .atNext) (queue : state.sub.queue = [])
    (isOver : state.Over) : state.pollNext = some (state.popReturn none) := by
  have found : state.sub.tryRecv = .disconnected :=
    Channel.tryRecv_eq_disconnected.mpr ⟨queue, isOver⟩
  simp only [State.pollNext, polling, found]

theorem pollNext_returns (polling : state.pop = .atNext) (isOver : state.Over) :
    ∃ next, step state .pollNext = some next ∧
      next.returned = state.returned ++ [state.sub.queue.head?] := by
  cases queue : state.sub.queue with
  | nil => exact ⟨_, pollNext_of_over polling queue isOver, rfl⟩
  | cons head rest => exact ⟨_, pollNext_of_message polling queue, rfl⟩

/-- What cancelling and draining guarantee in one state of a live subscription. -/
structure CancelDrains (state : State capacity Msg) : Prop where
  /-- No cancel is lost: there is a signal to act on, or it is being acted on, or it
  is not needed any more. -/
  signal : state.cancelled = true →
    state.shutdown.queue ≠ [] ∨ state.pop = .unsubscribing ∨ state.sub.closed = true ∨
      state.sub.senders = 0
  /-- However many cancels there are, `pop` unsubscribes at most once. -/
  once : state.unsubscribes ≤ 1
  /-- `pop` has returned the accepted messages that have left the buffer, in arrival
  order, and then only `None`. -/
  drained : ∃ messages nones,
    state.returned = messages.map some ++ List.replicate nones none ∧
      messages ++ state.sub.queue = state.accepted ∧
      (0 < nones → messages = state.accepted ∧
        (state.sub.closed = true ∨ state.sub.senders = 0))
  /-- A poll of a stream that is over returns the next message, or `None`. -/
  returns : state.pop = .atNext → state.sub.closed = true ∨ state.sub.senders = 0 →
    ∃ next, step state .pollNext = some next ∧
      next.returned = state.returned ++ [state.sub.queue.head?]
  /-- After the unsubscribe or the end of the stream nothing is accepted. -/
  frozen : state.sub.closed = true ∨ state.sub.senders = 0 →
    ∀ events last, (system capacity Msg).runFrom state events = some last →
      last.accepted = state.accepted

/-- Cancelling drains in every state that a run with successful unsubscribe calls
reaches. -/
theorem cancel_drains
    (reached : (system capacity Msg).ReachableUnder UnsubscribeSucceeds state) :
    CancelDrains state := by
  have signals : Signals state :=
    System.ReachableUnder.induction (motive := Signals) ⟨rfl, fun cancelled => by cases cancelled⟩
      (fun _ _ _ _ succeeds signals taken => (step_cases taken).signals succeeds signals) reached
  have once : UnsubscribesOnce state :=
    System.ReachableUnder.induction (motive := UnsubscribesOnce)
      ⟨fun _ => rfl, fun _ => ⟨rfl, Pop.noConfusion⟩, fun positive => (positive rfl).elim⟩
      (fun _ _ _ _ succeeds once taken => (step_cases taken).unsubscribesOnce succeeds once)
      reached
  have order := delivered_append_queue reached.reachable
  obtain ⟨nones, returned, finished⟩ := ends_of_reachable reached.reachable
  exact
    { signal := signals.signal
      once := by
        by_cases zero : state.unsubscribes = 0
        · omega
        · have one := (once.after zero).1
          omega
      drained := by
        refine ⟨state.delivered, nones, returned, order, fun positive => ?_⟩
        obtain ⟨empty, isOver⟩ := finished positive
        rw [empty, List.append_nil] at order
        exact ⟨order, isOver⟩
      returns := pollNext_returns
      frozen := fun isOver events last run => (runFrom_of_over isOver run).2 }

/-- Two cancels, the second of which finds the slot full, and one unsubscribe call:
the buffered message comes out and then `None`. -/
theorem cancel_drains_of_two_cancels :
    ∃ state : State (some 2) Nat,
      (system (some 2) Nat).run
        [.getCancellationToken 0, .tokenClone 0 1, .tokenCancel 0, .tokenCancel 1, .popStart,
          .pollNext, .arrive 7, .pollShutdown, .unsubscribed true, .pollNext, .popStart,
          .pollNext] = some state ∧
      (state.returned = [some 7, none] ∧ state.unsubscribes = 1) ∧ CancelDrains state := by
  have evaluated :
      ((system (some 2) Nat).run
        [.getCancellationToken 0, .tokenClone 0 1, .tokenCancel 0, .tokenCancel 1, .popStart,
          .pollNext, .arrive 7, .pollShutdown, .unsubscribed true, .pollNext, .popStart,
          .pollNext]).map (fun state => (state.returned, state.unsubscribes)) =
        some ([some 7, none], 1) := by decide
  obtain ⟨state, run, values⟩ := Option.map_eq_some_iff.mp evaluated
  simp only [Prod.mk.injEq] at values
  refine ⟨state, run, values, cancel_drains ⟨_, ?_, run⟩⟩
  exact System.Meets.of_forall _ (by simp)

/-- The signal is consumed before the unsubscribe is done: while the call lasts there
is neither a signal nor an end. -/
theorem signal_taken_before_unsubscribed :
    ¬ ∀ state : State (some 2) Nat,
      (system (some 2) Nat).ReachableUnder UnsubscribeSucceeds state →
        state.cancelled = true →
          state.shutdown.queue ≠ [] ∨ state.sub.closed = true ∨ state.sub.senders = 0 := by
  have evaluated :
      ((system (some 2) Nat).run
        [.getCancellationToken 0, .tokenCancel 0, .popStart, .pollNext, .pollShutdown]).map
          (fun state =>
            (state.cancelled, state.shutdown.queue, state.sub.closed, state.sub.senders)) =
        some (true, [], false, 1) := by decide
  obtain ⟨state, run, values⟩ := Option.map_eq_some_iff.mp evaluated
  simp only [Prod.mk.injEq] at values
  obtain ⟨cancelled, slot, closed, senders⟩ := values
  intro always
  have reached : (system (some 2) Nat).ReachableUnder UnsubscribeSucceeds state :=
    ⟨_, System.Meets.of_forall _ (by simp), run⟩
  rcases always state reached cancelled with held | isOver | ended
  · exact held slot
  · rw [closed] at isOver
    cases isOver
  · rw [senders] at ended
    cases ended

end AsyncNats.Subscribtion
