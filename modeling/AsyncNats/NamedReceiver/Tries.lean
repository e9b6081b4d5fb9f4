import AsyncNats.NamedReceiver.Progress
import Mathlib.Data.List.Nodup

/-! # The worker comes to every message

The worker comes to each message that the subscription has accepted after a number of its own
steps that the messages in front of it bound: later messages go behind it. It stores the message
or finds the channel full. Until then it is never blocked, whatever the callers do.
-/

namespace AsyncNats.Subscribtion

variable {buffering : Option Nat} {Msg : Type} {before after : State buffering Msg}
  {event : Event Msg}

/-- Only an arriving message is accepted. -/
theorem Step.accepted (step : Step before event after) :
    after.accepted = before.accepted ∨
      ∃ message, event = .arrive message ∧ after.accepted = before.accepted ++ [message] := by
  cases step with
  | @arrived message => exact .inr ⟨message, rfl, rfl⟩
  | _ => exact .inl rfl

/-- Only `pop` moves `pop`. -/
theorem Step.pop_outside (step : Step before event after) (outside : event.caller ≠ .pop) :
    after.pop = before.pop := by
  cases step with
  | popStart | returnedMessage | returnedNone | pending | takeSignal | noSender | noSignal
  | unsubscribed | panicked => exact (outside rfl).elim
  | _ => rfl

/-- While a message is buffered, each step of `pop` brings it closer to the buffer. -/
theorem Step.pop_left (step : Step before event after) (queue : before.sub.queue ≠ [])
    (alive : event ≠ .unsubscribed false) (caller : event.caller = .pop)
    (returned : after.returned = before.returned) : after.pop.left < before.pop.left := by
  cases step with
  | popStart idle =>
      rw [idle]
      exact Nat.lt_succ_self 1
  | returnedMessage | returnedNone => cases List.append_right_eq_self.mp returned
  | pending _ empty => exact (queue empty).elim
  | takeSignal polling | noSender polling | noSignal polling =>
      rw [polling]
      simp only [Pop.left]
      omega
  | unsubscribed waiting =>
      rw [waiting]
      simp only [Pop.left]
      omega
  | panicked => exact (alive rfl).elim
  | _ => cases caller

/-- `pop` returns a message from the buffer. -/
theorem Step.pop_of_delivered {message : Msg} (step : Step before event after)
    (delivered : after.delivered = before.delivered ++ [message]) :
    before.pop = .atNext ∧ after.pop = .idle := by
  have longer : after.returned ≠ before.returned := by
    intro same
    rw [State.delivered, same] at delivered
    cases List.append_right_eq_self.mp delivered.symm
  cases step with
  | returnedMessage polling | returnedNone polling => exact ⟨polling, rfl⟩
  | _ => exact (longer rfl).elim

end AsyncNats.Subscribtion

namespace AsyncNats.NamedReceiver

open Sync Transition

variable {buffering : Option Nat} {capacity : Nat} {Msg : Type}
  {state next last : State buffering capacity Msg} {event : Event Msg} {count : Nat}

theorem Step.accepted (step : Step state event next) :
    next.sub.accepted = state.sub.accepted ∨ ∃ message, event = .subscribtion (.arrive message) ∧
      next.sub.accepted = state.sub.accepted ++ [message] := by
  cases step with
  | subscribtion taken | popped taken | sawEnd taken =>
      refine taken.accepted.imp_right ?_
      rintro ⟨message, rfl, accepted⟩
      exact ⟨message, rfl, accepted⟩
  | panicked taken =>
      refine taken.accepted.imp_right ?_
      rintro ⟨_, same, _⟩
      cases same
  | _ => exact .inl rfl

theorem drained_of_reachable {sub : Subscribtion.State buffering Msg}
    (handed : (Subscribtion.system buffering Msg).Reachable sub)
    (reached : (system sub capacity).Reachable state) : Drained state :=
  System.Reachable.induction (motive := Drained)
    ⟨Subscribtion.delivered_append_queue handed, fun seen => (Bool.false_ne_true seen).elim⟩
    (fun _ _ _ _ drained taken => (step_cases taken).drained drained) reached

/-- What the worker has popped and what the buffer holds are, in this order, what the buffer took,
apart from what was popped before the receiver took the subscription over. -/
theorem popped_append_queue {sub : Subscribtion.State buffering Msg}
    (handed : (Subscribtion.system buffering Msg).Reachable sub)
    (reached : (system sub capacity).Reachable state) :
    sub.delivered ++ state.popped.map Letter.message ++ state.sub.sub.queue =
      state.sub.accepted := by
  rw [← delivered_of_reachable reached, (drained_of_reachable handed reached).order]

theorem staysAlive_arrive (state : State buffering capacity Msg) (message : Msg) :
    StaysAlive state (.subscribtion (.arrive message)) :=
  ⟨fun same => (by cases same), fun same => (by cases same)⟩

instance decidableStaysAlive (state : State buffering capacity Msg) :
    ∀ event, Decidable (StaysAlive state event)
  | .runtimeDelete => .isFalse fun alive => alive.1 rfl
  | .subscribtion (.unsubscribed false) => .isFalse fun alive => alive.2 rfl
  | .subscribtion (.unsubscribed true) | .subscribtion (.arrive _) | .subscribtion .endOfStream
  | .subscribtion (.getCancellationToken _) | .subscribtion (.tokenClone _ _)
  | .subscribtion (.tokenDelete _) | .subscribtion (.tokenCancel _) | .subscribtion .popStart
  | .subscribtion .pollNext | .subscribtion .pollShutdown | .trySend _ | .dropSubscribtion
  | .dropSender | .clone _ _ | .delete _ | .recvStart _ | .recvReturn _ | .tryRecv _ =>
      .isTrue ⟨nofun, nofun⟩

/-- How many steps the worker takes until it has popped the first `count` messages. -/
def State.buffered (count : Nat) (state : State buffering capacity Msg) : Nat :=
  if state.popped.length < count then
    3 * (count - state.popped.length) + state.sub.pop.left - 2
  else 0

/-- The step in which it tries to store the one in its hand. -/
def Worker.held (popped count : Nat) : Worker Msg → Nat
  | .holding _ => if popped ≤ count then 1 else 0
  | .popping | .ending | .closing | .done => 0

/-- How many steps the worker takes until it has tried to store the first `count` messages. -/
def State.distance (count : Nat) (state : State buffering capacity Msg) : Nat :=
  state.buffered count + state.worker.held state.popped.length count

/-- So many messages have come, and a worker that has left its loop has found the buffer empty. -/
structure Arrived (count : Nat) (state : State buffering capacity Msg) : Prop where
  among : count ≤ state.popped.length + state.sub.sub.queue.length
  drained : state.worker.left = true → state.sub.sub.queue = []

theorem Arrived.queue_ne_nil (arrived : Arrived count state)
    (behind : state.popped.length < count) : state.sub.sub.queue ≠ [] := by
  intro empty
  have among := arrived.among
  rw [empty, List.length_nil] at among
  omega

theorem Arrived.buffered (arrived : Arrived count state) (left : state.worker.left = true) :
    state.buffered count = 0 := by
  have among := arrived.among
  rw [arrived.drained left, List.length_nil] at among
  exact if_neg (by omega)

/-- Each step of the worker brings it closer to these messages, and no other step sets it back. -/
theorem Step.distance (step : Step state event next) (alive : StaysAlive state event)
    (before : Arrived count state) (after : Arrived count next)
    (called : ∀ inner, event = .subscribtion inner → inner.caller = .pop →
      state.worker = .popping) :
    next.distance count ≤ state.distance count ∧
      (event.isWork = true → next.distance count ≤ state.distance count - 1) := by
  cases step with
  | @subscribtion inner sub taken returned =>
      by_cases caller : inner.caller = .pop
      · have popping := called inner rfl caller
        by_cases behind : state.popped.length < count
        · have less := taken.pop_left (before.queue_ne_nil behind)
            (fun same => alive.2 (congrArg Event.subscribtion same)) caller returned
          simp only [State.distance, State.buffered, popping, Worker.held, if_pos behind]
          omega
        · simp only [State.distance, State.buffered, popping, Worker.held, if_neg behind]
          omega
      · refine ⟨?_, fun work => (caller (beq_iff_eq.mp work)).elim⟩
        simp only [State.distance, State.buffered, taken.pop_outside caller, Nat.le_refl]
  | popped taken popping delivered =>
      obtain ⟨polling, idle⟩ := taken.pop_of_delivered delivered
      simp only [State.distance, State.buffered, popping, Worker.held, polling, idle,
        Subscribtion.Pop.left, List.length_append, List.length_singleton]
      split_ifs <;> omega
  | sawEnd taken popping =>
      rw [State.distance, after.buffered rfl]
      exact ⟨Nat.zero_le _, fun _ => Nat.zero_le _⟩
  | panicked => exact (alive.2 rfl).elim
  | runtimeDelete => exact (alive.1 rfl).elim
  | stored holding | rejected holding | passed holding =>
      simp only [State.distance, State.buffered, holding, Worker.held]
      split_ifs <;> omega
  | dropSubscribtion | dropSender =>
      rw [State.distance, after.buffered rfl]
      exact ⟨Nat.zero_le _, fun _ => Nat.zero_le _⟩
  | _ => exact ⟨Nat.le_refl _, fun work => by cases work⟩

/-- Then the worker is done with them: it has popped them all, and none is in its hand. -/
theorem tried_of_distance (near : state.distance count = 0) :
    count + state.worker.inHand.length ≤ state.popped.length := by
  have popped : state.buffered count = 0 := Nat.eq_zero_of_add_eq_zero_right near
  have hand : state.worker.held state.popped.length count = 0 :=
    Nat.eq_zero_of_add_eq_zero_left near
  have enough : count ≤ state.popped.length := by
    by_contra behind
    rw [State.buffered, if_pos (Nat.lt_of_not_le behind)] at popped
    omega
  cases worker : state.worker with
  | holding letter =>
      rw [worker, Worker.held] at hand
      have further : ¬ state.popped.length ≤ count := fun less => by
        rw [if_pos less] at hand
        cases hand
      exact Nat.lt_of_not_le further
  | popping | ending | closing | done => exact enough

/-- What is in the worker's hand was popped last. -/
theorem Step.inHand_suffix (step : Step state event next)
    (latest : state.worker.inHand <:+ state.popped) : next.worker.inHand <:+ next.popped := by
  cases step with
  | popped => exact List.suffix_append _ _
  | sawEnd | panicked | stored | rejected | passed | dropSubscribtion | dropSender
  | runtimeDelete => exact List.nil_suffix
  | _ => exact latest

/-- The calls that take a message, if there is one. -/
def Event.takes : Event Msg → Bool
  | .recvReturn _ | .tryRecv _ => true
  | _ => false

theorem Step.accepted_grows (step : Step state event next) :
    state.sub.accepted <+: next.sub.accepted := by
  rcases step.accepted with kept | ⟨message, _, added⟩
  · simp only [kept, List.prefix_rfl]
  · rw [added]
    exact List.prefix_append _ _

theorem Step.stored_grows (step : Step state event next) : state.stored <+: next.stored := by
  cases step with
  | stored | passed => exact List.prefix_append _ _
  | _ => exact List.prefix_rfl

theorem Step.handedOut_grows (step : Step state event next) :
    state.handedOut <+: next.handedOut := by
  cases step with
  | passed | received | disconnected | tryReceived | tryEmpty =>
      exact (List.prefix_append _ _).filterMap _
  | _ => exact List.prefix_rfl

/-- Each of these calls takes the message that was stored first. -/
theorem Step.handedOut_length (step : Step state event next) (letters : Letters state)
    (takes : event.takes = true) (waiting : state.handedOut.length < state.stored.length) :
    next.handedOut.length = state.handedOut.length + 1 := by
  have nonempty : state.channel.queue ≠ [] := by
    intro empty
    rw [← letters.taken, empty, List.append_nil] at waiting
    exact Nat.lt_irrefl _ waiting
  cases step with
  | received waits queue | tryReceived queue =>
      exact (congrArg List.length (handedOut_append state.returned _)).trans List.length_append
  | disconnected _ queue | tryEmpty queue => exact (nonempty queue).elim
  | _ => cases takes

section Runs

variable {sub : Subscribtion.State buffering Msg}

/-- The calls bound how long a stored message waits. -/
theorem takes_bounded (sub : Subscribtion.State buffering Msg) (capacity count : Nat) :
    (system sub capacity).Bounded Event.takes (fun _ _ => True)
      (fun state => (system sub capacity).Reachable state ∧ count ≤ state.stored.length)
      (fun state => count - state.handedOut.length) where
  kept := by
    intro state event next holds _ taken
    exact ⟨holds.1.step taken,
      Nat.le_trans holds.2 (step_cases taken).stored_grows.length_le⟩
  lowers := by
    intro state event next holds _ takes taken
    have letters := letters_of_reachable holds.1
    by_cases waiting : state.handedOut.length < state.stored.length
    · have more := (step_cases taken).handedOut_length letters takes waiting
      omega
    · have grown := (step_cases taken).handedOut_grows.length_le
      have stored := holds.2
      omega
  stays := by
    intro state event next _ _ _ taken
    exact Nat.sub_le_sub_left (step_cases taken).handedOut_grows.length_le count

theorem inHand_suffix_of_reachable (reached : (system sub capacity).Reachable state) :
    state.worker.inHand <:+ state.popped := by
  refine System.Reachable.induction (motive := fun state : State buffering capacity Msg =>
    state.worker.inHand <:+ state.popped) ?_
    (fun _ _ _ _ latest taken => (step_cases taken).inHand_suffix latest) reached
  exact List.nil_suffix

theorem popped_nodup (letters : Letters state) : state.popped.Nodup := by
  have numbers : (state.popped.map Letter.number).Nodup := by
    rw [letters.numbered]
    exact List.nodup_range
  exact List.Nodup.of_map Letter.number numbers

theorem length_accepted (handed : (Subscribtion.system buffering Msg).Reachable sub)
    (reached : (system sub capacity).Reachable state) :
    sub.delivered.length + (state.popped.length + state.sub.sub.queue.length) =
      state.sub.accepted.length := by
  rw [← popped_append_queue handed reached, List.length_append, List.length_append,
    List.length_map, Nat.add_assoc]

/-- What is kept as long as the worker's task stays alive. -/
structure Working (sub : Subscribtion.State buffering Msg) (count : Nat)
    (state : State buffering capacity Msg) : Prop where
  reached : (system sub capacity).Reachable state
  leaves : Leaves state
  accepted : sub.delivered.length + count ≤ state.sub.accepted.length

theorem Working.arrived (working : Working sub count state)
    (handed : (Subscribtion.system buffering Msg).Reachable sub) : Arrived count state where
  among := by
    have all := length_accepted handed working.reached
    have accepted := working.accepted
    omega
  drained := fun left =>
    ((drained_of_reachable handed working.reached).seen (working.leaves.sawEnd left)).2

theorem Working.keep (working : Working sub count state) (alive : StaysAlive state event)
    (taken : step state event = some next) : Working sub count next where
  reached := working.reached.step taken
  leaves := (step_cases taken).leaves alive working.leaves
  accepted := Nat.le_trans working.accepted (step_cases taken).accepted_grows.length_le

/-- The worker makes progress towards each message that has come. -/
theorem tries_progress (handed : (Subscribtion.system buffering Msg).Reachable sub)
    (capacity count : Nat) :
    (system sub capacity).Progress Event.isWork StaysAlive (Working sub count)
      (State.distance count) where
  kept := fun _ _ _ working alive taken => working.keep alive taken
  lowers := by
    intro state event next working alive work taken
    refine ((step_cases taken).distance alive (working.arrived handed)
      ((working.keep alive taken).arrived handed) fun inner same caller => ?_).2 work
    subst same
    exact popping_of_pop caller taken
  stays := by
    intro state event next working alive _ taken
    refine ((step_cases taken).distance alive (working.arrived handed)
      ((working.keep alive taken).arrived handed) fun inner same caller => ?_).1
    subst same
    exact popping_of_pop caller taken
  enabled := by
    intro state working positive
    have runs : state.worker ≠ .done := by
      intro done
      have left : state.worker.left = true := by rw [done]; rfl
      simp only [State.distance, (working.arrived handed).buffered left, done, Worker.held,
        Nat.lt_irrefl] at positive
    exact work_enabled runs

theorem rejectedFull_of_reachable (reached : (system sub capacity).Reachable state) :
    RejectedFull state :=
  System.Reachable.induction (motive := RejectedFull) (fun _ member => (by cases member))
    (fun _ _ _ _ full taken => (step_cases taken).rejectedFull full) reached

/-- What the subscription has accepted stays, in its place. -/
theorem accepted_grows (reached : (system sub capacity).Reachable state)
    {events : List (Event Msg)} (run : (system sub capacity).runFrom state events = some last) :
    state.sub.accepted <+: last.sub.accepted := by
  refine System.runFrom_relation
    (motive := fun before after => before.sub.accepted <+: after.sub.accepted)
    (fun _ => List.prefix_rfl) (fun _ _ _ => List.IsPrefix.trans) ?_ reached run
  exact fun _ _ _ _ taken => (step_cases taken).accepted_grows

theorem leaves_of_reachable (reached : (system sub capacity).ReachableUnder StaysAlive state) :
    Leaves state := by
  refine System.ReachableUnder.induction (motive := Leaves) ?_
    (fun _ _ _ _ alive leaves taken => (step_cases taken).leaves alive leaves) reached
  exact ⟨fun left => (Bool.false_ne_true left).elim, rfl⟩

theorem Working.of_leaves (handed : (Subscribtion.system buffering Msg).Reachable sub)
    (reached : (system sub capacity).Reachable state) (leaves : Leaves state) :
    Working sub (state.popped.length + state.sub.sub.queue.length) state where
  reached := reached
  leaves := leaves
  accepted := Nat.le_of_eq (length_accepted handed reached)

theorem State.distance_le (state : State buffering capacity Msg) :
    state.distance (state.popped.length + state.sub.sub.queue.length) ≤
      3 * state.sub.sub.queue.length + 3 := by
  have hand : state.worker.held state.popped.length
      (state.popped.length + state.sub.sub.queue.length) ≤ 1 := by
    cases state.worker with
    | holding => exact Nat.le_of_eq (if_pos (Nat.le_add_right _ _))
    | popping | ending | closing | done => exact Nat.zero_le 1
  have pop : state.sub.pop.left ≤ 4 := by cases state.sub.pop <;> decide
  unfold State.distance State.buffered
  split_ifs <;> omega

/-- Every message that has come is stored, or the channel was full or closed when the worker
tried: in every run on from there three steps of the worker for each buffered message and three
more are enough, and as long as there is a message the worker can take the next one. -/
theorem arrived_gets_tried (handed : (Subscribtion.system buffering Msg).Reachable sub)
    (reached : (system sub capacity).ReachableUnder StaysAlive state) {events : List (Event Msg)}
    (alive : (system sub capacity).Meets StaysAlive state events)
    (run : (system sub capacity).runFrom state events = some last) :
    (3 * state.sub.sub.queue.length + 3 ≤ events.countP Event.isWork →
      ∀ index message, state.sub.accepted[sub.delivered.length + index]? = some message →
        ∃ letter, last.popped[index]? = some letter ∧ letter.message = message ∧
          (letter ∈ last.stored ∨ ∃ rejection ∈ last.rejected, rejection.letter = letter ∧
            (rejection.buffered = capacity ∨ rejection.closed = true))) ∧
    (last.sub.sub.queue ≠ [] ∨ last.worker.inHand ≠ [] →
      ∃ event next, event.isWork = true ∧ StaysAlive last event ∧ step last event = some next) := by
  have progress := tries_progress handed capacity
    (state.popped.length + state.sub.sub.queue.length)
  have working := Working.of_leaves handed reached.reachable (leaves_of_reachable reached)
  obtain ⟨after, _⟩ := progress.run working alive run
  constructor
  · intro enough index message found
    have near := progress.finishes working alive run (Nat.le_trans state.distance_le enough)
    have tried := tried_of_distance near
    have receiving := after.reached
    have letters := letters_of_reachable receiving
    obtain ⟨front, split⟩ := inHand_suffix_of_reachable receiving
    have within : index < front.length := by
      have place := (List.getElem?_eq_some_iff.mp found).1
      have all := length_accepted handed reached.reachable
      have length := congrArg List.length split
      rw [List.length_append] at length
      omega
    have there : last.popped[index]? = some front[index] := by
      rw [← split, List.getElem?_append_left within, List.getElem?_eq_getElem within]
    refine ⟨front[index], there, ?_, ?_⟩
    · obtain ⟨later, grown⟩ := accepted_grows reached.reachable run
      have same : last.sub.accepted[sub.delivered.length + index]? = some message := by
        rw [← grown, List.getElem?_append_left (List.getElem?_eq_some_iff.mp found).1, found]
      rw [← popped_append_queue handed receiving, List.append_assoc,
        List.getElem?_append_right (Nat.le_add_right _ _), Nat.add_sub_cancel_left,
        List.getElem?_append_left (by rw [List.length_map]; exact
          (List.getElem?_eq_some_iff.mp there).1), List.getElem?_map, there] at same
      exact Option.some.inj same
    · have member : front[index] ∈ front := List.getElem_mem within
      have distinct := popped_nodup letters
      rw [← split] at distinct
      have free : front[index] ∉ last.worker.inHand := List.disjoint_of_nodup_append distinct member
      rcases letters.fate _ (List.mem_of_getElem? there) with kept | lost
      · exact .inl ((List.mem_append.mp kept).resolve_right free)
      · obtain ⟨rejection, rejected, same⟩ := List.mem_map.mp lost
        exact .inr ⟨rejection, rejected, same,
          (rejectedFull_of_reachable receiving _ rejected).imp_right And.left⟩
  · intro some_message
    refine work_enabled fun done => ?_
    rcases some_message with queue | hand
    · exact queue ((after.arrived handed).drained (by rw [done]; rfl))
    · rw [done] at hand
      exact hand rfl

/-- The channel has one slot, so the second of two buffered messages is not stored. A third one
comes meanwhile. -/
theorem arrived_gets_tried_of_two :
    ∃ state last : State none 1 Nat,
      (system (Subscribtion.new none Nat) 1).run
        [.subscribtion (.arrive 7), .subscribtion (.arrive 8)] = some state ∧
      (system (Subscribtion.new none Nat) 1).runFrom state
        [.subscribtion .popStart, .subscribtion .pollNext, .subscribtion (.arrive 9),
          .trySend none, .subscribtion .popStart, .subscribtion .pollNext, .trySend none,
          .subscribtion .popStart, .subscribtion .pollNext, .trySend none] = some last ∧
      last.stored = [⟨0, 7⟩] ∧
      ∃ letter, last.popped[1]? = some letter ∧ letter.message = 8 ∧
        (letter ∈ last.stored ∨ ∃ rejection ∈ last.rejected, rejection.letter = letter ∧
          (rejection.buffered = 1 ∨ rejection.closed = true)) := by
  have evaluated :
      ((system (Subscribtion.new none Nat) 1).run
        [.subscribtion (.arrive 7), .subscribtion (.arrive 8)]).bind (fun state =>
        ((system (Subscribtion.new none Nat) 1).runFrom state
          [.subscribtion .popStart, .subscribtion .pollNext, .subscribtion (.arrive 9),
            .trySend none, .subscribtion .popStart, .subscribtion .pollNext, .trySend none,
            .subscribtion .popStart, .subscribtion .pollNext, .trySend none]).map
            fun last => (state.sub.accepted, state.sub.sub.queue, last.stored)) =
        some ([7, 8], [7, 8], [⟨0, 7⟩]) := by decide
  obtain ⟨state, before, ran⟩ := Option.bind_eq_some_iff.mp evaluated
  obtain ⟨last, run, values⟩ := Option.map_eq_some_iff.mp ran
  simp only [Prod.mk.injEq] at values
  obtain ⟨accepted, queue, stored⟩ := values
  have alive : (system (Subscribtion.new none Nat) 1).Meets StaysAlive
      (new (Subscribtion.new none Nat) 1)
      ([.subscribtion (.arrive 7), .subscribtion (.arrive 8)] ++
        [.subscribtion .popStart, .subscribtion .pollNext, .subscribtion (.arrive 9),
          .trySend none, .subscribtion .popStart, .subscribtion .pollNext, .trySend none,
          .subscribtion .popStart, .subscribtion .pollNext, .trySend none]) := by decide
  refine ⟨state, last, before, run, stored, ?_⟩
  refine (arrived_gets_tried .init ⟨_, System.Meets.front _ alive, before⟩
    (System.Meets.rest _ alive before) run).1 ?_ 1 8 ?_
  · rw [queue]
    decide
  · rw [accepted]
    rfl

end Runs

end AsyncNats.NamedReceiver
