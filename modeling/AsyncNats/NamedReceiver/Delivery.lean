import AsyncNats.NamedReceiver.Steps

/-! # What the receiver delivers

The messages handed out are, in order, messages that the worker popped. The
worker does not wait for room, so a message may be lost; then the channel was
full.
-/

namespace AsyncNats.NamedReceiver

open Sync Transition

variable {buffering : Option Nat} {capacity : Nat} {Msg : Type}
  {state next : State buffering capacity Msg} {event : Event Msg}

/-- The message the worker has popped and not yet tried to store. -/
def Worker.inHand : Worker Msg → List (Letter Msg)
  | .holding letter => [letter]
  | .popping | .ending | .closing | .done => []

theorem Worker.mem_inHand {worker : Worker Msg} {letter : Letter Msg}
    (member : letter ∈ worker.inHand) : worker = .holding letter := by
  cases worker with
  | holding held => rw [List.mem_singleton.mp member]
  | popping | ending | closing | done => cases member

theorem handedOut_append (returned : List (Return Msg)) (entry : Return Msg) :
    (returned ++ [entry]).filterMap Return.value =
      returned.filterMap Return.value ++ entry.value.toList := by
  rw [List.filterMap_append]
  cases value : entry.value with
  | none => simp only [List.filterMap_cons, value, List.filterMap_nil, Option.toList_none]
  | some letter => simp only [List.filterMap_cons, value, List.filterMap_nil, Option.toList_some]

/-- Where the popped messages are: handed out, in the channel, in the worker's hand or
rejected, and in this order. -/
structure Letters (state : State buffering capacity Msg) : Prop where
  taken : state.handedOut ++ state.channel.queue = state.stored
  order : List.Sublist (state.stored ++ state.worker.inHand) state.popped
  numbered : state.popped.map Letter.number = List.range state.popped.length
  fate : ∀ letter ∈ state.popped, letter ∈ state.stored ++ state.worker.inHand ∨
    letter ∈ state.rejected.map Rejection.letter

/-- A step that moves no message. -/
theorem Letters.keep (letters : Letters state) (handedOut : next.handedOut = state.handedOut)
    (queue : next.channel.queue = state.channel.queue) (stored : next.stored = state.stored)
    (inHand : next.worker.inHand = state.worker.inHand) (popped : next.popped = state.popped)
    (rejected : next.rejected = state.rejected) : Letters next where
  taken := by rw [handedOut, queue, stored]; exact letters.taken
  order := by rw [stored, inHand, popped]; exact letters.order
  numbered := by rw [popped]; exact letters.numbered
  fate := by rw [popped, stored, inHand, rejected]; exact letters.fate

/-- The oldest stored message is handed out. -/
theorem Letters.handOut (letters : Letters state) {letter : Letter Msg}
    {rest : List (Letter Msg)} (queue : state.channel.queue = letter :: rest)
    (handedOut : next.handedOut = state.handedOut ++ [letter])
    (left : next.channel.queue = rest) (stored : next.stored = state.stored)
    (inHand : next.worker.inHand = state.worker.inHand) (popped : next.popped = state.popped)
    (rejected : next.rejected = state.rejected) : Letters next where
  taken := by
    have taken := letters.taken
    rw [queue] at taken
    rw [handedOut, left, stored, List.append_assoc]
    exact taken
  order := by rw [stored, inHand, popped]; exact letters.order
  numbered := by rw [popped]; exact letters.numbered
  fate := by rw [popped, stored, inHand, rejected]; exact letters.fate

/-- The worker stores the message in its hand, or passes it to a waiting call. -/
theorem Letters.store (letters : Letters state) {letter : Letter Msg}
    (holding : state.worker = .holding letter)
    (taken : next.handedOut ++ next.channel.queue =
      (state.handedOut ++ state.channel.queue) ++ [letter])
    (stored : next.stored = state.stored ++ [letter]) (worker : next.worker = .popping)
    (popped : next.popped = state.popped) (rejected : next.rejected = state.rejected) :
    Letters next := by
  have all : next.stored ++ next.worker.inHand = state.stored ++ state.worker.inHand := by
    rw [stored, worker, holding, Worker.inHand, Worker.inHand, List.append_nil]
  exact
    { taken := by rw [taken, stored, letters.taken]
      order := by rw [all, popped]; exact letters.order
      numbered := by rw [popped]; exact letters.numbered
      fate := by rw [popped, all, rejected]; exact letters.fate }

theorem Step.letters (step : Step state event next) (letters : Letters state) :
    Letters next := by
  cases step with
  | subscribtion | clone | recvStart => exact letters.keep rfl rfl rfl rfl rfl rfl
  | sawEnd taken popping | panicked taken popping | runtimeDelete popping =>
      exact letters.keep rfl rfl rfl (by rw [popping]; rfl) rfl rfl
  | dropSubscribtion ending => exact letters.keep rfl rfl rfl (by rw [ending]; rfl) rfl rfl
  | dropSender closing => exact letters.keep rfl rfl rfl (by rw [closing]; rfl) rfl rfl
  | @delete receiver unused =>
      refine letters.keep rfl ?_ rfl rfl rfl rfl
      by_cases last : state.receivers.erase receiver = []
      · simp only [if_pos last, Channel.close_queue]
      · simp only [if_neg last]
  | @popped event sub message taken popping delivered =>
      have order := letters.order
      rw [popping, Worker.inHand, List.append_nil] at order
      refine ⟨letters.taken, order.append_right _, ?_, fun letter member => ?_⟩
      · rw [List.map_append, letters.numbered, List.length_append, List.length_singleton,
          List.range_succ]
        rfl
      · rcases List.mem_append.mp member with old | new
        · refine (letters.fate letter old).imp_left fun kept => ?_
          rw [popping, Worker.inHand, List.append_nil] at kept
          exact List.mem_append_left _ kept
        · exact .inl (List.mem_append_right _ new)
  | @stored letter holding opened room =>
      refine letters.store holding ?_ rfl rfl rfl rfl
      exact (List.append_assoc _ _ _).symm
  | @rejected letter holding refused =>
      have order := letters.order
      rw [holding] at order
      refine ⟨letters.taken, ?_, letters.numbered, fun other member => ?_⟩
      · rw [Worker.inHand, List.append_nil]
        exact (List.sublist_append_left _ _).trans order
      · rw [List.map_append]
        rcases letters.fate other member with kept | lost
        · rw [holding] at kept
          rcases List.mem_append.mp kept with stored | held
          · exact .inl (List.mem_append_left _ stored)
          · exact .inr (List.mem_append_right _ held)
        · exact .inr (List.mem_append_left _ lost)
  | @passed letter receiver holding slots waits =>
      refine letters.store holding ?_ rfl rfl rfl rfl
      have bound : state.channel.queue.length ≤ capacity := state.channel.fits capacity rfl
      have empty : state.channel.queue = [] := List.eq_nil_of_length_eq_zero (by omega)
      change (state.returned ++ [_]).filterMap Return.value ++ state.channel.queue = _
      rw [handedOut_append, empty, List.append_nil, List.append_nil]
      rfl
  | received waits queue | tryReceived queue =>
      refine letters.handOut queue (handedOut_append state.returned _) ?_ rfl rfl rfl rfl
      rw [Channel.advance_queue, queue, List.tail_cons]
  | disconnected | tryEmpty =>
      refine letters.keep ?_ rfl rfl rfl rfl rfl
      exact (handedOut_append state.returned _).trans (List.append_nil _)

/-- The channel is open as long as there is a receiver, and a call waits only on a
receiver that is there. -/
structure Attended (state : State buffering capacity Msg) : Prop where
  closed : state.channel.closed = true → state.receivers = []
  waiting : ∀ receiver ∈ state.waiting, receiver ∈ state.receivers

theorem Attended.opened (attended : Attended state) {receiver : ReceiverId}
    (waits : receiver ∈ state.waiting) : state.channel.closed = false := by
  cases closed : state.channel.closed with
  | false => rfl
  | true =>
      have live := attended.waiting receiver waits
      rw [attended.closed closed] at live
      cases live

theorem Step.attended (step : Step state event next) (attended : Attended state) :
    Attended next := by
  cases step with
  | @clone source fresh live =>
      refine ⟨fun closed => ?_, fun receiver waits => ?_⟩
      · rw [attended.closed closed] at live
        cases live
      · exact List.mem_cons_of_mem _ (attended.waiting receiver waits)
  | @delete receiver unused =>
      refine ⟨fun closed => ?_, fun other waits => ?_⟩
      · by_cases last : state.receivers.erase receiver = []
        · exact last
        · simp only [if_neg last] at closed
          rw [attended.closed closed]
          rfl
      · have different : other ≠ receiver := fun same => unused (same ▸ waits)
        exact (List.mem_erase_of_ne different).mpr (attended.waiting other waits)
  | recvStart live =>
      refine ⟨attended.closed, fun other waits => ?_⟩
      rcases List.mem_cons.mp waits with rfl | before
      · exact live
      · exact attended.waiting other before
  | passed | received | disconnected =>
      exact ⟨attended.closed, fun other waits =>
        attended.waiting other (List.mem_of_mem_erase waits)⟩
  | _ => exact ⟨attended.closed, attended.waiting⟩

/-- Only a channel that was full or closed has rejected a message. -/
def RejectedFull (state : State buffering capacity Msg) : Prop :=
  ∀ rejection ∈ state.rejected, rejection.buffered = capacity ∨
    rejection.closed = true ∧ state.channel.closed = true

/-- A channel without room holds as many messages as it has slots. -/
theorem length_of_not_room {channel : Channel (some capacity) (Letter Msg)}
    (full : ¬ channel.Room) : channel.queue.length = capacity := by
  refine Nat.le_antisymm (channel.fits capacity rfl) ?_
  by_contra less
  apply full
  intro bound member
  cases member
  exact Nat.lt_of_not_le less

theorem Step.rejectedFull (step : Step state event next) (rejectedFull : RejectedFull state) :
    RejectedFull next := by
  cases step with
  | rejected holding refused =>
      intro rejection member
      rcases List.mem_append.mp member with old | new
      · exact rejectedFull rejection old
      · cases List.mem_singleton.mp new
        rcases refused with closed | full
        · exact .inr ⟨closed, closed⟩
        · exact .inl (length_of_not_room full)
  | @delete receiver unused =>
      intro rejection member
      refine (rejectedFull rejection member).imp_right (And.imp_right fun closed => ?_)
      by_cases last : state.receivers.erase receiver = []
      · simp only [if_pos last, Channel.close_closed]
      · simp only [if_neg last]
        exact closed
  | _ => exact rejectedFull

section Runs

variable {sub : Subscribtion.State buffering Msg}

theorem letters_of_reachable (reached : (system sub capacity).Reachable state) : Letters state :=
  System.Reachable.induction (motive := Letters)
    ⟨rfl, List.Sublist.refl _, rfl, fun letter member => by cases member⟩
    (fun _ _ _ _ letters taken => (step_cases taken).letters letters) reached

theorem attended_of_reachable (reached : (system sub capacity).Reachable state) :
    Attended state :=
  System.Reachable.induction (motive := Attended)
    ⟨fun closed => (Bool.false_ne_true closed).elim,
      fun _ waits => (List.not_mem_nil waits).elim⟩
    (fun _ _ _ _ attended taken => (step_cases taken).attended attended) reached

/-- What was popped is what `pop` has returned since the subscription `sub` was handed
over. -/
theorem delivered_of_reachable (reached : (system sub capacity).Reachable state) :
    state.sub.delivered = sub.delivered ++ state.popped.map Letter.message := by
  refine System.Reachable.induction (motive := fun state : State buffering capacity Msg =>
    state.sub.delivered = sub.delivered ++ state.popped.map Letter.message)
    (List.append_nil _).symm ?_ reached
  intro before event after _ delivered taken
  cases step_cases taken with
  | subscribtion taken returned | panicked taken popping returned =>
      rw [Subscribtion.State.delivered, returned]
      exact delivered
  | popped taken popping appended =>
      rw [appended, delivered, List.map_append, List.append_assoc]
      rfl
  | sawEnd taken popping returned =>
      rw [Subscribtion.State.delivered, returned, List.reduceOption_append]
      exact (List.append_nil _).trans delivered
  | _ => exact delivered

/-- What a receiver guarantees about the messages of the subscription `sub` it has
taken over. -/
structure Delivers (sub : Subscribtion.State buffering Msg)
    (state : State buffering capacity Msg) : Prop where
  /-- The popped messages are those `pop` has returned to the worker. -/
  popped : state.sub.delivered = sub.delivered ++ state.popped.map Letter.message
  /-- The messages handed out are a subsequence of the popped ones. -/
  subsequence : List.Sublist state.handedOut state.popped
  /-- No message is handed out twice or to two clones. -/
  once : (state.handedOut.map Letter.number).Nodup
  /-- The buffer is bounded. -/
  bounded : state.channel.queue.length ≤ capacity
  /-- A message that is missing, though there is a receiver, is still buffered or still
  in the worker's hand, or the buffer was full when the worker tried to store it. -/
  missing : state.receivers ≠ [] → ∀ letter ∈ state.popped, letter ∉ state.handedOut →
    letter ∈ state.channel.queue ∨ state.worker = .holding letter ∨
      ∃ rejection ∈ state.rejected, rejection.letter = letter ∧ rejection.buffered = capacity

/-- Deliveries in every reachable state. -/
theorem delivers (reached : (system sub capacity).Reachable state) : Delivers sub state := by
  have letters := letters_of_reachable reached
  have attended := attended_of_reachable reached
  have rejectedFull := System.Reachable.induction (motive := RejectedFull)
    (fun rejection member => by cases member)
    (fun _ _ _ _ full taken => (step_cases taken).rejectedFull full) reached
  have stored : List.Sublist state.handedOut state.stored := by
    rw [← letters.taken]
    exact List.sublist_append_left _ _
  have subsequence : List.Sublist state.handedOut state.popped :=
    (stored.trans (List.sublist_append_left _ _)).trans letters.order
  exact
    { popped := delivered_of_reachable reached
      subsequence := subsequence
      once := by
        have numbers := subsequence.map Letter.number
        rw [letters.numbered] at numbers
        exact numbers.nodup List.nodup_range
      bounded := state.channel.fits capacity rfl
      missing := fun live letter member absent => by
        rcases letters.fate letter member with kept | lost
        · rcases List.mem_append.mp kept with stored | held
          · rw [← letters.taken] at stored
            exact .inl ((List.mem_append.mp stored).resolve_left absent)
          · exact .inr (.inl (Worker.mem_inHand held))
        · obtain ⟨rejection, rejected, same⟩ := List.mem_map.mp lost
          refine .inr (.inr ⟨rejection, rejected, same, ?_⟩)
          refine (rejectedFull rejection rejected).resolve_right fun closed => ?_
          exact live (attended.closed closed.2) }

end Runs

/-- A full buffer loses the second of three messages; two clones get the others. -/
theorem delivers_of_full :
    ∃ state : State none 1 Nat,
      (system (Subscribtion.new none Nat) 1).run
        [.clone 0 1, .subscribtion (.arrive 7), .subscribtion (.arrive 8),
          .subscribtion (.arrive 9), .subscribtion .popStart, .subscribtion .pollNext,
          .trySend none, .subscribtion .popStart, .subscribtion .pollNext, .trySend none,
          .tryRecv 1, .recvStart 0, .subscribtion .popStart, .subscribtion .pollNext,
          .trySend none, .recvReturn 0] = some state ∧
      (state.handedOut = [⟨0, 7⟩, ⟨2, 9⟩] ∧ state.rejected = [⟨⟨1, 8⟩, 1, false⟩]) ∧
      Delivers (Subscribtion.new none Nat) state := by
  have evaluated :
      ((system (Subscribtion.new none Nat) 1).run
        [.clone 0 1, .subscribtion (.arrive 7), .subscribtion (.arrive 8),
          .subscribtion (.arrive 9), .subscribtion .popStart, .subscribtion .pollNext,
          .trySend none, .subscribtion .popStart, .subscribtion .pollNext, .trySend none,
          .tryRecv 1, .recvStart 0, .subscribtion .popStart, .subscribtion .pollNext,
          .trySend none, .recvReturn 0]).map (fun state => (state.handedOut, state.rejected)) =
        some ([⟨0, 7⟩, ⟨2, 9⟩], [⟨⟨1, 8⟩, 1, false⟩]) := by decide
  obtain ⟨state, run, values⟩ := Option.map_eq_some_iff.mp evaluated
  simp only [Prod.mk.injEq] at values
  exact ⟨state, run, values, delivers ⟨_, run⟩⟩

/-- Between the `pop` that returned a message and the `try_send` of it, the message is
neither handed out nor buffered, and it was not rejected. -/
theorem popped_before_trySend :
    ¬ ∀ state : State none 1 Nat,
      (system (Subscribtion.new none Nat) 1).Reachable state → state.receivers ≠ [] →
        ∀ letter ∈ state.popped, letter ∉ state.handedOut →
          letter ∈ state.channel.queue ∨
            ∃ rejection ∈ state.rejected, rejection.letter = letter ∧ rejection.buffered = 1 := by
  have evaluated :
      ((system (Subscribtion.new none Nat) 1).run
        [.subscribtion (.arrive 7), .subscribtion .popStart, .subscribtion .pollNext]).map
          (fun state => (state.receivers, state.popped, state.handedOut,
            state.channel.queue.length, state.rejected.length)) =
        some ([0], [⟨0, 7⟩], [], 0, 0) := by decide
  obtain ⟨state, run, values⟩ := Option.map_eq_some_iff.mp evaluated
  simp only [Prod.mk.injEq] at values
  obtain ⟨receivers, popped, handedOut, queue, rejected⟩ := values
  intro always
  have missing := always state ⟨_, run⟩
  rw [receivers, popped, handedOut, List.eq_nil_of_length_eq_zero queue,
    List.eq_nil_of_length_eq_zero rejected] at missing
  rcases missing (List.cons_ne_nil _ _) _ List.mem_cons_self List.not_mem_nil with
    buffered | ⟨rejection, member, _⟩
  · cases buffered
  · cases member

end AsyncNats.NamedReceiver
