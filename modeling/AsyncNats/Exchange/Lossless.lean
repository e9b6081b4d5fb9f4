import AsyncNats.Exchange.Order

/-! # Nothing is lost on the way

A message of a sender gets lost only in a few places: the server loses it, the buffer of the
subscription has no room or is closed, the receiver's channel has no room, a worker is dropped
with the runtime or by a panic, or the last receiver is deleted. In a run that avoids these, the
messages that the sender has accepted are those that have been received and those under way, in
one order.
-/

namespace AsyncNats.NamedSender

instance decidableUndisturbed (state : State) : ∀ event, Decidable (Undisturbed state event)
  | .runtimeDelete => .isFalse fun undisturbed => undisturbed.1 rfl
  | .publishDone false => .isFalse fun undisturbed => undisturbed.2 rfl
  | .publishDone true | .clone _ _ | .delete _ | .enter _ _ _ _ _ | .acquire _ | .build _
  | .sendToChannel _ | .recv | .closeReceiver | .drain => .isTrue ⟨nofun, nofun⟩

end AsyncNats.NamedSender

namespace AsyncNats.NamedReceiver

open Sync Transition

variable {buffering : Option Nat} {capacity : Nat} {Msg : Type} {Item : Type}
  {state next : State buffering capacity Msg} {event : Event Msg}

/-- Of the letters that `item` is about, the channel has taken all that the worker has popped,
but for the one in its hand. -/
def Stores (item : Letter Msg → Option Item) (state : State buffering capacity Msg) : Prop :=
  (state.stored ++ state.worker.inHand).filterMap item = state.popped.filterMap item

/-- There is room for the letter in the worker's hand. -/
def Fits (item : Letter Msg → Option Item) (state : State buffering capacity Msg) :
    Event Msg → Prop
  | .trySend none =>
    ∀ letter ∈ state.worker.inHand, item letter ≠ none →
      state.channel.closed = false ∧ state.channel.Room
  | _ => True

/-- The last receiver stays. -/
def StaysThere (state : State buffering capacity Msg) : Event Msg → Prop
  | .delete receiver => state.receivers.erase receiver ≠ []
  | _ => True

/-- Steps with which no such letter gets lost. -/
structure Careful (item : Letter Msg → Option Item) (state : State buffering capacity Msg)
    (event : Event Msg) : Prop where
  alive : StaysAlive state event
  stays : StaysThere state event
  fits : Fits item state event

instance decidableStaysThere (state : State buffering capacity Msg) :
    ∀ event, Decidable (StaysThere state event)
  | .delete receiver => inferInstanceAs (Decidable (state.receivers.erase receiver ≠ []))
  | .subscribtion _ | .trySend _ | .dropSubscribtion | .dropSender | .runtimeDelete | .clone _ _
  | .recvStart _ | .recvReturn _ | .tryRecv _ => .isTrue trivial

instance decidableFits [DecidableEq Item] (item : Letter Msg → Option Item)
    (state : State buffering capacity Msg) : ∀ event, Decidable (Fits item state event)
  | .trySend none =>
      inferInstanceAs (Decidable (∀ letter ∈ state.worker.inHand, item letter ≠ none →
        state.channel.closed = false ∧ state.channel.Room))
  | .trySend (some _) | .subscribtion _ | .dropSubscribtion | .dropSender | .runtimeDelete
  | .clone _ _ | .delete _ | .recvStart _ | .recvReturn _ | .tryRecv _ => .isTrue trivial

instance decidableCareful [DecidableEq Item] (item : Letter Msg → Option Item)
    (state : State buffering capacity Msg) (event : Event Msg) :
    Decidable (Careful item state event) :=
  decidable_of_iff (StaysAlive state event ∧ StaysThere state event ∧ Fits item state event)
    ⟨fun ⟨alive, stays, fits⟩ => ⟨alive, stays, fits⟩, fun careful =>
      ⟨careful.alive, careful.stays, careful.fits⟩⟩

theorem Careful.arrive (item : Letter Msg → Option Item) (state : State buffering capacity Msg)
    (message : Msg) : Careful item state (.subscribtion (.arrive message)) :=
  ⟨staysAlive_arrive state message, trivial, trivial⟩

theorem Step.stores {item : Letter Msg → Option Item} (step : Step state event next)
    (fits : Fits item state event) (stores : Stores item state) : Stores item next := by
  unfold Stores at stores ⊢
  cases step with
  | popped taken popping =>
      rw [popping, Worker.inHand, List.append_nil] at stores
      rw [Worker.inHand, List.filterMap_append, List.filterMap_append, stores]
  | sawEnd taken popping | panicked taken popping | runtimeDelete popping =>
      rw [popping] at stores
      exact stores
  | dropSubscribtion ending =>
      rw [ending] at stores
      exact stores
  | dropSender closing =>
      rw [closing] at stores
      exact stores
  | stored holding | passed holding =>
      rw [holding] at stores
      rw [Worker.inHand, List.append_nil]
      exact stores
  | @rejected letter holding refused =>
      have other : item letter = none := by
        by_contra about
        have member : letter ∈ state.worker.inHand := by
          rw [holding]
          exact List.mem_singleton_self letter
        obtain ⟨opened, room⟩ := fits letter member about
        rcases refused with closed | full
        · rw [opened] at closed
          cases closed
        · exact full room
      rw [holding, Worker.inHand, List.filterMap_append, List.filterMap_cons, other] at stores
      rw [Worker.inHand, List.append_nil]
      exact (List.append_nil _).symm.trans stores
  | _ => exact stores

/-- What careful steps keep. -/
structure Complete (item : Letter Msg → Option Item) (state : State buffering capacity Msg) :
    Prop where
  stores : Stores item state
  leaves : Leaves state
  receivers : state.receivers ≠ []

theorem Step.receivers (step : Step state event next) (stays : StaysThere state event)
    (there : state.receivers ≠ []) : next.receivers ≠ [] := by
  cases step with
  | clone => exact List.cons_ne_nil _ _
  | delete => exact stays
  | _ => exact there

theorem Step.complete {item : Letter Msg → Option Item} (step : Step state event next)
    (careful : Careful item state event) (complete : Complete item state) :
    Complete item next where
  stores := step.stores careful.fits complete.stores
  leaves := step.leaves careful.alive complete.leaves
  receivers := step.receivers careful.stays complete.receivers

/-- A message that comes to an open buffer with room is accepted. -/
theorem accepted_of_room {message : Msg} (opened : state.sub.sub.closed = false)
    (room : state.sub.sub.Room)
    (taken : step state (.subscribtion (.arrive message)) = some next) :
    next.sub.accepted = state.sub.accepted ++ [message] := by
  obtain ⟨sub, arrived, rfl⟩ := Option.map_eq_some_iff.mp taken
  simp only [Subscribtion.step, Subscribtion.State.arrive,
    Channel.trySend_of_room opened room, Option.ite_none_left_eq_some, Option.some.injEq]
    at arrived
  obtain ⟨_, rfl⟩ := arrived
  rfl

end AsyncNats.NamedReceiver

namespace AsyncNats.Exchange

open Sync Transition
open NamedReceiver (Letter)

variable {SenderId : Type} [DecidableEq SenderId] {buffering : Option Nat} {capacity : Nat}
  {matching : RustString → Bool} {state next : State SenderId buffering capacity}

/-- What a letter is if its message comes from a certain sender. -/
def letterOf (id : SenderId) (letter : Letter (Relayed SenderId)) : Option (RustString × Bytes) :=
  letter.message.publication? id

/-- Steps with which no message of one sender gets lost. -/
def Lossless (matching : RustString → Bool) (id : SenderId)
    (state : State SenderId buffering capacity) : Event SenderId → Prop
  | .sender other event => other = id → NamedSender.Undisturbed (state.senders id) event
  | .relay other =>
    other = id → state.receiver.sub.sub.closed = false ∧ state.receiver.sub.sub.Room
  | .lose other =>
    other = id → ∀ publication ∈ state.unserved? id, matching publication.1 = false
  | .foreign _ _ => True
  | .receiver event => NamedReceiver.Careful (letterOf id) state.receiver event

instance decidableLossless (id : SenderId) (state : State SenderId buffering capacity) :
    ∀ event, Decidable (Lossless matching id state event)
  | .sender other event =>
      inferInstanceAs (Decidable (other = id → NamedSender.Undisturbed (state.senders id) event))
  | .relay other =>
      inferInstanceAs (Decidable (other = id →
        state.receiver.sub.sub.closed = false ∧ state.receiver.sub.sub.Room))
  | .lose other =>
      inferInstanceAs (Decidable (other = id →
        ∀ publication ∈ state.unserved? id, matching publication.1 = false))
  | .foreign _ _ => .isTrue trivial
  | .receiver event =>
      inferInstanceAs (Decidable (NamedReceiver.Careful (letterOf id) state.receiver event))

/-- What such steps keep: the worker of the sender is in its loop, the subscription has accepted
what the server has dealt with, and the receiver has what the subscription gave it. -/
structure Whole (matching : RustString → Bool) (id : SenderId)
    (state : State SenderId buffering capacity) : Prop where
  loops : (state.senders id).worker.Loops
  served : state.served id ≤ (state.senders id).published.length
  passed : ofSender id state.receiver.sub.accepted = state.passed matching id
  complete : NamedReceiver.Complete (letterOf id) state.receiver

omit [DecidableEq SenderId] in
theorem lt_of_unserved {id : SenderId} {publication : RustString × Bytes}
    (found : state.unserved? id = some publication) :
    state.served id < (state.senders id).published.length :=
  (List.getElem?_eq_some_iff.mp found).1

theorem Step.whole {id : SenderId} {event : Event SenderId}
    (step : Step matching state event next) (retains : NamedSender.Retains (state.senders id))
    (lossless : Lossless matching id state event) (whole : Whole matching id state) :
    Whole matching id next := by
  cases step with
  | @sender other event sender taken =>
      by_cases same : other = id
      · subst same
        have step := NamedSender.step_cases taken
        obtain ⟨more, extended⟩ := step.published_grows
        refine ⟨?_, ?_, ?_, whole.complete⟩
        · simp only [Function.update_self]
          exact step.loops retains (lossless rfl) whole.loops
        · simp only [Function.update_self, ← extended, List.length_append]
          exact Nat.le_add_right_of_le whole.served
        · simp only [State.passed, Function.update_self, ← extended,
            List.take_append_of_le_length whole.served]
          exact whole.passed
      · have distinct : id ≠ other := Ne.symm same
        refine ⟨?_, ?_, ?_, whole.complete⟩
        · simp only [Function.update_of_ne distinct]
          exact whole.loops
        · simp only [Function.update_of_ne distinct]
          exact whole.served
        · simp only [State.passed, Function.update_of_ne distinct]
          exact whole.passed
  | @relayed other subject payload receiver found matches_ taken =>
      have complete := (NamedReceiver.step_cases taken).complete (.arrive _ _ _) whole.complete
      by_cases same : other = id
      · subst same
        obtain ⟨opened, room⟩ := lossless rfl
        refine ⟨whole.loops, ?_, ?_, complete⟩
        · simp only [State.serve, Function.update_self]
          exact lt_of_unserved found
        · change _ = (state.serve other).passed matching other
          rw [State.passed_serve found, matched_of_matches matches_, ← whole.passed,
            NamedReceiver.accepted_of_room opened room taken, ofSender_append, ofSender_own]
      · have distinct : id ≠ other := Ne.symm same
        have unlike : some other ≠ some id := fun alike => same (Option.some.inj alike)
        refine ⟨whole.loops, ?_, ?_, complete⟩
        · simp only [State.serve, Function.update_of_ne distinct]
          exact whole.served
        · change _ = (state.serve other).passed matching id
          rw [State.passed_serve_of_ne distinct, ofSender_accepted_of_other taken unlike]
          exact whole.passed
  | @lost other publication found =>
      by_cases same : other = id
      · subst same
        have unmatched := lossless rfl publication found
        refine ⟨whole.loops, ?_, ?_, whole.complete⟩
        · simp only [State.serve, Function.update_self]
          exact lt_of_unserved found
        · rw [State.passed_serve found, matched_of_not_matches unmatched, List.append_nil]
          exact whole.passed
      · have distinct : id ≠ other := Ne.symm same
        refine ⟨whole.loops, ?_, ?_, whole.complete⟩
        · simp only [State.serve, Function.update_of_ne distinct]
          exact whole.served
        · rw [State.passed_serve_of_ne distinct]
          exact whole.passed
  | foreign taken =>
      refine ⟨whole.loops, whole.served, ?_, ?_⟩
      · change ofSender id _ = state.passed matching id
        rw [ofSender_accepted_of_other taken (Option.some_ne_none id).symm]
        exact whole.passed
      · exact (NamedReceiver.step_cases taken).complete (.arrive _ _ _) whole.complete
  | receiver own taken =>
      have step := NamedReceiver.step_cases taken
      refine ⟨whole.loops, whole.served, ?_, step.complete lossless whole.complete⟩
      change ofSender id _ = state.passed matching id
      rcases step.accepted with kept | ⟨message, same, _⟩
      · rw [kept]
        exact whole.passed
      · exact (own message same).elim

/-- The publications of a sender that are on their way: in the receiver's channel and its worker's
hand, in the buffer of the subscription, with the server, and in the queue of the sender. -/
def State.underWay (matching : RustString → Bool) (topic : RustString)
    (state : State SenderId buffering capacity) (id : SenderId) : List (RustString × Bytes) :=
  ofSender id ((state.receiver.channel.queue ++ state.receiver.worker.inHand).map Letter.message) ++
    (ofSender id state.receiver.sub.sub.queue ++
      matched matching ((state.senders id).published.drop (state.served id) ++
        (state.senders id).channel.queue.map (NamedSender.State.publishArgs topic)))

/-- Nothing of a sender has been lost. -/
structure NothingLost (matching : RustString → Bool) (topic : RustString)
    (state : State SenderId buffering capacity) (id : SenderId) : Prop where
  /-- What the receiver has handed out and then what is under way are what the sender has
  accepted, in its order. -/
  accounted : state.received id ++ state.underWay matching topic id =
    matched matching ((state.senders id).accepted.map (NamedSender.Call.publication topic))
  /-- What is under way is with somebody who goes on with it. -/
  publishing : (state.senders id).worker.Loops
  popping : state.receiver.worker.left = true → state.receiver.sub.sub.queue = []
  receiving : state.receiver.receivers ≠ []

theorem ofSender_map_message (id : SenderId) (letters : List (Letter (Relayed SenderId))) :
    ofSender id (letters.map Letter.message) = letters.filterMap (letterOf id) :=
  List.filterMap_map

/-- What the worker has popped of a sender has been handed out, or is in the channel or its hand. -/
theorem ofSender_popped {id : SenderId}
    {receiver : NamedReceiver.State buffering capacity (Relayed SenderId)}
    (letters : NamedReceiver.Letters receiver)
    (stores : NamedReceiver.Stores (letterOf id) receiver) :
    ofSender id (receiver.popped.map Letter.message) =
      ofSender id (receiver.handedOut.map Letter.message) ++
        ofSender id ((receiver.channel.queue ++ receiver.worker.inHand).map Letter.message) := by
  rw [ofSender_map_message, ofSender_map_message, ofSender_map_message, ← List.filterMap_append,
    ← List.append_assoc, letters.taken]
  exact stores.symm

section Runs

variable {senders : SenderId → NamedSender.State}
  {sub : Subscribtion.State buffering (Relayed SenderId)} {name : CString} {permits : Nat}
  {id : SenderId}

theorem whole_init (created : NamedSender.withCapacity name permits = some (senders id))
    (foreign : ∀ message ∈ sub.accepted, message.origin = none) :
    Whole matching id (system matching senders sub capacity).init where
  loops := by
    obtain ⟨sem, _, made⟩ := Option.map_eq_some_iff.mp created
    change (senders id).worker.Loops
    rw [← made]
    trivial
  served := Nat.zero_le _
  passed := ofSender_eq_nil foreign
  complete := ⟨rfl, ⟨fun left => (Bool.false_ne_true left).elim, rfl⟩, List.cons_ne_nil _ _⟩

theorem whole_of_reachable (created : NamedSender.withCapacity name permits = some (senders id))
    (foreign : ∀ message ∈ sub.accepted, message.origin = none)
    (reached : (system matching senders sub capacity).ReachableUnder (Lossless matching id) state) :
    Whole matching id state := by
  refine System.ReachableUnder.induction (motive := Whole matching id)
    (whole_init created foreign) ?_ reached
  intro state event next reached lossless whole taken
  have retains := NamedSender.retains_of_reachable created (sender_reachable reached id)
  exact (step_cases taken).whole retains lossless whole

/-- In a run that loses nothing of a sender, the receiver has handed out what the sender has
accepted, each message once and in its order, but for what is under way. -/
theorem nothing_lost (created : NamedSender.withCapacity name permits = some (senders id))
    (subscribed : (Subscribtion.system buffering (Relayed SenderId)).Reachable sub)
    (foreign : ∀ message ∈ sub.accepted, message.origin = none)
    (reached : (system matching senders sub capacity).ReachableUnder (Lossless matching id) state) :
    NothingLost matching (lossyConvert name) state id := by
  have whole := whole_of_reachable created foreign reached
  have receiving := receiver_reachable reached.reachable
  have popped := NamedReceiver.popped_append_queue subscribed receiving
  have before : ofSender id sub.delivered = [] := by
    refine ofSender_eq_nil fun message member => foreign message ?_
    rw [← Subscribtion.delivered_append_queue subscribed]
    exact List.mem_append_left _ member
  have passed : ofSender id (state.receiver.popped.map Letter.message) ++
      ofSender id state.receiver.sub.sub.queue = state.passed matching id := by
    rw [← whole.passed, ← popped, ofSender_append, ofSender_append, before, List.nil_append]
  have sent := NamedSender.published_append_queue created
    (sender_reachable reached.reachable id) whole.loops.serving
  constructor
  · rw [State.received, State.underWay, ← List.append_assoc, ← List.append_assoc,
      ← ofSender_popped (NamedReceiver.letters_of_reachable receiving) whole.complete.stores,
      passed, State.passed, ← sent, matched, matched, matched, ← List.filter_append,
      ← List.append_assoc, List.take_append_drop]
  · exact whole.loops
  · intro left
    exact (NamedReceiver.drained_of_reachable subscribed receiving).seen
      (whole.complete.leaves.sawEnd left) |>.2
  · exact whole.complete.receivers

/-- The second of three messages is still with the receiver's worker, and the third with the
server. A message of the other sender has been lost. -/
def twoUnderWay : List (Event Bool) :=
  sendOne false [1] ++ sendOne true [2] ++ sendOne false [3] ++ sendOne false [4] ++
    [.relay false, .lose true, .relay false] ++ popOne ++ [.receiver (.tryRecv 0),
      .receiver (.subscribtion .popStart), .receiver (.subscribtion .pollNext)]

theorem nothing_lost_of_underWay :
    ∃ state : State Bool none 4,
      (system short twoSenders (Subscribtion.new none _) 4).run twoUnderWay = some state ∧
      state.received false = [(['t'], [1])] ∧
      state.underWay short ['t'] false = [(['t'], [3]), (['t'], [4])] ∧
      NothingLost short ['t'] state false := by
  have evaluated :
      ((system short twoSenders (Subscribtion.new none _) 4).run twoUnderWay).map
        (fun state : State Bool none 4 =>
          (state.received false, state.underWay short ['t'] false)) =
            some ([(['t'], [1])], [(['t'], [3]), (['t'], [4])]) := by decide
  have lossless : (system short twoSenders (Subscribtion.new none _) 4).Meets
      (Lossless short false) (system short twoSenders (Subscribtion.new none _) 4).init
      twoUnderWay := by decide
  obtain ⟨state, run, both⟩ := Option.map_eq_some_iff.mp evaluated
  obtain ⟨received, underWay⟩ := Prod.ext_iff.mp both
  exact ⟨state, run, received, underWay,
    nothing_lost (twoSenders_created false) .init
      (fun _ member => (List.not_mem_nil member).elim) ⟨_, lossless, run⟩⟩

end Runs

end AsyncNats.Exchange
