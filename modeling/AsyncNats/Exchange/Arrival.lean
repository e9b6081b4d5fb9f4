import AsyncNats.Exchange.Lossless

/-! # Every message arrives

In a run that loses nothing of a sender, whatever the sender has accepted is received after each
party on the way has had its turn: the worker of the sender, the server, the worker of the
receiver, and the calls of the program. How many steps each of them needs is bounded by what is
in front of it at that time, whatever all the others do meanwhile.
-/

namespace AsyncNats.Exchange

open Sync Transition
open NamedReceiver (Letter)

variable {SenderId : Type} [DecidableEq SenderId] {buffering : Option Nat} {capacity : Nat}
  {matching : RustString → Bool} {state next : State SenderId buffering capacity}

namespace Event

/-! The parties. -/

/-- The worker of one sender. -/
def publishes (id : SenderId) : Event SenderId → Bool
  | .sender other event => decide (other = id) && event.isWork
  | _ => false

/-- The server, with the publications of one sender. -/
def serves (id : SenderId) : Event SenderId → Bool
  | .relay other | .lose other => decide (other = id)
  | _ => false

/-- The worker of the receiver. -/
def stores : Event SenderId → Bool
  | .receiver event => event.isWork
  | _ => false

/-- The calls of the program. -/
def takes : Event SenderId → Bool
  | .receiver event => event.takes
  | _ => false

end Event

section Runs

variable {senders : SenderId → NamedSender.State}
  {sub : Subscribtion.State buffering (Relayed SenderId)} {name : CString} {permits : Nat}
  {id : SenderId}

/-- The worker of the sender comes to the message that was accepted as number `index`. -/
theorem publishes_bounded (matching : RustString → Bool)
    (sub : Subscribtion.State buffering (Relayed SenderId)) (capacity : Nat)
    (created : NamedSender.withCapacity name permits = some (senders id)) (index : Nat) :
    (system matching senders sub capacity).Bounded (Event.publishes id) (Lossless matching id)
      (fun state => (NamedSender.system (senders id)).Reachable (state.senders id) ∧
        (state.senders id).worker.Loops ∧ index < (state.senders id).accepted.length)
      (fun state => (state.senders id).distance index) := by
  refine (NamedSender.worker_progress created index).toBounded.lift ?_
  intro state event next lossless taken
  cases step_cases taken with
  | @sender other event sender moved =>
      by_cases same : other = id
      · subst same
        refine .inr ⟨event, ?_, lossless rfl, ?_⟩
        · simp only [Event.publishes, decide_true, Bool.true_and]
        · simp only [Function.update_self]
          exact moved
      · refine .inl ⟨?_, ?_⟩
        · simp only [Event.publishes, same, decide_false, Bool.false_and]
        · simp only [Function.update_of_ne (Ne.symm same)]
  | relayed | lost | foreign | receiver => exact .inl ⟨rfl, rfl⟩

/-- The server comes to the publications of the sender one by one. -/
theorem serves_bounded (matching : RustString → Bool) (senders : SenderId → NamedSender.State)
    (sub : Subscribtion.State buffering (Relayed SenderId)) (capacity : Nat) (id : SenderId)
    (count : Nat) :
    (system matching senders sub capacity).Bounded (Event.serves id) (Lossless matching id)
      (fun _ => True) (fun state => count - state.served id) where
  kept := fun _ _ _ _ _ _ => trivial
  lowers := by
    intro state event next _ _ serves taken
    cases step_cases taken with
    | relayed | lost =>
        obtain rfl := of_decide_eq_true serves
        simp only [State.serve, Function.update_self]
        omega
    | sender | foreign | receiver => cases serves
  stays := by
    intro state event next _ _ other taken
    cases step_cases taken with
    | relayed | lost =>
        have distinct := of_decide_eq_false other
        simp only [State.serve, Function.update_of_ne (Ne.symm distinct), Nat.le_refl]
    | sender | foreign | receiver => exact Nat.le_refl _

/-- The worker of the receiver comes to the messages of the subscription. -/
theorem stores_bounded
    (subscribed : (Subscribtion.system buffering (Relayed SenderId)).Reachable sub) (count : Nat) :
    (system matching senders sub capacity).Bounded Event.stores (Lossless matching id)
      (fun state => NamedReceiver.Working sub count state.receiver)
      (fun state => state.receiver.distance count) := by
  refine (NamedReceiver.tries_progress subscribed capacity count).toBounded.lift ?_
  intro state event next lossless taken
  cases step_cases taken with
  | relayed _ _ moved | foreign moved =>
      exact .inr ⟨.subscribtion (.arrive _), rfl, NamedReceiver.staysAlive_arrive _ _, moved⟩
  | @receiver event receiver _ moved => exact .inr ⟨event, rfl, lossless.alive, moved⟩
  | sender | lost => exact .inl ⟨rfl, rfl⟩

/-- The calls come to the stored messages. -/
theorem takes_bounded (matching : RustString → Bool) (senders : SenderId → NamedSender.State)
    (sub : Subscribtion.State buffering (Relayed SenderId)) (capacity : Nat) (id : SenderId)
    (count : Nat) :
    (system matching senders sub capacity).Bounded Event.takes (Lossless matching id)
      (fun state => (NamedReceiver.system sub capacity).Reachable state.receiver ∧
        count ≤ state.receiver.stored.length)
      (fun state => count - state.receiver.handedOut.length) := by
  refine (NamedReceiver.takes_bounded sub capacity count).lift ?_
  intro state event next _ taken
  cases step_cases taken with
  | relayed _ _ moved | foreign moved =>
      exact .inr ⟨.subscribtion (.arrive _), rfl, trivial, moved⟩
  | @receiver event receiver _ moved => exact .inr ⟨event, rfl, trivial, moved⟩
  | sender | lost => exact .inl ⟨rfl, rfl⟩

theorem accepted_grows {last : State SenderId buffering capacity} {events : List (Event SenderId)}
    (reached : (system matching senders sub capacity).Reachable state)
    (run : (system matching senders sub capacity).runFrom state events = some last)
    (id : SenderId) : (state.senders id).accepted <+: (last.senders id).accepted := by
  refine System.runFrom_relation
    (motive := fun before after : State SenderId buffering capacity =>
      (before.senders id).accepted <+: (after.senders id).accepted)
    (fun _ => List.prefix_rfl) (fun _ _ _ => List.IsPrefix.trans) ?_ reached run
  intro before event after reached taken
  cases step_cases taken with
  | @sender other event sender moved =>
      by_cases same : other = id
      · subst same
        simp only [Function.update_self]
        exact NamedSender.accepted_prefix (sender_reachable reached other)
          (((NamedSender.system (senders other)).runFrom_singleton _ event).trans moved)
      · simp only [Function.update_of_ne (Ne.symm same)]
        exact List.prefix_rfl
  | relayed | lost | foreign | receiver => exact List.prefix_rfl

theorem receiver_grows {last : State SenderId buffering capacity} {events : List (Event SenderId)}
    (reached : (system matching senders sub capacity).Reachable state)
    (run : (system matching senders sub capacity).runFrom state events = some last) :
    state.receiver.sub.accepted <+: last.receiver.sub.accepted ∧
      state.receiver.stored <+: last.receiver.stored := by
  refine System.runFrom_relation
    (motive := fun before after : State SenderId buffering capacity =>
      before.receiver.sub.accepted <+: after.receiver.sub.accepted ∧
        before.receiver.stored <+: after.receiver.stored)
    (fun _ => ⟨List.prefix_rfl, List.prefix_rfl⟩)
    (fun _ _ _ first second => ⟨first.1.trans second.1, first.2.trans second.2⟩) ?_ reached run
  intro before event after _ taken
  cases step_cases taken with
  | relayed _ _ moved | foreign moved | receiver _ moved =>
      have step := NamedReceiver.step_cases moved
      exact ⟨step.accepted_grows, step.stored_grows⟩
  | sender | lost => exact ⟨List.prefix_rfl, List.prefix_rfl⟩

/-- What was accepted earlier is published once there are as many publications. -/
theorem published_of_length (created : NamedSender.withCapacity name permits = some (senders id))
    (reached : (system matching senders sub capacity).Reachable state)
    (loops : (state.senders id).worker.Loops) {older : List NamedSender.Call}
    (earlier : older <+: (state.senders id).accepted)
    (enough : older.length ≤ (state.senders id).published.length) :
    older.map (NamedSender.Call.publication (lossyConvert name)) <+:
      (state.senders id).published := by
  have order := NamedSender.published_append_queue created (sender_reachable reached id)
    loops.serving
  have among := earlier.map (NamedSender.Call.publication (lossyConvert name))
  rw [← order] at among
  refine List.prefix_of_prefix_length_le among (List.prefix_append _ _) ?_
  rw [List.length_map]
  exact enough

/-- The subscription has accepted what was accepted earlier once the server has dealt with as many
publications. -/
theorem passed_of_served (created : NamedSender.withCapacity name permits = some (senders id))
    (reached : (system matching senders sub capacity).Reachable state)
    (whole : Whole matching id state) {older : List NamedSender.Call}
    (earlier : older <+: (state.senders id).accepted) (enough : older.length ≤ state.served id) :
    matched matching (older.map (NamedSender.Call.publication (lossyConvert name))) <+:
      ofSender id state.receiver.sub.accepted := by
  have published := published_of_length created reached whole.loops earlier
    (Nat.le_trans enough whole.served)
  have dealt : (state.senders id).published.take (state.served id) <+:
      (state.senders id).published := List.take_prefix _ _
  rw [whole.passed, State.passed, matched, matched]
  refine List.IsPrefix.filter _ (List.prefix_of_prefix_length_le published dealt ?_)
  rw [List.length_map, List.length_take]
  exact Nat.le_min.mpr ⟨enough, Nat.le_trans enough whole.served⟩

/-- The channel has taken what the subscription had accepted once the worker has tried to store
as many messages. -/
theorem stored_of_tried
    (subscribed : (Subscribtion.system buffering (Relayed SenderId)).Reachable sub)
    (foreign : ∀ message ∈ sub.accepted, message.origin = none)
    {receiver : NamedReceiver.State buffering capacity (Relayed SenderId)}
    (reached : (NamedReceiver.system sub capacity).Reachable receiver)
    (stores : NamedReceiver.Stores (letterOf id) receiver) {older : List (Relayed SenderId)}
    (earlier : older <+: receiver.sub.accepted)
    (enough : older.length + receiver.worker.inHand.length ≤
      sub.delivered.length + receiver.popped.length) :
    ofSender id older <+: receiver.stored.filterMap (letterOf id) := by
  obtain ⟨front, split⟩ := NamedReceiver.inHand_suffix_of_reachable reached
  have before : ofSender id sub.delivered = [] := by
    refine ofSender_eq_nil fun message member => foreign message ?_
    rw [← Subscribtion.delivered_append_queue subscribed]
    exact List.mem_append_left _ member
  have tried : receiver.stored.filterMap (letterOf id) = front.filterMap (letterOf id) := by
    rw [NamedReceiver.Stores, ← split, List.filterMap_append, List.filterMap_append] at stores
    exact List.append_cancel_right stores
  have among : sub.delivered ++ front.map Letter.message <+: receiver.sub.accepted := by
    rw [← NamedReceiver.popped_append_queue subscribed reached, ← split, List.map_append,
      ← List.append_assoc, List.append_assoc (_ ++ _)]
    exact List.prefix_append _ _
  have shorter : older <+: sub.delivered ++ front.map Letter.message := by
    refine List.prefix_of_prefix_length_le earlier among ?_
    have length := congrArg List.length split
    rw [List.length_append] at length
    rw [List.length_append, List.length_map]
    omega
  have part := shorter.filterMap (Relayed.publication? id)
  rw [List.filterMap_append, show sub.delivered.filterMap _ = [] from before, List.nil_append,
    List.filterMap_map] at part
  rw [tried]
  exact part

/-- What was stored has been handed out once as many messages have been. -/
theorem received_of_length (id : SenderId)
    {receiver : NamedReceiver.State buffering capacity (Relayed SenderId)}
    (letters : NamedReceiver.Letters receiver) {older : List (Letter (Relayed SenderId))}
    (earlier : older <+: receiver.stored) (enough : older.length ≤ receiver.handedOut.length) :
    older.filterMap (letterOf id) <+: ofSender id (receiver.handedOut.map Letter.message) := by
  rw [ofSender_map_message]
  rw [← letters.taken] at earlier
  exact (List.prefix_of_prefix_length_le earlier (List.prefix_append _ _) enough).filterMap _

/-- What a sender has accepted is received in its order, as far as it matches, after each party on
the way has had its turn. -/
theorem accepted_gets_received
    (created : NamedSender.withCapacity name permits = some (senders id))
    (subscribed : (Subscribtion.system buffering (Relayed SenderId)).Reachable sub)
    (foreign : ∀ message ∈ sub.accepted, message.origin = none)
    (reached : (system matching senders sub capacity).ReachableUnder (Lossless matching id) state)
    {published served stored last : State SenderId buffering capacity}
    {first second third fourth : List (Event SenderId)}
    (publishing : (system matching senders sub capacity).Turn (Event.publishes id)
      (Lossless matching id)
      (2 * ((state.senders id).accepted.length - (state.senders id).published.length))
      state first published)
    (serving : (system matching senders sub capacity).Turn (Event.serves id)
      (Lossless matching id)
      ((published.senders id).published.length - published.served id) published second served)
    (storing : (system matching senders sub capacity).Turn Event.stores (Lossless matching id)
      (3 * served.receiver.sub.sub.queue.length + 3) served third stored)
    (taking : (system matching senders sub capacity).Turn Event.takes (Lossless matching id)
      stored.receiver.channel.queue.length stored fourth last) :
    matched matching ((state.senders id).accepted.map
      (NamedSender.Call.publication (lossyConvert name))) <+: last.received id := by
  have reachedPublished := reached.runFrom publishing.meets publishing.run
  have reachedServed := reachedPublished.runFrom serving.meets serving.run
  have reachedStored := reachedServed.runFrom storing.meets storing.run
  have reachedLast := reachedStored.runFrom taking.meets taking.run
  -- the worker of the sender
  have all : (state.senders id).accepted.length ≤ (published.senders id).published.length := by
    cases count : (state.senders id).accepted.length with
    | zero => exact Nat.zero_le _
    | succ index =>
        have holds := (publishes_bounded matching sub capacity created index).turn
          ⟨sender_reachable reached.reachable id,
            (whole_of_reachable created foreign reached).loops,
            Nat.lt_of_lt_of_eq (Nat.lt_succ_self index) count.symm⟩ publishing
          (by rw [count]; exact Nat.sub_le _ _)
        exact NamedSender.published_of_distance holds.2
  -- the server
  have dealt : (published.senders id).published.length ≤ served.served id := by
    have near := ((serves_bounded matching senders sub capacity id
      (published.senders id).published.length).turn trivial serving (Nat.le_refl _)).2
    exact Nat.le_of_sub_eq_zero near
  have earlier := accepted_grows reached.reachable
    (System.runFrom_append_eq_some _ |>.mpr ⟨published, publishing.run, serving.run⟩) id
  have passed := passed_of_served created reachedServed.reachable
    (whole_of_reachable created foreign reachedServed) earlier (Nat.le_trans all dealt)
  -- the worker of the receiver
  have receivingServed := receiver_reachable reachedServed.reachable
  have receivingStored := receiver_reachable reachedStored.reachable
  have tried := NamedReceiver.tried_of_distance ((stores_bounded subscribed _).turn
    (NamedReceiver.Working.of_leaves subscribed receivingServed
      (whole_of_reachable created foreign reachedServed).complete.leaves) storing
    served.receiver.distance_le).2
  have kept := stored_of_tried subscribed foreign receivingStored
    (whole_of_reachable created foreign reachedStored).complete.stores
    (receiver_grows reachedServed.reachable storing.run).1 (by
      rw [← NamedReceiver.length_accepted subscribed receivingServed]
      omega)
  -- the calls
  have waiting : stored.receiver.stored.length - stored.receiver.handedOut.length ≤
      stored.receiver.channel.queue.length := by
    rw [← (NamedReceiver.letters_of_reachable receivingStored).taken, List.length_append,
      Nat.add_sub_cancel_left]
  have taken := ((takes_bounded matching senders sub capacity id
    stored.receiver.stored.length).turn ⟨receivingStored, Nat.le_refl _⟩ taking waiting).2
  have received := received_of_length id
    (NamedReceiver.letters_of_reachable (receiver_reachable reachedLast.reachable))
    (receiver_grows reachedStored.reachable taking.run).2 (Nat.le_of_sub_eq_zero taken)
  exact (passed.trans kept).trans received

end Runs

/-- A call of a sender, up to the queue. -/
def queueOne (id : Bool) (data : Bytes) : List (Event Bool) :=
  [.enter 0 0 .send none data, .acquire 0, .build 0, .sendToChannel 0].map (.sender id)

/-- Two messages are published, while the other sender sends one. -/
def publishTwo : List (Event Bool) :=
  [.sender false .recv, .sender false (.publishDone true)] ++ queueOne true [2] ++
    [.sender false .recv, .sender false (.publishDone true)]

/-- The server passes them on, with a message of another client in between. -/
def relayTwo : List (Event Bool) := [.relay false, .foreign ['t'] [9], .relay false]

/-- The worker of the receiver pops three messages and waits for the next. -/
def popThree : List (Event Bool) :=
  popOne ++ popOne ++ popOne ++ [.subscribtion .popStart, .subscribtion .pollNext,
    .subscribtion .pollShutdown].map .receiver

def takeThree : List (Event Bool) :=
  [.receiver (.tryRecv 0), .receiver (.tryRecv 0), .receiver (.tryRecv 0)]

theorem accepted_gets_received_of_two :
    ∃ state last : State Bool none 4,
      (system short twoSenders (Subscribtion.new none _) 4).run
        (queueOne false [1] ++ queueOne false [3]) = some state ∧
      (system short twoSenders (Subscribtion.new none _) 4).runFrom state
        (publishTwo ++ (relayTwo ++ (popThree ++ takeThree))) = some last ∧
      matched short ((state.senders false).accepted.map
        (NamedSender.Call.publication ['t'])) <+: last.received false := by
  have evaluated :
      ((system short twoSenders (Subscribtion.new none _) 4).run
        (queueOne false [1] ++ queueOne false [3])).bind (fun state : State Bool none 4 =>
      ((system short twoSenders (Subscribtion.new none _) 4).runFrom state publishTwo).bind
        fun published =>
      ((system short twoSenders (Subscribtion.new none _) 4).runFrom published relayTwo).bind
        fun served =>
      ((system short twoSenders (Subscribtion.new none _) 4).runFrom served popThree).bind
        fun stored =>
      ((system short twoSenders (Subscribtion.new none _) 4).runFrom stored takeThree).map
        fun _ => ((state.senders false).accepted.length, (published.senders false).published.length,
          served.receiver.sub.sub.queue.length, stored.receiver.channel.queue.length)) =
      some (2, 2, 3, 3) := by decide
  have lossless : (system short twoSenders (Subscribtion.new none _) 4).Meets
      (Lossless short false) (system short twoSenders (Subscribtion.new none _) 4).init
      ((queueOne false [1] ++ queueOne false [3]) ++
        (publishTwo ++ (relayTwo ++ (popThree ++ takeThree)))) := by decide
  obtain ⟨state, run, evaluated⟩ := Option.bind_eq_some_iff.mp evaluated
  obtain ⟨published, first, evaluated⟩ := Option.bind_eq_some_iff.mp evaluated
  obtain ⟨served, second, evaluated⟩ := Option.bind_eq_some_iff.mp evaluated
  obtain ⟨stored, third, evaluated⟩ := Option.bind_eq_some_iff.mp evaluated
  obtain ⟨last, fourth, values⟩ := Option.map_eq_some_iff.mp evaluated
  simp only [Prod.mk.injEq] at values
  obtain ⟨accepted, made, buffered, queued⟩ := values
  have after := lossless.rest _ run
  have afterFirst := after.rest _ first
  have afterSecond := afterFirst.rest _ second
  have runs : (system short twoSenders (Subscribtion.new none _) 4).runFrom state
      (publishTwo ++ (relayTwo ++ (popThree ++ takeThree))) = some last := by
    simp only [System.runFrom_append, first, second, third, fourth, Option.bind_some]
  refine ⟨state, last, run, runs, ?_⟩
  refine accepted_gets_received (twoSenders_created false) .init
    (fun _ member => (List.not_mem_nil member).elim) ⟨_, lossless.front _, run⟩
    ⟨after.front _, first, ?_⟩ ⟨afterFirst.front _, second, ?_⟩ ⟨afterSecond.front _, third, ?_⟩
    ⟨afterSecond.rest _ third, fourth, ?_⟩
  · rw [accepted]
    exact Nat.le_trans (Nat.mul_le_mul_left 2 (Nat.sub_le 2 _)) (by decide)
  · rw [made]
    exact Nat.le_trans (Nat.sub_le 2 _) (by decide)
  · rw [buffered]
    decide
  · rw [queued]
    decide

end AsyncNats.Exchange
