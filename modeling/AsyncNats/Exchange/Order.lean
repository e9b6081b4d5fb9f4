import AsyncNats.Exchange.Basic
import AsyncNats.NamedReceiver.Tries
import Mathlib.Data.List.Infix

/-! # What is received was sent

The receiver hands out what the senders have accepted, each message at most once and those of
one sender in their order, whatever the server loses and however the steps of all of them
interleave.
-/

namespace AsyncNats.NamedSender

variable {state next : State} {event : Event}

/-- Publications stay, in their places. -/
theorem Step.published_grows (step : Step state event next) :
    state.published <+: next.published := by
  cases step with
  | received => exact List.prefix_append _ _
  | _ => exact List.prefix_rfl

end AsyncNats.NamedSender

namespace AsyncNats.Exchange

open Sync Transition
open NamedReceiver (Letter)

variable {SenderId : Type} [DecidableEq SenderId] {buffering : Option Nat} {capacity : Nat}
  {matching : RustString → Bool} {state next : State SenderId buffering capacity}

/-- What a message is if it comes from a certain sender. -/
def Relayed.publication? (id : SenderId) (message : Relayed SenderId) :
    Option (RustString × Bytes) :=
  if message.origin = some id then some (message.subject, message.payload) else none

/-- The publications of one sender among some messages. -/
def ofSender (id : SenderId) (messages : List (Relayed SenderId)) : List (RustString × Bytes) :=
  messages.filterMap (Relayed.publication? id)

theorem ofSender_append (id : SenderId) (front back : List (Relayed SenderId)) :
    ofSender id (front ++ back) = ofSender id front ++ ofSender id back :=
  List.filterMap_append

theorem ofSender_own (id : SenderId) (subject : RustString) (payload : Bytes) :
    ofSender id [⟨some id, subject, payload⟩] = [(subject, payload)] := by
  rw [ofSender, List.filterMap_cons, Relayed.publication?, if_pos rfl]
  rfl

theorem ofSender_other {id : SenderId} {message : Relayed SenderId}
    (other : message.origin ≠ some id) : ofSender id [message] = [] := by
  rw [ofSender, List.filterMap_cons, Relayed.publication?, if_neg other]
  rfl

theorem ofSender_eq_nil {id : SenderId} {messages : List (Relayed SenderId)}
    (foreign : ∀ message ∈ messages, message.origin = none) : ofSender id messages = [] := by
  refine List.filterMap_eq_nil_iff.mpr fun message member => ?_
  rw [Relayed.publication?, foreign message member]
  exact if_neg (Option.some_ne_none id).symm

/-- A message that is not from a sender adds nothing to what the subscription has of it. -/
theorem ofSender_accepted_of_other {id : SenderId} {message : Relayed SenderId}
    {receiver after : NamedReceiver.State buffering capacity (Relayed SenderId)}
    (taken : NamedReceiver.step receiver (.subscribtion (.arrive message)) = some after)
    (other : message.origin ≠ some id) :
    ofSender id after.sub.accepted = ofSender id receiver.sub.accepted := by
  rcases (NamedReceiver.step_cases taken).accepted with kept | ⟨_, same, added⟩
  · rw [kept]
  · cases same
    rw [added, ofSender_append, ofSender_other other, List.append_nil]

/-- What the receiver has handed out of one sender. -/
def State.received (state : State SenderId buffering capacity) (id : SenderId) :
    List (RustString × Bytes) :=
  ofSender id (state.receiver.handedOut.map Letter.message)

/-- The publications that match. -/
def matched (matching : RustString → Bool) (publications : List (RustString × Bytes)) :
    List (RustString × Bytes) :=
  publications.filter fun publication => matching publication.1

theorem matched_of_matches {publication : RustString × Bytes}
    (matches_ : matching publication.1 = true) :
    matched matching [publication] = [publication] :=
  List.filter_eq_self.mpr (List.forall_mem_singleton.mpr matches_)

theorem matched_of_not_matches {publication : RustString × Bytes}
    (unmatched : matching publication.1 = false) : matched matching [publication] = [] := by
  refine List.filter_eq_nil_iff.mpr (List.forall_mem_singleton.mpr ?_)
  rw [unmatched]
  exact Bool.false_ne_true

/-- The publications of a sender that the server has dealt with, as far as they match. -/
def State.passed (matching : RustString → Bool) (state : State SenderId buffering capacity)
    (id : SenderId) : List (RustString × Bytes) :=
  matched matching ((state.senders id).published.take (state.served id))

theorem State.passed_serve {id : SenderId} {publication : RustString × Bytes}
    (found : state.unserved? id = some publication) :
    (state.serve id).passed matching id =
      state.passed matching id ++ matched matching [publication] := by
  unfold State.unserved? at found
  simp only [State.passed, State.serve, Function.update_self, List.take_add_one, found, matched,
    List.filter_append, Option.toList_some]

theorem State.passed_serve_of_ne {id other : SenderId} (distinct : other ≠ id) :
    (state.serve id).passed matching other = state.passed matching other := by
  simp only [State.passed, State.serve, Function.update_of_ne distinct]

/-- What the subscription has accepted of one sender was passed on, in this order. -/
def InOrder (matching : RustString → Bool) (state : State SenderId buffering capacity) : Prop :=
  ∀ id, (ofSender id state.receiver.sub.accepted).Sublist (state.passed matching id)

/-- A message that is passed on is accepted or lost. -/
theorem InOrder.relay (order : InOrder matching state) {id : SenderId} {subject : RustString}
    {payload : Bytes} (found : state.unserved? id = some (subject, payload))
    (matches_ : matching subject = true)
    {receiver : NamedReceiver.State buffering capacity (Relayed SenderId)}
    (taken : NamedReceiver.step state.receiver
      (.subscribtion (.arrive ⟨some id, subject, payload⟩)) = some receiver) :
    InOrder matching { state.serve id with receiver } := by
  intro other
  change (ofSender other receiver.sub.accepted).Sublist ((state.serve id).passed matching other)
  by_cases same : other = id
  · subst same
    rw [State.passed_serve found, matched_of_matches matches_]
    rcases (NamedReceiver.step_cases taken).accepted with kept | ⟨_, same, added⟩
    · rw [kept]
      exact (order other).trans (List.sublist_append_left _ _)
    · cases same
      rw [added, ofSender_append, ofSender_own]
      exact (order other).append (List.Sublist.refl _)
  · have unlike : some id ≠ some other := fun alike => same (Option.some.inj alike).symm
    rw [State.passed_serve_of_ne same, ofSender_accepted_of_other taken unlike]
    exact order other

theorem Step.inOrder {event : Event SenderId} (step : Step matching state event next)
    (order : InOrder matching state) : InOrder matching next := by
  cases step with
  | @sender id event sender taken =>
      intro other
      refine (order other).trans ?_
      by_cases same : other = id
      · subst same
        have more : (state.senders other).published <+: sender.published :=
          (NamedSender.step_cases taken).published_grows
        simp only [State.passed, Function.update_self]
        exact (more.take _).sublist.filter _
      · simp only [State.passed, Function.update_of_ne same]
        exact List.Sublist.refl _
  | relayed found matches_ taken => exact order.relay found matches_ taken
  | @lost id publication found =>
      intro other
      refine (order other).trans ?_
      by_cases same : other = id
      · subst same
        rw [State.passed_serve found]
        exact List.sublist_append_left _ _
      · rw [State.passed_serve_of_ne same]
  | foreign taken =>
      intro other
      change (ofSender other _).Sublist (state.passed matching other)
      rw [ofSender_accepted_of_other taken (Option.some_ne_none other).symm]
      exact order other
  | receiver own taken =>
      intro other
      change (ofSender other _).Sublist (state.passed matching other)
      rcases (NamedReceiver.step_cases taken).accepted with kept | ⟨message, same, _⟩
      · rw [kept]
        exact order other
      · exact (own message same).elim

section Runs

variable {senders : SenderId → NamedSender.State}
  {sub : Subscribtion.State buffering (Relayed SenderId)}

theorem inOrder_of_reachable (foreign : ∀ message ∈ sub.accepted, message.origin = none)
    (reached : (system matching senders sub capacity).Reachable state) :
    InOrder matching state := by
  refine System.Reachable.induction (motive := InOrder matching) (fun id => ?_)
    (fun _ _ _ _ order taken => (step_cases taken).inOrder order) reached
  change (ofSender id sub.accepted).Sublist _
  rw [ofSender_eq_nil foreign]
  exact List.nil_sublist _

/-- What the receiver has handed out of a sender are the publications of calls that the sender
has accepted: no call twice, in the order of the calls, and to subjects that match. -/
theorem received_in_order {name : SenderId → CString} {capacities : SenderId → Nat}
    (created : ∀ id, NamedSender.withCapacity (name id) (capacities id) = some (senders id))
    (subscribed : (Subscribtion.system buffering (Relayed SenderId)).Reachable sub)
    (foreign : ∀ message ∈ sub.accepted, message.origin = none)
    (reached : (system matching senders sub capacity).Reachable state) (id : SenderId) :
    ∃ calls : List NamedSender.Call, calls.Sublist (state.senders id).accepted ∧ calls.Nodup ∧
      state.received id = calls.map (NamedSender.Call.publication (lossyConvert (name id))) ∧
      ∀ call ∈ calls, matching (call.publication (lossyConvert (name id))).1 = true := by
  have receiving := receiver_reachable reached
  obtain ⟨published, once, _⟩ :=
    NamedSender.published_in_order (created id) (sender_reachable reached id)
  have handedOut : (state.receiver.handedOut.map Letter.message).Sublist
      state.receiver.sub.accepted := by
    rw [← NamedReceiver.popped_append_queue subscribed receiving]
    refine ((NamedReceiver.delivers receiving).subsequence.map _).trans ?_
    exact (List.sublist_append_right _ _).trans (List.sublist_append_left _ _)
  have passed : (state.received id).Sublist (state.passed matching id) :=
    (handedOut.filterMap _).trans (inOrder_of_reachable foreign reached id)
  have sent := passed.trans (((List.take_sublist _ _).trans published.sublist).filter _)
  rw [List.filter_map] at sent
  obtain ⟨calls, part, same⟩ := List.sublist_map_iff.mp sent
  have among : calls.Sublist (state.senders id).accepted := part.trans List.filter_sublist
  refine ⟨calls, among, among.nodup once, same, fun call member => ?_⟩
  exact (List.mem_filter.mp (part.subset member)).2

/-- The subjects of two senders. -/
def twoNames : Bool → CString
  | false => ⟨[0x74], by decide⟩
  | true => ⟨[0x75], by decide⟩

/-- The senders, with eight permits each. -/
def twoSenders (id : Bool) : NamedSender.State :=
  (NamedSender.withCapacity (twoNames id) 8).get (by cases id <;> decide)

theorem twoSenders_created (id : Bool) :
    NamedSender.withCapacity (twoNames id) 8 = some (twoSenders id) :=
  (Option.some_get _).symm

/-- The subjects of one character. -/
def short (subject : RustString) : Bool := subject.length == 1

/-- One call of a sender, as far as its publication. -/
def sendOne (id : Bool) (data : Bytes) : List (Event Bool) :=
  [.enter 0 0 .send none data, .acquire 0, .build 0, .sendToChannel 0, .recv,
    .publishDone true].map (.sender id)

/-- The receiver's worker pops a message and stores it. -/
def popOne : List (Event Bool) :=
  [.subscribtion .popStart, .subscribtion .pollNext, .trySend none].map .receiver

/-- The server loses the first message of the one sender and passes the other sender's message on
before the second, with a message of another client in between. -/
def threeMessages : List (Event Bool) :=
  sendOne false [1] ++ sendOne true [2] ++ sendOne false [3] ++
    [.lose false, .relay true, .foreign ['t'] [9], .relay false] ++ popOne ++ popOne ++ popOne ++
    [.receiver (.tryRecv 0), .receiver (.tryRecv 0), .receiver (.tryRecv 0)]

theorem received_in_order_of_three :
    ∃ state : State Bool none 4,
      (system short twoSenders (Subscribtion.new none _) 4).run threeMessages =
        some state ∧
      state.received false = [(['t'], [3])] ∧ state.received true = [(['u'], [2])] ∧
      ∃ calls : List NamedSender.Call, calls.Sublist (state.senders false).accepted ∧
        calls.Nodup ∧ state.received false = calls.map (NamedSender.Call.publication ['t']) ∧
        ∀ call ∈ calls, short (call.publication ['t']).1 = true := by
  have evaluated :
      ((system short twoSenders (Subscribtion.new none _) 4).run threeMessages).map
        (fun state => (state.received false, state.received true)) =
          some ([(['t'], [3])], [(['u'], [2])]) := by decide
  obtain ⟨state, run, received⟩ := Option.map_eq_some_iff.mp evaluated
  obtain ⟨first, second⟩ := Prod.ext_iff.mp received
  exact ⟨state, run, first, second,
    received_in_order twoSenders_created .init (fun _ member => (List.not_mem_nil member).elim)
      ⟨_, run⟩ false⟩

end Runs

end AsyncNats.Exchange
