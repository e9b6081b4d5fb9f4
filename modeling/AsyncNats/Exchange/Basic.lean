import AsyncNats.NamedReceiver.Delivery
import AsyncNats.NamedSender.Progress
import AsyncNats.Transition.Component

/-! # Senders and a receiver

Senders publish over a server, and a receiver takes messages from its subscription. The server is
not part of the repository. It may do anything that a server may do which gives no message twice
and keeps the publications of one client in their order: it takes the senders in any order, it
passes on what matches the subject of the subscription, with messages of other clients in between,
or it loses it.

The senders and the receiver are those of the modules before, side by side, with all their steps.
-/

namespace AsyncNats.Exchange

open Sync Transition

/-- A message that the server gives to the subscription. Its origin is the sender that has
published it, if it is one of the senders. -/
structure Relayed (SenderId : Type) where
  origin : Option SenderId
  subject : RustString
  payload : Bytes
  deriving DecidableEq

/-- The senders, how many of the publications of each the server has dealt with, and the
receiver. -/
structure State (SenderId : Type) (buffering : Option Nat) (capacity : Nat) where
  senders : SenderId → NamedSender.State
  served : SenderId → Nat
  receiver : NamedReceiver.State buffering capacity (Relayed SenderId)

/-- A step of a sender, of the server or of the receiver. -/
inductive Event (SenderId : Type) where
  | sender (id : SenderId) (event : NamedSender.Event)
  | relay (id : SenderId)
  | lose (id : SenderId)
  | foreign (subject : RustString) (payload : Bytes)
  | receiver (event : NamedReceiver.Event (Relayed SenderId))

variable {SenderId : Type} [DecidableEq SenderId] {buffering : Option Nat} {capacity : Nat}

namespace State

/-- The next publication of a sender that the server has not dealt with. -/
def unserved? (state : State SenderId buffering capacity) (id : SenderId) :
    Option (RustString × Bytes) :=
  (state.senders id).published[state.served id]?

/-- The server has dealt with the next publication. -/
def serve (state : State SenderId buffering capacity) (id : SenderId) :
    State SenderId buffering capacity :=
  { state with served := Function.update state.served id (state.served id + 1) }

/-- A message arrives at the subscription. -/
def arrive (state : State SenderId buffering capacity) (message : Relayed SenderId) :
    Option (State SenderId buffering capacity) :=
  (NamedReceiver.step state.receiver (.subscribtion (.arrive message))).map fun receiver =>
    { state with receiver }

/-- The server passes the next publication of a sender on. -/
def relay (matching : RustString → Bool) (state : State SenderId buffering capacity)
    (id : SenderId) : Option (State SenderId buffering capacity) :=
  (state.unserved? id).bind fun (subject, payload) =>
    if matching subject then (state.serve id).arrive ⟨some id, subject, payload⟩ else none

/-- The server does not pass it on. -/
def lose (state : State SenderId buffering capacity) (id : SenderId) :
    Option (State SenderId buffering capacity) :=
  (state.unserved? id).map fun _ => state.serve id

/-- A sender takes a step. -/
def stepSender (state : State SenderId buffering capacity) (id : SenderId)
    (event : NamedSender.Event) : Option (State SenderId buffering capacity) :=
  (NamedSender.step (state.senders id) event).map fun sender =>
    { state with senders := Function.update state.senders id sender }

/-- The receiver takes a step. Messages arrive from the server only. -/
def stepReceiver (state : State SenderId buffering capacity)
    (event : NamedReceiver.Event (Relayed SenderId)) :
    Option (State SenderId buffering capacity) :=
  match event with
  | .subscribtion (.arrive _) => none
  | event => (NamedReceiver.step state.receiver event).map fun receiver => { state with receiver }

end State

def step (matching : RustString → Bool) (state : State SenderId buffering capacity) :
    Event SenderId → Option (State SenderId buffering capacity)
  | .sender id event => state.stepSender id event
  | .relay id => state.relay matching id
  | .lose id => state.lose id
  | .foreign subject payload => state.arrive ⟨none, subject, payload⟩
  | .receiver event => state.stepReceiver event

/-- All interleavings of some senders and a receiver that has taken over the subscription `sub`.
`matching` says which subjects it is for. -/
def system (matching : RustString → Bool) (senders : SenderId → NamedSender.State)
    (sub : Subscribtion.State buffering (Relayed SenderId)) (capacity : Nat) :
    System (State SenderId buffering capacity) (Event SenderId) where
  init := ⟨senders, fun _ => 0, NamedReceiver.new sub capacity⟩
  step := step matching

variable {matching : RustString → Bool} {state next : State SenderId buffering capacity}

/-- What a step comes to. -/
inductive Step (matching : RustString → Bool) (state : State SenderId buffering capacity) :
    Event SenderId → State SenderId buffering capacity → Prop where
  | sender {id : SenderId} {event : NamedSender.Event} {sender : NamedSender.State}
      (taken : NamedSender.step (state.senders id) event = some sender) :
      Step matching state (.sender id event)
        { state with senders := Function.update state.senders id sender }
  | relayed {id : SenderId} {subject : RustString} {payload : Bytes}
      {receiver : NamedReceiver.State buffering capacity (Relayed SenderId)}
      (found : state.unserved? id = some (subject, payload)) (matched : matching subject = true)
      (taken : NamedReceiver.step state.receiver
        (.subscribtion (.arrive ⟨some id, subject, payload⟩)) = some receiver) :
      Step matching state (.relay id) { state.serve id with receiver }
  | lost {id : SenderId} {publication : RustString × Bytes}
      (found : state.unserved? id = some publication) :
      Step matching state (.lose id) (state.serve id)
  | foreign {subject : RustString} {payload : Bytes}
      {receiver : NamedReceiver.State buffering capacity (Relayed SenderId)}
      (taken : NamedReceiver.step state.receiver
        (.subscribtion (.arrive ⟨none, subject, payload⟩)) = some receiver) :
      Step matching state (.foreign subject payload) { state with receiver }
  | receiver {event : NamedReceiver.Event (Relayed SenderId)}
      {receiver : NamedReceiver.State buffering capacity (Relayed SenderId)}
      (own : ∀ message, event ≠ .subscribtion (.arrive message))
      (taken : NamedReceiver.step state.receiver event = some receiver) :
      Step matching state (.receiver event) { state with receiver }

theorem step_cases {event : Event SenderId} (taken : step matching state event = some next) :
    Step matching state event next := by
  cases event with
  | sender id event =>
      obtain ⟨sender, moved, rfl⟩ := Option.map_eq_some_iff.mp taken
      exact .sender moved
  | relay id =>
      obtain ⟨⟨subject, payload⟩, found, passed⟩ := Option.bind_eq_some_iff.mp taken
      obtain ⟨matched, arrived⟩ := Option.ite_none_right_eq_some.mp passed
      obtain ⟨receiver, moved, rfl⟩ := Option.map_eq_some_iff.mp arrived
      exact .relayed found matched moved
  | lose id =>
      obtain ⟨publication, found, rfl⟩ := Option.map_eq_some_iff.mp taken
      exact .lost found
  | foreign subject payload =>
      obtain ⟨receiver, moved, rfl⟩ := Option.map_eq_some_iff.mp taken
      exact .foreign moved
  | receiver event =>
      change state.stepReceiver event = some next at taken
      unfold State.stepReceiver at taken
      split at taken
      · cases taken
      · next event own =>
          obtain ⟨receiver, moved, rfl⟩ := Option.map_eq_some_iff.mp taken
          exact .receiver own moved

section Parts

variable (matching : RustString → Bool) (senders : SenderId → NamedSender.State)
  (sub : Subscribtion.State buffering (Relayed SenderId)) (capacity : Nat)

/-- A sender among the others and the receiver takes its own steps. -/
def senderComponent (id : SenderId) :
    Component (system matching senders sub capacity) (NamedSender.system (senders id)) where
  part := fun state => state.senders id
  init := rfl
  step := by
    intro state next event taken
    cases step_cases taken with
    | @sender other event sender moved =>
        by_cases same : id = other
        · subst same
          have updated : Function.update state.senders id sender id = sender :=
            Function.update_self ..
          exact .inr ⟨event, moved.trans (congrArg some updated.symm)⟩
        · exact .inl (Function.update_of_ne same _ _)
    | relayed | lost | foreign | receiver => exact .inl rfl

/-- So does the receiver. -/
def receiverComponent :
    Component (system matching senders sub capacity) (NamedReceiver.system sub capacity) where
  part := State.receiver
  init := rfl
  step := by
    intro state next event taken
    cases step_cases taken with
    | @relayed id subject payload _ _ _ moved =>
        exact .inr ⟨.subscribtion (.arrive ⟨some id, subject, payload⟩), moved⟩
    | @foreign subject payload _ moved =>
        exact .inr ⟨.subscribtion (.arrive ⟨none, subject, payload⟩), moved⟩
    | @receiver event _ _ moved => exact .inr ⟨event, moved⟩
    | sender | lost => exact .inl rfl

end Parts

section Runs

variable {senders : SenderId → NamedSender.State}
  {sub : Subscribtion.State buffering (Relayed SenderId)}

theorem sender_reachable (reached : (system matching senders sub capacity).Reachable state)
    (id : SenderId) : (NamedSender.system (senders id)).Reachable (state.senders id) :=
  (senderComponent matching senders sub capacity id).reachable reached

theorem receiver_reachable (reached : (system matching senders sub capacity).Reachable state) :
    (NamedReceiver.system sub capacity).Reachable state.receiver :=
  (receiverComponent matching senders sub capacity).reachable reached

end Runs

end AsyncNats.Exchange
