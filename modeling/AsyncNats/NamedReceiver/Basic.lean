import AsyncNats.Subscribtion.Drain

/-! # The non-blocking receiver

A named receiver takes a subscription over and spawns a worker that pops it for
ever and stores what it gets in a bounded channel, without waiting for room. The
receiver and its clones take from the other end, with or without blocking.

The worker's `pop` and its `try_send` are separate steps. A channel without slots
hands a message over when a blocking call waits for it, so a `try_send` step may
name that call.
-/

namespace AsyncNats.NamedReceiver

open Sync Transition

abbrev ReceiverId := Nat

/-- A popped message. The number tells it from all others: so many messages the
worker had popped before. -/
structure Letter (Msg : Type) where
  number : Nat
  message : Msg
  deriving DecidableEq, Repr

/-- The worker task: in its `pop` call, with a message it has not yet tried to
store, with its loop left and the subscription or the channel's sending half still
to be dropped, or gone. -/
inductive Worker (Msg : Type) where
  | popping
  | holding (letter : Letter Msg)
  | ending
  | closing
  | done
  deriving DecidableEq, Repr

inductive Call where
  | recv
  | tryRecv
  deriving DecidableEq, Repr

/-- A finished call. A missing message is the empty `Message` of the C++ side. -/
structure Return (Msg : Type) where
  receiver : ReceiverId
  call : Call
  value : Option (Letter Msg)
  deriving DecidableEq, Repr

/-- A message that the channel did not take, with the number of messages it held
then and whether it was closed. -/
structure Rejection (Msg : Type) where
  letter : Letter Msg
  buffered : Nat
  closed : Bool
  deriving DecidableEq, Repr

/-- A receiver with its clones, the blocking calls that wait on them, and the
worker with its subscription. From `popped` on the fields are history: what the
worker popped, what the channel took and what it rejected, the finished calls in
the order in which they took effect, and whether the worker's `pop` has returned
`None`. -/
structure State (buffering : Option Nat) (capacity : Nat) (Msg : Type) where
  sub : Subscribtion.State buffering Msg
  worker : Worker Msg
  channel : Channel (some capacity) (Letter Msg)
  receivers : List ReceiverId
  waiting : List ReceiverId
  popped : List (Letter Msg)
  stored : List (Letter Msg)
  rejected : List (Rejection Msg)
  returned : List (Return Msg)
  sawEnd : Bool

variable {buffering : Option Nat} {capacity : Nat} {Msg : Type}

/-- `AsyncNatsNamedReceiver::new`. -/
def new (sub : Subscribtion.State buffering Msg) (capacity : Nat) :
    State buffering capacity Msg where
  sub := sub
  worker := .popping
  channel := .new (some capacity) (Letter Msg)
  receivers := [0]
  waiting := []
  popped := []
  stored := []
  rejected := []
  returned := []
  sawEnd := false

namespace State

/-- The worker goes on after a step of its `pop` call, which may have returned or
panicked. -/
def resume (state : State buffering capacity Msg) (sub : Subscribtion.State buffering Msg) :
    State buffering capacity Msg :=
  match state.sub.popResult sub with
  | some (some message) =>
      { state with
        sub
        worker := .holding ⟨state.popped.length, message⟩
        popped := state.popped ++ [⟨state.popped.length, message⟩] }
  | some none => { state with sub, worker := .ending, sawEnd := true }
  | none =>
      if sub.panics = state.sub.panics then { state with sub }
      else { state with sub, worker := .ending }

/-- A step of the subscription. Its handle has been given away, so nobody can get
new tokens from it. -/
def subscribtion (state : State buffering capacity Msg) (event : Subscribtion.Event Msg) :
    Option (State buffering capacity Msg) :=
  match event.caller with
  | .pop =>
    match state.worker with
    | .popping => (Subscribtion.step state.sub event).map state.resume
    | _ => none
  | .outside => (Subscribtion.step state.sub event).map fun sub => { state with sub }
  | .handle => none

/-- `tx.try_send(msg).ok()`. A channel without slots passes the message to a
`partner` that waits in a blocking call. -/
def trySend (state : State buffering capacity Msg) (partner : Option ReceiverId) :
    Option (State buffering capacity Msg) :=
  match state.worker, partner with
  | .holding letter, none =>
    match state.channel.trySend letter with
    | .ok channel =>
        some { state with channel, worker := .popping, stored := state.stored ++ [letter] }
    | .error _ =>
        some { state with
          worker := .popping
          rejected :=
            state.rejected ++ [⟨letter, state.channel.queue.length, state.channel.closed⟩] }
  | .holding letter, some receiver =>
    if capacity = 0 ∧ receiver ∈ state.waiting then
      some { state with
        worker := .popping
        stored := state.stored ++ [letter]
        waiting := state.waiting.erase receiver
        returned := state.returned ++ [⟨receiver, .recv, some letter⟩] }
    else none
  | _, _ => none

/-- The task drops the subscription, and with it the receiving half of the buffer
and both halves of the shutdown channel that it owns. -/
def dropSubscribtion (state : State buffering capacity Msg) :
    Option (State buffering capacity Msg) :=
  match state.worker with
  | .ending =>
      some { state with
        sub := { state.sub with
          sub := state.sub.sub.close, shutdown := state.sub.shutdown.close.dropSender }
        worker := .closing }
  | _ => none

/-- The task drops its half of the channel. -/
def dropSender (state : State buffering capacity Msg) : Option (State buffering capacity Msg) :=
  match state.worker with
  | .closing => some { state with channel := state.channel.dropSender, worker := .done }
  | _ => none

/-- The runtime is deleted: the task is dropped where it awaits. -/
def runtimeDelete (state : State buffering capacity Msg) :
    Option (State buffering capacity Msg) :=
  match state.worker with
  | .popping => some { state with worker := .ending }
  | _ => none

/-- `async_nats_named_receiver_clone`. -/
def clone (state : State buffering capacity Msg) (source fresh : ReceiverId) :
    Option (State buffering capacity Msg) :=
  if source ∈ state.receivers ∧ fresh ∉ state.receivers then
    some { state with receivers := fresh :: state.receivers }
  else none

/-- `async_nats_named_receiver_delete`, of a receiver in no call. The last receiver
closes the channel. -/
def delete (state : State buffering capacity Msg) (receiver : ReceiverId) :
    Option (State buffering capacity Msg) :=
  if receiver ∈ state.receivers ∧ receiver ∉ state.waiting then
    some { state with
      receivers := state.receivers.erase receiver
      channel :=
        if state.receivers.erase receiver = [] then state.channel.close else state.channel }
  else none

/-- `async_nats_named_receiver_recv` starts to wait. -/
def recvStart (state : State buffering capacity Msg) (receiver : ReceiverId) :
    Option (State buffering capacity Msg) :=
  if receiver ∈ state.receivers then
    some { state with waiting := receiver :: state.waiting }
  else none

/-- A call takes what the channel has for it. An empty channel that is still
connected has nothing. -/
def take (state : State buffering capacity Msg) (receiver : ReceiverId) (call : Call) :
    Option (State buffering capacity Msg) :=
  match state.channel.tryRecv with
  | .message letter channel =>
      some { state with
        channel, returned := state.returned ++ [⟨receiver, call, some letter⟩] }
  | .disconnected =>
      some { state with returned := state.returned ++ [⟨receiver, call, none⟩] }
  | .empty => none

/-- `async_nats_named_receiver_recv` returns. -/
def recvReturn (state : State buffering capacity Msg) (receiver : ReceiverId) :
    Option (State buffering capacity Msg) :=
  if receiver ∈ state.waiting then
    { state with waiting := state.waiting.erase receiver }.take receiver .recv
  else none

/-- `async_nats_named_receiver_try_recv`. Both errors of `try_recv` give a null
pointer. -/
def tryRecv (state : State buffering capacity Msg) (receiver : ReceiverId) :
    Option (State buffering capacity Msg) :=
  if receiver ∈ state.receivers then
    (state.take receiver .tryRecv).or
      (some { state with returned := state.returned ++ [⟨receiver, .tryRecv, none⟩] })
  else none

/-- The messages handed out over all clones, in the order of their removals. -/
def handedOut (state : State buffering capacity Msg) : List (Letter Msg) :=
  state.returned.filterMap Return.value

end State

/-- One step of the subscription, the worker, the runtime or a caller. -/
inductive Event (Msg : Type) where
  | subscribtion (event : Subscribtion.Event Msg)
  | trySend (partner : Option ReceiverId)
  | dropSubscribtion
  | dropSender
  | runtimeDelete
  | clone (source fresh : ReceiverId)
  | delete (receiver : ReceiverId)
  | recvStart (receiver : ReceiverId)
  | recvReturn (receiver : ReceiverId)
  | tryRecv (receiver : ReceiverId)

def step (state : State buffering capacity Msg) : Event Msg → Option (State buffering capacity Msg)
  | .subscribtion event => state.subscribtion event
  | .trySend partner => state.trySend partner
  | .dropSubscribtion => state.dropSubscribtion
  | .dropSender => state.dropSender
  | .runtimeDelete => state.runtimeDelete
  | .clone source fresh => state.clone source fresh
  | .delete receiver => state.delete receiver
  | .recvStart receiver => state.recvStart receiver
  | .recvReturn receiver => state.recvReturn receiver
  | .tryRecv receiver => state.tryRecv receiver

/-- The runs of a receiver that has taken over the subscription `sub`. -/
def system (sub : Subscribtion.State buffering Msg) (capacity : Nat) :
    System (State buffering capacity Msg) (Event Msg) where
  init := new sub capacity
  step

end AsyncNats.NamedReceiver
