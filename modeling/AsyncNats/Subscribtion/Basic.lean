import AsyncNats.Sync.Channel
import Mathlib.Data.List.ReduceOption

/-! # Subscriptions and their cancellation

A subscription owns the client's `Subscriber`, whose buffer the connection fills,
and the receiving half of a one-slot shutdown channel. A token owns a sending
half of that channel, and so does the subscription itself. `pop` polls the buffer
and then the shutdown channel, in that order; a shutdown signal makes it
unsubscribe and poll again.

The two polls are separate steps, and so are taking the signal and the end of the
unsubscribe call, since both the connection and the token holders run
meanwhile.
-/

namespace AsyncNats.Subscribtion

open Sync

abbrev TokenId := Nat

/-- Where the current `pop` call stands: there is none, it is about to poll the
buffer or the shutdown channel, or it waits for the client's unsubscribe. -/
inductive Pop where
  | idle
  | atNext
  | atShutdown
  | unsubscribing
  deriving DecidableEq, Repr

/-- A live subscription whose client buffers at most `capacity` messages. The
buffer is closed by a successful unsubscribe, and it has lost its sender when the
connection has ended the stream. From `accepted` on the fields are history:
messages the buffer took, values `pop` has returned, unsubscribe calls of `pop`,
`pop` calls that panicked, whether some `cancel` has returned, whether the current
or last `pop` started after one, and how many messages had been accepted when the
first such `pop` returned. -/
structure State (capacity : Option Nat) (Msg : Type) where
  sub : Channel capacity Msg
  shutdown : Channel (some 1) Unit
  tokens : List TokenId
  pop : Pop
  accepted : List Msg
  returned : List (Option Msg)
  unsubscribes : Nat
  panics : Nat
  cancelled : Bool
  armed : Bool
  sealed : Option Nat

variable {capacity : Option Nat} {Msg : Type}

/-- `AsyncNatsSubscribtion::new`. -/
def new (capacity : Option Nat) (Msg : Type) : State capacity Msg where
  sub := .new capacity Msg
  shutdown := .new (some 1) Unit
  tokens := []
  pop := .idle
  accepted := []
  returned := []
  unsubscribes := 0
  panics := 0
  cancelled := false
  armed := false
  sealed := none

namespace State

/-- The connection delivers a message, as long as it has its half of the buffer.
What the buffer does not take is lost. -/
def arrive (state : State capacity Msg) (message : Msg) : Option (State capacity Msg) :=
  if state.sub.senders = 0 then none
  else
    match state.sub.trySend message with
    | .ok sub => some { state with sub, accepted := state.accepted ++ [message] }
    | .error _ => some state

/-- The connection drops its half of the buffer. -/
def endOfStream (state : State capacity Msg) : State capacity Msg :=
  { state with sub := state.sub.dropSender }

/-- `async_nats_subscribtion_get_cancellation_token`. -/
def getCancellationToken (state : State capacity Msg) (fresh : TokenId) :
    Option (State capacity Msg) :=
  if fresh ∉ state.tokens then
    some { state with tokens := fresh :: state.tokens, shutdown := state.shutdown.addSender }
  else none

/-- `async_nats_subscribtion_cancellation_token_clone`. -/
def tokenClone (state : State capacity Msg) (source fresh : TokenId) :
    Option (State capacity Msg) :=
  if source ∈ state.tokens ∧ fresh ∉ state.tokens then
    some { state with tokens := fresh :: state.tokens, shutdown := state.shutdown.addSender }
  else none

/-- `async_nats_subscribtion_cancellation_token_delete`. -/
def tokenDelete (state : State capacity Msg) (token : TokenId) : Option (State capacity Msg) :=
  if token ∈ state.tokens then
    some { state with
      tokens := state.tokens.erase token, shutdown := state.shutdown.dropSender }
  else none

/-- `async_nats_subscribtion_cancellation_token_cancel`: `try_send(()).ok()`. -/
def tokenCancel (state : State capacity Msg) (token : TokenId) : Option (State capacity Msg) :=
  if token ∈ state.tokens then
    match state.shutdown.trySend () with
    | .ok shutdown => some { state with shutdown, cancelled := true }
    | .error _ => some { state with cancelled := true }
  else none

/-- A call of `Subscribtion::pop`. -/
def popStart (state : State capacity Msg) : Option (State capacity Msg) :=
  match state.pop with
  | .idle => some { state with pop := .atNext, armed := state.cancelled }
  | _ => none

/-- `pop` returns. -/
def popReturn (state : State capacity Msg) (value : Option Msg) : State capacity Msg :=
  { state with
    pop := .idle
    returned := state.returned ++ [value]
    sealed :=
      if state.armed then state.sealed.or (some state.accepted.length) else state.sealed }

/-- The first branch of the select, `self.sub.next()`. -/
def pollNext (state : State capacity Msg) : Option (State capacity Msg) :=
  match state.pop with
  | .atNext =>
    match state.sub.tryRecv with
    | .message head sub => some ({ state with sub }.popReturn (some head))
    | .disconnected => some (state.popReturn none)
    | .empty => some { state with pop := .atShutdown }
  | _ => none

/-- The second branch, `self.sd_receiver.recv()`. Its pattern also takes the end
of the channel. When both branches are pending the select is polled anew. -/
def pollShutdown (state : State capacity Msg) : Option (State capacity Msg) :=
  match state.pop with
  | .atShutdown =>
    match state.shutdown.tryRecv with
    | .message _ shutdown =>
      some { state with
        shutdown, pop := .unsubscribing, unsubscribes := state.unsubscribes + 1 }
    | .disconnected =>
      some { state with pop := .unsubscribing, unsubscribes := state.unsubscribes + 1 }
    | .empty => some { state with pop := .atNext }
  | _ => none

/-- The client's unsubscribe is over. It has closed the buffer, or `expect`
panics and the task that called `pop` is gone. -/
def unsubscribed (state : State capacity Msg) (succeeded : Bool) : Option (State capacity Msg) :=
  match state.pop with
  | .unsubscribing =>
    if succeeded then some { state with sub := state.sub.close, pop := .atNext }
    else some { state with pop := .idle, panics := state.panics + 1 }
  | _ => none

/-- The stream is over: unsubscribed, or ended by the connection. -/
def Over (state : State capacity Msg) : Prop :=
  state.sub.closed = true ∨ state.sub.senders = 0

/-- The value `pop` returned in the step between two states, if it returned. -/
def popResult (before after : State capacity Msg) : Option (Option Msg) :=
  after.returned[before.returned.length]?

/-- The messages `pop` has returned. -/
def delivered (state : State capacity Msg) : List Msg :=
  state.returned.reduceOption

end State

/-- One step of the connection, of a token holder or of a `pop` call. -/
inductive Event (Msg : Type) where
  | arrive (message : Msg)
  | endOfStream
  | getCancellationToken (fresh : TokenId)
  | tokenClone (source fresh : TokenId)
  | tokenDelete (token : TokenId)
  | tokenCancel (token : TokenId)
  | popStart
  | pollNext
  | pollShutdown
  | unsubscribed (succeeded : Bool)

/-- Who takes a step: the task that calls `pop`, the holder of the subscription's
handle, or somebody who has neither. -/
inductive Caller where
  | pop
  | handle
  | outside
  deriving DecidableEq, Repr

def Event.caller : Event Msg → Caller
  | .popStart | .pollNext | .pollShutdown | .unsubscribed _ => .pop
  | .getCancellationToken _ => .handle
  | .arrive _ | .endOfStream | .tokenClone _ _ | .tokenDelete _ | .tokenCancel _ => .outside

def step (state : State capacity Msg) : Event Msg → Option (State capacity Msg)
  | .arrive message => state.arrive message
  | .endOfStream => some state.endOfStream
  | .getCancellationToken fresh => state.getCancellationToken fresh
  | .tokenClone source fresh => state.tokenClone source fresh
  | .tokenDelete token => state.tokenDelete token
  | .tokenCancel token => state.tokenCancel token
  | .popStart => state.popStart
  | .pollNext => state.pollNext
  | .pollShutdown => state.pollShutdown
  | .unsubscribed succeeded => state.unsubscribed succeeded

/-- The runs of a new subscription. -/
def system (capacity : Option Nat) (Msg : Type) :
    Transition.System (State capacity Msg) (Event Msg) where
  init := new capacity Msg
  step

/-- The outcomes of a step. -/
inductive Step (state : State capacity Msg) : Event Msg → State capacity Msg → Prop where
  | arrived {message : Msg} (fed : state.sub.senders ≠ 0) (opened : state.sub.closed = false)
      (room : state.sub.Room) :
      Step state (.arrive message)
        { state with
          sub := state.sub.push message room, accepted := state.accepted ++ [message] }
  | lost {message : Msg} : Step state (.arrive message) state
  | endOfStream : Step state .endOfStream state.endOfStream
  | getCancellationToken {fresh : TokenId} :
      Step state (.getCancellationToken fresh)
        { state with tokens := fresh :: state.tokens, shutdown := state.shutdown.addSender }
  | tokenClone {source fresh : TokenId} :
      Step state (.tokenClone source fresh)
        { state with tokens := fresh :: state.tokens, shutdown := state.shutdown.addSender }
  | tokenDelete {token : TokenId} :
      Step state (.tokenDelete token)
        { state with tokens := state.tokens.erase token, shutdown := state.shutdown.dropSender }
  | signalled {token : TokenId} (room : state.shutdown.Room) :
      Step state (.tokenCancel token)
        { state with shutdown := state.shutdown.push () room, cancelled := true }
  | ignored {token : TokenId} (full : state.shutdown.closed = true ∨ ¬ state.shutdown.Room) :
      Step state (.tokenCancel token) { state with cancelled := true }
  | popStart (idle : state.pop = .idle) :
      Step state .popStart { state with pop := .atNext, armed := state.cancelled }
  | returnedMessage {head : Msg} {rest : List Msg} (polling : state.pop = .atNext)
      (queue : state.sub.queue = head :: rest) :
      Step state .pollNext ({ state with sub := state.sub.advance }.popReturn (some head))
  | returnedNone (polling : state.pop = .atNext) (queue : state.sub.queue = [])
      (isOver : state.Over) : Step state .pollNext (state.popReturn none)
  | pending (polling : state.pop = .atNext) (queue : state.sub.queue = [])
      (opened : state.sub.closed = false) (fed : state.sub.senders ≠ 0) :
      Step state .pollNext { state with pop := .atShutdown }
  | takeSignal (polling : state.pop = .atShutdown) :
      Step state .pollShutdown
        { state with
          shutdown := state.shutdown.advance
          pop := .unsubscribing
          unsubscribes := state.unsubscribes + 1 }
  | noSender (polling : state.pop = .atShutdown) :
      Step state .pollShutdown
        { state with pop := .unsubscribing, unsubscribes := state.unsubscribes + 1 }
  | noSignal (polling : state.pop = .atShutdown) :
      Step state .pollShutdown { state with pop := .atNext }
  | unsubscribed (waiting : state.pop = .unsubscribing) :
      Step state (.unsubscribed true) { state with sub := state.sub.close, pop := .atNext }
  | panicked (waiting : state.pop = .unsubscribing) :
      Step state (.unsubscribed false) { state with pop := .idle, panics := state.panics + 1 }

theorem pollNext_cases {state next : State capacity Msg} (taken : state.pollNext = some next) :
    Step state .pollNext next := by
  unfold State.pollNext at taken
  cases polling : state.pop with
  | atNext =>
      simp only [polling] at taken
      cases found : state.sub.tryRecv with
      | message head sub =>
          have queue := Channel.queue_of_message found
          obtain ⟨_, rfl⟩ := Channel.tryRecv_eq_message.mp found
          simp only [found, Option.some.injEq] at taken
          subst taken
          exact .returnedMessage polling queue
      | disconnected =>
          obtain ⟨queue, isOver⟩ := Channel.tryRecv_eq_disconnected.mp found
          simp only [found, Option.some.injEq] at taken
          subst taken
          exact .returnedNone polling queue isOver
      | empty =>
          obtain ⟨queue, opened, fed⟩ := Channel.tryRecv_eq_empty.mp found
          simp only [found, Option.some.injEq] at taken
          subst taken
          exact .pending polling queue opened fed
  | _ => simp only [polling, reduceCtorEq] at taken

theorem pollShutdown_cases {state next : State capacity Msg}
    (taken : state.pollShutdown = some next) : Step state .pollShutdown next := by
  unfold State.pollShutdown at taken
  cases polling : state.pop with
  | atShutdown =>
      simp only [polling] at taken
      cases found : state.shutdown.tryRecv with
      | message head shutdown =>
          obtain ⟨_, rfl⟩ := Channel.tryRecv_eq_message.mp found
          simp only [found, Option.some.injEq] at taken
          subst taken
          exact .takeSignal polling
      | disconnected =>
          simp only [found, Option.some.injEq] at taken
          subst taken
          exact .noSender polling
      | empty =>
          simp only [found, Option.some.injEq] at taken
          subst taken
          exact .noSignal polling
  | _ => simp only [polling, reduceCtorEq] at taken

/-- Every step has one of the listed outcomes. -/
theorem step_cases {state next : State capacity Msg} {event : Event Msg}
    (taken : step state event = some next) : Step state event next := by
  cases event with
  | arrive message =>
      simp only [step, State.arrive, Option.ite_none_left_eq_some] at taken
      obtain ⟨fed, taken⟩ := taken
      cases sent : state.sub.trySend message with
      | ok sub =>
          obtain ⟨opened, room, rfl⟩ := Channel.trySend_eq_ok.mp sent
          simp only [sent, Option.some.injEq] at taken
          subst taken
          exact .arrived fed opened room
      | error error =>
          simp only [sent, Option.some.injEq] at taken
          subst taken
          exact .lost
  | endOfStream =>
      cases taken
      exact .endOfStream
  | getCancellationToken fresh =>
      simp only [step, State.getCancellationToken, Option.ite_none_right_eq_some,
        Option.some.injEq] at taken
      obtain ⟨_, rfl⟩ := taken
      exact .getCancellationToken
  | tokenClone source fresh =>
      simp only [step, State.tokenClone, Option.ite_none_right_eq_some, Option.some.injEq] at taken
      obtain ⟨_, rfl⟩ := taken
      exact .tokenClone
  | tokenDelete token =>
      simp only [step, State.tokenDelete, Option.ite_none_right_eq_some,
        Option.some.injEq] at taken
      obtain ⟨_, rfl⟩ := taken
      exact .tokenDelete
  | tokenCancel token =>
      simp only [step, State.tokenCancel, Option.ite_none_right_eq_some] at taken
      obtain ⟨_, taken⟩ := taken
      cases sent : state.shutdown.trySend () with
      | ok shutdown =>
          obtain ⟨_, room, rfl⟩ := Channel.trySend_eq_ok.mp sent
          simp only [sent, Option.some.injEq] at taken
          subst taken
          exact .signalled room
      | error error =>
          simp only [sent, Option.some.injEq] at taken
          subst taken
          exact .ignored (Channel.trySend_eq_error sent)
  | popStart =>
      simp only [step, State.popStart] at taken
      cases idle : state.pop with
      | idle =>
          simp only [idle, Option.some.injEq] at taken
          subst taken
          exact .popStart idle
      | _ => simp only [idle, reduceCtorEq] at taken
  | pollNext => exact pollNext_cases taken
  | pollShutdown => exact pollShutdown_cases taken
  | unsubscribed succeeded =>
      simp only [step, State.unsubscribed] at taken
      cases waiting : state.pop with
      | unsubscribing =>
          simp only [waiting] at taken
          cases succeeded with
          | true =>
              simp only [↓reduceIte, Option.some.injEq] at taken
              subst taken
              exact .unsubscribed waiting
          | false =>
              simp only [Bool.false_eq_true, ↓reduceIte, Option.some.injEq] at taken
              subst taken
              exact .panicked waiting
      | _ => simp only [waiting, reduceCtorEq] at taken

end AsyncNats.Subscribtion
