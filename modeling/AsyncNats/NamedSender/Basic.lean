import AsyncNats.Api.Text
import AsyncNats.Sync.Channel
import AsyncNats.Sync.Semaphore
import AsyncNats.Sync.Table

/-! # The nonblocking sender

`AsyncNatsNamedSender` shares one `NamedSenderInner` between its clones and its
worker task. A call of `try_send` or `send` takes a permit, copies the payload
and puts a message on an unbounded channel; the worker takes the messages off
and publishes them. The permit travels in the message and is given back when the
message is dropped.

A step makes at most one operation on what the threads share. A failed publish
panics, and the unwinding task drops what it owns; so does the deletion of the
runtime, at the next point where the task waits.
-/

namespace AsyncNats.NamedSender

open Sync

abbrev ThreadId := Nat

abbrev HandleId := Nat

/-- The two functions that put messages on the queue. Each has its own
thread-local buffer. -/
inductive EntryPoint where
  | trySend
  | send
  deriving DecidableEq, Repr

/-- The arguments of a call. `number` counts the calls in the order in which
they are made, so it tells calls with equal arguments apart. -/
structure Call where
  number : Nat
  thread : ThreadId
  topic : BorrowedString
  data : Bytes
  deriving DecidableEq

/-- `Message`: a queue entry, with the call that made it as its history. -/
structure Message where
  topic : Option RustString
  message : Bytes
  permit : Option Permit
  call : Call
  deriving DecidableEq

/-- How far a call has come. -/
inductive Stage where
  | entered
  | acquired (permit : Option Permit)
  | built (message : Message)
  deriving DecidableEq

/-- A call in progress. -/
structure Pending where
  entry : EntryPoint
  handle : HandleId
  call : Call
  stage : Stage
  deriving DecidableEq

/-- The worker task: waiting in `recv`, waiting for `publish`, dropping its
captured values, emptying the channel it has closed, or gone. -/
inductive Worker where
  | receiving
  | publishing (message : Message)
  | dropping
  | draining
  | ended
  deriving DecidableEq

/-- The state of one sender. From `entered` on the fields are history: calls
made, calls whose message the channel took, publish calls of the worker, messages
whose publish has finished, messages dropped without one, and results given to
`try_send` callers. -/
structure State where
  topic : RustString
  sem : Semaphore
  channel : Channel none Message
  innerRefs : Nat
  handles : List HandleId
  worker : Worker
  calls : Table ThreadId Pending
  bytes : ThreadId → EntryPoint → Bytes
  entered : Nat
  accepted : List Call
  published : List (RustString × Bytes)
  finished : List Message
  dropped : List Message
  returned : List (Call × Bool)

/-- `AsyncNatsNamedSender::with_capacity`. The inner object is shared by the
first handle and the worker task. -/
def withCapacity (topic : CString) (capacity : Nat) : Option State :=
  (Semaphore.new capacity).map fun sem =>
    { topic := lossyConvert topic
      sem
      channel := .new none Message
      innerRefs := 2
      handles := [0]
      worker := .receiving
      calls := ∅
      bytes := fun _ _ => []
      entered := 0
      accepted := []
      published := []
      finished := []
      dropped := []
      returned := [] }

namespace State

/-- Drop one reference to the inner object. With the last one goes the only
sending half of the channel. -/
def dropInner (state : State) : State :=
  { state with
    innerRefs := state.innerRefs - 1
    channel := if state.innerRefs = 1 then state.channel.dropSender else state.channel }

@[simp] theorem dropInner_queue (state : State) :
    state.dropInner.channel.queue = state.channel.queue := by
  unfold dropInner
  split <;> rfl

/-- `async_nats_named_sender_clone`. -/
def clone (state : State) (source fresh : HandleId) : Option State :=
  if source ∈ state.handles ∧ fresh ∉ state.handles then
    some { state with handles := fresh :: state.handles, innerRefs := state.innerRefs + 1 }
  else none

/-- `async_nats_named_sender_delete`, on a handle that no call uses. -/
def delete (state : State) (handle : HandleId) : Option State :=
  if handle ∈ state.handles ∧ ∀ entry ∈ state.calls.entries, entry.2.handle ≠ handle then
    some { state with handles := state.handles.erase handle }.dropInner
  else none

/-- A thread calls an entry point on a handle. -/
def enter (state : State) (thread : ThreadId) (handle : HandleId) (entry : EntryPoint)
    (topic : BorrowedString) (data : Bytes) : Option State :=
  if handle ∈ state.handles ∧ state.calls.lookup thread = none then
    some { state with
      calls := state.calls.insert thread
        ⟨entry, handle, ⟨state.entered, thread, topic, data⟩, .entered⟩
      entered := state.entered + 1 }
  else none

/-- A call goes on to its next stage. -/
def setStage (state : State) (thread : ThreadId) (pending : Pending) (stage : Stage) : State :=
  { state with calls := state.calls.insert thread { pending with stage } }

/-- A call returns. -/
def leave (state : State) (thread : ThreadId) : State :=
  { state with calls := state.calls.erase thread }

/-- The permit of `async_nats_named_sender_try_send`: without one the call
returns `false`. -/
def trySendAcquire (state : State) (thread : ThreadId) (pending : Pending) : State :=
  match state.sem.tryAcquireOwned with
  | some (permit, sem) =>
      { state.setStage thread pending (.acquired (some permit)) with sem }
  | none =>
      { state.leave thread with returned := state.returned ++ [(pending.call, false)] }

/-- The permit of `async_nats_named_sender_send`: without one it sends without. -/
def sendAcquire (state : State) (thread : ThreadId) (pending : Pending) : State :=
  match state.sem.tryAcquireOwned with
  | some (permit, sem) =>
      { state.setStage thread pending (.acquired (some permit)) with sem }
  | none => state.setStage thread pending (.acquired none)

def acquire (state : State) (thread : ThreadId) : Option State :=
  match state.calls.lookup thread with
  | some pending =>
    match pending.stage, pending.entry with
    | .entered, .trySend => some (state.trySendAcquire thread pending)
    | .entered, .send => some (state.sendAcquire thread pending)
    | _, _ => none
  | none => none

/-- Copy the payload through the thread-local buffer and build the message. A
null topic is left to the worker. -/
def build (state : State) (thread : ThreadId) : Option State :=
  match state.calls.lookup thread with
  | some pending =>
    match pending.stage with
    | .acquired permit =>
      let (bytes, left) := copyThrough (state.bytes thread pending.entry) pending.call.data
      let message : Message :=
        { topic := pending.call.topic.map lossyConvert
          message := bytes
          permit
          call := pending.call }
      some { state.setStage thread pending (.built message) with
        bytes := Function.update state.bytes thread
          (Function.update (state.bytes thread) pending.entry left) }
    | _ => none
  | none => none

/-- What `try_send` and `send` report to their caller after the channel send,
whatever its result was. -/
def report (pending : Pending) : List (Call × Bool) :=
  match pending.entry with
  | .trySend => [(pending.call, true)]
  | .send => []

/-- `sender.inner.sender.send(message).ok()` and the return of the call. A message
the channel gives back is dropped. -/
def sendToChannel (state : State) (thread : ThreadId) : Option State :=
  match state.calls.lookup thread with
  | some pending =>
    match pending.stage with
    | .built message =>
      match state.channel.trySend message with
      | .ok channel =>
        some { state.leave thread with
          channel
          accepted := state.accepted ++ [pending.call]
          returned := state.returned ++ report pending }
      | .error _ =>
        some { state.leave thread with
          sem := state.sem.releaseOption message.permit
          dropped := state.dropped ++ [message]
          returned := state.returned ++ report pending }
    | _ => none
  | none => none

/-- The arguments of the worker's `publish` call for a message. -/
def publishArgs (topic : RustString) (message : Message) : RustString × Bytes :=
  (message.topic.getD topic, message.message)

/-- `rx.recv().await`: publish the next message, or break out of the loop. -/
def recv (state : State) : Option State :=
  match state.worker with
  | .receiving =>
    match state.channel.tryRecv with
    | .message head channel =>
      some { state with
        channel
        worker := .publishing head
        published := state.published ++ [publishArgs state.topic head] }
    | .disconnected => some { state with worker := .dropping }
    | .empty => none
  | _ => none

/-- The publish is over and the loop body ends: what is left of the message is
dropped. After an error `expect` has panicked, and the task unwinds. -/
def publishDone (state : State) (succeeded : Bool) : Option State :=
  match state.worker with
  | .publishing message =>
    some { state with
      worker := if succeeded then .receiving else .dropping
      sem := state.sem.releaseOption message.permit
      finished := state.finished ++ [message] }
  | _ => none

/-- `async_nats_tokio_runtime_delete` drops the task where it waits. -/
def runtimeDelete (state : State) : Option State :=
  match state.worker with
  | .receiving => some { state with worker := .dropping }
  | .publishing message =>
    some { state with
      worker := .dropping
      sem := state.sem.releaseOption message.permit
      dropped := state.dropped ++ [message] }
  | _ => some state

/-- Dropping `rx` closes the channel first. -/
def closeReceiver (state : State) : Option State :=
  match state.worker with
  | .dropping => some { state with worker := .draining, channel := state.channel.close }
  | _ => none

/-- The closed channel is emptied message by message; then the task's reference
to the inner object is dropped. -/
def drain (state : State) : Option State :=
  match state.worker with
  | .draining =>
    match state.channel.tryRecv with
    | .message head channel =>
      some { state with
        channel
        sem := state.sem.releaseOption head.permit
        dropped := state.dropped ++ [head] }
    | _ => some { state with worker := .ended }.dropInner
  | _ => none

end State

/-- One step of a caller, of the worker task or of the owner of the runtime. -/
inductive Event where
  | clone (source fresh : HandleId)
  | delete (handle : HandleId)
  | enter (thread : ThreadId) (handle : HandleId) (entry : EntryPoint) (topic : BorrowedString)
      (data : Bytes)
  | acquire (thread : ThreadId)
  | build (thread : ThreadId)
  | sendToChannel (thread : ThreadId)
  | recv
  | publishDone (succeeded : Bool)
  | runtimeDelete
  | closeReceiver
  | drain

def step (state : State) : Event → Option State
  | .clone source fresh => state.clone source fresh
  | .delete handle => state.delete handle
  | .enter thread handle entry topic data => state.enter thread handle entry topic data
  | .acquire thread => state.acquire thread
  | .build thread => state.build thread
  | .sendToChannel thread => state.sendToChannel thread
  | .recv => state.recv
  | .publishDone succeeded => state.publishDone succeeded
  | .runtimeDelete => state.runtimeDelete
  | .closeReceiver => state.closeReceiver
  | .drain => state.drain

/-- The runs of a sender after its construction. -/
def system (init : State) : Transition.System State Event where
  init
  step

end AsyncNats.NamedSender
