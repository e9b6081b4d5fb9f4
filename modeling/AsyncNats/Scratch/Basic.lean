import AsyncNats.Api.Buffers
import AsyncNats.Ownership.Store
import AsyncNats.Transition.System

/-! # The payload buffers of the threads

Four entry points copy their payload through a `BytesMut` that each thread has for each of them.
They append the payload, split off as many bytes and freeze them. A task or a queue holds the
frozen bytes and hands them to the client. Here every statement of a call is a step of its own,
so that the calls of all threads interleave with each other and with what becomes of the frozen
bytes. The `bytes` crate is a store whose laws are assumed.
-/

namespace AsyncNats.Scratch

open Ownership Transition

abbrev ThreadId := Nat

/-- What an entry point copies, through which buffer. -/
structure Call where
  which : Local
  data : Bytes
  deriving DecidableEq, Repr

/-- Where a thread is. `mbytes` is what `borrow_mut` gave access to. -/
inductive Stage (Handle : Type) where
  | idle
  | entered (call : Call)
  | borrowed (call : Call) (mbytes : Handle)
  | extended (call : Call) (mbytes : Handle)
  | parted (call : Call) (mbytes part : Handle)
  | frozen (call : Call) (bytes : Handle)
  | panicked
  | exiting

/-- `RefCell<BytesMut>`. -/
structure Cell (Handle : Type) where
  borrowed : Bool
  bytes : Handle

/-- Who has the frozen bytes. -/
inductive Custody (Handle : Type) where
  | waiting (bytes : Handle)
  | client (bytes : Handle)
  | dropped

/-- A spawned task or a queued message. -/
structure Job (Handle : Type) where
  thread : ThreadId
  call : Call
  custody : Custody Handle

variable {Mem Handle : Type}

namespace Stage

/-- The call that the thread is in. -/
def call? : Stage Handle → Option Call
  | idle | panicked | exiting => none
  | entered call | borrowed call _ | extended call _ | parted call _ _ | frozen call _ => some call

/-- The buffer that the thread has borrowed. -/
def guard : Stage Handle → Option (Local × Handle)
  | borrowed call mbytes | extended call mbytes | parted call mbytes _ => some (call.which, mbytes)
  | _ => none

/-- What the thread has split off. -/
def part : Stage Handle → Option Handle
  | parted _ _ part => some part
  | frozen _ bytes => some bytes
  | _ => none

/-- What the thread has put into one of its buffers and not yet taken out. -/
def residue (which : Local) : Stage Handle → Bytes
  | extended call _ => if call.which = which then call.data else []
  | _ => []

/-- How many steps the call still takes. -/
def left : Stage Handle → Nat
  | entered _ => 5
  | borrowed .. => 4
  | extended .. => 3
  | parted .. => 2
  | frozen .. => 1
  | idle | panicked | exiting => 0

end Stage

/-- The bytes, as long as somebody has them. -/
def Custody.bytes : Custody Handle → Option Handle
  | waiting bytes | client bytes => some bytes
  | dropped => none

/-- The buffers are `BYTES` of each thread in each of the four functions, and there is none
before its first use. `started` lists the calls, and `handed` what the client was given. -/
structure State (Mem Handle : Type) where
  mem : Mem
  stage : ThreadId → Stage Handle
  cells : ThreadId × Local → Option (Cell Handle)
  jobs : List (Job Handle)
  started : List (ThreadId × Call)
  handed : List (Nat × Option Bytes)

inductive Event where
  | publishAsync (thread : ThreadId) (message : Bytes)
  | publishWithReplyAsync (thread : ThreadId) (message : Bytes)
  | trySend (thread : ThreadId) (permitted : Bool) (data : Bytes)
  | send (thread : ThreadId) (data : Bytes)
  | advance (thread : ThreadId)
  | hand (job : Nat)
  | drop (job : Nat)
  | exit (thread : ThreadId)
  | dropLocal (thread : ThreadId) (which : Local)
  deriving DecidableEq, Repr

namespace State

variable (store : Store Mem Handle UInt8) (state : State Mem Handle)

def init : State Mem Handle where
  mem := store.empty
  stage := fun _ => .idle
  cells := fun _ => none
  jobs := []
  started := []
  handed := []

def setStage (thread : ThreadId) (stage : Stage Handle) : State Mem Handle :=
  { state with stage := Function.update state.stage thread stage }

def setCell (key : ThreadId × Local) (cell : Option (Cell Handle)) : State Mem Handle :=
  { state with cells := Function.update state.cells key cell }

/-- A thread calls one of the functions. -/
def enter (thread : ThreadId) (call : Call) : Option (State Mem Handle) :=
  match state.stage thread with
  | .idle => some
      { state.setStage thread (.entered call) with started := state.started ++ [(thread, call)] }
  | _ => none

/-- `async_nats_named_sender_try_send`, which returns at once if there is no permit. -/
def trySend (thread : ThreadId) (permitted : Bool) (data : Bytes) : Option (State Mem Handle) :=
  if permitted then state.enter thread ⟨.trySend, data⟩
  else match state.stage thread with
  | .idle => some state
  | _ => none

/-- `BYTES.with` and `borrow_mut`, which panics if the buffer is borrowed already. -/
def borrowMut (thread : ThreadId) (call : Call) : State Mem Handle :=
  match state.cells (thread, call.which) with
  | none =>
      let (bytes, mem) := store.withCapacity 65535 state.mem
      ({ state with mem }.setCell (thread, call.which) (some ⟨true, bytes⟩)).setStage thread
        (.borrowed call bytes)
  | some ⟨true, _⟩ => state.setStage thread .panicked
  | some ⟨false, bytes⟩ =>
      (state.setCell (thread, call.which) (some ⟨true, bytes⟩)).setStage thread
        (.borrowed call bytes)

/-- `mbytes.extend_from_slice(data_slice)`. -/
def extendFromSlice (thread : ThreadId) (call : Call) (mbytes : Handle) : State Mem Handle :=
  { state with mem := store.extendFromSlice state.mem mbytes call.data }.setStage thread
    (.extended call mbytes)

/-- `mbytes.split_to(data_slice.len())`. -/
def splitTo (thread : ThreadId) (call : Call) (mbytes : Handle) : State Mem Handle :=
  match store.splitTo state.mem mbytes call.data.length with
  | none => state.setStage thread .panicked
  | some (part, mem) => { state with mem }.setStage thread (.parted call mbytes part)

/-- `freeze`, and the end of the borrow. -/
def freeze (thread : ThreadId) (call : Call) (mbytes part : Handle) : State Mem Handle :=
  let (bytes, mem) := store.freeze state.mem part
  ({ state with mem }.setCell (thread, call.which) (some ⟨false, mbytes⟩)).setStage thread
    (.frozen call bytes)

/-- The task is spawned, or the message goes into the queue, and the call returns. -/
def handOver (thread : ThreadId) (call : Call) (bytes : Handle) : State Mem Handle :=
  { state.setStage thread .idle with jobs := state.jobs ++ [⟨thread, call, .waiting bytes⟩] }

/-- The next step of the call that a thread is in. -/
def advance (thread : ThreadId) : Option (State Mem Handle) :=
  match state.stage thread with
  | .idle | .panicked | .exiting => none
  | .entered call => some (state.borrowMut store thread call)
  | .borrowed call mbytes => some (state.extendFromSlice store thread call mbytes)
  | .extended call mbytes => some (state.splitTo store thread call mbytes)
  | .parted call mbytes part => some (state.freeze store thread call mbytes part)
  | .frozen call bytes => some (state.handOver thread call bytes)

/-- A task or the queue gives its bytes to the client, in whatever order they are run. -/
def hand (index : Nat) : Option (State Mem Handle) :=
  match state.jobs[index]? with
  | some ⟨thread, call, .waiting bytes⟩ => some
      { state with
        jobs := state.jobs.set index ⟨thread, call, .client bytes⟩
        handed := state.handed ++ [(index, store.view state.mem bytes)] }
  | _ => none

/-- Whoever has the bytes drops them: the client, or a task or queue that never gets to it. -/
def drop (index : Nat) : Option (State Mem Handle) :=
  match state.jobs[index]? with
  | some ⟨thread, call, custody⟩ =>
      custody.bytes.map fun bytes =>
        { state with
          mem := store.drop state.mem bytes
          jobs := state.jobs.set index ⟨thread, call, .dropped⟩ }
  | none => none

/-- A thread comes to its end. -/
def exit (thread : ThreadId) : Option (State Mem Handle) :=
  match state.stage thread with
  | .idle => some (state.setStage thread .exiting)
  | _ => none

/-- The end of a thread drops its buffers. -/
def dropLocal (thread : ThreadId) (which : Local) : Option (State Mem Handle) :=
  match state.stage thread, state.cells (thread, which) with
  | .exiting, some cell =>
      some ({ state with mem := store.drop state.mem cell.bytes }.setCell (thread, which) none)
  | _, _ => none

end State

def step (store : Store Mem Handle UInt8) (state : State Mem Handle) :
    Event → Option (State Mem Handle)
  | .publishAsync thread message => state.enter thread ⟨.publish, message⟩
  | .publishWithReplyAsync thread message => state.enter thread ⟨.publishWithReply, message⟩
  | .trySend thread permitted data => state.trySend thread permitted data
  | .send thread data => state.enter thread ⟨.send, data⟩
  | .advance thread => state.advance store thread
  | .hand index => state.hand store index
  | .drop index => state.drop store index
  | .exit thread => state.exit thread
  | .dropLocal thread which => state.dropLocal store thread which

/-- All interleavings of the threads, the tasks and the queues. -/
def system (store : Store Mem Handle UInt8) : System (State Mem Handle) Event where
  init := State.init store
  step := step store

end AsyncNats.Scratch
