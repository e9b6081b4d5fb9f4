import AsyncNats.Api.Text
import AsyncNats.Sync.Semaphore

/-! # Buffers at the API boundary

A `const_buffer` and a `string_view` are an address and a length, and the empty ones may have
no address. Every entry point makes a Rust slice of what it gets, and a slice needs an address
even if it is empty: `from_raw_parts` of a null pointer is undefined behaviour. `as_slice`
tests for it; the other conversions do not.
-/

namespace AsyncNats

open Sync

abbrev Address := Nat

/-- The address and the bytes there. Without an address there are no bytes. -/
structure Buffer where
  data : Option Address
  bytes : Bytes
  empty : data = none → bytes = []
  deriving DecidableEq

/-- `AsyncNatsSlice`, and a `string_view`, into something that is divided into places. -/
structure Slice (Place : Type) where
  data : Option Place
  size : Nat
  deriving DecidableEq, Repr

namespace Buffer

/-- `slice::from_raw_parts`, where `none` is undefined behaviour. -/
def fromRawParts (buffer : Buffer) : Option Bytes :=
  buffer.data.map fun _ => buffer.bytes

/-- `AsyncNatsSlice::as_slice`, on the outside whether it is defined. -/
def asSlice (buffer : Buffer) : Option (Option Bytes) :=
  if buffer.data = none then some none else buffer.fromRawParts.map some

/-- `LossyConvert` for a slice. -/
def lossyConvert (buffer : Buffer) : Option RustString :=
  buffer.fromRawParts.map fromUtf8Lossy

variable {buffer : Buffer}

theorem fromRawParts_eq_some_iff {bytes : Bytes} :
    buffer.fromRawParts = some bytes ↔ buffer.data ≠ none ∧ buffer.bytes = bytes := by
  unfold fromRawParts
  cases buffer.data with
  | none => exact iff_of_false (Option.some_ne_none bytes).symm fun both => both.1 rfl
  | some => simp only [Option.map_some, Option.some.injEq, ne_eq, reduceCtorEq,
      not_false_eq_true, true_and]

theorem fromRawParts_of_address (address : buffer.data ≠ none) :
    buffer.fromRawParts = some buffer.bytes :=
  fromRawParts_eq_some_iff.mpr ⟨address, rfl⟩

theorem fromRawParts_of_null (null : buffer.data = none) : buffer.fromRawParts = none := by
  rw [fromRawParts, null, Option.map_none]

end Buffer

/-- The reusable payload buffers of a thread, one for each function that has one. -/
inductive Local where
  | publish
  | publishWithReply
  | trySend
  | send
  deriving DecidableEq, Repr

abbrev Locals := Local → Bytes

/-- `BYTES` of a new thread. -/
def Locals.new : Locals := fun _ => []

/-- A payload is copied through one of the buffers of the thread. -/
def Locals.copy (locals : Locals) (which : Local) (data : Bytes) : Bytes × Locals :=
  let (bytes, left) := copyThrough (locals which) data
  (bytes, Function.update locals which left)

/-- `AsyncNatsRequest`, with its timeout in milliseconds. -/
structure Request where
  inbox : Option RustString
  timeout : Option Nat
  payload : Option Bytes
  deriving DecidableEq

/-- What an entry point makes of its arguments: a publish or a request of the client, a request
to be sent later, a message for the queue of a sender, a refusal, or a text. -/
inductive Outcome where
  | published (subject : RustString) (replyTo : Option RustString) (payload : Bytes)
  | requested (subject : RustString) (payload : Bytes)
  | prepared (request : Request)
  | queued (topic : Option RustString) (payload : Bytes) (permit : Option Permit)
  | refused
  | converted (text : RustString)
  deriving DecidableEq

/-! The entry points that get a buffer. `none` is undefined behaviour. -/

/-- `async_nats_connection_publish_async`. -/
def publishAsync (locals : Locals) (topic message : Buffer) : Option (Outcome × Locals) := do
  let topicStr ← topic.lossyConvert
  let dataSlice ← message.fromRawParts
  let (bytes, locals) := locals.copy .publish dataSlice
  return (.published topicStr none bytes, locals)

/-- `async_nats_connection_publish_with_reply_async`. -/
def publishWithReplyAsync (locals : Locals) (topic replyTo message : Buffer) :
    Option (Outcome × Locals) := do
  let topicStr ← topic.lossyConvert
  let replyToStr ← replyTo.lossyConvert
  let dataSlice ← message.fromRawParts
  let (bytes, locals) := locals.copy .publishWithReply dataSlice
  return (.published topicStr (some replyToStr) bytes, locals)

/-- `async_nats_connection_request_async`, with the task that it spawns. -/
def requestAsync (locals : Locals) (topic : CString) (message : Buffer) :
    Option (Outcome × Locals) := do
  let topicStr := AsyncNats.lossyConvert topic
  let dataSlice ← message.fromRawParts
  return (.requested topicStr dataSlice, locals)

/-- `async_nats_request_message`, which `RequestBuilder::data` calls. -/
def requestMessage (locals : Locals) (req : Request) (message : Buffer) :
    Option (Outcome × Locals) := do
  let dataSlice ← message.fromRawParts
  return (.prepared { req with payload := some dataSlice }, locals)

/-- `async_nats_named_sender_try_send`. Without a permit it does not look at the data. -/
def namedSenderTrySend (locals : Locals) (sem : Semaphore) (topic : BorrowedString)
    (data : Buffer) : Option (Outcome × Locals) :=
  match sem.tryAcquireOwned with
  | none => some (.refused, locals)
  | some (permit, _) => do
    let dataSlice ← data.fromRawParts
    let (bytes, locals) := locals.copy .trySend dataSlice
    return (.queued (topic.map AsyncNats.lossyConvert) bytes (some permit), locals)

/-- `async_nats_named_sender_send`. -/
def namedSenderSend (locals : Locals) (sem : Semaphore) (topic : BorrowedString)
    (data : Buffer) : Option (Outcome × Locals) := do
  let permit := sem.tryAcquireOwned.map Prod.fst
  let dataSlice ← data.fromRawParts
  let (bytes, locals) := locals.copy .send dataSlice
  return (.queued (topic.map AsyncNats.lossyConvert) bytes permit, locals)

/-- A call of an entry point, with the semaphore it finds if it is one of a sender. -/
inductive BufferCall where
  | publish (topic message : Buffer)
  | publishWithReply (topic replyTo message : Buffer)
  | request (topic : CString) (message : Buffer)
  | requestMessage (req : Request) (message : Buffer)
  | trySend (sem : Semaphore) (topic : BorrowedString) (data : Buffer)
  | send (sem : Semaphore) (topic : BorrowedString) (data : Buffer)
  | lossyConvert (slice : Buffer)
  deriving DecidableEq

namespace BufferCall

def run (locals : Locals) : BufferCall → Option (Outcome × Locals)
  | publish topic message => publishAsync locals topic message
  | publishWithReply topic replyTo message => publishWithReplyAsync locals topic replyTo message
  | request topic message => requestAsync locals topic message
  | requestMessage req message => AsyncNats.requestMessage locals req message
  | trySend sem topic data => namedSenderTrySend locals sem topic data
  | send sem topic data => namedSenderSend locals sem topic data
  | lossyConvert slice => slice.lossyConvert.map fun text => (.converted text, locals)

/-- The calls of a thread, one after the other. -/
def runAll (locals : Locals) : List BufferCall → Option (List Outcome × Locals)
  | [] => some ([], locals)
  | call :: rest => do
    let (outcome, locals) ← call.run locals
    let (outcomes, locals) ← runAll locals rest
    return (outcome :: outcomes, locals)

/-- What a call is to make of exactly the bytes it is given. -/
def expected : BufferCall → Outcome
  | publish topic message => .published (fromUtf8Lossy topic.bytes) none message.bytes
  | publishWithReply topic replyTo message =>
      .published (fromUtf8Lossy topic.bytes) (some (fromUtf8Lossy replyTo.bytes)) message.bytes
  | request topic message => .requested (AsyncNats.lossyConvert topic) message.bytes
  | requestMessage req message => .prepared { req with payload := some message.bytes }
  | trySend sem topic data =>
      match sem.tryAcquireOwned with
      | none => .refused
      | some (permit, _) =>
          .queued (topic.map AsyncNats.lossyConvert) data.bytes (some permit)
  | send sem topic data =>
      .queued (topic.map AsyncNats.lossyConvert) data.bytes (sem.tryAcquireOwned.map Prod.fst)
  | lossyConvert slice => .converted (fromUtf8Lossy slice.bytes)

/-- The buffers that a call makes slices of. -/
def reads : BufferCall → List Buffer
  | publish topic message => [topic, message]
  | publishWithReply topic replyTo message => [topic, replyTo, message]
  | request _ message => [message]
  | requestMessage _ message => [message]
  | trySend sem _ data => if sem.tryAcquireOwned = none then [] else [data]
  | send _ _ data => [data]
  | lossyConvert slice => [slice]

/-- The call has an address for each slice. -/
def Addressed (call : BufferCall) : Prop := ∀ buffer ∈ call.reads, buffer.data ≠ none

end BufferCall

/-- In a new thread a copy is the payload, and the thread stays as new. -/
@[simp] theorem Locals.new_copy (which : Local) (data : Bytes) :
    Locals.new.copy which data = (data, Locals.new) := by
  simp only [Locals.copy, Locals.new, copyThrough_nil, Prod.mk.injEq, true_and]
  exact Function.update_eq_self which _

namespace Buffer

variable {buffer : Buffer}

theorem lossyConvert_of_address (address : buffer.data ≠ none) :
    buffer.lossyConvert = some (fromUtf8Lossy buffer.bytes) := by
  rw [lossyConvert, fromRawParts_of_address address, Option.map_some]

theorem lossyConvert_of_null (null : buffer.data = none) : buffer.lossyConvert = none := by
  rw [lossyConvert, fromRawParts_of_null null, Option.map_none]

end Buffer

namespace BufferCall

/-- A call that has its addresses makes what it is to make. -/
theorem run_of_addressed {call : BufferCall} (addressed : call.Addressed) :
    call.run Locals.new = some (call.expected, Locals.new) := by
  cases call with
  | publish topic message =>
      have first := addressed topic List.mem_cons_self
      have second := addressed message (List.mem_cons_of_mem _ List.mem_cons_self)
      simp only [run, publishAsync, Buffer.lossyConvert_of_address first,
        Buffer.fromRawParts_of_address second, Locals.new_copy, bind, Option.bind, expected]
      rfl
  | publishWithReply topic replyTo message =>
      have first := addressed topic List.mem_cons_self
      have second := addressed replyTo (List.mem_cons_of_mem _ List.mem_cons_self)
      have third := addressed message
        (List.mem_cons_of_mem _ (List.mem_cons_of_mem _ List.mem_cons_self))
      simp only [run, publishWithReplyAsync, Buffer.lossyConvert_of_address first,
        Buffer.lossyConvert_of_address second, Buffer.fromRawParts_of_address third,
        Locals.new_copy, bind, Option.bind, expected]
      rfl
  | request topic message =>
      have address := addressed message List.mem_cons_self
      simp only [run, requestAsync, Buffer.fromRawParts_of_address address, bind, Option.bind,
        expected]
      rfl
  | requestMessage req message =>
      have address := addressed message List.mem_cons_self
      simp only [run, AsyncNats.requestMessage, Buffer.fromRawParts_of_address address, bind,
        Option.bind, expected]
      rfl
  | trySend sem topic data =>
      cases acquired : sem.tryAcquireOwned with
      | none => simp only [run, namedSenderTrySend, acquired, expected]
      | some permit =>
          have address : data.data ≠ none := by
            apply addressed data
            simp only [reads, acquired, reduceCtorEq, ↓reduceIte, List.mem_singleton]
          simp only [run, namedSenderTrySend, acquired, Buffer.fromRawParts_of_address address,
            Locals.new_copy, bind, Option.bind, expected]
          rfl
  | send sem topic data =>
      have address := addressed data List.mem_cons_self
      simp only [run, namedSenderSend, Buffer.fromRawParts_of_address address, Locals.new_copy,
        bind, Option.bind, expected]
      rfl
  | lossyConvert slice =>
      have address := addressed slice List.mem_cons_self
      simp only [run, Buffer.lossyConvert_of_address address, Option.map_some, expected]

/-- A call without one of its addresses is undefined, on any thread. -/
theorem run_of_null {call : BufferCall} {buffer : Buffer} (locals : Locals)
    (member : buffer ∈ call.reads) (null : buffer.data = none) : call.run locals = none := by
  have noSlice := Buffer.fromRawParts_of_null null
  have noText := Buffer.lossyConvert_of_null null
  cases call with
  | publish topic message =>
      simp only [reads, List.mem_cons, List.not_mem_nil, or_false] at member
      rcases member with rfl | rfl
      · simp only [run, publishAsync, noText, bind, Option.bind_none]
      · simp only [run, publishAsync, noSlice, bind, Option.bind_none, Option.bind_fun_none]
  | publishWithReply topic replyTo message =>
      simp only [reads, List.mem_cons, List.not_mem_nil, or_false] at member
      rcases member with rfl | rfl | rfl
      · simp only [run, publishWithReplyAsync, noText, bind, Option.bind_none]
      · simp only [run, publishWithReplyAsync, noText, bind, Option.bind_none,
          Option.bind_fun_none]
      · simp only [run, publishWithReplyAsync, noSlice, bind, Option.bind_none,
          Option.bind_fun_none]
  | request topic message =>
      rw [List.mem_singleton.mp member] at noSlice
      simp only [run, requestAsync, noSlice, bind, Option.bind_none]
  | requestMessage req message =>
      rw [List.mem_singleton.mp member] at noSlice
      simp only [run, AsyncNats.requestMessage, noSlice, bind, Option.bind_none]
  | trySend sem topic data =>
      simp only [reads] at member
      cases acquired : sem.tryAcquireOwned with
      | none => simp only [acquired, ↓reduceIte, List.not_mem_nil] at member
      | some permit =>
          simp only [acquired, reduceCtorEq, ↓reduceIte, List.mem_singleton] at member
          rw [member] at noSlice
          simp only [run, namedSenderTrySend, acquired, noSlice, bind, Option.bind_none]
  | send sem topic data =>
      rw [List.mem_singleton.mp member] at noSlice
      simp only [run, namedSenderSend, noSlice, bind, Option.bind_none]
  | lossyConvert slice =>
      rw [List.mem_singleton.mp member] at noText
      simp only [run, noText, Option.map_none]

/-- The thread does not get past such a call. -/
theorem runAll_of_null {calls : List BufferCall} {call : BufferCall} {buffer : Buffer}
    (locals : Locals) (made : call ∈ calls) (member : buffer ∈ call.reads)
    (null : buffer.data = none) : runAll locals calls = none := by
  induction calls generalizing locals with
  | nil => cases made
  | cons first rest ih =>
      rcases List.mem_cons.mp made with rfl | later
      · simp only [runAll, run_of_null locals member null, bind, Option.bind_none]
      · cases ran : first.run locals with
        | none => simp only [runAll, ran, bind, Option.bind_none]
        | some result => simp only [runAll, ran, bind, Option.bind_some, ih result.2 later,
            Option.bind_none]

/-- Whatever calls a thread makes, all of them are defined and make exactly what they are given
if and only if every slice in them has an address. -/
theorem runAll_eq_expected_iff (calls : List BufferCall) :
    runAll Locals.new calls = some (calls.map expected, Locals.new) ↔
      ∀ call ∈ calls, call.Addressed := by
  constructor
  · intro ran call made buffer member null
    rw [runAll_of_null Locals.new made member null] at ran
    cases ran
  · intro addressed
    induction calls with
    | nil => rfl
    | cons call rest ih =>
        have first := run_of_addressed (addressed call List.mem_cons_self)
        have others := ih fun later member => addressed later (List.mem_cons_of_mem _ member)
        simp only [runAll, first, others, bind, Option.bind_some, List.map_cons]
        rfl

/-- An empty payload without an address, as a default `const_buffer` is. -/
theorem not_runAll_eq_expected :
    ¬ ∀ calls : List BufferCall,
      runAll Locals.new calls = some (calls.map expected, Locals.new) := by
  intro always
  have undefined_ : runAll Locals.new
      [.publish ⟨some 1, [0x73], by decide⟩ ⟨none, [], by decide⟩] = none := by decide
  have defined := always [.publish ⟨some 1, [0x73], by decide⟩ ⟨none, [], by decide⟩]
  rw [undefined_] at defined
  cases defined

end BufferCall

end AsyncNats
