import AsyncNats.Api.Buffers
import AsyncNats.Coroutine.Body
import AsyncNats.Sync.Table
import AsyncNats.Transition.System

/-! # Operations with a callback

The entry points that start an operation copy what they need, spawn a task and
return. The task waits for the client, boxes what the client gave and invokes the
callback with the pointer. The client is a parameter: `Value` is what a call gives
when it succeeds, `Error` what it gives otherwise, and `describe` is the text of an
error.
-/

namespace AsyncNats

/-- The client's `Request`. Its timeout is set or not, and may be set to none. -/
structure ClientRequest where
  inbox : Option RustString
  timeout : Option (Option Nat)
  payload : Option Bytes

/-- `AsyncNatsRequest::build`. -/
def Request.build (request : Request) : ClientRequest where
  inbox := request.inbox
  timeout := if request.timeout.isSome then some request.timeout else none
  payload := request.payload

end AsyncNats

namespace AsyncNats.Operations

open Sync Coroutine Transition

abbrev Context := Nat

abbrev Pointer := Nat

abbrev TaskId := Nat

/-- `AsyncNatsConnetionParams`, with the addresses as they were given. -/
structure ConnectionParams where
  addrs : List RustString
  name : Option RustString

inductive ClientCall where
  | connect (addrs : List RustString) (name : Option RustString)
  | publish (subject : RustString) (payload : Bytes)
  | publishWithReply (subject reply : RustString) (payload : Bytes)
  | subscribe (subject : RustString)
  | request (subject : RustString) (payload : Bytes)
  | sendRequest (subject : RustString) (request : ClientRequest)

/-- What a box made for a callback contains. -/
inductive Content (Value Error : Type) where
  | connection (client : Value)
  | connectError (error : Error)
  | subscribtion (subscriber : Value)
  | text (text : CString)
  | message (message : Value)
  | requestError (error : Error)
  deriving DecidableEq

/-- A call of one of the four kinds of callback. -/
inductive Invocation where
  | connect (conn err : Option Pointer) (closure : Context)
  | publish (d : Context)
  | subscribe (sub err : Option Pointer) (d : Context)
  | request (msg err : Option Pointer) (d : Context)
  deriving DecidableEq, Repr

variable {Value Error : Type}

abbrev TaskBody (Value Error : Type) :=
  Body ClientCall (Except Error Value) (Content Value Error) Invocation

/-- The task of an operation with a result: wait for the client, box what it gave and
invoke the callback with the box in the place of the value or of the error. -/
def answer (call : ClientCall) (boxed : Except Error Value → Option (Content Value Error))
    (callback : Option Pointer → Option Pointer → Invocation) : TaskBody Value Error :=
  .await call fun response =>
    match boxed response with
    | none => .panic
    | some content =>
      .alloc content fun pointer =>
        match response with
        | .ok _ => .report (callback (some pointer) none) .ret
        | .error _ => .report (callback none (some pointer)) .ret

/-- The task of an operation without one. What the client gave is dropped. -/
def notify (call : ClientCall) (callback : Invocation) : TaskBody Value Error :=
  .await call fun _ => .report callback .ret

/-- `CString::new`. -/
def cstringNew (text : Bytes) : Option CString :=
  if free : 0 ∉ text then some ⟨text, free⟩ else none

/-- What `async_nats_connection_connect` boxes. -/
def boxConnect : Except Error Value → Option (Content Value Error)
  | .ok conn => some (.connection conn)
  | .error err => some (.connectError err)

/-- What `async_nats_connection_subscribe_async` boxes. Making a C string of the error
text may panic. -/
def boxSubscribe (describe : Error → Bytes) : Except Error Value → Option (Content Value Error)
  | .ok sub => some (.subscribtion sub)
  | .error e => (cstringNew (describe e)).map .text

/-- What the two request functions box. -/
def boxRequest : Except Error Value → Option (Content Value Error)
  | .ok msg => some (.message msg)
  | .error err => some (.requestError err)

/-- `async_nats_connection_connect`. -/
def connect (cfg : ConnectionParams) (d : Context) : TaskBody Value Error :=
  answer (.connect cfg.addrs cfg.name) boxConnect (.connect · · d)

/-- `async_nats_connection_publish_async`. The payload goes through a thread-local buffer
that is empty between the calls. -/
def publishAsync (topic message : Bytes) (d : Context) : TaskBody Value Error :=
  notify (.publish (fromUtf8Lossy topic) (copyThrough [] message).1) (.publish d)

/-- `async_nats_connection_publish_with_reply_async`. -/
def publishWithReplyAsync (topic replyTo message : Bytes) (d : Context) : TaskBody Value Error :=
  notify (.publishWithReply (fromUtf8Lossy topic) (fromUtf8Lossy replyTo)
    (copyThrough [] message).1) (.publish d)

/-- `async_nats_connection_subscribe_async`. -/
def subscribeAsync (describe : Error → Bytes) (topic : CString) (d : Context) :
    TaskBody Value Error :=
  answer (.subscribe (lossyConvert topic)) (boxSubscribe describe) (.subscribe · · d)

/-- `async_nats_connection_request_async`. -/
def requestAsync (topic : CString) (message : Bytes) (d : Context) : TaskBody Value Error :=
  answer (.request (lossyConvert topic) message) boxRequest (.request · · d)

/-- `async_nats_connection_send_request_async`. -/
def sendRequestAsync (topic : CString) (request : Request) (d : Context) :
    TaskBody Value Error :=
  answer (.sendRequest (lossyConvert topic) request.build) boxRequest (.request · · d)

/-- A started operation with its arguments. -/
inductive Operation where
  | connect (cfg : ConnectionParams)
  | publish (topic message : Bytes)
  | publishWithReply (topic replyTo message : Bytes)
  | subscribe (topic : CString)
  | request (topic : CString) (message : Bytes)
  | sendRequest (topic : CString) (request : Request)

/-- The task an operation spawns. -/
def Operation.task (describe : Error → Bytes) : Operation → Context → TaskBody Value Error
  | .connect cfg => Operations.connect cfg
  | .publish topic message => publishAsync topic message
  | .publishWithReply topic replyTo message => publishWithReplyAsync topic replyTo message
  | .subscribe topic => subscribeAsync describe topic
  | .request topic message => requestAsync topic message
  | .sendRequest topic req => sendRequestAsync topic req

/-- What a callback of the C++ side passes to its handler: an exception made from the
error pointer, if it makes one, and an object made from the value pointer. -/
structure Completion where
  exception : Option (Option Pointer)
  value : Option Pointer
  deriving DecidableEq, Repr

/-- The callbacks of `connect`, `Connection::publish`, `subcribe` and `request`. -/
def complete : Invocation → Completion
  | .connect conn e _ =>
    match conn with
    | none => ⟨some e, conn⟩
    | some _ => ⟨none, conn⟩
  | .publish _ => ⟨none, none⟩
  | .subscribe sub _ _ => ⟨none, sub⟩
  | .request msg e _ =>
    match msg with
    | none => ⟨some e, none⟩
    | some _ => ⟨none, msg⟩

/-- An operation with its context pointer and its task. -/
structure Row (Value Error : Type) where
  operation : Operation
  context : Context
  task : Routine ClientCall (Except Error Value) (Content Value Error) Invocation

/-- The boxes in the order in which they were made, the operations that were started,
and the invocations of callbacks in their order. -/
structure State (Value Error : Type) where
  heap : List (Content Value Error)
  rows : Table TaskId (Row Value Error)
  spawned : TaskId
  calls : List (TaskId × Invocation)

namespace State

def init : State Value Error where
  heap := []
  rows := ∅
  spawned := 0
  calls := []

/-- The application starts an operation. -/
def start (describe : Error → Bytes) (state : State Value Error) (operation : Operation)
    (context : Context) : State Value Error :=
  { state with
    rows := state.rows.insert state.spawned
      ⟨operation, context, Routine.spawn (operation.task describe context)⟩
    spawned := state.spawned + 1 }

/-- The client call of a task is over. -/
def resolve (state : State Value Error) (id : TaskId) (response : Except Error Value) :
    Option (State Value Error) :=
  match state.rows.lookup id with
  | none => none
  | some row =>
      (row.task.resolve response).map fun task =>
        { state with rows := state.rows.insert id { row with task } }

/-- The runtime runs a task up to its next action. -/
def run (state : State Value Error) (id : TaskId) : Option (State Value Error) :=
  match state.rows.lookup id with
  | none => none
  | some row =>
      (row.task.run state.heap).map fun (task, heap, reports) =>
        { state with
          heap
          rows := state.rows.insert id { row with task }
          calls := state.calls ++ reports.map (id, ·) }

/-- The invocations by one task. -/
def callsOf (state : State Value Error) (id : TaskId) : List Invocation :=
  (state.calls.filter fun call => call.1 = id).map Prod.snd

end State

inductive Event (Value Error : Type) where
  | start (operation : Operation) (context : Context)
  | resolve (id : TaskId) (response : Except Error Value)
  | run (id : TaskId)

def step (describe : Error → Bytes) (state : State Value Error) :
    Event Value Error → Option (State Value Error)
  | .start operation context => some (state.start describe operation context)
  | .resolve id response => state.resolve id response
  | .run id => state.run id

/-- All interleavings of the application, the client and the runtime's tasks. -/
def system (Value : Type) (describe : Error → Bytes) :
    System (State Value Error) (Event Value Error) where
  init := State.init
  step := step describe

end AsyncNats.Operations
