import AsyncNats.Operations.Basic
import AsyncNats.Ownership.Ledger

/-! # The wrapper classes

Each C++ class wraps a pointer to a Rust object, or null. Its special members decide for
themselves when to test for null, when to clone or delete, and when to leave null behind. The
classes come together in one system, in which an application constructs, copies, moves,
assigns and destroys objects, hands some of them over, and starts operations whose callbacks
make new ones. All calls of Rust functions are on a ledger.

A function that dereferences its handle is undefined on null. Such a call is the last one of a
run.
-/

namespace AsyncNats.Facade

open Sync Ownership Transition

/-- The Rust types behind the pointers. -/
inductive Kind where
  | connetionParams
  | request
  | subscribtion
  | connection
  | cancellationToken
  | namedSender
  | namedReceiver
  | message
  | connectError
  | requestError
  | ownedString
  deriving DecidableEq, Repr

/-- The clones of a message or an error are references to one object. Those of the other types
are boxes of their own. -/
def Kind.counted : Kind → Bool
  | .message | .connectError | .requestError => true
  | _ => false

/-- The C++ classes. -/
inductive Class where
  | connectionOptions
  | requestBuilder
  | subscribtion
  | connection
  | subscribtionCancellationToken
  | sender
  | receiver
  | message
  | headersView
  | connectionError
  | requestError
  | ownedString
  deriving DecidableEq, Repr

/-- What the pointer of a class refers to. -/
def Class.boxed : Class → Kind
  | .connectionOptions => .connetionParams
  | .requestBuilder => .request
  | .subscribtion => .subscribtion
  | .connection => .connection
  | .subscribtionCancellationToken => .cancellationToken
  | .sender => .namedSender
  | .receiver => .namedReceiver
  | .message | .headersView => .message
  | .connectionError => .connectError
  | .requestError => .requestError
  | .ownedString => .ownedString

/-- The copy members of the other classes are deleted. -/
def Class.copyable : Class → Bool
  | .connection | .subscribtionCancellationToken | .sender | .receiver => true
  | .message | .connectionError | .requestError => true
  | .connectionOptions | .requestBuilder | .subscribtion | .headersView | .ownedString => false

/-- The types of the Rust objects in the order in which they were made, and the calls. A
pointer is a position. -/
structure Boundary where
  boxes : List Kind
  ledger : Ledger

namespace Boundary

def record (boundary : Boundary) (entry : Entry) : Boundary :=
  { boundary with ledger := boundary.ledger ++ [entry] }

/-- `Box::into_raw` of a new box. -/
def intoRaw (boundary : Boundary) (kind : Kind) : Pointer × Boundary :=
  (boundary.boxes.length,
    { boxes := boundary.boxes ++ [kind]
      ledger := boundary.ledger ++ [.made boundary.boxes.length] })

/-- What a function returns that was called with a handle: nothing defined if it is null. -/
def respond (boundary : Boundary) (handle : Option Pointer) (kind : Kind) :
    Option Pointer × Boundary :=
  match handle with
  | none => (none, boundary)
  | some _ =>
    let (pointer, after) := boundary.intoRaw kind
    (some pointer, after)

/-- A function that dereferences a handle and returns a new box: `async_nats_named_sender_new`,
`async_nats_subscribtion_get_cancellation_token` and `async_nats_connection_mailbox`. -/
def derive (boundary : Boundary) (handle : Option Pointer) (kind : Kind) :
    Option Pointer × Boundary :=
  (boundary.record (.lent handle)).respond handle kind

/-- `async_nats_named_receiver_new` takes the subscription out of its box. -/
def namedReceiverNew (boundary : Boundary) (handle : Option Pointer) : Option Pointer × Boundary :=
  (boundary.record (.given handle)).respond handle .namedReceiver

/-- The clone functions. -/
def clone (boundary : Boundary) (kind : Kind) (handle : Option Pointer) :
    Option Pointer × Boundary :=
  if kind.counted then
    match handle with
    | none => (none, boundary.record (.lent none))
    | some pointer =>
        (some pointer, (boundary.record (.lent (some pointer))).record (.made pointer))
  else boundary.derive handle kind

/-- The delete functions are behind a check for null in all destructors and assignments. -/
def release (boundary : Boundary) : Option Pointer → Boundary
  | none => boundary
  | some pointer => boundary.record (.deleted (some pointer))

/-- What the copy members take from the other object. Those of a `Message` check for null. -/
def copy (boundary : Boundary) (kind : Class) (raw : Option Pointer) : Option Pointer × Boundary :=
  if kind = .message ∧ raw = none then (none, boundary) else boundary.clone kind.boxed raw

/-- The default constructors: two classes make a box, four start with null, and the others
have none. -/
def construct (boundary : Boundary) : Class → Option (Option Pointer × Boundary)
  | .connectionOptions =>
    let (pointer, after) := boundary.intoRaw .connetionParams
    some (some pointer, after)
  | .requestBuilder =>
    let (pointer, after) := boundary.intoRaw .request
    some (some pointer, after)
  | .subscribtion | .connection | .subscribtionCancellationToken | .message =>
    some (none, boundary)
  | .sender | .receiver | .headersView | .connectionError | .requestError | .ownedString => none

/-- `std::make_exception_ptr` of an error made from a pointer: it copies the error into the
exception and destroys it. -/
def makeExceptionPtr (boundary : Boundary) (kind : Class) (e : Option Pointer) :
    Option Pointer × Boundary :=
  let (copied, boundary) := boundary.copy kind e
  (copied, boundary.release e)

end Boundary

/-- The operations whose callback takes a value or an error. -/
inductive Operation where
  | connect
  | subscribe
  | request
  | sendRequest
  deriving DecidableEq, Repr

namespace Operation

/-- The class whose pointer starts the operation. A request of a builder takes two. -/
def caller : Operation → Option Class
  | .connect => some .connectionOptions
  | .subscribe | .request => some .connection
  | .sendRequest => none

/-- What the task boxes. The client's error is its text here. -/
def boxed : Operation → Except Bytes Unit → Option (Operations.Content Unit Bytes)
  | .connect => Operations.boxConnect
  | .subscribe => Operations.boxSubscribe id
  | .request | .sendRequest => Operations.boxRequest

def invocation (d : Operations.Context) :
    Operation → Option Pointer → Option Pointer → Operations.Invocation
  | .connect, value, err => .connect value err d
  | .subscribe, value, err => .subscribe value err d
  | .request, value, err | .sendRequest, value, err => .request value err d

/-- The callback that the task invokes with a box. -/
def report (operation : Operation) (d : Operations.Context) (pointer : Pointer) :
    Except Bytes Unit → Operations.Invocation
  | .ok _ => operation.invocation d (some pointer) none
  | .error _ => operation.invocation d none (some pointer)

/-- The class of the object that a callback makes from the value. -/
def value : Operation → Class
  | .connect => .connection
  | .subscribe => .subscribtion
  | .request | .sendRequest => .message

/-- The class of the exceptions of a callback. That of `subcribe` makes none. -/
def exception : Operation → Class
  | .connect => .connectionError
  | .subscribe | .request | .sendRequest => .requestError

end Operation

/-- The type of a box that a task makes. -/
def kindOf : Operations.Content Unit Bytes → Kind
  | .connection _ => .connection
  | .connectError _ => .connectError
  | .subscribtion _ => .subscribtion
  | .text _ => .ownedString
  | .message _ => .message
  | .requestError _ => .requestError

/-- The operation of a started task. -/
def operationOf : Operations.Operation → Option Operation
  | .connect _ => some .connect
  | .publish _ _ | .publishWithReply _ _ _ => none
  | .subscribe _ => some .subscribe
  | .request _ _ => some .request
  | .sendRequest _ _ => some .sendRequest

/-- Boxing and reporting are what the tasks of the operations do. -/
theorem task_of_operationOf {started : Operations.Operation} {operation : Operation}
    (same : operationOf started = some operation) (d : Operations.Context) :
    ∃ call,
      started.task id d = Operations.answer call operation.boxed (operation.invocation d) := by
  cases started with
  | connect | subscribe | request | sendRequest =>
      cases same
      exact ⟨_, rfl⟩
  | publish | publishWithReply => cases same

end AsyncNats.Facade
