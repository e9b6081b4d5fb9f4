import AsyncNats.Facade.Basic
import AsyncNats.Transition.System

/-! # Runs of an application

The application starts an operation, hands over a request and asks for a mailbox only with
objects that are not null. For all other members it may be any object of the class, and a run
goes on until a null goes into a Rust function.
-/

namespace AsyncNats.Facade

open Sync Ownership Transition

abbrev TaskId := Nat

/-- What a spawned task will answer. -/
inductive Task where
  | operation (operation : Operation)
  | receive
  deriving DecidableEq, Repr

structure State where
  boundary : Boundary
  objects : Wrappers Class
  tasks : Table TaskId Task
  spawned : TaskId

namespace State

def init : State where
  boundary := { boxes := [], ledger := [] }
  objects := ∅
  tasks := ∅
  spawned := 0

/-- An object gets a pointer. -/
def place (state : State) (object : ObjectId) (kind : Class) (made : Option Pointer × Boundary) :
    State :=
  { state with boundary := made.2, objects := state.objects.insert object ⟨kind, made.1⟩ }

/-- `rt.spawn`. -/
def spawn (state : State) (task : Task) : State :=
  { state with tasks := state.tasks.insert state.spawned task, spawned := state.spawned + 1 }

/-- The default constructors. -/
def construct (state : State) (object : ObjectId) (kind : Class) : Option State :=
  if state.objects.lookup object = none then
    (state.boundary.construct kind).map (state.place object kind)
  else none

/-- A new object of one class from the pointer of an object of another. -/
def obtain (state : State) (source object : ObjectId) (of kind : Class)
    (make : Boundary → Option Pointer → Option Pointer × Boundary) : Option State :=
  match state.objects.lookup object, state.objects.lookup source with
  | none, some wrapper =>
    if wrapper.kind = of then some (state.place object kind (make state.boundary wrapper.raw))
    else none
  | _, _ => none

/-- The constructors of `Sender`. -/
def sender (state : State) (conn object : ObjectId) : Option State :=
  state.obtain conn object .connection .sender (·.derive · .namedSender)

/-- `Subscribtion::get_cancellation_token`. -/
def getCancellationToken (state : State) (sub object : ObjectId) : Option State :=
  state.obtain sub object .subscribtion .subscribtionCancellationToken
    (·.derive · .cancellationToken)

/-- `Message::headers`. The constructor of `HeadersView` checks for null. -/
def headers (state : State) (message object : ObjectId) : Option State :=
  state.obtain message object .message .headersView (·.copy .message ·)

/-- `Connection::new_mailbox`, of a connection that is not null. -/
def newMailbox (state : State) (conn object : ObjectId) : Option State :=
  if Wrappers.raw state.objects conn = none then none
  else state.obtain conn object .connection .ownedString (·.derive · .ownedString)

/-- The copy constructors. -/
def copyConstruct (state : State) (source object : ObjectId) : Option State :=
  match state.objects.lookup object, state.objects.lookup source with
  | none, some ⟨kind, raw⟩ =>
    if kind.copyable then some (state.place object kind (state.boundary.copy kind raw)) else none
  | _, _ => none

/-- The move constructors. -/
def moveConstruct (state : State) (source object : ObjectId) : Option State :=
  match state.objects.lookup object, state.objects.lookup source with
  | none, some _ => some { state with objects := Wrappers.move state.objects source object }
  | _, _ => none

/-- The copy assignments. -/
def copyAssign (state : State) (target source : ObjectId) : Option State :=
  match state.objects.lookup target, state.objects.lookup source with
  | some ⟨kind, raw⟩, some wrapper =>
    if kind ≠ wrapper.kind ∨ kind.copyable = false then none
    else if target = source then some state
    else some (state.place target kind ((state.boundary.release raw).copy kind wrapper.raw))
  | _, _ => none

/-- The move assignments. -/
def moveAssign (state : State) (target source : ObjectId) : Option State :=
  match state.objects.lookup target, state.objects.lookup source with
  | some ⟨kind, raw⟩, some wrapper =>
    if kind ≠ wrapper.kind then none
    else if target = source then some state
    else
      some { state with
        boundary := state.boundary.release raw
        objects := Wrappers.move state.objects source target }
  | _, _ => none

/-- The destructors. -/
def destroy (state : State) (object : ObjectId) : Option State :=
  match state.objects.lookup object with
  | some ⟨_, raw⟩ =>
      some { state with
        boundary := state.boundary.release raw, objects := state.objects.erase object }
  | none => none

/-- `Subscribtion::release_raw` and `RequestBuilder::release` leave null behind. -/
def releaseRaw (state : State) (object : ObjectId) (kind : Class) : State :=
  { state with objects := state.objects.insert object ⟨kind, none⟩ }

/-- The constructor of `Receiver`. -/
def receiver (state : State) (sub object : ObjectId) : Option State :=
  match state.objects.lookup object, state.objects.lookup sub with
  | none, some ⟨.subscribtion, raw⟩ =>
    some ((state.releaseRaw sub .subscribtion).place object .receiver
      (state.boundary.namedReceiverNew raw))
  | _, _ => none

/-- `async_nats_message_has_headers`, in `HeadersView::operator bool`. -/
def operatorBool (state : State) (view : ObjectId) : Option State :=
  match state.objects.lookup view with
  | some ⟨.headersView, raw⟩ =>
      some { state with boundary := state.boundary.record (.lent raw) }
  | _ => none

/-- `async_nats_message_get_header`, in `HeadersView::get_header`. -/
def getHeader (state : State) (view : ObjectId) (header : Bytes) : Option State :=
  match state.objects.lookup view with
  | some ⟨.headersView, raw⟩ =>
    if header.isEmpty then some state
    else some { state with boundary := state.boundary.record (.lent raw) }
  | _ => none

/-- `connect`, `Connection::subcribe` and `Connection::request`. -/
def start (state : State) (object : ObjectId) (operation : Operation) : Option State :=
  match state.objects.lookup object with
  | some ⟨kind, some handle⟩ =>
    if operation.caller = some kind then
      some ({ state with boundary := state.boundary.record (.lent (some handle)) }.spawn
        (.operation operation))
    else none
  | _ => none

/-- `Connection::request` with a builder. -/
def sendRequest (state : State) (conn builder : ObjectId) : Option State :=
  match state.objects.lookup conn, state.objects.lookup builder with
  | some ⟨.connection, some handle⟩, some ⟨.requestBuilder, some request⟩ =>
    some ({ state.releaseRaw builder .requestBuilder with
      boundary :=
        (state.boundary.record (.lent (some handle))).record (.given (some request)) }.spawn
        (.operation .sendRequest))
  | _, _ => none

/-- `Subscribtion::receive`. -/
def receive (state : State) (sub : ObjectId) : Option State :=
  match state.objects.lookup sub with
  | some ⟨.subscribtion, some handle⟩ =>
    some ({ state with boundary := state.boundary.record (.lent (some handle)) }.spawn .receive)
  | _ => none

/-- The objects that a callback makes of what it is given. -/
def callback (state : State) (operation : Operation) (completion : Operations.Completion)
    (object exception : ObjectId) : State :=
  let placed := state.place object operation.value (completion.value, state.boundary)
  match completion.exception with
  | none => placed
  | some e =>
    placed.place exception operation.exception
      (placed.boundary.makeExceptionPtr operation.exception e)

/-- The task of an operation boxes what the client gave and invokes the callback, unless it
panics. -/
def finish (state : State) (id : TaskId) (response : Except Bytes Unit)
    (object exception : ObjectId) : Option State :=
  match state.tasks.lookup id with
  | some (.operation operation) =>
    if state.objects.lookup object = none ∧ state.objects.lookup exception = none ∧
        object ≠ exception then
      let after := { state with tasks := state.tasks.erase id }
      match operation.boxed response with
      | none => some after
      | some content =>
        let (pointer, boundary) := after.boundary.intoRaw (kindOf content)
        some ({ after with boundary }.callback operation
          (Operations.complete (operation.report id pointer response)) object exception)
    else none
  | _ => none

/-- The task of `receive` invokes the callback with a message, or with null after the last
one. -/
def received (state : State) (id : TaskId) (arrived : Bool) (object : ObjectId) : Option State :=
  match state.tasks.lookup id with
  | some .receive =>
    if state.objects.lookup object = none then
      let after := { state with tasks := state.tasks.erase id }
      if arrived then
        let (pointer, boundary) := after.boundary.intoRaw .message
        some (after.place object .message (some pointer, boundary))
      else some (after.place object .message (none, after.boundary))
    else none
  | _ => none

end State

/-- A step of the application, or the end of a task. -/
inductive Event where
  | construct (object : ObjectId) (kind : Class)
  | sender (conn object : ObjectId)
  | getCancellationToken (sub object : ObjectId)
  | headers (message object : ObjectId)
  | newMailbox (conn object : ObjectId)
  | copyConstruct (source object : ObjectId)
  | moveConstruct (source object : ObjectId)
  | copyAssign (target source : ObjectId)
  | moveAssign (target source : ObjectId)
  | destroy (object : ObjectId)
  | receiver (sub object : ObjectId)
  | operatorBool (view : ObjectId)
  | getHeader (view : ObjectId) (header : Bytes)
  | start (object : ObjectId) (operation : Operation)
  | sendRequest (conn builder : ObjectId)
  | receive (sub : ObjectId)
  | finish (id : TaskId) (response : Except Bytes Unit) (object exception : ObjectId)
  | received (id : TaskId) (arrived : Bool) (object : ObjectId)

/-- Nothing is defined after a null went into a function. -/
def step (state : State) (event : Event) : Option State :=
  if state.boundary.ledger.NoNull then
    match event with
    | .construct object kind => state.construct object kind
    | .sender conn object => state.sender conn object
    | .getCancellationToken sub object => state.getCancellationToken sub object
    | .headers message object => state.headers message object
    | .newMailbox conn object => state.newMailbox conn object
    | .copyConstruct source object => state.copyConstruct source object
    | .moveConstruct source object => state.moveConstruct source object
    | .copyAssign target source => state.copyAssign target source
    | .moveAssign target source => state.moveAssign target source
    | .destroy object => state.destroy object
    | .receiver sub object => state.receiver sub object
    | .operatorBool view => state.operatorBool view
    | .getHeader view header => state.getHeader view header
    | .start object operation => state.start object operation
    | .sendRequest conn builder => state.sendRequest conn builder
    | .receive sub => state.receive sub
    | .finish id response object exception => state.finish id response object exception
    | .received id arrived object => state.received id arrived object
  else none

def system : System State Event where
  init := State.init
  step

end AsyncNats.Facade
