import AsyncNats.Ownership.Wrappers
import AsyncNats.Transition.System

/-! # Connection and subscription handles

A C++ `Connection` or `Subscribtion` owns one Rust box, and every operation
spawns a task that borrows the box through the raw handle it was started with.
The application constructs, assigns and destroys the objects while the runtime
polls the tasks.

Deleting a connection frees its box at once. Deleting a subscription spawns a
task that owns the box, unsubscribes and frees it.
-/

namespace AsyncNats.Handles

open Sync Ownership Transition

inductive Kind where
  | connection
  | subscribtion
  deriving DecidableEq, Repr

/-- The tasks: five operations of a connection, `receive` of a subscription, and the
`unsubscribe` that `async_nats_subscribtion_delete` spawns. -/
inductive Operation where
  | publish
  | publishWithReply
  | subscribe
  | request
  | sendRequest
  | receive
  | unsubscribe
  deriving DecidableEq, Repr

/-- The class whose objects have the operation. Nobody calls the last one. -/
def Operation.caller : Operation → Option Kind
  | .publish | .publishWithReply | .subscribe | .request | .sendRequest => some .connection
  | .receive => some .subscribtion
  | .unsubscribe => none

/-- A spawned task that is not finished, and the box it refers to. -/
structure Task where
  operation : Operation
  box : Pointer
  deriving DecidableEq, Repr

abbrev TaskId := Nat

/-- The live boxes, the C++ objects and the tasks, with counters for new boxes and
tasks. `dangling` is history: the polls of a task whose box was no longer live. -/
structure State where
  boxes : Table Pointer Kind
  objects : Wrappers Kind
  tasks : Table TaskId Task
  created : Pointer
  spawned : TaskId
  dangling : List (TaskId × Pointer)

namespace State

/-- The application starts without objects. -/
def init : State where
  boxes := ∅
  objects := ∅
  tasks := ∅
  created := 0
  spawned := 0
  dangling := []

/-- `Box::into_raw(Box::new(..))`, and the C++ object that takes the pointer. -/
def allocate (state : State) (kind : Kind) (object : ObjectId) : State :=
  { state with
    boxes := state.boxes.insert state.created kind
    created := state.created + 1
    objects := state.objects.insert object ⟨kind, some state.created⟩ }

/-- `rt.spawn` of a task that refers to a box. -/
def spawn (state : State) (operation : Operation) (box : Pointer) : State :=
  { state with
    tasks := state.tasks.insert state.spawned ⟨operation, box⟩, spawned := state.spawned + 1 }

/-- `async_nats_connection_delete` or `async_nats_subscribtion_delete`, unless the
pointer is null. -/
def delete (state : State) : Kind → Option Pointer → State
  | _, none => state
  | .connection, some box => { state with boxes := state.boxes.erase box }
  | .subscribtion, some box => state.spawn .unsubscribe box

/-- The default constructors. -/
def defaultConstruct (state : State) (object : ObjectId) (kind : Kind) : Option State :=
  if state.objects.lookup object = none then
    some { state with objects := state.objects.insert object ⟨kind, none⟩ }
  else none

/-- `Connection(AsyncNatsConnection*)`, in the callback of a connect that succeeded. -/
def connected (state : State) (object : ObjectId) : Option State :=
  if state.objects.lookup object = none then some (state.allocate .connection object) else none

/-- `Connection(const Connection&)`. The source is not null. -/
def copyConstruct (state : State) (source object : ObjectId) : Option State :=
  match state.objects.lookup object, state.objects.lookup source with
  | none, some ⟨.connection, some _⟩ => some (state.allocate .connection object)
  | _, _ => none

/-- The move constructors. -/
def moveConstruct (state : State) (source object : ObjectId) : Option State :=
  match state.objects.lookup object, state.objects.lookup source with
  | none, some _ => some { state with objects := Wrappers.move state.objects source object }
  | _, _ => none

/-- `Connection& operator=(const Connection&)`. The source is not null. -/
def copyAssign (state : State) (target source : ObjectId) : Option State :=
  match state.objects.lookup target, state.objects.lookup source with
  | some ⟨.connection, raw⟩, some ⟨.connection, some _⟩ =>
    if target = source then some state
    else some ((state.delete .connection raw).allocate .connection target)
  | _, _ => none

/-- The move assignments. -/
def moveAssign (state : State) (target source : ObjectId) : Option State :=
  match state.objects.lookup target, state.objects.lookup source with
  | some ⟨kind, raw⟩, some ⟨same, _⟩ =>
    if kind ≠ same then none
    else if target = source then some state
    else some { state.delete kind raw with objects := Wrappers.move state.objects source target }
  | _, _ => none

/-- The destructors. -/
def destroy (state : State) (object : ObjectId) : Option State :=
  match state.objects.lookup object with
  | some ⟨kind, raw⟩ =>
      some { state.delete kind raw with objects := state.objects.erase object }
  | none => none

/-- An operation is started on an object that is not null, and spawns its task. -/
def start (state : State) (object : ObjectId) (operation : Operation) : Option State :=
  match state.objects.lookup object with
  | some ⟨kind, some box⟩ =>
    if operation.caller = some kind then some (state.spawn operation box) else none
  | _ => none

/-- A poll of a task refers to its box. -/
def refer (state : State) (id : TaskId) (task : Task) : State :=
  match state.boxes.lookup task.box with
  | some _ => state
  | none => { state with dangling := state.dangling ++ [(id, task.box)] }

/-- A poll that leaves the task pending: the first one, or one of its resumptions. -/
def resume (state : State) (id : TaskId) : Option State :=
  (state.tasks.lookup id).map (state.refer id)

/-- The last poll. A subscribe task that succeeded makes a box and the callback an
object, and the unsubscribe task drops its box. -/
def finish (state : State) (id : TaskId) (object : Option ObjectId) : Option State :=
  match state.tasks.lookup id with
  | none => none
  | some task =>
    let after := { state.refer id task with tasks := state.tasks.erase id }
    match task.operation, object with
    | .subscribe, some object =>
      if state.objects.lookup object = none then some (after.allocate .subscribtion object)
      else none
    | .unsubscribe, none => some { after with boxes := after.boxes.erase task.box }
    | _, none => some after
    | _, some _ => none

end State

/-- A step of the application or of the runtime. -/
inductive Event where
  | defaultConstruct (object : ObjectId) (kind : Kind)
  | connected (object : ObjectId)
  | copyConstruct (source object : ObjectId)
  | moveConstruct (source object : ObjectId)
  | copyAssign (target source : ObjectId)
  | moveAssign (target source : ObjectId)
  | destroy (object : ObjectId)
  | start (object : ObjectId) (operation : Operation)
  | resume (id : TaskId)
  | finish (id : TaskId) (object : Option ObjectId)

def step (state : State) : Event → Option State
  | .defaultConstruct object kind => state.defaultConstruct object kind
  | .connected object => state.connected object
  | .copyConstruct source object => state.copyConstruct source object
  | .moveConstruct source object => state.moveConstruct source object
  | .copyAssign target source => state.copyAssign target source
  | .moveAssign target source => state.moveAssign target source
  | .destroy object => state.destroy object
  | .start object operation => state.start object operation
  | .resume id => state.resume id
  | .finish id object => state.finish id object

/-- All interleavings of the application's and the runtime's steps. -/
def system : System State Event where
  init := State.init
  step

end AsyncNats.Handles
