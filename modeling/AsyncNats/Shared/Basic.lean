import AsyncNats.Ownership.Counts
import AsyncNats.Transition.System

/-! # Shared messages and errors

A `Message` and the `HeadersView`s made from it share a counted Rust message, and
the copies of a `ConnectionError` or `RequestError` a counted Rust error. Their
special members differ in what can be copied: a view cannot, a message also when
it is null, and an error only when it is not.

A counter is as wide as a pointer, and each holder is an object with a pointer in
it, so it does not overflow.
-/

namespace AsyncNats.Shared

open Sync Ownership Transition

inductive Class where
  | message
  | headersView
  | connectionError
  | requestError
  deriving DecidableEq, Repr

/-- The counters of the live Rust messages and errors, the C++ objects, and a counter for
new Rust objects. -/
structure State where
  counters : Counters
  objects : Wrappers Class
  created : Pointer

namespace State

def init : State where
  counters := ∅
  objects := ∅
  created := 0

/-- A C++ object takes the pointer to a new Rust message or error, which counts one. Views
are made by `headers` only. -/
def construct (state : State) (object : ObjectId) (kind : Class) : Option State :=
  if kind ≠ .headersView ∧ state.objects.lookup object = none then
    some
      { counters := AList.insert state.created 1 state.counters
        objects := state.objects.insert object ⟨kind, some state.created⟩
        created := state.created + 1 }
  else none

/-- `Message()`. -/
def constructNull (state : State) (object : ObjectId) : Option State :=
  if state.objects.lookup object = none then
    some { state with objects := state.objects.insert object ⟨.message, none⟩ }
  else none

/-- The counters after the copy of a pointer: `async_nats_message_clone` behind a check for
null, or `async_nats_connection_error_clone` or `async_nats_request_error_clone` without
one. -/
def clone (counters : Counters) : Wrapper Class → Option Counters
  | ⟨.message, raw⟩ => counters.retainRaw raw
  | ⟨.headersView, _⟩ => none
  | ⟨.connectionError, raw⟩ | ⟨.requestError, raw⟩ => raw.bind counters.retain

/-- The copy constructors. -/
def copyConstruct (state : State) (source object : ObjectId) : Option State :=
  match state.objects.lookup object, state.objects.lookup source with
  | none, some wrapper =>
      (clone state.counters wrapper).map fun counters =>
        { state with counters, objects := state.objects.insert object wrapper }
  | _, _ => none

/-- The move constructors. -/
def moveConstruct (state : State) (source object : ObjectId) : Option State :=
  match state.objects.lookup object, state.objects.lookup source with
  | none, some _ => some { state with objects := Wrappers.move state.objects source object }
  | _, _ => none

/-- The copy assignments: release the old Rust object, then retain the new one. A view has
none. -/
def copyAssign (state : State) (target source : ObjectId) : Option State :=
  match state.objects.lookup target, state.objects.lookup source with
  | some ⟨kind, raw⟩, some wrapper =>
    if kind ≠ wrapper.kind ∨ kind = .headersView then none
    else if target = source then some state
    else
      (state.counters.releaseRaw raw).bind fun released =>
        (clone released wrapper).map fun counters =>
          { state with counters, objects := state.objects.insert target wrapper }
  | _, _ => none

/-- The move assignments: release the old Rust object, then take the pointer. -/
def moveAssign (state : State) (target source : ObjectId) : Option State :=
  match state.objects.lookup target, state.objects.lookup source with
  | some ⟨kind, raw⟩, some wrapper =>
    if kind ≠ wrapper.kind then none
    else if target = source then some state
    else
      (state.counters.releaseRaw raw).map fun counters =>
        { state with counters, objects := Wrappers.move state.objects source target }
  | _, _ => none

/-- `Message::headers`. -/
def headers (state : State) (source object : ObjectId) : Option State :=
  match state.objects.lookup object, state.objects.lookup source with
  | none, some ⟨.message, raw⟩ =>
      (state.counters.retainRaw raw).map fun counters =>
        { state with counters, objects := state.objects.insert object ⟨.headersView, raw⟩ }
  | _, _ => none

/-- The destructors. -/
def destroy (state : State) (object : ObjectId) : Option State :=
  match state.objects.lookup object with
  | some ⟨_, raw⟩ =>
      (state.counters.releaseRaw raw).map fun counters =>
        { state with counters, objects := state.objects.erase object }
  | none => none

end State

inductive Event where
  | construct (object : ObjectId) (kind : Class)
  | constructNull (object : ObjectId)
  | copyConstruct (source object : ObjectId)
  | moveConstruct (source object : ObjectId)
  | copyAssign (target source : ObjectId)
  | moveAssign (target source : ObjectId)
  | headers (source object : ObjectId)
  | destroy (object : ObjectId)

/-- A step is undefined when it would touch a freed object or clone a null error, and on
objects that are not there or not of a class that has it. -/
def step (state : State) : Event → Option State
  | .construct object kind => state.construct object kind
  | .constructNull object => state.constructNull object
  | .copyConstruct source object => state.copyConstruct source object
  | .moveConstruct source object => state.moveConstruct source object
  | .copyAssign target source => state.copyAssign target source
  | .moveAssign target source => state.moveAssign target source
  | .headers source object => state.headers source object
  | .destroy object => state.destroy object

def system : System State Event where
  init := State.init
  step

end AsyncNats.Shared
