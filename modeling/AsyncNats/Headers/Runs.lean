import AsyncNats.Headers.View
import AsyncNats.Transition.System

/-! # Runs over header objects

The application makes header iterators and views on live messages, moves them about,
reads them and destroys them. It neither dereferences nor advances an iterator that is
equal to `end()`, and it does not read a view that it got from an iterator after the
iterator went on or was given up.
-/

namespace AsyncNats.Headers

open Sync Transition

abbrev ObjectId := Nat

abbrev MessageId := Nat

/-- A C++ object. The stamp of a view that was got from an iterator says how far the
iterator was then; it moves with the view. -/
inductive Object where
  | view (view : HeaderVectorView) (stamp : Nat)
  | iterator (iterator : HeaderIterator)
  deriving DecidableEq, Repr

/-- The Rust heap, the C++ objects, and what ended the run if something did. `advances` is
history: how often the iterator behind a pointer was advanced or given up. -/
structure State (Name : Type) where
  heap : Heap Name
  objects : Table ObjectId Object
  advances : Pointer → Nat
  failure : Option Failure

variable {Name : Type}

/-- The iterator behind a pointer is not what it was any more. -/
def bump (advances : Pointer → Nat) : Option Pointer → Pointer → Nat
  | none => advances
  | some pointer => Function.update advances pointer (advances pointer + 1)

namespace State

def init : State Name where
  heap := []
  objects := ∅
  advances := fun _ => 0
  failure := none

/-- A call that does not return ends the run. -/
def attempt (state : State Name) : Except Failure (State Name) → State Name
  | .ok next => next
  | .error failure => { state with failure := some failure }

def getHeader [DecidableEq Name] (names : HeaderNames Name) (state : State Name)
    (headers : Option (HeaderMap Name)) (header : Bytes) (object : ObjectId) :
    Option (State Name) :=
  if state.objects.lookup object = none then
    some <| state.attempt do
      let (found, heap) ← HeadersView.getHeader names state.heap headers header
      match found with
      | none => return { state with heap }
      | some view =>
        return { state with heap, objects := state.objects.insert object (.view view 0) }
  else none

def iterBegin (state : State Name) (headers : Option (HeaderMap Name)) (object : ObjectId) :
    Option (State Name) :=
  if state.objects.lookup object = none then
    some <| state.attempt do
      let (iterator, heap) ← HeadersView.iterBegin state.heap headers
      return { state with heap, objects := state.objects.insert object (.iterator iterator) }
  else none

def deref (names : HeaderNames Name) (state : State Name) (source object : ObjectId) :
    Option (State Name) :=
  match state.objects.lookup object, state.objects.lookup source with
  | none, some (.iterator ⟨some pointer⟩) =>
    some <| state.attempt do
      let (_, view) ← HeaderIterator.deref names ⟨some pointer⟩ state.heap
      return { state with
        objects := state.objects.insert object (.view view (state.advances pointer)) }
  | _, _ => none

def advance (state : State Name) (object : ObjectId) : Option (State Name) :=
  match state.objects.lookup object with
  | some (.iterator ⟨some pointer⟩) =>
    some <| state.attempt do
      let (iterator, heap) ← HeaderIterator.advance ⟨some pointer⟩ state.heap
      return { state with
        heap
        objects := state.objects.insert object (.iterator iterator)
        advances := bump state.advances (some pointer) }
  | _ => none

/-- A view may be read if it is its own or its iterator is as it was. -/
def mayRead (state : State Name) (view : HeaderVectorView) (stamp : Nat) : Bool :=
  view.owns || view.it.all fun pointer => stamp = state.advances pointer

def read (state : State Name) (object : ObjectId) (index : Nat) : Option (State Name) :=
  match state.objects.lookup object with
  | some (.view view stamp) =>
    if state.mayRead view stamp then
      some <| state.attempt do
        let _ ← view.valueAt state.heap index
        return state
    else none
  | _ => none

def moveConstruct (state : State Name) (source object : ObjectId) : Option (State Name) :=
  match state.objects.lookup object, state.objects.lookup source with
  | none, some (.view o stamp) =>
    let (view, o) := o.moveConstruct
    some { state with
      objects := (state.objects.insert object (.view view stamp)).insert source (.view o stamp) }
  | none, some (.iterator o) =>
    let (iterator, o) := o.moveConstruct
    some { state with
      objects := (state.objects.insert object (.iterator iterator)).insert source (.iterator o) }
  | _, _ => none

def moveAssign (state : State Name) (target source : ObjectId) : Option (State Name) :=
  match state.objects.lookup target, state.objects.lookup source with
  | some (.view view _), some (.view o stamp) =>
    if target = source then some state
    else some <| state.attempt do
      let ((view, o), heap) ← view.moveAssign o state.heap
      return { state with
        heap
        objects := (state.objects.insert target (.view view stamp)).insert source (.view o stamp) }
  | some (.iterator iterator), some (.iterator o) =>
    if target = source then some state
    else some <| state.attempt do
      let ((after, o), heap) ← iterator.moveAssign o state.heap
      return { state with
        heap
        objects := (state.objects.insert target (.iterator after)).insert source (.iterator o)
        advances := bump state.advances iterator.it }
  | _, _ => none

def destroy (state : State Name) (object : ObjectId) : Option (State Name) :=
  match state.objects.lookup object with
  | some (.view view _) =>
    some <| state.attempt do
      let heap ← view.destroy state.heap
      return { state with heap, objects := state.objects.erase object }
  | some (.iterator iterator) =>
    some <| state.attempt do
      let heap ← iterator.destroy state.heap
      return { state with
        heap
        objects := state.objects.erase object
        advances := bump state.advances iterator.it }
  | none => none

end State

inductive Event where
  | getHeader (message : MessageId) (header : Bytes) (object : ObjectId)
  | iterBegin (message : MessageId) (object : ObjectId)
  | deref (source object : ObjectId)
  | advance (object : ObjectId)
  | read (object : ObjectId) (index : Nat)
  | moveConstruct (source object : ObjectId)
  | moveAssign (target source : ObjectId)
  | destroy (object : ObjectId)

/-- `messages` gives the header map of each message, if it has one. -/
def step [DecidableEq Name] (names : HeaderNames Name)
    (messages : MessageId → Option (HeaderMap Name)) (state : State Name) (event : Event) :
    Option (State Name) :=
  if state.failure ≠ none then none
  else
    match event with
    | .getHeader message header object => state.getHeader names (messages message) header object
    | .iterBegin message object => state.iterBegin (messages message) object
    | .deref source object => state.deref names source object
    | .advance object => state.advance object
    | .read object index => state.read object index
    | .moveConstruct source object => state.moveConstruct source object
    | .moveAssign target source => state.moveAssign target source
    | .destroy object => state.destroy object

def system [DecidableEq Name] (names : HeaderNames Name)
    (messages : MessageId → Option (HeaderMap Name)) : System (State Name) Event where
  init := State.init
  step := step names messages

end AsyncNats.Headers
