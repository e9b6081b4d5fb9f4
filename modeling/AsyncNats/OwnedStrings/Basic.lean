import AsyncNats.Operations.Subjects
import AsyncNats.Ownership.Allocator
import AsyncNats.Transition.System

/-! # Strings that are handed out

Five functions hand a string to the C++ side as a leaked `CString`, which is a boxed slice of its
bytes and a terminator. `async_nats_owned_string_delete` gets a thin pointer to a `c_char` back,
makes a box of one `c_char` of it, and drops that. `OwnedString` is the C++ class that deletes
what it holds, but a pointer can also be deleted as it is.
-/

namespace AsyncNats.OwnedStrings

open Ownership Sync Transition

/-- `size_of::<c_char>()`. -/
def sizeOfCChar : Nat := 1

/-- `as_bytes_with_nul`: what the boxed slice has in it. -/
def asBytesWithNul (text : CString) : Bytes := text.1 ++ [0]

/-- The size that a `CString` is allocated with. -/
def allocatedSize (text : CString) : Nat := (asBytesWithNul text).length

abbrev Heap := Allocator CString

/-- `CString::into_raw`, with the allocation of what it leaks. -/
def intoRaw (heap : Heap) (text : CString) : Pointer × Heap := heap.alloc text

/-! The functions that hand out a string, where `none` is a panic of `CString::new`. Their
arguments are the texts that the client and the formatting of errors and messages give. -/

/-- `string_to_owned_string`. -/
def stringToOwnedString (heap : Heap) (s : RustString) : Option (Pointer × Heap) :=
  (Operations.cstringNew (Utf8.encode s)).map (intoRaw heap)

/-- `async_nats_connection_mailbox`. -/
def connectionMailbox (heap : Heap) (inbox : RustString) : Option (Pointer × Heap) :=
  stringToOwnedString heap inbox

/-- `async_nats_connection_error_describtion`. -/
def connectionErrorDescribtion (heap : Heap) (err : RustString) : Option (Pointer × Heap) :=
  stringToOwnedString heap err

/-- `async_nats_request_error_describtion`. -/
def requestErrorDescribtion (heap : Heap) (err : RustString) : Option (Pointer × Heap) :=
  stringToOwnedString heap err

/-- `async_nats_message_to_string`. -/
def messageToString (heap : Heap) (msg : RustString) : Option (Pointer × Heap) :=
  stringToOwnedString heap msg

/-- The error text of `async_nats_connection_subscribe_async`, which makes its own C string. -/
def subscribeError (heap : Heap) (e : RustString) : Option (Pointer × Heap) :=
  match Operations.cstringNew (Utf8.encode e) with
  | some err => some (intoRaw heap err)
  | none => none

/-- `async_nats_owned_string_delete`: `drop(Box::from_raw(s))` for a pointer to a `c_char`. -/
def ownedStringDelete (heap : Heap) (s : Pointer) : Option Heap :=
  heap.release s sizeOfCChar

/-- What the destructor and the move assignment do with a pointer, which may be null. -/
def deleteUnlessNull (heap : Heap) : Option Pointer → Option Heap
  | none => some heap
  | some s => ownedStringDelete heap s

/-- The heap, the pointers that the C++ side has as they are, and its `OwnedString`s. -/
structure State where
  heap : Heap
  raw : List Pointer
  objects : Wrappers Unit

inductive Event where
  | mailbox (inbox : RustString)
  | connectionErrorDescribtion (err : RustString)
  | requestErrorDescribtion (err : RustString)
  | messageToString (msg : RustString)
  | subscribeError (e : RustString)
  | construct (object : ObjectId) (s : Option Pointer)
  | moveConstruct (source object : ObjectId)
  | moveAssign (target source : ObjectId)
  | destroy (object : ObjectId)
  | delete (s : Pointer)
  deriving DecidableEq, Repr

namespace State

def init : State where
  heap := .empty
  raw := []
  objects := ∅

/-- A pointer comes out. After a panic nothing does. -/
def obtain (state : State) (made : Option (Pointer × Heap)) : Option State :=
  made.map fun (s, heap) => { state with heap, raw := s :: state.raw }

/-- `OwnedString(char*)`. -/
def construct (state : State) (object : ObjectId) (s : Option Pointer) : Option State :=
  if state.objects.lookup object = none ∧ ∀ pointer ∈ s, pointer ∈ state.raw then
    some
      { state with
        raw := s.elim state.raw state.raw.erase
        objects := state.objects.insert object ⟨(), s⟩ }
  else none

/-- `OwnedString(OwnedString&&)`. -/
def moveConstruct (state : State) (source object : ObjectId) : Option State :=
  match state.objects.lookup object, state.objects.lookup source with
  | none, some _ => some { state with objects := Wrappers.move state.objects source object }
  | _, _ => none

/-- `operator=(OwnedString&&)`. -/
def moveAssign (state : State) (target source : ObjectId) : Option State :=
  match state.objects.lookup target, state.objects.lookup source with
  | some wrapper, some _ =>
    if target = source then some state
    else
      (deleteUnlessNull state.heap wrapper.raw).map fun heap =>
        { state with heap, objects := Wrappers.move state.objects source target }
  | _, _ => none

/-- `~OwnedString()`. -/
def destroy (state : State) (object : ObjectId) : Option State :=
  match state.objects.lookup object with
  | some wrapper =>
      (deleteUnlessNull state.heap wrapper.raw).map fun heap =>
        { state with heap, objects := state.objects.erase object }
  | none => none

/-- The C++ side deletes a pointer that it did not make an `OwnedString` of. -/
def delete (state : State) (s : Pointer) : Option State :=
  if s ∈ state.raw then
    (ownedStringDelete state.heap s).map fun heap => { state with heap, raw := state.raw.erase s }
  else none

/-- Everything that somebody can still delete. -/
def holders (state : State) : List Pointer := state.raw ++ Wrappers.holders state.objects

/-- The pointer that an event deletes, if it deletes one. -/
def deletes (state : State) : Event → Option Pointer
  | .moveAssign target source =>
    if target = source then none else Wrappers.raw state.objects target
  | .destroy object => Wrappers.raw state.objects object
  | .delete s => some s
  | _ => none

end State

def step (state : State) : Event → Option State
  | .mailbox inbox => state.obtain (connectionMailbox state.heap inbox)
  | .connectionErrorDescribtion err => state.obtain (connectionErrorDescribtion state.heap err)
  | .requestErrorDescribtion err => state.obtain (requestErrorDescribtion state.heap err)
  | .messageToString msg => state.obtain (messageToString state.heap msg)
  | .subscribeError e => state.obtain (subscribeError state.heap e)
  | .construct object s => state.construct object s
  | .moveConstruct source object => state.moveConstruct source object
  | .moveAssign target source => state.moveAssign target source
  | .destroy object => state.destroy object
  | .delete s => state.delete s

/-- All runs of the C++ side. -/
def system : System State Event where
  init := State.init
  step := step

variable {heap after : Heap} {s : Pointer} {text : CString} {state next : State}

theorem allocatedSize_eq (text : CString) : allocatedSize text = text.1.length + 1 :=
  List.length_append

theorem subscribeError_eq (heap : Heap) (e : RustString) :
    subscribeError heap e = stringToOwnedString heap e := by
  unfold subscribeError stringToOwnedString
  cases Operations.cstringNew (Utf8.encode e) <;> rfl

/-- What comes out is the block of a C string with the bytes of the text, and it takes as much
memory as the same string does where the memory is bytes. -/
theorem stringToOwnedString_cases {text : RustString} {made : Pointer × Heap}
    (handed : stringToOwnedString heap text = some made) :
    ∃ cstring : CString, cstring.1 = Utf8.encode text ∧ made = heap.alloc cstring ∧
      ∀ memory, Operations.stringToOwnedString memory text =
        some (memory.length, memory ++ asBytesWithNul cstring) := by
  unfold stringToOwnedString at handed
  obtain ⟨cstring, new, rfl⟩ := Option.map_eq_some_iff.mp handed
  refine ⟨cstring, ?_, rfl, fun memory => ?_⟩
  · unfold Operations.cstringNew at new
    split at new <;> cases new
    rfl
  · rw [Operations.stringToOwnedString, new, Option.map_some]
    rfl

end AsyncNats.OwnedStrings
