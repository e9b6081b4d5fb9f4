import AsyncNats.Api.Text
import AsyncNats.Sync.Table

/-! # Header iterators

A Rust header iterator is a cursor over the header map of a message together with
the entry it stands on. It lives behind a raw pointer on the Rust heap. The one made by a
lookup has no cursor: it is parked on the entry that was found, under a dummy name.

A call does not return when the function it makes on the Rust side aborts, panics or
uses a pointer that was freed.
-/

namespace AsyncNats.Headers

open Sync

abbrev Pointer := Nat

/-- The values of one header. -/
abbrev HeaderValue := { values : List Bytes // values.length < 2 ^ 64 }

/-- What is used of the client's header names: their text, the parser, and the name that
stands for the one of a lookup. -/
structure HeaderNames (Name : Type) where
  asRef : Name → Bytes
  fromStr : Bytes → Option Name
  dummy : Name

/-- Names that are their text, of visible characters other than the colon. -/
def HeaderNames.visible : HeaderNames Bytes where
  asRef := id
  fromStr := fun text => if text.all fun char => 33 ≤ char && char ≤ 126 && char != 58
    then some text else none
  dummy := []

/-- A header map, with its entries in the order of their iteration. -/
abbrev HeaderMap (Name : Type) := Table Name HeaderValue

abbrev Entry (Name : Type) := (_ : Name) × HeaderValue

/-- `HeaderIterator`, as `AsyncNatsHeaderIterator` hides it. -/
structure RustIterator (Name : Type) where
  iter : Option (List (Entry Name))
  val : Option (Entry Name)
  refcnt : Nat

/-- The header iterators on the Rust heap, in the order in which they were made. A pointer
is a position, and the place of a freed iterator stays empty. -/
abbrev Heap (Name : Type) := List (Option (RustIterator Name))

/-- Why a call does not return: the check for null aborts, the pointer was freed, or one of
the `expect`s panics. -/
inductive Failure where
  | null
  | dangling
  | headersAbsent
  | iterAbsent
  | valAbsent
  | indexOutOfRange
  | headerAbsent
  deriving DecidableEq, Repr

namespace Heap

variable {Name : Type}

/-- `Box::into_raw` of a new box. -/
def intoRaw (heap : Heap Name) (ctx : RustIterator Name) : Pointer × Heap Name :=
  (heap.length, heap ++ [some ctx])

/-- `header_iterator_from_ptr`. -/
def fromPtr (heap : Heap Name) : Option Pointer → Except Failure (Pointer × RustIterator Name)
  | none => .error .null
  | some pointer =>
    match heap[pointer]? with
    | some (some ctx) => .ok (pointer, ctx)
    | _ => .error .dangling

/-- `async_nats_message_header_iterator`. -/
def headerIterator (heap : Heap Name) :
    Option (HeaderMap Name) → Except Failure (Pointer × Heap Name)
  | none => .error .headersAbsent
  | some headers => .ok (heap.intoRaw { iter := some headers.entries, val := none, refcnt := 1 })

/-- `async_nats_message_header_iterator_free`. -/
def free (heap : Heap Name) (p : Option Pointer) : Except Failure (Heap Name) := do
  let (pointer, ctx) ← heap.fromPtr p
  let refcnt := ctx.refcnt - 1
  return heap.set pointer (if refcnt = 0 then none else some { ctx with refcnt })

/-- `async_nats_message_header_iterator_next`. -/
def next (heap : Heap Name) (p : Option Pointer) : Except Failure (Bool × Heap Name) := do
  let (pointer, ctx) ← heap.fromPtr p
  match ctx.iter with
  | none => .error .iterAbsent
  | some rest =>
    let val := rest.head?
    return (val.isSome, heap.set pointer (some { ctx with iter := some rest.tail, val }))

/-- `ctx.val.expect(..)`. -/
def val (heap : Heap Name) (p : Option Pointer) : Except Failure (Entry Name) := do
  let (_, ctx) ← heap.fromPtr p
  match ctx.val with
  | none => .error .valAbsent
  | some entry => return entry

/-- `async_nats_message_header_iterator_key`. -/
def key (names : HeaderNames Name) (heap : Heap Name) (p : Option Pointer) :
    Except Failure Bytes := do
  let ⟨k, _⟩ ← heap.val p
  return names.asRef k

/-- `async_nats_message_header_iterator_value_count`. -/
def valueCount (heap : Heap Name) (p : Option Pointer) : Except Failure Nat := do
  let ⟨_, v⟩ ← heap.val p
  return v.1.length

/-- `async_nats_message_header_iterator_value_at`. -/
def valueAt (heap : Heap Name) (p : Option Pointer) (index : Nat) : Except Failure Bytes := do
  let ⟨_, v⟩ ← heap.val p
  match (v.1.drop index).head? with
  | none => .error .indexOutOfRange
  | some str => return str

/-- `async_nats_message_get_header`. The header is given as a slice, which may have no
data. -/
def getHeader [DecidableEq Name] (names : HeaderNames Name) (heap : Heap Name)
    (headers : Option (HeaderMap Name)) (header : Option Bytes) :
    Except Failure (Option Pointer × Heap Name) :=
  match headers, header with
  | none, _ => .ok (none, heap)
  | some _, none => .error .headerAbsent
  | some headers, some str =>
    match names.fromStr str with
    | none => .ok (none, heap)
    | some h =>
      match headers.lookup h with
      | none => .ok (none, heap)
      | some v =>
        let (pointer, heap) :=
          heap.intoRaw { iter := none, val := some ⟨names.dummy, v⟩, refcnt := 1 }
        .ok (some pointer, heap)

section Lemmas

variable {heap : Heap Name} {pointer : Pointer} {ctx : RustIterator Name}

/-- Writing to the newest box. -/
theorem set_length (heap : Heap Name) (made slot : Option (RustIterator Name)) :
    (heap ++ [made]).set heap.length slot = heap ++ [slot] := by
  rw [List.set_append_right _ _ (Nat.le_refl _), Nat.sub_self, List.set_cons_zero]

theorem fromPtr_of_live (live : heap[pointer]? = some (some ctx)) :
    heap.fromPtr (some pointer) = .ok (pointer, ctx) := by
  simp only [fromPtr, live]

/-- The only reference goes, and the box with it. -/
theorem free_of_live (live : heap[pointer]? = some (some ctx)) (once : ctx.refcnt = 1) :
    heap.free (some pointer) = .ok (heap.set pointer none) := by
  simp only [free, fromPtr_of_live live, once, bind, Except.bind, Nat.sub_self, ↓reduceIte]
  rfl

theorem next_of_live (live : heap[pointer]? = some (some ctx)) {rest : List (Entry Name)}
    (cursor : ctx.iter = some rest) :
    heap.next (some pointer) = .ok (rest.head?.isSome,
      heap.set pointer (some { ctx with iter := some rest.tail, val := rest.head? })) := by
  simp only [next, fromPtr_of_live live, cursor, bind, Except.bind]
  rfl

theorem val_of_live (live : heap[pointer]? = some (some ctx)) {entry : Entry Name}
    (stands : ctx.val = some entry) : heap.val (some pointer) = .ok entry := by
  simp only [val, fromPtr_of_live live, stands, bind, Except.bind]
  rfl

theorem key_of_val {names : HeaderNames Name} {p : Option Pointer} {entry : Entry Name}
    (stands : heap.val p = .ok entry) : heap.key names p = .ok (names.asRef entry.1) := by
  simp only [key, stands, bind, Except.bind]
  rfl

theorem valueCount_of_val {p : Option Pointer} {entry : Entry Name}
    (stands : heap.val p = .ok entry) : heap.valueCount p = .ok entry.2.1.length := by
  simp only [valueCount, stands, bind, Except.bind]
  rfl

theorem valueAt_of_val {p : Option Pointer} {entry : Entry Name} (stands : heap.val p = .ok entry)
    {index : Nat} (bound : index < entry.2.1.length) :
    heap.valueAt p index = .ok entry.2.1[index] := by
  have head : (entry.2.1.drop index).head? = some entry.2.1[index] := by
    rw [List.head?_drop]
    exact List.getElem?_eq_getElem bound
  simp only [valueAt, stands, bind, Except.bind, head]
  rfl

end Lemmas

end Heap

end AsyncNats.Headers
