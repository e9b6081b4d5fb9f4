import AsyncNats.Headers.Iterator

/-! # Header views

The C++ side of header access: `HeaderIterator` owns the Rust iterator it holds and gives
up the pointer when it is exhausted, `HeaderVectorView` either owns one, when a lookup
made it, or reads one that a `HeaderIterator` owns.
-/

namespace AsyncNats.Headers

variable {Name : Type}

structure HeaderVectorView where
  owns : Bool
  it : Option Pointer
  size : Nat
  deriving DecidableEq, Repr

namespace HeaderVectorView

/-- The constructor from a pointer. -/
def new (heap : Heap Name) (it : Option Pointer) (own : Bool) :
    Except Failure HeaderVectorView := do
  let size ← heap.valueCount it
  return { owns := own, it, size }

/-- The move constructor gives the new view and what is left of the other one. -/
def moveConstruct (o : HeaderVectorView) : HeaderVectorView × HeaderVectorView :=
  (o, { o with it := none })

/-- The destructor. -/
def destroy (view : HeaderVectorView) (heap : Heap Name) : Except Failure (Heap Name) :=
  if view.owns = true ∧ view.it ≠ none then heap.free view.it else .ok heap

/-- The move assignment from another view. What is left of the other view is the view. -/
def moveAssign (view o : HeaderVectorView) (heap : Heap Name) :
    Except Failure ((HeaderVectorView × HeaderVectorView) × Heap Name) := do
  let heap ← view.destroy heap
  return (({ owns := o.owns, it := o.it, size := o.size }, o), heap)

/-- `at`, where `none` is the exception `std::out_of_range`. -/
def valueAt (view : HeaderVectorView) (heap : Heap Name) (index : Nat) :
    Except Failure (Option Bytes) :=
  if view.size ≤ index then .ok none
  else do
    let slice ← heap.valueAt view.it index
    return some slice

/-- The cursor of a view. Positions and sizes are 64-bit numbers. -/
structure Iterator where
  it : Option Pointer
  pos : Nat
  size : Nat
  deriving DecidableEq, Repr

def iterBegin (view : HeaderVectorView) : Iterator := ⟨view.it, 0, view.size⟩

def iterEnd (view : HeaderVectorView) : Iterator := ⟨view.it, view.size, view.size⟩

namespace Iterator

/-- `operator++`. -/
def increment (cursor : Iterator) : Iterator :=
  if cursor.pos < cursor.size then { cursor with pos := (cursor.pos + 1) % 2 ^ 64 } else cursor

/-- `operator!=`. -/
def ne (cursor o : Iterator) : Bool := !(cursor.pos == o.pos)

/-- `operator*`, where `none` is the exception `std::out_of_range`. -/
def deref (cursor : Iterator) (heap : Heap Name) : Except Failure (Option Bytes) :=
  if cursor.size ≤ cursor.pos then .ok none
  else do
    let slice ← heap.valueAt cursor.it cursor.pos
    return some slice

end Iterator

end HeaderVectorView

structure HeaderIterator where
  it : Option Pointer
  deriving DecidableEq, Repr

namespace HeaderIterator

/-- `operator++`. -/
def advance (iterator : HeaderIterator) (heap : Heap Name) :
    Except Failure (HeaderIterator × Heap Name) := do
  let (more, heap) ← heap.next iterator.it
  if more then return (iterator, heap)
  else
    let heap ← if iterator.it ≠ none then Heap.free heap iterator.it else .ok heap
    return ({ it := none }, heap)

/-- The constructor from a pointer goes to the first header. -/
def new (it : Option Pointer) (heap : Heap Name) :
    Except Failure (HeaderIterator × Heap Name) :=
  advance { it } heap

/-- The move constructor gives the new iterator and what is left of the other one. -/
def moveConstruct (o : HeaderIterator) : HeaderIterator × HeaderIterator :=
  (o, { it := none })

/-- The destructor. -/
def destroy (iterator : HeaderIterator) (heap : Heap Name) : Except Failure (Heap Name) :=
  if iterator.it ≠ none then heap.free iterator.it else .ok heap

/-- The move assignment from another iterator. -/
def moveAssign (iterator o : HeaderIterator) (heap : Heap Name) :
    Except Failure ((HeaderIterator × HeaderIterator) × Heap Name) := do
  let heap ← iterator.destroy heap
  return (({ it := o.it }, { it := none }), heap)

/-- `operator*`. -/
def deref (names : HeaderNames Name) (iterator : HeaderIterator) (heap : Heap Name) :
    Except Failure (Bytes × HeaderVectorView) := do
  let h ← heap.key names iterator.it
  let view ← HeaderVectorView.new heap iterator.it false
  return (h, view)

/-- `operator==`. -/
def eq (iterator o : HeaderIterator) : Bool := o.it != iterator.it

/-- `operator!=`, which compares the pointers itself. -/
def ne (iterator o : HeaderIterator) : Bool := !(o.it == iterator.it)

end HeaderIterator

/-! `HeadersView` holds a message, of which only the header map matters here. -/

namespace HeadersView

/-- `begin`. -/
def iterBegin (heap : Heap Name) (headers : Option (HeaderMap Name)) :
    Except Failure (HeaderIterator × Heap Name) :=
  if headers.isNone then .ok ({ it := none }, heap)
  else do
    let (it, heap) ← heap.headerIterator headers
    HeaderIterator.new (some it) heap

/-- `end`. -/
def iterEnd : HeaderIterator := { it := none }

/-- `get_header`. -/
def getHeader [DecidableEq Name] (names : HeaderNames Name) (heap : Heap Name)
    (headers : Option (HeaderMap Name)) (header : Bytes) :
    Except Failure (Option HeaderVectorView × Heap Name) :=
  if header.isEmpty then .ok (none, heap)
  else do
    let (res, heap) ← heap.getHeader names headers (some header)
    match res with
    | none => return (none, heap)
    | some it =>
      let view ← HeaderVectorView.new heap (some it) true
      return (some view, heap)

end HeadersView

/-! What each function does to a heap on which its pointer is live. -/

section Lemmas

variable {heap : Heap Name} {pointer : Pointer}

/-- A view takes its size from the header the box stands on. -/
theorem HeaderVectorView.new_of_live {ctx : RustIterator Name} {entry : Entry Name}
    (live : heap[pointer]? = some (some ctx)) (stands : ctx.val = some entry) (own : Bool) :
    HeaderVectorView.new heap (some pointer) own =
      .ok ⟨own, some pointer, entry.2.1.length⟩ := by
  simp only [HeaderVectorView.new, Heap.valueCount_of_val (Heap.val_of_live live stands), bind,
    Except.bind]
  rfl

/-- Reading checks the index against the size first. -/
theorem HeaderVectorView.valueAt_of_live {shown : HeaderVectorView} {ctx : RustIterator Name}
    {entry : Entry Name} (held : shown.it = some pointer)
    (live : heap[pointer]? = some (some ctx)) (stands : ctx.val = some entry)
    (size : shown.size = entry.2.1.length) (index : Nat) :
    shown.valueAt heap index = .ok entry.2.1[index]? := by
  unfold HeaderVectorView.valueAt
  rw [size, held]
  by_cases bound : index < entry.2.1.length
  · rw [if_neg (Nat.not_le.mpr bound), List.getElem?_eq_getElem bound,
      Heap.valueAt_of_val (Heap.val_of_live live stands) bound]
    rfl
  · rw [if_pos (Nat.not_lt.mp bound), List.getElem?_eq_none (Nat.not_lt.mp bound)]

/-- Going on stands the iterator on the next header. -/
theorem HeaderIterator.advance_of_cons {entry : Entry Name} {rest : List (Entry Name)}
    {val : Option (Entry Name)}
    (live : heap[pointer]? = some (some ⟨some (entry :: rest), val, 1⟩)) :
    HeaderIterator.advance ⟨some pointer⟩ heap =
      .ok (⟨some pointer⟩, heap.set pointer (some ⟨some rest, some entry, 1⟩)) := by
  simp only [HeaderIterator.advance, Heap.next_of_live live rfl, bind, Except.bind,
    List.head?_cons, List.tail_cons, Option.isSome_some, ↓reduceIte]
  rfl

/-- After the last header the iterator is freed. -/
theorem HeaderIterator.advance_of_nil {val : Option (Entry Name)}
    (live : heap[pointer]? = some (some ⟨some [], val, 1⟩)) :
    HeaderIterator.advance ⟨some pointer⟩ heap = .ok (⟨none⟩, heap.set pointer none) := by
  have bound : pointer < heap.length := (List.getElem?_eq_some_iff.mp live).1
  have still : (heap.set pointer (some ⟨some [], none, 1⟩))[pointer]? =
      some (some ⟨some [], none, 1⟩) := List.getElem?_set_self bound
  simp only [HeaderIterator.advance, Heap.next_of_live live rfl, bind, Except.bind,
    List.head?_nil, List.tail_nil, Option.isSome_none, Bool.false_eq_true, ↓reduceIte,
    ne_eq, reduceCtorEq, not_false_eq_true, Heap.free_of_live still rfl, List.set_set]
  rfl

theorem HeaderIterator.deref_of_live {names : HeaderNames Name} {ctx : RustIterator Name}
    {entry : Entry Name} (live : heap[pointer]? = some (some ctx))
    (stands : ctx.val = some entry) :
    HeaderIterator.deref names ⟨some pointer⟩ heap =
      .ok (names.asRef entry.1, ⟨false, some pointer, entry.2.1.length⟩) := by
  simp only [HeaderIterator.deref, Heap.key_of_val (Heap.val_of_live live stands),
    HeaderVectorView.new_of_live live stands, bind, Except.bind]
  rfl

/-- Beginning stands an iterator on the first header. Without one there is nothing to free
afterwards. -/
theorem HeadersView.iterBegin_eq (heap : Heap Name) (headers : Option (HeaderMap Name)) :
    HeadersView.iterBegin heap headers =
      match headers.map AList.entries with
      | none => .ok (⟨none⟩, heap)
      | some [] => .ok (⟨none⟩, heap ++ [none])
      | some (entry :: rest) =>
          .ok (⟨some heap.length⟩, heap ++ [some ⟨some rest, some entry, 1⟩]) := by
  cases headers with
  | none => rfl
  | some map =>
      have live : (heap ++ [some ⟨some map.entries, none, 1⟩])[heap.length]? =
          some (some ⟨some map.entries, none, 1⟩) := List.getElem?_concat_length
      simp only [HeadersView.iterBegin, Option.isNone_some, Bool.false_eq_true, ↓reduceIte,
        Heap.headerIterator, Heap.intoRaw, HeaderIterator.new, bind, Except.bind,
        Option.map_some]
      cases entries : map.entries with
      | nil =>
          rw [entries] at live
          rw [HeaderIterator.advance_of_nil live, Heap.set_length]
      | cons entry rest =>
          rw [entries] at live
          rw [HeaderIterator.advance_of_cons live, Heap.set_length]

/-- The values that a lookup finds. -/
def HeadersView.lookup [DecidableEq Name] (names : HeaderNames Name)
    (headers : Option (HeaderMap Name)) (header : Bytes) : Option HeaderValue :=
  if header.isEmpty then none
  else headers.bind fun map => (names.fromStr header).bind map.lookup

/-- A lookup makes a view of its own for what it finds. -/
theorem HeadersView.getHeader_eq [DecidableEq Name] (names : HeaderNames Name)
    (heap : Heap Name) (headers : Option (HeaderMap Name)) (header : Bytes) :
    HeadersView.getHeader names heap headers header =
      match HeadersView.lookup names headers header with
      | none => .ok (none, heap)
      | some value => .ok (some ⟨true, some heap.length, value.1.length⟩,
          heap ++ [some ⟨none, some ⟨names.dummy, value⟩, 1⟩]) := by
  unfold HeadersView.getHeader HeadersView.lookup
  by_cases empty : header.isEmpty
  · simp only [if_pos empty]
  · simp only [if_neg empty]
    cases headers with
    | none => rfl
    | some map =>
      cases parsed : names.fromStr header with
      | none => simp only [Heap.getHeader, parsed, bind, Except.bind, Option.bind_some,
          Option.bind_none]; rfl
      | some h =>
        cases found : map.lookup h with
        | none =>
            simp only [Heap.getHeader, parsed, found, bind, Except.bind, Option.bind_some]
            rfl
        | some value =>
          have live : (heap ++ [some ⟨none, some ⟨names.dummy, value⟩, 1⟩])[heap.length]? =
              some (some ⟨none, some ⟨names.dummy, value⟩, 1⟩) := List.getElem?_concat_length
          simp only [Heap.getHeader, parsed, found, bind, Except.bind, Option.bind_some,
            Heap.intoRaw, HeaderVectorView.new_of_live live rfl]
          rfl

end Lemmas

end AsyncNats.Headers
