import AsyncNats.Headers.Runs

/-! # Every header iterator has one owner

A C++ object owns the iterator it will free: a `HeaderIterator` the one it holds, a view the
one that a lookup made for it. The invariant counts owners: a live iterator has one,
any other pointer none. A view that was got from an iterator owns nothing; as long as it may
be read, the box it reads is one with a cursor, so no owning view can free it.

The move assignment of a view leaves the pointer in the view that was moved from, so an
iterator that the source owns has two owners afterwards.
-/

namespace AsyncNats.Headers

open Sync Transition

variable {Name : Type}

/-- The pointer that an object will free. -/
def Object.owned : Object → List Pointer
  | .view shown _ => if shown.owns then shown.it.toList else []
  | .iterator cursor => cursor.it.toList

def State.owners (state : State Name) : List Pointer :=
  Table.gather Object.owned state.objects

/-- The number of live iterators behind a pointer. -/
def Heap.refs (heap : Heap Name) (pointer : Pointer) : Nat :=
  match heap[pointer]? with
  | some (some _) => 1
  | _ => 0

namespace Heap

variable {heap : Heap Name} {pointer : Pointer} {ctx : RustIterator Name}

theorem refs_of_live (live : heap[pointer]? = some (some ctx)) : heap.refs pointer = 1 := by
  simp only [refs, live]

theorem refs_eq_one_iff : heap.refs pointer = 1 ↔ ∃ ctx, heap[pointer]? = some (some ctx) := by
  constructor
  · intro one
    unfold refs at one
    split at one
    · next ctx live => exact ⟨ctx, live⟩
    · cases one
  · rintro ⟨ctx, live⟩
    exact refs_of_live live

theorem refs_le_one : heap.refs pointer ≤ 1 := by
  unfold refs
  split
  · exact Nat.le_refl 1
  · exact Nat.zero_le 1

theorem count_of_ne {listed : Bool} {pointer other : Pointer} (distinct : pointer ≠ other) :
    (if listed then [pointer] else []).count other = 0 := by
  apply List.count_eq_zero_of_not_mem
  cases listed with
  | false => exact List.not_mem_nil
  | true => exact fun member => distinct (List.mem_singleton.mp member).symm

/-- A new box is one more, unless it was freed at once. -/
theorem refs_append (heap : Heap Name) (slot : Option (RustIterator Name)) (pointer : Pointer) :
    (if slot.isSome then [heap.length] else []).count pointer + heap.refs pointer =
      refs (heap ++ [slot]) pointer := by
  rcases Nat.lt_trichotomy pointer heap.length with earlier | same | later
  · rw [count_of_ne (Nat.ne_of_gt earlier), Nat.zero_add, refs, refs,
      List.getElem?_append_left earlier]
  · subst same
    rw [refs, refs, List.getElem?_concat_length, List.getElem?_eq_none (Nat.le_refl _)]
    cases slot with
    | none => rfl
    | some ctx => exact List.count_singleton_self
  · have absent : heap[pointer]? = none := List.getElem?_eq_none (Nat.le_of_lt later)
    have still : (heap ++ [slot])[pointer]? = none := by
      apply List.getElem?_eq_none
      rw [List.length_append, List.length_singleton]
      exact later
    rw [count_of_ne (Nat.ne_of_lt later), Nat.zero_add, refs, refs, absent, still]

/-- A live box is one less after it was freed. Otherwise writing to it changes no number. -/
theorem refs_set (live : heap[pointer]? = some (some ctx)) (slot : Option (RustIterator Name))
    (other : Pointer) :
    (if slot.isNone then [pointer] else []).count other + refs (heap.set pointer slot) other =
      heap.refs other := by
  have bound : pointer < heap.length := (List.getElem?_eq_some_iff.mp live).1
  by_cases same : pointer = other
  · subst same
    rw [refs, refs, live, List.getElem?_set_self bound]
    cases slot with
    | none => exact congrArg (· + 0) List.count_singleton_self
    | some after => rfl
  · rw [count_of_ne same, Nat.zero_add, refs, refs, List.getElem?_set_ne same]

/-- Freeing what an object owned. -/
def release (heap : Heap Name) : List Pointer → Heap Name
  | [] => heap
  | pointer :: rest => release (heap.set pointer none) rest

end Heap

/-- The pointer that an iterator gives up when it is destroyed. -/
def Object.given : Object → Option Pointer
  | .view _ _ => none
  | .iterator cursor => cursor.it

/-- What a move assignment leaves of the object it takes from. -/
def Object.assigned : Object → Object
  | .view shown stamp => .view shown stamp
  | .iterator _ => .iterator ⟨none⟩

/-- What an object relies on. An iterator stands on a header; a view that is its own, or whose
iterator is as it was, has the size of the header its box stands on. Only the boxes of iterators
have a cursor. -/
def Object.Ok (heap : Heap Name) (advances : Pointer → Nat) : Object → Prop
  | .iterator cursor => ∀ pointer ∈ cursor.it, ∃ rest entry,
      heap[pointer]? = some (some ⟨some rest, some entry, 1⟩)
  | .view shown stamp => ∀ pointer ∈ shown.it,
      (shown.owns = true → ∃ entry,
        heap[pointer]? = some (some ⟨none, some entry, 1⟩) ∧ shown.size = entry.2.1.length) ∧
      (shown.owns = false → stamp ≤ advances pointer ∧
        (stamp = advances pointer → ∃ rest entry,
          heap[pointer]? = some (some ⟨some rest, some entry, 1⟩) ∧
            shown.size = entry.2.1.length))

namespace Object.Ok

variable {heap : Heap Name} {advances : Pointer → Nat} {row other : Object}

/-- New boxes do not matter to the old objects. -/
theorem grow (ok : row.Ok heap advances) (more : Heap Name) : row.Ok (heap ++ more) advances := by
  have kept : ∀ {pointer : Pointer} {ctx : RustIterator Name},
      heap[pointer]? = some (some ctx) → (heap ++ more)[pointer]? = some (some ctx) := by
    intro pointer ctx live
    rw [List.getElem?_append_left (List.getElem?_eq_some_iff.mp live).1]
    exact live
  cases row with
  | iterator cursor =>
      intro pointer held
      obtain ⟨rest, entry, live⟩ := ok pointer held
      exact ⟨rest, entry, kept live⟩
  | view shown stamp =>
      intro pointer held
      obtain ⟨owning, borrowing⟩ := ok pointer held
      refine ⟨fun owns => ?_, fun borrows => ?_⟩
      · obtain ⟨entry, live, size⟩ := owning owns
        exact ⟨entry, kept live, size⟩
      · refine ⟨(borrowing borrows).1, fun current => ?_⟩
        obtain ⟨rest, entry, live, size⟩ := (borrowing borrows).2 current
        exact ⟨rest, entry, kept live, size⟩

/-- A box may change when its owner changes it, if the views that were got from it are not read
any more: it has no cursor, so that there are none, or its iterator went on. -/
theorem set (ok : row.Ok heap advances) {pointer : Pointer} {after : Pointer → Nat}
    (apart : pointer ∉ row.owned) (slot : Option (RustIterator Name))
    (elsewhere : ∀ other, other ≠ pointer → after other = advances other)
    (later : advances pointer ≤ after pointer)
    (unread : (∃ entry, heap[pointer]? = some (some ⟨none, some entry, 1⟩)) ∨
      advances pointer < after pointer) : row.Ok (heap.set pointer slot) after := by
  have kept : ∀ {other : Pointer} {ctx : RustIterator Name}, other ≠ pointer →
      heap[other]? = some (some ctx) → (heap.set pointer slot)[other]? = some (some ctx) :=
    fun distinct live => (List.getElem?_set_ne (Ne.symm distinct)).trans live
  cases row with
  | iterator cursor =>
      intro other held
      have distinct : other ≠ pointer := by
        rintro rfl
        exact apart (Option.mem_toList.mpr held)
      obtain ⟨rest, entry, live⟩ := ok other held
      exact ⟨rest, entry, kept distinct live⟩
  | view shown stamp =>
      intro other held
      obtain ⟨owning, borrowing⟩ := ok other held
      refine ⟨fun owns => ?_, fun borrows => ?_⟩
      · have distinct : other ≠ pointer := by
          rintro rfl
          apply apart
          simp only [Object.owned, owns, ↓reduceIte, Option.mem_toList.mpr held]
        obtain ⟨entry, live, size⟩ := owning owns
        exact ⟨entry, kept distinct live, size⟩
      · obtain ⟨before, reads⟩ := borrowing borrows
        by_cases same : other = pointer
        · subst same
          refine ⟨Nat.le_trans before later, fun current => ?_⟩
          rcases unread with ⟨entry, parked⟩ | wentOn
          · obtain ⟨rest, entry, live, _⟩ := reads (by omega)
            cases parked.symm.trans live
          · omega
        · rw [elsewhere other same]
          refine ⟨before, fun current => ?_⟩
          obtain ⟨rest, entry, live, size⟩ := reads current
          exact ⟨rest, entry, kept same live, size⟩

/-- The views that were got from an iterator are not read after it went on. -/
theorem set_cursor (ok : row.Ok heap advances) {pointer : Pointer} (apart : pointer ∉ row.owned)
    (slot : Option (RustIterator Name)) :
    row.Ok (heap.set pointer slot) (bump advances (some pointer)) := by
  have wentOn : advances pointer < bump advances (some pointer) pointer := by
    rw [bump, Function.update_self]
    exact Nat.lt_succ_self _
  exact ok.set apart slot (fun other distinct => Function.update_of_ne distinct _ _)
    (Nat.le_of_lt wentOn) (.inr wentOn)

/-- An object owns nothing, the box of a lookup if it is a view, or one with a cursor if it is an
iterator. -/
theorem owned_cases (ok : row.Ok heap advances) :
    (row.owned = [] ∧ row.given = none) ∨
      (∃ pointer entry, row.owned = [pointer] ∧ row.given = none ∧
        heap[pointer]? = some (some ⟨none, some entry, 1⟩)) ∨
      ∃ pointer rest entry, row.owned = [pointer] ∧ row.given = some pointer ∧
        heap[pointer]? = some (some ⟨some rest, some entry, 1⟩) := by
  rcases row with ⟨⟨owns, it, size⟩, stamp⟩ | ⟨⟨it⟩⟩
  · cases owns with
    | false => exact .inl ⟨rfl, rfl⟩
    | true =>
      cases it with
      | none => exact .inl ⟨rfl, rfl⟩
      | some pointer =>
        obtain ⟨entry, parked, _⟩ := (ok pointer rfl).1 rfl
        exact .inr (.inl ⟨pointer, entry, rfl, rfl, parked⟩)
  · cases it with
    | none => exact .inl ⟨rfl, rfl⟩
    | some pointer =>
      obtain ⟨rest, entry, live⟩ := ok pointer rfl
      exact .inr (.inr ⟨pointer, rest, entry, rfl, rfl, live⟩)

/-- An object frees what it owns, and the others do not notice. -/
theorem release (ok : row.Ok heap advances) (others : other.Ok heap advances)
    (apart : ∀ pointer ∈ row.owned, pointer ∉ other.owned) :
    other.Ok (heap.release row.owned) (bump advances row.given) := by
  rcases ok.owned_cases with ⟨owned, given⟩ | ⟨pointer, entry, owned, given, parked⟩ |
    ⟨pointer, rest, entry, owned, given, live⟩
  · rw [owned, given]
    exact others
  · rw [owned] at apart
    rw [owned, given]
    exact others.set (apart pointer List.mem_cons_self) none (fun _ _ => rfl) (Nat.le_refl _)
      (.inl ⟨entry, parked⟩)
  · rw [owned] at apart
    rw [owned, given]
    exact others.set_cursor (apart pointer List.mem_cons_self) none

/-- Each pointer that an object frees is one less. -/
theorem refs_release (ok : row.Ok heap advances) (pointer : Pointer) :
    row.owned.count pointer + (heap.release row.owned).refs pointer = heap.refs pointer := by
  rcases ok.owned_cases with ⟨owned, _⟩ | ⟨held, entry, owned, _, parked⟩ |
    ⟨held, rest, entry, owned, _, live⟩
  · rw [owned]
    exact Nat.zero_add _
  · rw [owned]
    exact Heap.refs_set parked none pointer
  · rw [owned]
    exact Heap.refs_set live none pointer

/-- A view that may be read stands on a header whose size it has. -/
theorem reads {state : State Name} {shown : HeaderVectorView} {stamp : Nat} {pointer : Pointer}
    (ok : (Object.view shown stamp).Ok state.heap state.advances) (held : shown.it = some pointer)
    (may : state.mayRead shown stamp = true) :
    ∃ ctx entry, state.heap[pointer]? = some (some ctx) ∧ ctx.val = some entry ∧
      shown.size = entry.2.1.length := by
  obtain ⟨owning, borrowing⟩ := ok pointer held
  cases owns : shown.owns with
  | true =>
      obtain ⟨entry, live, size⟩ := owning owns
      exact ⟨_, entry, live, rfl, size⟩
  | false =>
      rw [State.mayRead, owns, Bool.false_or, held, Option.all_some, decide_eq_true_eq] at may
      obtain ⟨rest, entry, live, size⟩ := (borrowing owns).2 may
      exact ⟨_, entry, live, rfl, size⟩

end Object.Ok

/-- The destructor of a view frees what the view owns. -/
theorem HeaderVectorView.destroy_of_ok {heap : Heap Name} {advances : Pointer → Nat}
    {shown : HeaderVectorView} {stamp : Nat} (ok : (Object.view shown stamp).Ok heap advances) :
    shown.destroy heap = .ok (heap.release (Object.view shown stamp).owned) := by
  obtain ⟨owns, it, size⟩ := shown
  cases owns with
  | false => exact if_neg fun both => Bool.false_ne_true both.1
  | true =>
    cases it with
    | none => exact if_neg fun both => both.2 rfl
    | some pointer =>
      obtain ⟨entry, parked, _⟩ := (ok pointer rfl).1 rfl
      exact (if_pos ⟨rfl, Option.some_ne_none _⟩).trans (Heap.free_of_live parked rfl)

/-- The destructor of an iterator frees what the iterator holds. -/
theorem HeaderIterator.destroy_of_ok {heap : Heap Name} {advances : Pointer → Nat}
    {cursor : HeaderIterator} (ok : (Object.iterator cursor).Ok heap advances) :
    cursor.destroy heap = .ok (heap.release (Object.iterator cursor).owned) := by
  obtain ⟨it⟩ := cursor
  cases it with
  | none => exact if_neg fun held => held rfl
  | some pointer =>
    obtain ⟨rest, entry, live⟩ := ok pointer rfl
    exact (if_pos (Option.some_ne_none _)).trans (Heap.free_of_live live rfl)

namespace State

variable {state next : State Name} {object : ObjectId}

/-- A lookup makes nothing, or a view with a box of its own. -/
theorem getHeader_cases [DecidableEq Name] {names : HeaderNames Name}
    {headers : Option (HeaderMap Name)} {header : Bytes}
    (taken : state.getHeader names headers header object = some next) :
    state.objects.lookup object = none ∧ (next = state ∨ ∃ value : HeaderValue,
      next = { state with
        heap := state.heap ++ [some ⟨none, some ⟨names.dummy, value⟩, 1⟩]
        objects := state.objects.insert object
          (.view ⟨true, some state.heap.length, value.1.length⟩ 0) }) := by
  unfold State.getHeader at taken
  rw [HeadersView.getHeader_eq] at taken
  split at taken
  · next fresh =>
      cases found : HeadersView.lookup names headers header with
      | none =>
          rw [found] at taken
          exact ⟨fresh, .inl (Option.some.inj taken).symm⟩
      | some value =>
          rw [found] at taken
          exact ⟨fresh, .inr ⟨value, (Option.some.inj taken).symm⟩⟩
  · cases taken

/-- A new iterator is at the end at once, or stands on the first header. -/
theorem iterBegin_cases {headers : Option (HeaderMap Name)}
    (taken : state.iterBegin headers object = some next) :
    state.objects.lookup object = none ∧
      ((∃ slots : Heap Name, (slots = [] ∨ slots = [none]) ∧
        next = { state with
          heap := state.heap ++ slots
          objects := state.objects.insert object (.iterator ⟨none⟩) }) ∨
      ∃ rest entry, next = { state with
        heap := state.heap ++ [some ⟨some rest, some entry, 1⟩]
        objects := state.objects.insert object (.iterator ⟨some state.heap.length⟩) }) := by
  unfold State.iterBegin at taken
  rw [HeadersView.iterBegin_eq] at taken
  split at taken
  · next fresh =>
      refine ⟨fresh, ?_⟩
      split at taken
      · refine .inl ⟨[], .inl rfl, ?_⟩
        rw [List.append_nil]
        exact (Option.some.inj taken).symm
      · exact .inl ⟨[none], .inr rfl, (Option.some.inj taken).symm⟩
      · exact .inr ⟨_, _, (Option.some.inj taken).symm⟩
  · cases taken

end State

/-- Every live iterator has one owner, every other pointer none, and the objects can rely on
what they hold. -/
structure Sound (state : State Name) : Prop where
  counted : ∀ pointer, state.owners.count pointer = state.heap.refs pointer
  rows : ∀ object row, state.objects.lookup object = some row →
    row.Ok state.heap state.advances
  failure : state.failure ≠ some .dangling

namespace Sound

variable {state : State Name} {heap : Heap Name} {advances : Pointer → Nat}
  {object other : ObjectId} {row added : Object}

/-- No two objects own the same pointer. -/
theorem apart (sound : Sound state) (found : state.objects.lookup object = some row)
    (also : state.objects.lookup other = some added) (distinct : other ≠ object) :
    ∀ pointer ∈ row.owned, pointer ∉ added.owned := by
  intro pointer owned again
  have split := (Table.gather_perm_of_lookup Object.owned found).count_eq pointer
  rw [List.count_append] at split
  have here : 0 < row.owned.count pointer := List.count_pos_iff.mpr owned
  have there : 0 < (Table.gather Object.owned (state.objects.erase object)).count pointer := by
    apply List.count_pos_iff.mpr
    exact (Table.mem_gather _).mpr
      ⟨other, added, (AList.lookup_erase_ne distinct).trans also, again⟩
  have bound : state.heap.refs pointer ≤ 1 := Heap.refs_le_one
  have counted := sound.counted pointer
  unfold State.owners at counted
  omega

/-- One object is made or replaced. -/
theorem insert (sound : Sound state)
    (counts : ∀ pointer, row.owned.count pointer + state.heap.refs pointer =
      (Table.holdsAt Object.owned state.objects object).count pointer + heap.refs pointer)
    (ok : row.Ok heap advances)
    (others : ∀ other row, other ≠ object → state.objects.lookup other = some row →
      row.Ok heap advances) :
    Sound { state with heap, objects := state.objects.insert object row, advances } where
  counted := fun pointer => by
    have inserted := Table.count_gather_insert Object.owned state.objects object pointer row
    have counted := sound.counted pointer
    have counts := counts pointer
    unfold State.owners at counted ⊢
    change (Table.gather Object.owned (state.objects.insert object row)).count pointer =
      heap.refs pointer
    omega
  rows := fun other found same => by
    rcases Table.lookup_of_insert same with ⟨rfl, rfl⟩ | ⟨distinct, old⟩
    · exact ok
    · exact others other found distinct old
  failure := sound.failure

/-- Two objects are replaced, or one is replaced and one is made. -/
theorem insert_insert (sound : Sound state) (distinct : other ≠ object)
    (counts : ∀ pointer,
      added.owned.count pointer + row.owned.count pointer + state.heap.refs pointer =
        (Table.holdsAt Object.owned state.objects other).count pointer +
          (Table.holdsAt Object.owned state.objects object).count pointer + heap.refs pointer)
    (ok : row.Ok heap advances) (also : added.Ok heap advances)
    (others : ∀ third row, third ≠ object → third ≠ other →
      state.objects.lookup third = some row → row.Ok heap advances) :
    Sound { state with
      heap, objects := (state.objects.insert object row).insert other added, advances } where
  counted := fun pointer => by
    have inserted := Table.count_gather_insert_insert Object.owned state.objects object pointer
      distinct row added
    have counted := sound.counted pointer
    have counts := counts pointer
    unfold State.owners at counted ⊢
    change (Table.gather Object.owned
      ((state.objects.insert object row).insert other added)).count pointer = heap.refs pointer
    omega
  rows := fun third found same => by
    rcases Table.lookup_of_insert same with ⟨rfl, rfl⟩ | ⟨notOther, old⟩
    · exact also
    · rcases Table.lookup_of_insert old with ⟨rfl, rfl⟩ | ⟨notObject, old⟩
      · exact ok
      · exact others third found notObject notOther old
  failure := sound.failure

/-- An object is destroyed. -/
theorem erase (sound : Sound state) (found : state.objects.lookup object = some row) :
    Sound { state with
      heap := state.heap.release row.owned
      objects := state.objects.erase object
      advances := bump state.advances row.given } where
  counted := fun pointer => by
    have erased := Table.count_gather_erase Object.owned state.objects object pointer
    rw [Table.holdsAt_of_lookup _ found] at erased
    have counted := sound.counted pointer
    have released := (sound.rows object row found).refs_release pointer
    unfold State.owners at counted ⊢
    change (Table.gather Object.owned (state.objects.erase object)).count pointer =
      (state.heap.release row.owned).refs pointer
    omega
  rows := fun other added same => by
    obtain ⟨distinct, old⟩ := Table.lookup_of_erase same
    exact (sound.rows object row found).release (sound.rows other added old)
      (sound.apart found old distinct)
  failure := sound.failure

/-- A new object gets a new box, or none. -/
theorem make (sound : Sound state) (fresh : state.objects.lookup object = none)
    (slots : Heap Name) (counts : ∀ pointer,
      row.owned.count pointer + state.heap.refs pointer = Heap.refs (state.heap ++ slots) pointer)
    (ok : row.Ok (state.heap ++ slots) state.advances) :
    Sound { state with
      heap := state.heap ++ slots
      objects := state.objects.insert object row } := by
  refine sound.insert (fun pointer => ?_) ok fun other row _ old =>
    (sound.rows other row old).grow slots
  rw [Table.holdsAt_of_lookup_none _ fresh, List.count_nil, Nat.zero_add, counts pointer]

section Calls

variable {next : State Name}

theorem getHeader [DecidableEq Name] {names : HeaderNames Name}
    {headers : Option (HeaderMap Name)} {header : Bytes} (sound : Sound state)
    (taken : state.getHeader names headers header object = some next) : Sound next := by
  obtain ⟨fresh, rfl | ⟨value, rfl⟩⟩ := State.getHeader_cases taken
  · exact sound
  · refine sound.make fresh _ (fun pointer => ?_) fun pointer held => ?_
    · exact Heap.refs_append state.heap (some _) pointer
    · cases held
      refine ⟨fun _ => ⟨_, List.getElem?_concat_length, rfl⟩, fun borrows => ?_⟩
      cases borrows

theorem iterBegin {headers : Option (HeaderMap Name)} (sound : Sound state)
    (taken : state.iterBegin headers object = some next) : Sound next := by
  obtain ⟨fresh, ⟨slots, empty, rfl⟩ | ⟨rest, entry, rfl⟩⟩ := State.iterBegin_cases taken
  · refine sound.make fresh _ (fun pointer => ?_) fun _ held => by cases held
    rcases empty with rfl | rfl
    · rw [List.append_nil]
      exact Nat.zero_add _
    · exact Heap.refs_append state.heap none pointer
  · refine sound.make fresh _ (fun pointer => ?_) fun pointer held => ?_
    · exact Heap.refs_append state.heap (some _) pointer
    · cases held
      exact ⟨_, _, List.getElem?_concat_length⟩

/-- The view of an iterator stands where the iterator does. -/
theorem deref_cases {names : HeaderNames Name} {source : ObjectId} (sound : Sound state)
    (taken : state.deref names source object = some next) :
    ∃ pointer rest entry, state.objects.lookup object = none ∧
      state.heap[pointer]? = some (some ⟨some rest, some entry, 1⟩) ∧
      next = { state with
        objects := state.objects.insert object
          (.view ⟨false, some pointer, entry.2.1.length⟩ (state.advances pointer)) } := by
  unfold State.deref at taken
  split at taken
  · next pointer fresh found =>
      obtain ⟨rest, entry, live⟩ := sound.rows source _ found pointer rfl
      rw [HeaderIterator.deref_of_live live rfl] at taken
      exact ⟨pointer, rest, entry, fresh, live, (Option.some.inj taken).symm⟩
  · cases taken

theorem deref {names : HeaderNames Name} {source : ObjectId} (sound : Sound state)
    (taken : state.deref names source object = some next) : Sound next := by
  obtain ⟨pointer, rest, entry, fresh, live, rfl⟩ := sound.deref_cases taken
  refine sound.insert (fun other => ?_) (fun other held => ?_) fun other row _ old =>
    sound.rows other row old
  · rw [Table.holdsAt_of_lookup_none _ fresh]
    rfl
  · cases held
    refine ⟨fun owns => absurd owns Bool.false_ne_true, fun _ => ⟨Nat.le_refl _, fun _ => ?_⟩⟩
    exact ⟨rest, entry, live, rfl⟩

/-- An iterator goes to the next header, or is freed after the last one. -/
theorem advance_cases (sound : Sound state) (taken : state.advance object = some next) :
    ∃ pointer rest entry, state.objects.lookup object = some (.iterator ⟨some pointer⟩) ∧
      state.heap[pointer]? = some (some ⟨some rest, some entry, 1⟩) ∧
      ((next = { state with
          heap := state.heap.set pointer none
          objects := state.objects.insert object (.iterator ⟨none⟩)
          advances := bump state.advances (some pointer) }) ∨
        ∃ first more, next = { state with
          heap := state.heap.set pointer (some ⟨some more, some first, 1⟩)
          objects := state.objects.insert object (.iterator ⟨some pointer⟩)
          advances := bump state.advances (some pointer) }) := by
  unfold State.advance at taken
  split at taken
  · next pointer found =>
      obtain ⟨rest, entry, live⟩ := sound.rows object _ found pointer rfl
      refine ⟨pointer, rest, entry, found, live, ?_⟩
      cases rest with
      | nil =>
          rw [HeaderIterator.advance_of_nil live] at taken
          exact .inl (Option.some.inj taken).symm
      | cons first more =>
          rw [HeaderIterator.advance_of_cons live] at taken
          exact .inr ⟨first, more, (Option.some.inj taken).symm⟩
  · cases taken

theorem advance (sound : Sound state) (taken : state.advance object = some next) :
    Sound next := by
  obtain ⟨pointer, rest, entry, found, live, after⟩ := sound.advance_cases taken
  have holds := Table.holdsAt_of_lookup Object.owned found
  have bound : pointer < state.heap.length := (List.getElem?_eq_some_iff.mp live).1
  have others : ∀ (slot : Option (RustIterator Name)) (other : ObjectId) (row : Object),
      other ≠ object → state.objects.lookup other = some row →
        row.Ok (state.heap.set pointer slot) (bump state.advances (some pointer)) :=
    fun slot other row distinct old => (sound.rows other row old).set_cursor
      (sound.apart found old distinct pointer List.mem_cons_self) slot
  rcases after with rfl | ⟨first, more, rfl⟩
  · refine sound.insert (fun other => ?_) (fun _ held => by cases held) (others none)
    rw [holds]
    exact (Nat.zero_add _).trans (Heap.refs_set live none other).symm
  · refine sound.insert (fun other => ?_) (fun other held => ?_) (others _)
    · rw [holds, ← Heap.refs_set live (some ⟨some more, some first, 1⟩) other]
      exact congrArg _ (Nat.zero_add _)
    · cases held
      exact ⟨more, first, List.getElem?_set_self bound⟩

end Calls

/-- Reading ends the run only on a view that was moved from. -/
theorem read {index : Nat} {next : State Name} (sound : Sound state)
    (taken : state.read object index = some next) : Sound next := by
  unfold State.read at taken
  split at taken
  · next shown stamp found =>
      split at taken
      · next may =>
          cases taken
          cases held : shown.it with
          | some pointer =>
              obtain ⟨ctx, entry, live, stands, size⟩ := (sound.rows object _ found).reads held may
              rw [HeaderVectorView.valueAt_of_live held live stands size]
              exact sound
          | none =>
              unfold HeaderVectorView.valueAt
              by_cases bound : shown.size ≤ index
              · rw [if_pos bound]
                exact sound
              · rw [if_neg bound, held]
                exact ⟨sound.counted, sound.rows, fun same => by cases same⟩
      · cases taken
  · cases taken

/-- Nothing changes hands but what the other object held. -/
theorem moveConstruct {source : ObjectId} {next : State Name} (sound : Sound state)
    (taken : state.moveConstruct source object = some next) : Sound next := by
  have moved : ∀ {old left : Object}, state.objects.lookup object = none →
      state.objects.lookup source = some old → left.owned = [] →
        left.Ok state.heap state.advances → Sound { state with
          objects := (state.objects.insert object old).insert source left } := by
    intro old left fresh found empty ok
    have distinct : source ≠ object := by
      rintro rfl
      rw [fresh] at found
      cases found
    refine sound.insert_insert distinct (fun pointer => ?_) (sound.rows source old found) ok
      fun third row _ _ there => sound.rows third row there
    rw [Table.holdsAt_of_lookup _ found, Table.holdsAt_of_lookup_none _ fresh, empty,
      List.count_nil]
    omega
  unfold State.moveConstruct at taken
  split at taken
  · next o stamp fresh found =>
      cases taken
      refine moved fresh found ?_ fun _ held => by cases held
      exact ite_self []
  · next o fresh found =>
      cases taken
      exact moved fresh found rfl fun _ held => by cases held
  · cases taken

/-- An assignment frees what the target owned. What is left of the source may own nothing. -/
theorem assign {target source : ObjectId} {old moved left : Object} (sound : Sound state)
    (distinct : source ≠ target) (found : state.objects.lookup target = some old)
    (given : state.objects.lookup source = some moved) (ok : left.Ok state.heap state.advances)
    (keeps : ∀ pointer, left.owned.count pointer = 0) :
    Sound { state with
      heap := state.heap.release old.owned
      objects := (state.objects.insert target moved).insert source left
      advances := bump state.advances old.given } := by
  have row := sound.rows target old found
  refine sound.insert_insert distinct (fun pointer => ?_) ?_ ?_ ?_
  · have released := row.refs_release pointer
    rw [Table.holdsAt_of_lookup _ found, Table.holdsAt_of_lookup _ given, keeps pointer]
    omega
  · exact row.release (sound.rows source moved given) (sound.apart found given distinct)
  · refine row.release ok fun pointer _ owned => ?_
    exact absurd (keeps pointer) (Nat.ne_of_gt (List.count_pos_iff.mpr owned))
  · intro third added notTarget _ there
    exact row.release (sound.rows third added there) (sound.apart found there notTarget)

/-- What a move assignment between two objects comes to. -/
theorem moveAssign_cases {target source : ObjectId} {next : State Name} (sound : Sound state)
    (taken : state.moveAssign target source = some next) :
    (source = target ∧ next = state) ∨ (source ≠ target ∧ ∃ old moved,
      state.objects.lookup target = some old ∧ state.objects.lookup source = some moved ∧
      next = { state with
        heap := state.heap.release old.owned
        objects := (state.objects.insert target moved).insert source moved.assigned
        advances := bump state.advances old.given }) := by
  unfold State.moveAssign at taken
  split at taken
  · next shown before o stamp found given =>
      split at taken
      · next same =>
          cases taken
          exact .inl ⟨same.symm, rfl⟩
      · next apart =>
          cases taken
          refine .inr ⟨Ne.symm apart, .view shown before, .view o stamp, found, given, ?_⟩
          rw [HeaderVectorView.moveAssign,
            HeaderVectorView.destroy_of_ok (sound.rows target _ found)]
          rfl
  · next cursor o found given =>
      split at taken
      · next same =>
          cases taken
          exact .inl ⟨same.symm, rfl⟩
      · next apart =>
          cases taken
          refine .inr ⟨Ne.symm apart, .iterator cursor, .iterator o, found, given, ?_⟩
          rw [HeaderIterator.moveAssign,
            HeaderIterator.destroy_of_ok (sound.rows target _ found)]
          rfl
  · cases taken

/-- A destructor frees what the object owns. -/
theorem destroy_cases {next : State Name} (sound : Sound state)
    (taken : state.destroy object = some next) :
    ∃ row, state.objects.lookup object = some row ∧
      next = { state with
        heap := state.heap.release row.owned
        objects := state.objects.erase object
        advances := bump state.advances row.given } := by
  unfold State.destroy at taken
  split at taken
  · next shown stamp found =>
      rw [HeaderVectorView.destroy_of_ok (sound.rows object _ found)] at taken
      exact ⟨_, found, (Option.some.inj taken).symm⟩
  · next cursor found =>
      rw [HeaderIterator.destroy_of_ok (sound.rows object _ found)] at taken
      exact ⟨_, found, (Option.some.inj taken).symm⟩
  · cases taken

theorem destroy {next : State Name} (sound : Sound state)
    (taken : state.destroy object = some next) : Sound next := by
  obtain ⟨row, found, rfl⟩ := sound.destroy_cases taken
  exact sound.erase found

end Sound

/-- A move assignment from another view is from one that owns no iterator. -/
def AssignsUnowned (state : State Name) (event : Event) : Prop :=
  ∀ target source shown stamp, event = .moveAssign target source → source ≠ target →
    state.objects.lookup source = some (.view shown stamp) → shown.owns = true → shown.it = none

namespace Sound

variable {state next : State Name} {target source : ObjectId}

theorem moveAssign (sound : Sound state)
    (allowed : AssignsUnowned state (.moveAssign target source))
    (taken : state.moveAssign target source = some next) : Sound next := by
  rcases sound.moveAssign_cases taken with
    ⟨_, rfl⟩ | ⟨distinct, old, moved, found, given, rfl⟩
  · exact sound
  · cases moved with
    | view shown stamp =>
        refine sound.assign distinct found given (sound.rows source _ given) fun pointer => ?_
        simp only [Object.assigned, Object.owned]
        split
        · next owns =>
            rw [allowed target source shown stamp rfl distinct given owns]
            rfl
        · rfl
    | iterator cursor =>
        exact sound.assign distinct found given (fun _ held => by cases held) fun _ => rfl

/-- After a move assignment from a view that owns its iterator, the iterator has two
owners. -/
theorem moveAssign_of_owned (sound : Sound state) {shown : HeaderVectorView} {stamp : Nat}
    {pointer : Pointer} (distinct : source ≠ target)
    (given : state.objects.lookup source = some (.view shown stamp)) (owns : shown.owns = true)
    (held : shown.it = some pointer) (taken : state.moveAssign target source = some next) :
    1 < next.owners.count pointer := by
  rcases sound.moveAssign_cases taken with
    ⟨same, _⟩ | ⟨_, old, moved, found, again, rfl⟩
  · exact absurd same distinct
  · cases given.symm.trans again
    have owned : (Object.view shown stamp).owned.count pointer = 1 := by
      simp only [Object.owned, owns, ↓reduceIte, held, Option.toList_some,
        List.count_singleton_self]
    have others := sound.apart found given distinct
    have apart : old.owned.count pointer = 0 := by
      apply List.count_eq_zero.mpr
      intro both
      exact others pointer both (List.count_pos_iff.mp (owned ▸ Nat.zero_lt_one))
    have inserted := Table.count_gather_insert_insert Object.owned state.objects target pointer
      distinct (.view shown stamp) (.view shown stamp)
    rw [Table.holdsAt_of_lookup _ found, Table.holdsAt_of_lookup _ given] at inserted
    have before : 0 < (Table.gather Object.owned state.objects).count pointer := by
      apply List.count_pos_iff.mpr
      exact (Table.mem_gather _).mpr
        ⟨source, _, given, List.count_pos_iff.mp (owned ▸ Nat.zero_lt_one)⟩
    change 1 < (Table.gather Object.owned
      ((state.objects.insert target (.view shown stamp)).insert source (.view shown stamp))).count
        pointer
    omega

section Steps

variable [DecidableEq Name] {names : HeaderNames Name}
  {messages : MessageId → Option (HeaderMap Name)} {event : Event}

theorem step (sound : Sound state) (allowed : AssignsUnowned state event)
    (taken : Headers.step names messages state event = some next) : Sound next := by
  unfold Headers.step at taken
  split at taken
  · cases taken
  · cases event with
    | getHeader => exact sound.getHeader taken
    | iterBegin => exact sound.iterBegin taken
    | deref => exact sound.deref taken
    | advance => exact sound.advance taken
    | read => exact sound.read taken
    | moveConstruct => exact sound.moveConstruct taken
    | moveAssign => exact sound.moveAssign allowed taken
    | destroy => exact sound.destroy taken

end Steps

end Sound

/-- Each header iterator has one owner until it is freed, nothing owns a freed one, all
are freed when there are no objects any more, and nothing that was freed was used. -/
structure OwnedOnce (state : State Name) : Prop where
  live : ∀ pointer ctx, state.heap[pointer]? = some (some ctx) → state.owners.count pointer = 1
  owned : ∀ pointer ∈ state.owners, ∃ ctx, state.heap[pointer]? = some (some ctx)
  finished : state.objects = ∅ → ∀ slot ∈ state.heap, slot = none
  failure : state.failure ≠ some .dangling

theorem Sound.ownedOnce {state : State Name} (sound : Sound state) : OwnedOnce state where
  live := fun pointer ctx live => (sound.counted pointer).trans (Heap.refs_of_live live)
  owned := fun pointer owned => by
    have counted := sound.counted pointer
    have positive := List.count_pos_iff.mpr owned
    exact Heap.refs_eq_one_iff.mp (Nat.le_antisymm Heap.refs_le_one (counted ▸ positive))
  finished := fun finished slot member => by
    obtain ⟨pointer, there⟩ := List.getElem?_of_mem member
    cases slot with
    | none => rfl
    | some ctx =>
        have counted := sound.counted pointer
        rw [State.owners, finished, Heap.refs_of_live there] at counted
        cases counted
  failure := sound.failure

theorem State.sound_init : Sound (State.init : State Name) where
  counted := fun _ => rfl
  rows := fun _ _ found => by cases found
  failure := fun same => by cases same

section Runs

variable [DecidableEq Name]

/-- All along a run each header iterator has one owner exactly when every move assignment
from another view is from one that owns none. -/
theorem ownedOnce_iff_assignsUnowned (names : HeaderNames Name)
    (messages : MessageId → Option (HeaderMap Name)) {events : List Event} {last : State Name}
    (run : (system names messages).run events = some last) :
    (system names messages).Always OwnedOnce State.init events ↔
      (system names messages).Meets AssignsUnowned State.init events := by
  refine System.always_iff_meets (M := system names messages) Sound
    (fun _ => Sound.ownedOnce) (fun _ _ _ sound allowed taken => sound.step allowed taken) ?_
    State.sound_init run
  intro state event next sound broke taken once
  unfold AssignsUnowned at broke
  push Not at broke
  obtain ⟨target, source, shown, stamp, rfl, distinct, given, owns, held⟩ := broke
  obtain ⟨pointer, held⟩ := Option.ne_none_iff_exists'.mp held
  have moved : state.moveAssign target source = some next := by
    change step names messages state (.moveAssign target source) = some next at taken
    unfold step at taken
    split at taken
    · cases taken
    · exact taken
  have twice := sound.moveAssign_of_owned distinct given owns held moved
  obtain ⟨ctx, live⟩ :=
    once.owned pointer (List.count_pos_iff.mp (Nat.lt_trans Nat.zero_lt_one twice))
  exact Nat.ne_of_gt twice (once.live pointer ctx live)

/-- A view found by a lookup takes over another one. Both are destroyed, and the second free
meets a freed iterator. -/
theorem not_ownedOnce_of_moveAssign :
    ∃ messages : MessageId → Option (HeaderMap Bytes),
      ¬ ∀ events last, (system .visible messages).run events = some last →
        (system .visible messages).Always OwnedOnce State.init events := by
  refine ⟨fun _ => some (AList.insert [65] ⟨[[1]], by decide⟩ ∅), fun always => ?_⟩
  have evaluated : ((system .visible fun _ => some (AList.insert [65] ⟨[[1]], by decide⟩ ∅)).run
      [.getHeader 0 [65] 0, .getHeader 0 [65] 1, .moveAssign 0 1, .destroy 0, .destroy 1]).map
        State.failure = some (some .dangling) := by decide
  obtain ⟨last, run, failure⟩ := Option.map_eq_some_iff.mp evaluated
  exact (always _ last run).last run |>.failure failure

/-- A traversal whose iterator is moved to its place, as a loop with a named end does. -/
theorem ownedOnce_iff_assignsUnowned_of_traversal :
    ∃ messages : MessageId → Option (HeaderMap Bytes), ∃ last,
      (system .visible messages).run
        [.iterBegin 0 0, .deref 0 1, .read 1 0, .iterBegin 0 2, .moveAssign 2 0,
          .getHeader 0 [65] 3,
          .advance 2, .destroy 1, .destroy 3, .destroy 2, .destroy 0] = some last ∧
      ((system .visible messages).Always OwnedOnce State.init
          [.iterBegin 0 0, .deref 0 1, .read 1 0, .iterBegin 0 2, .moveAssign 2 0,
            .getHeader 0 [65] 3, .advance 2, .destroy 1, .destroy 3, .destroy 2, .destroy 0] ↔
        (system .visible messages).Meets AssignsUnowned State.init
          [.iterBegin 0 0, .deref 0 1, .read 1 0, .iterBegin 0 2, .moveAssign 2 0,
            .getHeader 0 [65] 3, .advance 2, .destroy 1, .destroy 3, .destroy 2, .destroy 0]) := by
  refine ⟨fun _ => some (AList.insert [65] ⟨[[1]], by decide⟩ ∅), ?_⟩
  have evaluated : ((system .visible fun _ => some (AList.insert [65] ⟨[[1]], by decide⟩ ∅)).run
      [.iterBegin 0 0, .deref 0 1, .read 1 0, .iterBegin 0 2, .moveAssign 2 0,
        .getHeader 0 [65] 3,
        .advance 2, .destroy 1, .destroy 3, .destroy 2, .destroy 0]).map State.failure =
      some none := by decide
  obtain ⟨last, run, _⟩ := Option.map_eq_some_iff.mp evaluated
  exact ⟨last, run, ownedOnce_iff_assignsUnowned _ _ run⟩

end Runs

end AsyncNats.Headers
