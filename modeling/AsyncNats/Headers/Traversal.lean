import AsyncNats.Headers.View

/-! # Traversals

The loops over the headers of a message and over the values of one header, as a caller writes
them: from `begin` on, as long as the cursor differs from `end`. A caller may leave a loop
early, so each loop has a number of rounds after which it is left.

What is left of a traversal is a suffix of the header map: the Rust iterator stands on the
first of its headers, or is freed when there is none.
-/

namespace AsyncNats.Headers

variable {Name : Type}

namespace HeaderVectorView

/-- The loop over the values of a view, left after `rounds` rounds or by an exception. -/
def iterateFrom (heap : Heap Name) (stop : Iterator) :
    Nat → Iterator → Except Failure (List (Option Bytes) × Iterator)
  | 0, cursor => .ok ([], cursor)
  | rounds + 1, cursor =>
    if cursor.ne stop then do
      match ← cursor.deref heap with
      | none => return ([none], cursor)
      | some value =>
        let (values, cursor) ← iterateFrom heap stop rounds cursor.increment
        return (some value :: values, cursor)
    else .ok ([], cursor)

def iterate (shown : HeaderVectorView) (heap : Heap Name) (rounds : Nat) :
    Except Failure (List (Option Bytes) × Iterator) :=
  iterateFrom heap shown.iterEnd rounds shown.iterBegin

/-- A view gives exactly these values, by index and in order. Any other index throws, and the
loop over the values is at its end when it has given all. -/
structure Shows (shown : HeaderVectorView) (heap : Heap Name) (values : List Bytes) : Prop where
  size : shown.size = values.length
  valueAt : ∀ index, shown.valueAt heap index = .ok values[index]?
  iterate : ∀ rounds, ∃ cursor, shown.iterate heap rounds =
    .ok ((values.take rounds).map some, cursor) ∧
      (cursor.ne shown.iterEnd = true ↔ rounds < values.length)

end HeaderVectorView

/-- What a round of the loop over the headers sees: the name, the view, and the heap on which
the view is read. -/
structure Visit (Name : Type) where
  key : Bytes
  view : HeaderVectorView
  heap : Heap Name

namespace HeadersView

/-- The loop over the headers with a guard, left after `rounds` rounds. The view of a round is
destroyed at its end. -/
def walkFrom (guard : HeaderIterator → Bool) (names : HeaderNames Name) :
    Nat → HeaderIterator → Heap Name →
      Except Failure (List (Visit Name) × HeaderIterator × Heap Name)
  | 0, iterator, heap => .ok ([], iterator, heap)
  | rounds + 1, iterator, heap =>
    if guard iterator then do
      let (key, view) ← iterator.deref names heap
      let destroyed ← view.destroy heap
      let (iterator, advanced) ← iterator.advance destroyed
      let (visits, iterator, after) ← walkFrom guard names rounds iterator advanced
      return (⟨key, view, heap⟩ :: visits, iterator, after)
    else .ok ([], iterator, heap)

def walk (guard : HeaderIterator → Bool) (names : HeaderNames Name) (rounds : Nat)
    (heap : Heap Name) (headers : Option (HeaderMap Name)) :
    Except Failure (List (Visit Name) × HeaderIterator × Heap Name) := do
  let (iterator, heap) ← iterBegin heap headers
  walkFrom guard names rounds iterator heap

/-- `it != end`. -/
def differs (iterator : HeaderIterator) : Bool := iterator.ne iterEnd

/-- The loop as it is usually written. -/
def traverse (names : HeaderNames Name) (rounds : Nat) (heap : Heap Name)
    (headers : Option (HeaderMap Name)) :
    Except Failure (List (Visit Name) × HeaderIterator × Heap Name) :=
  walk differs names rounds heap headers

/-- The headers of a message. -/
def entries (headers : Option (HeaderMap Name)) : List (Entry Name) :=
  headers.elim [] AList.entries

/-- The place of a traversal's iterator once it is freed, if the traversal had one. -/
def freed (headers : Option (HeaderMap Name)) : Heap Name :=
  (headers.map fun _ => none).toList

end HeadersView

open HeadersView

/-! The loop over the values. -/

section Values

variable {heap : Heap Name} {pointer : Pointer} {ctx : RustIterator Name} {entry : Entry Name}

theorem HeaderVectorView.Iterator.deref_of_live (live : heap[pointer]? = some (some ctx))
    (stands : ctx.val = some entry) {pos : Nat} (bound : pos < entry.2.1.length) :
    Iterator.deref ⟨some pointer, pos, entry.2.1.length⟩ heap = .ok (some entry.2.1[pos]) := by
  unfold Iterator.deref
  rw [if_neg (Nat.not_le.mpr bound), Heap.valueAt_of_val (Heap.val_of_live live stands) bound]
  rfl

/-- From any position on, the loop gives the values that are left. -/
theorem HeaderVectorView.iterateFrom_of_live (live : heap[pointer]? = some (some ctx))
    (stands : ctx.val = some entry) (rounds : Nat) {pos : Nat} (bound : pos ≤ entry.2.1.length) :
    iterateFrom heap ⟨some pointer, entry.2.1.length, entry.2.1.length⟩ rounds
        ⟨some pointer, pos, entry.2.1.length⟩ =
      .ok (((entry.2.1.drop pos).take rounds).map some,
        ⟨some pointer, min (pos + rounds) entry.2.1.length, entry.2.1.length⟩) := by
  induction rounds generalizing pos with
  | zero => rw [iterateFrom, Nat.add_zero, Nat.min_eq_left bound]; rfl
  | succ rounds ih =>
      rcases Nat.lt_or_eq_of_le bound with inside | same
      · have differs : Iterator.ne ⟨some pointer, pos, entry.2.1.length⟩
            ⟨some pointer, entry.2.1.length, entry.2.1.length⟩ = true := by
          simp only [Iterator.ne, Bool.not_eq_true', beq_eq_false_iff_ne]
          exact Nat.ne_of_lt inside
        have next : Iterator.increment ⟨some pointer, pos, entry.2.1.length⟩ =
            ⟨some pointer, pos + 1, entry.2.1.length⟩ := by
          have small : pos + 1 < 2 ^ 64 := Nat.lt_of_le_of_lt inside entry.2.2
          rw [Iterator.increment, if_pos inside]
          simp only [Nat.mod_eq_of_lt small]
        have split : entry.2.1.drop pos = entry.2.1[pos] :: entry.2.1.drop (pos + 1) :=
          List.drop_eq_getElem_cons inside
        rw [iterateFrom, if_pos differs, Iterator.deref_of_live live stands inside, next]
        have shift : pos + (rounds + 1) = pos + 1 + rounds := by omega
        simp only [bind, Except.bind]
        rw [ih inside, split, List.take_succ_cons, List.map_cons, shift]
        rfl
      · have same' : Iterator.ne ⟨some pointer, pos, entry.2.1.length⟩
            ⟨some pointer, entry.2.1.length, entry.2.1.length⟩ = false := by
          simp only [Iterator.ne, same, beq_self_eq_true, Bool.not_true]
        rw [iterateFrom, if_neg (by rw [same']; exact Bool.false_ne_true), same,
          List.drop_length, Nat.min_eq_right (Nat.le_add_right _ _)]
        rfl

/-- A view whose box stands on a header shows the values of this header. -/
theorem HeaderVectorView.shows_of_live (live : heap[pointer]? = some (some ctx))
    (stands : ctx.val = some entry) (own : Bool) :
    HeaderVectorView.Shows ⟨own, some pointer, entry.2.1.length⟩ heap entry.2.1 where
  size := rfl
  valueAt := HeaderVectorView.valueAt_of_live rfl live stands rfl
  iterate := fun rounds => by
    have loop := HeaderVectorView.iterateFrom_of_live live stands rounds (Nat.zero_le _)
    refine ⟨_, loop, ?_⟩
    simp only [Iterator.ne, iterEnd, Nat.zero_add, Bool.not_eq_true', beq_eq_false_iff_ne]
    omega

end Values

/-! The loop over the headers. -/

/-- The Rust iterator of a traversal with these headers left. -/
def standing : List (Entry Name) → Option (RustIterator Name)
  | [] => none
  | entry :: rest => some ⟨some rest, some entry, 1⟩

/-- The C++ iterator of a traversal with these headers left. -/
def holding (pointer : Pointer) : List (Entry Name) → HeaderIterator
  | [] => ⟨none⟩
  | _ :: _ => ⟨some pointer⟩

/-- A visit shows the header it stands on. -/
structure Visits (names : HeaderNames Name) (entry : Entry Name) (visit : Visit Name) : Prop where
  key : visit.key = names.asRef entry.1
  view : visit.view.Shows visit.heap entry.2.1

theorem HeadersView.iterBegin_of_some (heap : Heap Name) (map : HeaderMap Name) :
    HeadersView.iterBegin heap (some map) =
      .ok (holding heap.length map.entries, heap ++ [standing map.entries]) := by
  rw [HeadersView.iterBegin_eq, Option.map_some]
  cases map.entries <;> rfl

/-- Going on leaves the rest of the headers. -/
theorem HeaderIterator.advance_of_standing (heap : Heap Name) (entry : Entry Name)
    (rest : List (Entry Name)) :
    HeaderIterator.advance (holding heap.length (entry :: rest))
        (heap ++ [standing (entry :: rest)]) =
      .ok (holding heap.length rest, heap ++ [standing rest]) := by
  have live : (heap ++ [standing (entry :: rest)])[heap.length]? =
      some (some ⟨some rest, some entry, 1⟩) := List.getElem?_concat_length
  cases rest with
  | nil => exact (HeaderIterator.advance_of_nil live).trans (by rw [Heap.set_length]; rfl)
  | cons next rest =>
      exact (HeaderIterator.advance_of_cons live).trans (by rw [Heap.set_length]; rfl)

theorem holding_ne_iterEnd {pointer : Pointer} {left : List (Entry Name)} :
    (holding pointer left).ne iterEnd = true ↔ left ≠ [] := by
  cases left with
  | nil => exact iff_of_false Bool.false_ne_true fun absent => absent rfl
  | cons => exact iff_of_true rfl (List.cons_ne_nil _ _)

/-- The destructor frees what is not freed yet. -/
theorem destroy_of_standing (heap : Heap Name) (left : List (Entry Name)) :
    (holding heap.length left).destroy (heap ++ [standing left]) = .ok (heap ++ [none]) := by
  cases left with
  | nil => rfl
  | cons entry rest =>
      have live : (heap ++ [standing (entry :: rest)])[heap.length]? =
          some (some ⟨some rest, some entry, 1⟩) := List.getElem?_concat_length
      have held : some heap.length ≠ none := Option.some_ne_none _
      refine (if_pos held).trans ((Heap.free_of_live live rfl).trans ?_)
      rw [Heap.set_length]

theorem HeadersView.walkFrom_differs (names : HeaderNames Name) (heap : Heap Name) (rounds : Nat)
    (left : List (Entry Name)) :
    ∃ visits, walkFrom differs names rounds (holding heap.length left)
        (heap ++ [standing left]) =
        .ok (visits, holding heap.length (left.drop rounds),
          heap ++ [standing (left.drop rounds)]) ∧
      List.Forall₂ (Visits names) (left.take rounds) visits := by
  induction rounds generalizing left with
  | zero => exact ⟨[], rfl, .nil⟩
  | succ rounds ih =>
      cases left with
      | nil => exact ⟨[], rfl, .nil⟩
      | cons entry rest =>
          have live : (heap ++ [standing (entry :: rest)])[heap.length]? =
              some (some ⟨some rest, some entry, 1⟩) := List.getElem?_concat_length
          obtain ⟨visits, loop, shown⟩ := ih rest
          refine ⟨⟨names.asRef entry.1, ⟨false, some heap.length, entry.2.1.length⟩,
            heap ++ [standing (entry :: rest)]⟩ :: visits, ?_, ?_⟩
          · have enters : differs (holding heap.length (entry :: rest)) = true := rfl
            have kept : HeaderVectorView.destroy ⟨false, some heap.length, entry.2.1.length⟩
                (heap ++ [standing (entry :: rest)]) = .ok (heap ++ [standing (entry :: rest)]) :=
              if_neg fun both => Bool.false_ne_true both.1
            rw [walkFrom, if_pos enters, holding, HeaderIterator.deref_of_live live rfl]
            simp only [bind, Except.bind]
            rw [kept]
            have advanced := HeaderIterator.advance_of_standing heap entry rest
            rw [holding] at advanced
            simp only [advanced, loop, List.drop_succ_cons]
            rfl
          · rw [List.take_succ_cons]
            exact .cons ⟨rfl, HeaderVectorView.shows_of_live live rfl false⟩ shown

theorem HeadersView.traverse_of_none (names : HeaderNames Name) (rounds : Nat)
    (heap : Heap Name) : HeadersView.traverse names rounds heap none = .ok ([], ⟨none⟩, heap) := by
  cases rounds <;> rfl

theorem HeadersView.traverse_of_some (names : HeaderNames Name) (rounds : Nat)
    (heap : Heap Name) (map : HeaderMap Name) :
    HeadersView.traverse names rounds heap (some map) =
      walkFrom differs names rounds (holding heap.length map.entries)
        (heap ++ [standing map.entries]) := by
  rw [HeadersView.traverse, walk, HeadersView.iterBegin_of_some]
  rfl

/-- A traversal that is not left early visits all headers. -/
theorem HeadersView.traverse_of_enough (names : HeaderNames Name) (heap : Heap Name)
    (headers : Option (HeaderMap Name)) {rounds : Nat}
    (enough : (entries headers).length ≤ rounds) :
    ∃ visits iterator after,
      HeadersView.traverse names rounds heap headers = .ok (visits, iterator, after) ∧
        iterator.ne iterEnd = false ∧ List.Forall₂ (Visits names) (entries headers) visits := by
  cases headers with
  | none => exact ⟨[], _, _, traverse_of_none names rounds heap, rfl, .nil⟩
  | some map =>
      obtain ⟨visits, loop, visited⟩ := walkFrom_differs names heap rounds map.entries
      have all : map.entries.take rounds = map.entries := List.take_of_length_le enough
      have rest : map.entries.drop rounds = [] := List.drop_of_length_le enough
      rw [all] at visited
      rw [rest] at loop
      exact ⟨visits, _, _, (traverse_of_some names rounds heap map).trans loop, rfl, visited⟩

/-- A traversal left after so many rounds. -/
structure Traverses (names : HeaderNames Name) (heap : Heap Name)
    (headers : Option (HeaderMap Name)) (rounds : Nat) (visits : List (Visit Name))
    (iterator : HeaderIterator) (after : Heap Name) : Prop where
  /-- Each round has visited the next header. -/
  visits : List.Forall₂ (Visits names) ((entries headers).take rounds) visits
  /-- No name comes twice. -/
  once : ((entries headers).map Sigma.fst).Nodup
  /-- The loop goes on as long as there is a header left. -/
  differs : iterator.ne iterEnd = true ↔ rounds < (entries headers).length
  /-- At the end the iterator is `end()`, and its box is freed. -/
  exhausted : (entries headers).length ≤ rounds →
    iterator = iterEnd ∧ after = heap ++ freed headers
  /-- Before the end the iterator has its box. -/
  abandoned : rounds < (entries headers).length →
    iterator.it = some heap.length ∧ ∃ ctx, after = heap ++ [some ctx]
  /-- The destructor of the iterator leaves no box. -/
  destroyed : iterator.destroy after = .ok (heap ++ freed headers)

/-- Every traversal goes through the headers of its message. -/
theorem traverses (names : HeaderNames Name) (heap : Heap Name)
    (headers : Option (HeaderMap Name)) (rounds : Nat) :
    ∃ visits iterator after,
      HeadersView.traverse names rounds heap headers = .ok (visits, iterator, after) ∧
        Traverses names heap headers rounds visits iterator after := by
  cases headers with
  | none =>
      refine ⟨[], ⟨none⟩, heap, HeadersView.traverse_of_none names rounds heap, ?_⟩
      exact
        { visits := by rw [entries, Option.elim_none, List.take_nil]; exact .nil
          once := List.nodup_nil
          differs := iff_of_false Bool.false_ne_true (Nat.not_lt_zero _)
          exhausted := fun _ => ⟨rfl, (List.append_nil heap).symm⟩
          abandoned := fun before => (Nat.not_lt_zero _ before).elim
          destroyed := congrArg Except.ok (List.append_nil heap).symm }
  | some map =>
      obtain ⟨visits, loop, shown⟩ :=
        HeadersView.walkFrom_differs names heap rounds map.entries
      refine ⟨visits, _, _, (HeadersView.traverse_of_some names rounds heap map).trans loop, ?_⟩
      exact
        { visits := shown
          once := map.nodupKeys
          differs := holding_ne_iterEnd.trans
            (List.drop_eq_nil_iff.not.trans Nat.not_le)
          exhausted := fun finished => by
            have none_left : map.entries.drop rounds = [] := List.drop_of_length_le finished
            rw [none_left]
            exact ⟨rfl, rfl⟩
          abandoned := fun before => by
            have some_left : map.entries.drop rounds = _ := List.drop_eq_getElem_cons before
            rw [some_left]
            exact ⟨rfl, _, rfl⟩
          destroyed := destroy_of_standing heap _ }

end AsyncNats.Headers
