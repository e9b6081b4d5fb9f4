import AsyncNats.Headers.Runs
import AsyncNats.Headers.Traversal

/-! # Lookups

A lookup and a traversal make the same kind of Rust iterator, the one parked on the value that
was found and the other on the entries of the map one after the other. Both show the values of
the entry.

The view that a lookup makes has a box of its own. A step reads and writes only the boxes of
the objects it uses, and what an object holds is new or was held by an object that the step
uses. So the view stays as it is while other objects come and go.
-/

namespace AsyncNats.Headers

open Sync Transition

variable {Name : Type}

/-- Only one box may differ. -/
structure Heap.Frame (heap after : Heap Name) (touched : Option Pointer) : Prop where
  length : after.length = heap.length
  others : ∀ pointer, touched ≠ some pointer → after[pointer]? = heap[pointer]?

section Frames

variable {heap after : Heap Name} {p : Option Pointer}

theorem Heap.Frame.refl (heap : Heap Name) (p : Option Pointer) : heap.Frame heap p :=
  ⟨rfl, fun _ _ => rfl⟩

theorem Heap.Frame.set (heap : Heap Name) (pointer : Pointer)
    (slot : Option (RustIterator Name)) : heap.Frame (heap.set pointer slot) (some pointer) where
  length := List.length_set
  others := fun _ apart => List.getElem?_set_ne fun same => apart (congrArg some same)

theorem Heap.Frame.trans {middle : Heap Name} (first : heap.Frame middle p)
    (second : middle.Frame after p) : heap.Frame after p where
  length := second.length.trans first.length
  others := fun pointer apart => (second.others pointer apart).trans (first.others pointer apart)

/-- A pointer that can be used is not null. -/
theorem Heap.eq_some_of_fromPtr {pointer : Pointer} {ctx : RustIterator Name}
    (used : heap.fromPtr p = .ok (pointer, ctx)) : p = some pointer := by
  cases p with
  | none => cases used
  | some held =>
      simp only [Heap.fromPtr] at used
      split at used
      · cases used
        rfl
      · cases used

theorem Heap.free_frame (freed : heap.free p = .ok after) : heap.Frame after p := by
  unfold Heap.free at freed
  cases used : heap.fromPtr p with
  | error => simp only [used, bind, Except.bind, reduceCtorEq] at freed
  | ok found =>
      simp only [used, bind, Except.bind] at freed
      cases freed
      rw [Heap.eq_some_of_fromPtr used]
      exact .set heap _ _

theorem Heap.next_frame {more : Bool} (moved : heap.next p = .ok (more, after)) :
    heap.Frame after p := by
  unfold Heap.next at moved
  cases used : heap.fromPtr p with
  | error => simp only [used, bind, Except.bind, reduceCtorEq] at moved
  | ok found =>
      simp only [used, bind, Except.bind] at moved
      split at moved
      · cases moved
      · cases moved
        rw [Heap.eq_some_of_fromPtr used]
        exact .set heap _ _

theorem HeaderVectorView.destroy_frame {shown : HeaderVectorView}
    (destroyed : shown.destroy heap = .ok after) : heap.Frame after shown.it := by
  unfold HeaderVectorView.destroy at destroyed
  split at destroyed
  · exact Heap.free_frame destroyed
  · cases destroyed
    exact .refl heap _

theorem HeaderIterator.destroy_frame {iterator : HeaderIterator}
    (destroyed : iterator.destroy heap = .ok after) : heap.Frame after iterator.it := by
  unfold HeaderIterator.destroy at destroyed
  split at destroyed
  · exact Heap.free_frame destroyed
  · cases destroyed
    exact .refl heap _

/-- Going on changes the box of the iterator, which keeps it or gives it up. -/
theorem HeaderIterator.advance_frame {iterator cursor : HeaderIterator}
    (advanced : iterator.advance heap = .ok (cursor, after)) :
    heap.Frame after iterator.it ∧ (cursor.it = iterator.it ∨ cursor.it = none) := by
  unfold HeaderIterator.advance at advanced
  cases moved : heap.next iterator.it with
  | error => simp only [moved, bind, Except.bind, reduceCtorEq] at advanced
  | ok result =>
      obtain ⟨more, middle⟩ := result
      have frame := Heap.next_frame moved
      simp only [moved, bind, Except.bind] at advanced
      cases more with
      | true =>
          cases advanced
          exact ⟨frame, .inl rfl⟩
      | false =>
          simp only [Bool.false_eq_true, ↓reduceIte] at advanced
          split at advanced
          · cases freed : middle.free iterator.it with
            | error => simp only [freed, reduceCtorEq] at advanced
            | ok left =>
                simp only [freed] at advanced
                cases advanced
                exact ⟨frame.trans (Heap.free_frame freed), .inr rfl⟩
          · cases advanced
            exact ⟨frame, .inr rfl⟩

theorem HeaderIterator.deref_it {names : HeaderNames Name} {iterator : HeaderIterator}
    {key : Bytes} {shown : HeaderVectorView}
    (dereferenced : iterator.deref names heap = .ok (key, shown)) : shown.it = iterator.it := by
  unfold HeaderIterator.deref HeaderVectorView.new at dereferenced
  cases named : heap.key names iterator.it with
  | error => simp only [named, bind, Except.bind, reduceCtorEq] at dereferenced
  | ok h =>
      cases counted : heap.valueCount iterator.it with
      | error => simp only [named, counted, bind, Except.bind, reduceCtorEq] at dereferenced
      | ok size =>
          simp only [named, counted, bind, Except.bind] at dereferenced
          cases dereferenced
          rfl

end Frames

/-- The pointer in an object, its own or not. -/
def Object.it : Object → Option Pointer
  | .view shown _ => shown.it
  | .iterator cursor => cursor.it

/-- The objects that an event makes, changes or takes from. Reading changes nothing. -/
def Event.uses : Event → ObjectId → Prop
  | .getHeader _ _ object, other | .iterBegin _ object, other | .advance object, other
  | .destroy object, other => other = object
  | .deref source object, other | .moveConstruct source object, other
  | .moveAssign object source, other => other = object ∨ other = source
  | .read _ _, _ => False

/-- What a step can change. -/
structure Footprint (state : State Name) (event : Event) (next : State Name) : Prop where
  rows : ∀ object, ¬ event.uses object →
    next.objects.lookup object = state.objects.lookup object
  grows : state.heap.length ≤ next.heap.length
  heap : ∀ pointer < state.heap.length,
    (∀ object row, event.uses object → state.objects.lookup object = some row →
      row.it ≠ some pointer) → next.heap[pointer]? = state.heap[pointer]?
  its : ∀ object row pointer, event.uses object → next.objects.lookup object = some row →
    row.it = some pointer →
      (∃ other old, event.uses other ∧ state.objects.lookup other = some old ∧
        old.it = some pointer) ∨ (pointer = state.heap.length ∧ pointer < next.heap.length)

namespace Footprint

variable {state next : State Name} {event : Event}

/-- Nothing happens to the heap and the objects. -/
theorem same (heap : next.heap = state.heap) (objects : next.objects = state.objects) :
    Footprint state event next where
  rows := fun _ _ => by rw [objects]
  grows := by rw [heap]
  heap := fun _ _ _ => by rw [heap]
  its := fun object row _ uses found held => by
    rw [objects] at found
    exact .inl ⟨object, row, uses, found, held⟩

/-- A new object with a new box or without one, and then perhaps with a pointer of another
object. -/
theorem make {object : ObjectId} {row : Object} {slots : Heap Name} (uses : event.uses object)
    (heap : next.heap = state.heap ++ slots)
    (objects : next.objects = state.objects.insert object row)
    (it : ∀ pointer, row.it = some pointer →
      (∃ other old, event.uses other ∧ state.objects.lookup other = some old ∧
        old.it = some pointer) ∨ (pointer = state.heap.length ∧ slots ≠ [])) :
    Footprint state event next where
  rows := fun other unused => by
    have apart : other ≠ object := by
      rintro rfl
      exact unused uses
    rw [objects, AList.lookup_insert_ne apart]
  grows := by rw [heap, List.length_append]; exact Nat.le_add_right _ _
  heap := fun pointer bound _ => by rw [heap, List.getElem?_append_left bound]
  its := fun other added pointer used found held => by
    rw [objects] at found
    rcases Table.lookup_of_insert found with ⟨rfl, rfl⟩ | ⟨_, old⟩
    · refine (it pointer held).imp_right fun ⟨fresh, grown⟩ => ⟨fresh, ?_⟩
      rw [fresh, heap, List.length_append]
      exact Nat.lt_add_of_pos_right (List.length_pos_of_ne_nil grown)
    · exact .inl ⟨other, added, used, old, held⟩

/-- One box changes, the one of an object that is used, and so do used objects. -/
theorem write {object : ObjectId} {row : Object} (uses : event.uses object)
    (found : state.objects.lookup object = some row)
    (frame : state.heap.Frame next.heap row.it)
    (rows : ∀ other, ¬ event.uses other →
      next.objects.lookup other = state.objects.lookup other)
    (its : ∀ other added pointer, event.uses other → next.objects.lookup other = some added →
      added.it = some pointer → ∃ third old, event.uses third ∧
        state.objects.lookup third = some old ∧ old.it = some pointer) :
    Footprint state event next where
  rows := rows
  grows := Nat.le_of_eq frame.length.symm
  heap := fun pointer _ apart => frame.others pointer (apart object row uses found)
  its := fun other added pointer used found held =>
    .inl (its other added pointer used found held)

/-- One object takes over what another one holds, and the heap changes at most in the box that
one of the two had. -/
theorem move {object source : ObjectId} {touched old row left : Object} {user : ObjectId}
    (uses : ∀ other, event.uses other ↔ other = object ∨ other = source)
    (used : event.uses user) (there : state.objects.lookup user = some touched)
    (frame : state.heap.Frame next.heap touched.it)
    (found : state.objects.lookup source = some old)
    (objects : next.objects = (state.objects.insert object row).insert source left)
    (it : row.it = old.it) (rest : left.it = old.it ∨ left.it = none) :
    Footprint state event next := by
  refine .write used there frame (fun other unused => ?_) fun other added p used present held => ?_
  · rw [uses, not_or] at unused
    rw [objects, AList.lookup_insert_ne unused.2, AList.lookup_insert_ne unused.1]
  · refine ⟨source, old, (uses source).mpr (.inr rfl), found, ?_⟩
    rw [objects] at present
    rcases Table.lookup_of_insert present with ⟨rfl, rfl⟩ | ⟨notSource, present⟩
    · exact (rest.resolve_right fun gone => by cases gone.symm.trans held).symm.trans held
    · rcases Table.lookup_of_insert present with ⟨rfl, rfl⟩ | ⟨notObject, _⟩
      · exact it.symm.trans held
      · exact absurd ((uses other).mp used) (not_or.mpr ⟨notObject, notSource⟩)

/-- A call that does not return ends the run, and changes nothing else. -/
theorem attempt {result : Except Failure (State Name)}
    (returns : ∀ after, result = .ok after → Footprint state event after) :
    Footprint state event (state.attempt result) := by
  cases result with
  | error => exact .same rfl rfl
  | ok after => exact returns after rfl

variable {names : HeaderNames Name} {messages : MessageId → Option (HeaderMap Name)}

theorem getHeader [DecidableEq Name] {message : MessageId} {header : Bytes} {object : ObjectId}
    (taken : state.getHeader names (messages message) header object = some next) :
    Footprint state (.getHeader message header object) next := by
  unfold State.getHeader at taken
  split at taken
  · cases taken
    rw [HeadersView.getHeader_eq]
    cases HeadersView.lookup names (messages message) header with
    | none => exact .same rfl rfl
    | some value =>
        refine .make rfl rfl rfl fun pointer held => ?_
        cases held
        exact .inr ⟨rfl, List.cons_ne_nil _ _⟩
  · cases taken

theorem iterBegin {message : MessageId} {object : ObjectId}
    (taken : state.iterBegin (messages message) object = some next) :
    Footprint state (.iterBegin message object) next := by
  unfold State.iterBegin at taken
  split at taken
  · cases taken
    rw [HeadersView.iterBegin_eq]
    split
    · exact .make rfl (List.append_nil _).symm rfl fun _ held => by cases held
    · exact .make rfl rfl rfl fun _ held => by cases held
    · refine .make rfl rfl rfl fun pointer held => ?_
      cases held
      exact .inr ⟨rfl, List.cons_ne_nil _ _⟩
  · cases taken

theorem deref {source object : ObjectId}
    (taken : state.deref names source object = some next) :
    Footprint state (.deref source object) next := by
  unfold State.deref at taken
  split at taken
  · next pointer fresh found =>
      cases taken
      refine .attempt fun after returned => ?_
      cases dereferenced : HeaderIterator.deref names ⟨some pointer⟩ state.heap with
      | error => simp only [dereferenced, bind, Except.bind, reduceCtorEq] at returned
      | ok result =>
          obtain ⟨key, shown⟩ := result
          simp only [dereferenced, bind, Except.bind] at returned
          cases returned
          refine .make (.inl rfl) (List.append_nil _).symm rfl fun other held => .inl ?_
          have same := HeaderIterator.deref_it dereferenced
          exact ⟨source, _, .inr rfl, found, same.symm.trans held⟩
  · cases taken

theorem advance {object : ObjectId} (taken : state.advance object = some next) :
    Footprint state (.advance object) next := by
  unfold State.advance at taken
  split at taken
  · next pointer found =>
      cases taken
      refine .attempt fun after returned => ?_
      cases advanced : HeaderIterator.advance ⟨some pointer⟩ state.heap with
      | error => simp only [advanced, bind, Except.bind, reduceCtorEq] at returned
      | ok result =>
          obtain ⟨cursor, heap⟩ := result
          simp only [advanced, bind, Except.bind] at returned
          cases returned
          obtain ⟨frame, it⟩ := HeaderIterator.advance_frame advanced
          refine .write rfl found frame (fun other unused => ?_)
            fun other added p used there held => ?_
          · exact AList.lookup_insert_ne unused
          · cases used
            rcases Table.lookup_of_insert there with ⟨_, rfl⟩ | ⟨apart, _⟩
            · rcases it with same | gone
              · exact ⟨object, _, rfl, found, same.symm.trans held⟩
              · cases gone.symm.trans held
            · exact absurd rfl apart
  · cases taken

theorem read {object : ObjectId} {index : Nat} (taken : state.read object index = some next) :
    Footprint state (.read object index) next := by
  unfold State.read at taken
  split at taken
  · next shown stamp found =>
      split at taken
      · cases taken
        refine .attempt fun after returned => ?_
        cases value : shown.valueAt state.heap index with
        | error => simp only [value, bind, Except.bind, reduceCtorEq] at returned
        | ok =>
            simp only [value, bind, Except.bind] at returned
            cases returned
            exact .same rfl rfl
      · cases taken
  · cases taken

theorem moveConstruct {source object : ObjectId}
    (taken : state.moveConstruct source object = some next) :
    Footprint state (.moveConstruct source object) next := by
  unfold State.moveConstruct at taken
  split at taken
  · next o stamp fresh found =>
      cases taken
      exact .move (fun _ => Iff.rfl) (.inr rfl) found (.refl _ _) found rfl rfl (.inr rfl)
  · next o fresh found =>
      cases taken
      exact .move (fun _ => Iff.rfl) (.inr rfl) found (.refl _ _) found rfl rfl (.inr rfl)
  · cases taken

theorem moveAssign {target source : ObjectId}
    (taken : state.moveAssign target source = some next) :
    Footprint state (.moveAssign target source) next := by
  unfold State.moveAssign at taken
  split at taken
  · next shown before o stamp found given =>
      split at taken
      · cases taken
        exact .same rfl rfl
      · cases taken
        refine .attempt fun after returned => ?_
        cases destroyed : shown.destroy state.heap with
        | error => simp only [HeaderVectorView.moveAssign, destroyed, bind, Except.bind,
            reduceCtorEq] at returned
        | ok heap =>
            simp only [HeaderVectorView.moveAssign, destroyed, bind, Except.bind] at returned
            cases returned
            exact .move (fun _ => Iff.rfl) (.inl rfl) found
              (HeaderVectorView.destroy_frame destroyed) given rfl rfl (.inl rfl)
  · next iterator o found given =>
      split at taken
      · cases taken
        exact .same rfl rfl
      · cases taken
        refine .attempt fun after returned => ?_
        cases destroyed : iterator.destroy state.heap with
        | error => simp only [HeaderIterator.moveAssign, destroyed, bind, Except.bind,
            reduceCtorEq] at returned
        | ok heap =>
            simp only [HeaderIterator.moveAssign, destroyed, bind, Except.bind] at returned
            cases returned
            exact .move (fun _ => Iff.rfl) (.inl rfl) found
              (HeaderIterator.destroy_frame destroyed) given rfl rfl (.inr rfl)
  · cases taken

/-- An object is gone, and only its box changes. -/
theorem erase {object : ObjectId} {row : Object}
    (found : state.objects.lookup object = some row)
    (frame : state.heap.Frame next.heap row.it)
    (objects : next.objects = state.objects.erase object) :
    Footprint state (.destroy object) next := by
  refine .write rfl found frame (fun other unused => ?_) fun other added p used there _ => ?_
  · rw [objects, AList.lookup_erase_ne unused]
  · rw [objects] at there
    exact absurd used (Table.lookup_of_erase there).1

theorem destroy {object : ObjectId} (taken : state.destroy object = some next) :
    Footprint state (.destroy object) next := by
  unfold State.destroy at taken
  split at taken
  · next shown stamp found =>
      cases taken
      refine .attempt fun after returned => ?_
      cases destroyed : shown.destroy state.heap with
      | error => simp only [destroyed, bind, Except.bind, reduceCtorEq] at returned
      | ok heap =>
          simp only [destroyed, bind, Except.bind] at returned
          cases returned
          exact .erase found (HeaderVectorView.destroy_frame destroyed) rfl
  · next iterator found =>
      cases taken
      refine .attempt fun after returned => ?_
      cases destroyed : iterator.destroy state.heap with
      | error => simp only [destroyed, bind, Except.bind, reduceCtorEq] at returned
      | ok heap =>
          simp only [destroyed, bind, Except.bind] at returned
          cases returned
          exact .erase found (HeaderIterator.destroy_frame destroyed) rfl
  · cases taken

end Footprint

section Steps

variable [DecidableEq Name] {names : HeaderNames Name}
  {messages : MessageId → Option (HeaderMap Name)} {state next : State Name} {event : Event}

/-- What a step can change. -/
theorem step_footprint (taken : step names messages state event = some next) :
    Footprint state event next := by
  unfold step at taken
  split at taken
  · cases taken
  · cases event with
    | getHeader => exact .getHeader taken
    | iterBegin => exact .iterBegin taken
    | deref => exact .deref taken
    | advance => exact .advance taken
    | read => exact .read taken
    | moveConstruct => exact .moveConstruct taken
    | moveAssign => exact .moveAssign taken
    | destroy => exact .destroy taken

end Steps

/-- Objects have pointers only to boxes that were made. -/
def Given (state : State Name) : Prop :=
  ∀ object row pointer, state.objects.lookup object = some row → row.it = some pointer →
    pointer < state.heap.length

/-- The view that a lookup made is there, and nothing else has its box. -/
structure Keeps (object : ObjectId) (row : Object) (pointer : Pointer)
    (slot : Option (RustIterator Name)) (state : State Name) : Prop where
  row : state.objects.lookup object = some row
  slot : state.heap[pointer]? = some slot
  apart : ∀ other added, other ≠ object → state.objects.lookup other = some added →
    added.it ≠ some pointer

namespace Footprint

variable {state next : State Name} {event : Event}

theorem given (footprint : Footprint state event next) (given : Given state) : Given next := by
  intro object row pointer found held
  by_cases uses : event.uses object
  · rcases footprint.its object row pointer uses found held with
      ⟨other, old, _, there, same⟩ | ⟨_, bound⟩
    · exact Nat.lt_of_lt_of_le (given other old pointer there same) footprint.grows
    · exact bound
  · rw [footprint.rows object uses] at found
    exact Nat.lt_of_lt_of_le (given object row pointer found held) footprint.grows

theorem keeps (footprint : Footprint state event next) {object : ObjectId} {row : Object}
    {pointer : Pointer} {slot : Option (RustIterator Name)} (unused : ¬ event.uses object)
    (keeps : Keeps object row pointer slot state) : Keeps object row pointer slot next where
  row := (footprint.rows object unused).trans keeps.row
  slot := by
    have bound : pointer < state.heap.length := (List.getElem?_eq_some_iff.mp keeps.slot).1
    refine (footprint.heap pointer bound fun other old uses there => ?_).trans keeps.slot
    have distinct : other ≠ object := by
      rintro rfl
      exact unused uses
    exact keeps.apart other old distinct there
  apart := fun other added distinct found held => by
    by_cases uses : event.uses other
    · rcases footprint.its other added pointer uses found held with
        ⟨third, old, used, there, same⟩ | ⟨fresh, _⟩
      · have notObject : third ≠ object := by
          rintro rfl
          exact unused used
        exact keeps.apart third old notObject there same
      · have bound : pointer < state.heap.length := (List.getElem?_eq_some_iff.mp keeps.slot).1
        exact Nat.ne_of_lt bound fresh
    · rw [footprint.rows other uses] at found
      exact keeps.apart other added distinct found held

end Footprint

section Entries

variable {names : HeaderNames Name} {left : List (Entry Name)} {visits : List (Visit Name)}

theorem exists_visit_of_mem (visited : List.Forall₂ (Visits names) left visits)
    {entry : Entry Name} (member : entry ∈ left) : ∃ visit ∈ visits, Visits names entry visit := by
  induction visited with
  | nil => cases member
  | cons first _ ih =>
      rcases List.mem_cons.mp member with rfl | later
      · exact ⟨_, List.mem_cons_self, first⟩
      · obtain ⟨visit, there, shows⟩ := ih later
        exact ⟨visit, List.mem_cons_of_mem _ there, shows⟩

theorem exists_entry_of_mem (visited : List.Forall₂ (Visits names) left visits)
    {visit : Visit Name} (member : visit ∈ visits) : ∃ entry ∈ left, Visits names entry visit := by
  induction visited with
  | nil => cases member
  | cons first _ ih =>
      rcases List.mem_cons.mp member with rfl | later
      · exact ⟨_, List.mem_cons_self, first⟩
      · obtain ⟨entry, there, shows⟩ := ih later
        exact ⟨entry, List.mem_cons_of_mem _ there, shows⟩

end Entries

/-- The client reads the name of each header from its text. -/
def Stored (names : HeaderNames Name) (headers : Option (HeaderMap Name)) : Prop :=
  ∀ entry ∈ HeadersView.entries headers, names.fromStr (names.asRef entry.1) = some entry.1

/-- A lookup and a whole traversal agree on a header. A visited name is the header's when the
client reads the same name from both texts. -/
structure Agrees (names : HeaderNames Name) (header : Bytes) (found : Option HeaderVectorView)
    (after : Heap Name) (visits : List (Visit Name)) : Prop where
  finds : found.isSome = true ↔ ∃ visit ∈ visits, names.fromStr visit.key = names.fromStr header
  text : (∀ name, names.fromStr header = some name → names.asRef name = header) →
    (found.isSome = true ↔ ∃ visit ∈ visits, visit.key = header)
  same : ∀ shown ∈ found, ∀ visit ∈ visits, names.fromStr visit.key = names.fromStr header →
    ∃ values, shown.Shows after values ∧ visit.view.Shows visit.heap values

section Agreement

variable {names : HeaderNames Name} {headers : Option (HeaderMap Name)} {header : Bytes}
  {name : Name} {visits : List (Visit Name)}

/-- A visit of the name that a header text stands for is the visit of its entry. -/
theorem Visits.of_same_name (stored : Stored names headers)
    (parsed : names.fromStr header = some name)
    (visited : List.Forall₂ (Visits names) (HeadersView.entries headers) visits)
    {visit : Visit Name} (member : visit ∈ visits)
    (same : names.fromStr visit.key = names.fromStr header) :
    ∃ value, ⟨name, value⟩ ∈ HeadersView.entries headers ∧ visit.view.Shows visit.heap value.1 := by
  obtain ⟨entry, there, shows⟩ := exists_entry_of_mem visited member
  rw [shows.key, stored entry there, parsed, Option.some.injEq] at same
  subst same
  exact ⟨entry.2, there, shows.view⟩

/-- The view that a lookup makes shows the value it is parked on. -/
theorem shows_of_parked {heap : Heap Name} {pointer : Pointer} {value : HeaderValue}
    (parked : heap[pointer]? = some (some ⟨none, some ⟨names.dummy, value⟩, 1⟩)) :
    HeaderVectorView.Shows ⟨true, some pointer, value.1.length⟩ heap value.1 :=
  HeaderVectorView.shows_of_live parked rfl true

variable [DecidableEq Name]

theorem lookup_eq_some_iff {map : HeaderMap Name} {value : HeaderValue} :
    map.lookup name = some value ↔ ⟨name, value⟩ ∈ map.entries :=
  ⟨List.of_mem_dlookup, List.mem_dlookup map.nodupKeys⟩

/-- The headers of a message have distinct names. -/
theorem value_unique {value other : HeaderValue}
    (member : ⟨name, value⟩ ∈ HeadersView.entries headers)
    (also : ⟨name, other⟩ ∈ HeadersView.entries headers) : value = other := by
  cases headers with
  | none => cases member
  | some map =>
      have first := lookup_eq_some_iff.mpr member
      have second := lookup_eq_some_iff.mpr also
      exact Option.some.inj (first.symm.trans second)

/-- What a lookup of a legal, non-empty name finds. -/
theorem getHeader_of_parsed (headers : Option (HeaderMap Name)) (heap : Heap Name)
    (legal : header ≠ [])
    (parsed : names.fromStr header = some name) :
    ∃ found after, HeadersView.getHeader names heap headers header = .ok (found, after) ∧
      (found = none → ∀ value, ⟨name, value⟩ ∉ HeadersView.entries headers) ∧
      ∀ shown ∈ found, ∃ value, ⟨name, value⟩ ∈ HeadersView.entries headers ∧
        shown.Shows after value.1 := by
  have nonempty : header.isEmpty = false := List.isEmpty_eq_false_iff.mpr legal
  rw [HeadersView.getHeader_eq, HeadersView.lookup, nonempty, parsed]
  cases headers with
  | none => exact ⟨none, heap, rfl, fun _ _ => List.not_mem_nil, fun _ found => by cases found⟩
  | some map =>
      simp only [Bool.false_eq_true, ↓reduceIte, Option.bind_some]
      cases looked : map.lookup name with
      | none =>
          refine ⟨none, heap, rfl, fun _ value member => ?_, fun _ found => by cases found⟩
          cases looked.symm.trans (lookup_eq_some_iff.mpr member)
      | some value =>
          refine ⟨_, _, rfl, fun missing => absurd missing (Option.some_ne_none _), ?_⟩
          intro shown found
          cases found
          exact ⟨value, lookup_eq_some_iff.mp looked, shows_of_parked List.getElem?_concat_length⟩

theorem agrees_of_visited (stored : Stored names headers)
    (parsed : names.fromStr header = some name)
    (visited : List.Forall₂ (Visits names) (HeadersView.entries headers) visits)
    {found : Option HeaderVectorView} {after : Heap Name}
    (misses : found = none → ∀ value, ⟨name, value⟩ ∉ HeadersView.entries headers)
    (hits : ∀ shown ∈ found, ∃ value, ⟨name, value⟩ ∈ HeadersView.entries headers ∧
      shown.Shows after value.1) :
    Agrees names header found after visits := by
  cases found with
  | none =>
      have absent : ¬ ∃ visit ∈ visits, names.fromStr visit.key = names.fromStr header := by
        rintro ⟨visit, member, same⟩
        obtain ⟨value, there, _⟩ := Visits.of_same_name stored parsed visited member same
        exact misses rfl value there
      refine ⟨iff_of_false Bool.false_ne_true absent, fun _ => ?_, fun _ found => by cases found⟩
      refine iff_of_false Bool.false_ne_true ?_
      rintro ⟨visit, member, rfl⟩
      exact absent ⟨visit, member, rfl⟩
  | some shown =>
      obtain ⟨value, there, shows⟩ := hits shown rfl
      obtain ⟨visit, member, visited_⟩ := exists_visit_of_mem visited there
      have key : names.fromStr visit.key = names.fromStr header := by
        rw [visited_.key, stored _ there, parsed]
      refine ⟨iff_of_true rfl ⟨visit, member, key⟩, fun reads => ?_, ?_⟩
      · exact iff_of_true rfl ⟨visit, member, visited_.key.trans (reads name parsed)⟩
      · intro other found visit member same
        cases found
        obtain ⟨also, present, seen⟩ := Visits.of_same_name stored parsed visited member same
        cases value_unique there present
        exact ⟨value.1, shows, seen⟩

end Agreement

section Runs

variable [DecidableEq Name] {names : HeaderNames Name}
  {messages : MessageId → Option (HeaderMap Name)} {state next last : State Name}
  {object : ObjectId}

theorem given_of_reachable (reached : (system names messages).Reachable state) : Given state :=
  System.Reachable.induction (motive := Given) (fun _ _ _ found => by cases found)
    (fun _ _ _ _ given taken => (step_footprint taken).given given) reached

theorem keeps_of_run {row : Object} {pointer : Pointer} {slot : Option (RustIterator Name)}
    {events : List Event} (unused : ∀ event ∈ events, ¬ event.uses object)
    (keeps : Keeps object row pointer slot state)
    (run : (system names messages).runFrom state events = some last) :
    Keeps object row pointer slot last := by
  induction events generalizing state with
  | nil =>
      cases run
      exact keeps
  | cons event rest ih =>
      obtain ⟨next, taken, tail⟩ := System.runFrom_cons_eq_some _ |>.mp run
      exact ih (fun later member => unused later (List.mem_cons_of_mem _ member))
        ((step_footprint taken).keeps (unused event List.mem_cons_self) keeps) tail

/-- The step that looks a header up and finds it. -/
theorem getHeader_found {message : MessageId} {header : Bytes} {row : Object}
    (reached : (system names messages).Reachable state)
    (taken : step names messages state (.getHeader message header object) = some next)
    (found : next.objects.lookup object = some row) :
    ∃ value : HeaderValue, row = .view ⟨true, some state.heap.length, value.1.length⟩ 0 ∧
      Keeps object row state.heap.length (some ⟨none, some ⟨names.dummy, value⟩, 1⟩) next := by
  have given := given_of_reachable reached
  simp only [step, Option.ite_none_left_eq_some] at taken
  obtain ⟨_, taken⟩ := taken
  unfold State.getHeader at taken
  split at taken
  · next fresh =>
      cases taken
      rw [HeadersView.getHeader_eq] at found ⊢
      cases looked : HeadersView.lookup names (messages message) header with
      | none =>
          rw [looked] at found
          cases found.symm.trans fresh
      | some value =>
          rw [looked] at found
          have inserted : row = .view ⟨true, some state.heap.length, value.1.length⟩ 0 :=
            Option.some.inj (found.symm.trans (AList.lookup_insert _))
          subst inserted
          refine ⟨value, rfl, AList.lookup_insert _, List.getElem?_concat_length, ?_⟩
          intro other added distinct there held
          have old : state.objects.lookup other = some added :=
            (AList.lookup_insert_ne distinct).symm.trans there
          exact Nat.lt_irrefl _ (given other added _ old held)
  · cases taken

/-- Lookups agree with traversals, and the views they make last. -/
theorem getHeader_agrees (names : HeaderNames Name)
    (messages : MessageId → Option (HeaderMap Name)) (message : MessageId)
    (stored : Stored names (messages message)) (header : Bytes) :
    (header ≠ [] → names.fromStr header ≠ none → ∀ heap other rounds,
      (HeadersView.entries (messages message)).length ≤ rounds →
        ∃ found after visits iterator left,
          HeadersView.getHeader names heap (messages message) header = .ok (found, after) ∧
          HeadersView.traverse names rounds other (messages message) =
            .ok (visits, iterator, left) ∧
          iterator.ne HeadersView.iterEnd = false ∧ Agrees names header found after visits) ∧
    (messages message = none ∨ header = [] ∨ names.fromStr header = none → ∀ heap,
      HeadersView.getHeader names heap (messages message) header = .ok (none, heap)) ∧
    (∀ state next object row, (system names messages).Reachable state →
      step names messages state (.getHeader message header object) = some next →
        next.objects.lookup object = some row →
          ∃ shown values, row = .view shown 0 ∧ shown.Shows next.heap values ∧
            ∀ events last, (∀ event ∈ events, ¬ event.uses object) →
              (system names messages).runFrom next events = some last →
                last.objects.lookup object = some row ∧ shown.Shows last.heap values) := by
  refine ⟨fun legal parses heap other rounds enough => ?_, fun absent heap => ?_, ?_⟩
  · obtain ⟨name, parsed⟩ := Option.ne_none_iff_exists'.mp parses
    obtain ⟨visits, iterator, left, loop, ended, visited⟩ :=
      HeadersView.traverse_of_enough names other (messages message) enough
    obtain ⟨found, after, looked, misses, hits⟩ :=
      getHeader_of_parsed (messages message) heap legal parsed
    exact ⟨found, after, visits, iterator, left, looked, loop, ended,
      agrees_of_visited stored parsed visited misses hits⟩
  · have nothing : HeadersView.lookup names (messages message) header = none := by
      unfold HeadersView.lookup
      rcases absent with headerless | rfl | illegal
      · rw [headerless, Option.bind_none, ite_self]
      · rfl
      · rw [illegal]
        cases messages message <;> simp only [Option.bind_none, Option.bind_some, ite_self]
    rw [HeadersView.getHeader_eq, nothing]
  · intro state next object row reached taken found
    obtain ⟨value, rfl, keeps⟩ := getHeader_found reached taken found
    refine ⟨_, value.1, rfl, shows_of_parked keeps.slot, fun events last unused run => ?_⟩
    have kept := keeps_of_run unused keeps run
    exact ⟨kept.row, shows_of_parked kept.slot⟩

/-- A message with two names, one of them with two values, and messages without headers. -/
def twoNames : MessageId → Option (HeaderMap Bytes)
  | 0 => some (AList.insert [65] ⟨[[1], [2]], by decide⟩ (AList.insert [66] ⟨[[3]], by decide⟩ ∅))
  | _ => none

/-- What is done while the view that was looked up first stays as it is. -/
def meanwhile : List Event :=
  [.getHeader 0 [65] 1, .iterBegin 0 2, .advance 2, .read 1 1, .destroy 1, .destroy 2]

/-- `A` is found, nothing is found without headers or under no name, and the view of `B` stays
good while `A` is looked up and the headers are traversed. -/
theorem getHeader_agrees_of_two :
    (∃ found after visits iterator left,
      HeadersView.getHeader .visible [] (twoNames 0) [65] = .ok (some found, after) ∧
      HeadersView.traverse .visible 2 [] (twoNames 0) = .ok (visits, iterator, left) ∧
      visits.map Visit.key = [[65], [66]] ∧ Agrees .visible [65] (some found) after visits) ∧
    (∀ heap, HeadersView.getHeader .visible heap (twoNames 1) [65] = .ok (none, heap)) ∧
    (∀ heap, HeadersView.getHeader .visible heap (twoNames 0) [] = .ok (none, heap)) ∧
    ∃ next last row shown values,
      step .visible twoNames State.init (.getHeader 0 [66] 0) = some next ∧
      (system .visible twoNames).runFrom next meanwhile = some last ∧
      (last.failure = none ∧ last.heap.length = 3) ∧
      row = .view shown 0 ∧ shown.Shows next.heap values ∧
      last.objects.lookup 0 = some row ∧ shown.Shows last.heap values := by
  have stored : Stored .visible (twoNames 0) := by
    intro entry member
    rcases List.mem_pair.mp member with rfl | rfl <;> rfl
  refine ⟨?_, ?_, ?_, ?_⟩
  · obtain ⟨found, after, visits, iterator, left, looked, loop, _, agrees⟩ :=
      (getHeader_agrees .visible twoNames 0 stored [65]).1 (by decide) (by decide) [] [] 2
        (by decide)
    cases looked
    refine ⟨_, _, visits, iterator, left, rfl, loop, ?_, agrees⟩
    cases loop
    rfl
  · exact (getHeader_agrees .visible twoNames 1 (fun _ member => (by cases member)) [65]).2.1
      (.inl rfl)
  · exact (getHeader_agrees .visible twoNames 0 stored []).2.1 (.inr (.inl rfl))
  · have evaluated : ((system .visible twoNames).step State.init (.getHeader 0 [66] 0)).bind
        (fun next => ((system .visible twoNames).runFrom next meanwhile).map fun last =>
          (next.objects.lookup 0, last.failure, last.heap.length)) =
        some (some (.view ⟨true, some 0, 1⟩ 0), none, 3) := by rfl
    obtain ⟨next, taken, ran⟩ := Option.bind_eq_some_iff.mp evaluated
    obtain ⟨last, run, values⟩ := Option.map_eq_some_iff.mp ran
    simp only [Prod.mk.injEq] at values
    obtain ⟨found, sane⟩ := values
    obtain ⟨shown, values, view, shows, kept⟩ :=
      (getHeader_agrees .visible twoNames 0 stored [66]).2.2 State.init next 0 _ ⟨[], rfl⟩ taken
        found
    have unused : ∀ event ∈ meanwhile, ¬ event.uses 0 := by
      simp only [meanwhile, List.forall_mem_cons, Event.uses, List.not_mem_nil, false_imp_iff,
        implies_true, and_true]
      decide
    obtain ⟨row, still⟩ := kept meanwhile last unused run
    exact ⟨next, last, _, shown, values, taken, run, sane, view, shows, row, still⟩

end Runs

end AsyncNats.Headers
