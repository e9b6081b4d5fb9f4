import AsyncNats.Ownership.Sharing

/-! # Messages and errors that threads share

A Rust message or error has an atomic counter. `_clone` is one `fetch_add`; `_delete` is a
`fetch_sub`, and then a step of its own that frees the object if the counter was one. The
calls of several threads interleave between these steps, in any order. The steps on one
counter have an order whatever their memory orders, and nothing else of an object changes.

A counter is as wide as a pointer, and each reference is kept in an object, so it does not
overflow.
-/

namespace AsyncNats.Shared.Threads

open Sync Ownership Transition

abbrev ThreadId := Nat

/-- `AsyncNatsMessage`, `AsyncNatsConnectError` and `AsyncNatsRequestError`: what Rust keeps in
it, and the counter. -/
structure Cell (Content : Type) where
  content : Content
  refs : Nat
  deriving DecidableEq, Repr

/-- A `_delete` after its `fetch_sub`, with what that returned. -/
structure Call where
  pointer : Pointer
  refs : Nat
  deriving DecidableEq, Repr

/-- The allocated objects, the references that the program has, the calls of the threads that
are inside `_delete`, what the objects were made with, and those that have been freed. -/
structure State (Content : Type) where
  heap : Table Pointer (Cell Content)
  references : List Pointer
  calls : Table ThreadId Call
  made : List Content
  freed : List Pointer

namespace State

variable {Content : Type}

def init : State Content where
  heap := ∅
  references := []
  calls := ∅
  made := []
  freed := []

/-- `Into<AsyncNatsMessage>` and the `new` of the errors, then `Box::into_raw`. -/
def create (state : State Content) (content : Content) : State Content :=
  { state with
    heap := AList.insert state.made.length ⟨content, 1⟩ state.heap
    references := state.made.length :: state.references
    made := state.made ++ [content] }

/-- `async_nats_message_clone` and those of the errors. -/
def clone (state : State Content) (pointer : Pointer) : Option (State Content) :=
  (state.heap.lookup pointer).map fun cell =>
    { state with
      heap := AList.insert pointer ⟨cell.content, cell.refs + 1⟩ state.heap
      references := pointer :: state.references }

/-- The first step of `async_nats_message_delete` and of those of the errors. -/
def fetchSub (state : State Content) (thread : ThreadId) (pointer : Pointer) :
    Option (State Content) :=
  (state.heap.lookup pointer).map fun cell =>
    { state with
      heap := AList.insert pointer ⟨cell.content, cell.refs - 1⟩ state.heap
      references := state.references.erase pointer
      calls := AList.insert thread ⟨pointer, cell.refs⟩ state.calls }

/-- The rest of it: `drop(Box::from_raw(..))` behind the test. -/
def finish (state : State Content) (thread : ThreadId) (call : Call) : Option (State Content) :=
  if call.refs = 1 then
    (state.heap.lookup call.pointer).map fun _ =>
      { state with
        heap := state.heap.erase call.pointer
        calls := state.calls.erase thread
        freed := call.pointer :: state.freed }
  else some { state with calls := state.calls.erase thread }

/-- What an accessor finds behind a pointer, where `none` is a use after free. -/
def content (state : State Content) (pointer : Pointer) : Option Content :=
  (state.heap.lookup pointer).map Cell.content

end State

inductive Event (Content : Type) where
  | create (content : Content)
  | clone (pointer : Pointer)
  | read (pointer : Pointer)
  | fetchSub (thread : ThreadId) (pointer : Pointer)
  | finish (thread : ThreadId)

variable {Content : Type}

/-- What the program keeps to: it uses references that it has, whichever thread has them, and
a thread is in one call at a time. -/
def Permitted (state : State Content) : Event Content → Prop
  | .create _ => True
  | .clone pointer | .read pointer => pointer ∈ state.references
  | .fetchSub thread pointer => pointer ∈ state.references ∧ state.calls.lookup thread = none
  | .finish thread => ∃ call, state.calls.lookup thread = some call

/-- A step is undefined when it would touch a freed object, and when it is not permitted. -/
def step (state : State Content) : Event Content → Option (State Content)
  | .create content => some (state.create content)
  | .clone pointer => if pointer ∈ state.references then state.clone pointer else none
  | .read pointer =>
    if pointer ∈ state.references then (state.content pointer).map fun _ => state else none
  | .fetchSub thread pointer =>
    if pointer ∈ state.references ∧ state.calls.lookup thread = none then
      state.fetchSub thread pointer
    else none
  | .finish thread => (state.calls.lookup thread).bind fun call => state.finish thread call

def system (Content : Type) : System (State Content) (Event Content) where
  init := State.init
  step

variable {state next : State Content} {event : Event Content} {pointer : Pointer}
  {thread : ThreadId} {sharing : Sharing}

theorem permitted_of_step (taken : step state event = some next) : Permitted state event := by
  cases event with
  | create content => trivial
  | clone pointer => exact (Option.ite_none_right_eq_some.mp taken).1
  | read pointer => exact (Option.ite_none_right_eq_some.mp taken).1
  | fetchSub thread pointer => exact (Option.ite_none_right_eq_some.mp taken).1
  | finish thread =>
      obtain ⟨call, found, _⟩ := Option.bind_eq_some_iff.mp taken
      exact ⟨call, found⟩

/-- The counters are those in the heap, as far as they are not zero. -/
def Agree (counters : Counters) (heap : Table Pointer (Cell Content)) : Prop :=
  ∀ pointer refs, counters.lookup pointer = some refs ↔
    refs ≠ 0 ∧ ∃ content, heap.lookup pointer = some ⟨content, refs⟩

namespace Agree

variable {counters : Counters} {heap : Table Pointer (Cell Content)} {content : Content}
  {refs : Nat}

theorem insert (agree : Agree counters heap) (pointer : Pointer) (content : Content)
    (counted : refs ≠ 0) :
    Agree (AList.insert pointer refs counters) (AList.insert pointer ⟨content, refs⟩ heap) := by
  intro other found
  by_cases same : other = pointer
  · subst same
    rw [AList.lookup_insert, AList.lookup_insert]
    constructor
    · intro held
      cases held
      exact ⟨counted, content, rfl⟩
    · rintro ⟨_, _, held⟩
      cases held
      rfl
  · rw [AList.lookup_insert_ne same, AList.lookup_insert_ne same]
    exact agree other found

theorem erase (agree : Agree counters heap) (pointer : Pointer) (content : Content) :
    Agree (AList.erase pointer counters) (AList.insert pointer ⟨content, 0⟩ heap) := by
  intro other found
  by_cases same : other = pointer
  · subst same
    rw [AList.lookup_erase, AList.lookup_insert]
    refine iff_of_false (Option.some_ne_none found).symm ?_
    rintro ⟨counted, _, held⟩
    cases held
    exact counted rfl
  · rw [AList.lookup_erase_ne same, AList.lookup_insert_ne same]
    exact agree other found

theorem free (agree : Agree counters heap) (found : heap.lookup pointer = some ⟨content, 0⟩) :
    Agree counters (AList.erase pointer heap) := by
  intro other refs
  by_cases same : other = pointer
  · subst same
    rw [AList.lookup_erase, agree other refs, found]
    refine and_congr_right fun counted => ?_
    refine iff_of_false ?_ ?_
    · rintro ⟨_, held⟩
      cases held
      exact counted rfl
    · rintro ⟨_, held⟩
      cases held
  · rw [AList.lookup_erase_ne same]
    exact agree other refs

end Agree

/-- A heap of shared objects with the same references and counters. -/
structure Refines (state : State Content) (sharing : Sharing) : Prop where
  holders : sharing.holders = state.references
  created : sharing.created = state.made.length
  counters : Agree sharing.counters state.heap

/-- What is behind a reference. -/
theorem Refines.lookup (refines : Refines state sharing) (sound : sharing.Sound)
    (held : pointer ∈ state.references) :
    ∃ content, state.heap.lookup pointer = some ⟨content, state.references.count pointer⟩ := by
  rw [← refines.holders] at held ⊢
  exact ((refines.counters pointer _).mp (sound.counted.lookup_of_mem held)).2

/-- What the steps keep besides: an object with a counter of zero is one that the call which
counted down from one is about to free, and there is one such call. -/
structure Sound (state : State Content) : Prop where
  last : ∀ pointer, (∃ content, state.heap.lookup pointer = some ⟨content, 0⟩) ↔
    ∃ thread, state.calls.lookup thread = some ⟨pointer, 1⟩
  single : ∀ pointer first second, state.calls.lookup first = some ⟨pointer, 1⟩ →
    state.calls.lookup second = some ⟨pointer, 1⟩ → first = second
  made : ∀ pointer cell, state.heap.lookup pointer = some cell →
    state.made[pointer]? = some cell.content
  freed : ∀ pointer, pointer ∈ state.freed ↔
    pointer < state.made.length ∧ state.heap.lookup pointer = none
  once : state.freed.Nodup

namespace Sound

variable {content : Content} {refs : Nat}

theorem init : Sound (State.init : State Content) where
  last := fun _ => iff_of_false (fun ⟨_, found⟩ => by cases found) fun ⟨_, found⟩ => by cases found
  single := fun _ _ _ found _ => by cases found
  made := fun _ _ found => by cases found
  freed := fun _ => iff_of_false List.not_mem_nil fun ⟨below, _⟩ => Nat.not_lt_zero _ below
  once := List.nodup_nil

theorem lt_of_lookup (sound : Sound state) {cell : Cell Content}
    (found : state.heap.lookup pointer = some cell) : pointer < state.made.length :=
  (List.getElem?_eq_some_iff.mp (sound.made pointer cell found)).1

/-- A new object is behind a pointer that no other has. -/
theorem lookup_new (sound : Sound state) : state.heap.lookup state.made.length = none :=
  Option.eq_none_iff_forall_ne_some.mpr fun _ found =>
    Nat.lt_irrefl _ (sound.lt_of_lookup found)

/-- A call that counted down from one is behind an object with a counter of zero. -/
theorem refs_of_call (sound : Sound state)
    (called : state.calls.lookup thread = some ⟨pointer, 1⟩)
    (found : state.heap.lookup pointer = some ⟨content, refs⟩) : refs = 0 := by
  obtain ⟨_, zero⟩ := (sound.last pointer).mpr ⟨thread, called⟩
  cases found.symm.trans zero
  rfl

theorem create (sound : Sound state) (content : Content) : Sound (state.create content) where
  last := by
    intro pointer
    unfold State.create
    by_cases same : pointer = state.made.length
    · subst same
      refine iff_of_false ?_ ?_
      · rintro ⟨_, found⟩
        rw [AList.lookup_insert] at found
        cases found
      · rintro ⟨thread, called⟩
        obtain ⟨_, found⟩ := (sound.last _).mpr ⟨thread, called⟩
        cases sound.lookup_new.symm.trans found
    · simp only [AList.lookup_insert_ne same]
      exact sound.last pointer
  single := sound.single
  made := by
    refine Table.forall_insert (fun pointer cell found => ?_) ?_
    · rw [State.create, List.getElem?_append_left (sound.lt_of_lookup found)]
      exact sound.made pointer cell found
    · exact List.getElem?_concat_length
  freed := by
    intro pointer
    simp only [State.create, List.length_append, List.length_singleton, sound.freed pointer]
    by_cases same : pointer = state.made.length
    · subst same
      rw [AList.lookup_insert]
      exact iff_of_false (fun both => Nat.lt_irrefl _ both.1) fun both => by cases both.2
    · rw [AList.lookup_insert_ne same]
      exact and_congr_left fun _ =>
        ⟨Nat.lt_succ_of_lt, fun below => Nat.lt_of_le_of_ne (Nat.le_of_lt_succ below) same⟩
  once := sound.once

/-- A counter that changes along with the calls. -/
theorem recount (sound : Sound state)
    (found : state.heap.lookup pointer = some ⟨content, refs⟩) (count : Nat)
    (references : List Pointer) (calls : Table ThreadId Call)
    (last : ∀ other, (∃ thread, calls.lookup thread = some ⟨other, 1⟩) ↔
      if other = pointer then count = 0
      else ∃ thread, state.calls.lookup thread = some ⟨other, 1⟩)
    (single : ∀ other first second, calls.lookup first = some ⟨other, 1⟩ →
      calls.lookup second = some ⟨other, 1⟩ → first = second) :
    Sound { state with
      heap := AList.insert pointer ⟨content, count⟩ state.heap, references, calls } where
  last := by
    intro other
    rw [last other]
    by_cases same : other = pointer
    · subst same
      rw [AList.lookup_insert, if_pos rfl]
      constructor
      · rintro ⟨_, held⟩
        cases held
        rfl
      · rintro rfl
        exact ⟨content, rfl⟩
    · rw [AList.lookup_insert_ne same, if_neg same]
      exact sound.last other
  single := single
  made := Table.forall_insert sound.made (sound.made pointer ⟨content, refs⟩ found)
  freed := by
    intro other
    simp only [sound.freed other]
    by_cases same : other = pointer
    · subst same
      rw [AList.lookup_insert, found]
      exact iff_of_false (fun both => by cases both.2) fun both => by cases both.2
    · rw [AList.lookup_insert_ne same]
  once := sound.once

theorem clone (sound : Sound state)
    (found : state.heap.lookup pointer = some ⟨content, refs⟩) (counted : refs ≠ 0)
    (references : List Pointer) :
    Sound { state with
      heap := AList.insert pointer ⟨content, refs + 1⟩ state.heap, references } := by
  refine sound.recount found (refs + 1) references state.calls ?_ sound.single
  intro other
  by_cases same : other = pointer
  · subst same
    rw [if_pos rfl]
    exact iff_of_false (fun ⟨_, called⟩ => counted (sound.refs_of_call called found))
      (Nat.succ_ne_zero refs)
  · rw [if_neg same]

theorem fetchSub (sound : Sound state)
    (found : state.heap.lookup pointer = some ⟨content, refs⟩) (counted : refs ≠ 0)
    (idle : state.calls.lookup thread = none) (references : List Pointer) :
    Sound { state with
      heap := AList.insert pointer ⟨content, refs - 1⟩ state.heap, references
      calls := AList.insert thread ⟨pointer, refs⟩ state.calls } := by
  have only : ∀ first, state.calls.lookup first ≠ some ⟨pointer, 1⟩ :=
    fun first called => counted (sound.refs_of_call called found)
  refine sound.recount found (refs - 1) references _ (fun other => ?_) ?_
  · constructor
    · rintro ⟨first, called⟩
      rcases Table.lookup_of_insert called with ⟨_, made⟩ | ⟨_, before⟩
      · cases made
        rw [if_pos rfl]
      · have distinct : other ≠ pointer := by
          rintro rfl
          exact only first before
        rw [if_neg distinct]
        exact ⟨first, before⟩
    · intro holds
      by_cases same : other = pointer
      · rw [if_pos same] at holds
        refine ⟨thread, ?_⟩
        rw [AList.lookup_insert, same, show refs = 1 by omega]
      · rw [if_neg same] at holds
        obtain ⟨first, called⟩ := holds
        refine ⟨first, (AList.lookup_insert_ne ?_).trans called⟩
        rintro rfl
        cases idle.symm.trans called
  · intro other first second called again
    rcases Table.lookup_of_insert called with ⟨rfl, made⟩ | ⟨_, before⟩
    · cases made
      rcases Table.lookup_of_insert again with ⟨rfl, _⟩ | ⟨_, before⟩
      · rfl
      · exact (only second before).elim
    · rcases Table.lookup_of_insert again with ⟨_, made⟩ | ⟨_, too⟩
      · cases made
        exact (only first before).elim
      · exact sound.single other first second before too

/-- A call that did not count down to zero leaves the object alone. -/
theorem leave (sound : Sound state) {call : Call}
    (called : state.calls.lookup thread = some call) (more : call.refs ≠ 1) :
    Sound { state with calls := state.calls.erase thread } where
  last := by
    intro pointer
    rw [sound.last pointer]
    constructor
    · rintro ⟨other, found⟩
      refine ⟨other, (AList.lookup_erase_ne ?_).trans found⟩
      rintro rfl
      cases called.symm.trans found
      exact more rfl
    · rintro ⟨other, found⟩
      exact ⟨other, (Table.lookup_of_erase found).2⟩
  single := fun pointer first second found again => sound.single pointer first second
    (Table.lookup_of_erase found).2 (Table.lookup_of_erase again).2
  made := sound.made
  freed := sound.freed
  once := sound.once

/-- The call that did frees it. -/
theorem free (sound : Sound state) (called : state.calls.lookup thread = some ⟨pointer, 1⟩)
    (found : state.heap.lookup pointer = some ⟨content, refs⟩) :
    Sound { state with
      heap := state.heap.erase pointer
      calls := state.calls.erase thread
      freed := pointer :: state.freed } where
  last := by
    intro other
    by_cases same : other = pointer
    · subst same
      refine iff_of_false ?_ ?_
      · rintro ⟨_, held⟩
        rw [AList.lookup_erase] at held
        cases held
      · rintro ⟨second, again⟩
        obtain ⟨distinct, again⟩ := Table.lookup_of_erase again
        exact distinct (sound.single other second thread again called)
    · rw [AList.lookup_erase_ne same, sound.last other]
      constructor
      · rintro ⟨second, again⟩
        refine ⟨second, (AList.lookup_erase_ne ?_).trans again⟩
        rintro rfl
        cases called.symm.trans again
        exact same rfl
      · rintro ⟨second, again⟩
        exact ⟨second, (Table.lookup_of_erase again).2⟩
  single := fun other first second one two => sound.single other first second
    (Table.lookup_of_erase one).2 (Table.lookup_of_erase two).2
  made := Table.forall_erase sound.made
  freed := by
    intro other
    rw [List.mem_cons, sound.freed other]
    by_cases same : other = pointer
    · subst same
      rw [AList.lookup_erase]
      exact iff_of_true (.inl rfl) ⟨sound.lt_of_lookup found, rfl⟩
    · rw [AList.lookup_erase_ne same, or_iff_right same]
  once := by
    refine List.nodup_cons.mpr ⟨fun member => ?_, sound.once⟩
    cases found.symm.trans ((sound.freed pointer).mp member).2

end Sound

/-- Both hold of a state that some steps on the shared heap explain. -/
structure Explained (state : State Content) (sharing : Sharing) : Prop where
  sound : Sound state
  shared : sharing.Sound
  refines : Refines state sharing

namespace Explained

variable {content : Content}

theorem init : Explained (State.init : State Content) Sharing.system.init where
  sound := .init
  shared := .init
  refines :=
    { holders := rfl
      created := rfl
      counters := fun _ _ => iff_of_false (fun found => by cases found)
        fun ⟨_, _, found⟩ => by cases found }

theorem create (explained : Explained state sharing) (content : Content) :
    ∃ after, Sharing.system.runFrom sharing [.create] = some after ∧
      Explained (state.create content) after := by
  obtain ⟨after, taken, shared, counters, holders, created⟩ := explained.shared.create
  have refines := explained.refines
  refine ⟨after, (Sharing.system.runFrom_singleton _ _).trans taken,
    explained.sound.create content, shared, ?_⟩
  refine ⟨?_, ?_, ?_⟩
  · rw [holders, refines.holders, refines.created]
    rfl
  · rw [created, refines.created, State.create, List.length_append, List.length_singleton]
  · rw [counters, refines.created]
    exact refines.counters.insert _ content Nat.one_ne_zero

theorem clone (explained : Explained state sharing) (held : pointer ∈ state.references) :
    ∃ next, state.clone pointer = some next ∧
      ∃ after, Sharing.system.runFrom sharing [.retain pointer] = some after ∧
        Explained next after := by
  have refines := explained.refines
  obtain ⟨content, found⟩ := refines.lookup explained.shared held
  obtain ⟨after, taken, shared, counters, holders, created⟩ :=
    explained.shared.retain (refines.holders ▸ held)
  refine ⟨_, by rw [State.clone, found, Option.map_some], after,
    (Sharing.system.runFrom_singleton _ _).trans taken, ?_, shared, ?_, ?_, ?_⟩
  · exact explained.sound.clone found
      (Nat.ne_of_gt (List.count_pos_iff.mpr held)) (pointer :: state.references)
  · rw [holders, refines.holders]
  · rw [created, refines.created]
  · rw [counters, refines.holders]
    exact refines.counters.insert pointer content (Nat.succ_ne_zero _)

theorem fetchSub (explained : Explained state sharing) (held : pointer ∈ state.references)
    (idle : state.calls.lookup thread = none) :
    ∃ next, state.fetchSub thread pointer = some next ∧
      ∃ after, Sharing.system.runFrom sharing [.release pointer] = some after ∧
        Explained next after := by
  have refines := explained.refines
  obtain ⟨content, found⟩ := refines.lookup explained.shared held
  have counted := Nat.ne_of_gt (List.count_pos_iff.mpr held)
  obtain ⟨after, taken, shared, counters, holders, created⟩ :=
    explained.shared.release (refines.holders ▸ held)
  refine ⟨_, by rw [State.fetchSub, found, Option.map_some], after,
    (Sharing.system.runFrom_singleton _ _).trans taken, ?_, shared, ?_, ?_, ?_⟩
  · exact explained.sound.fetchSub found counted idle (state.references.erase pointer)
  · rw [holders, refines.holders]
  · rw [created, refines.created]
  · rw [counters, refines.holders]
    by_cases last : state.references.count pointer = 1
    · simp only [last, Nat.sub_self]
      exact refines.counters.erase pointer content
    · simp only [if_neg last]
      exact refines.counters.insert pointer content (by omega)

theorem finish (explained : Explained state sharing) {call : Call}
    (called : state.calls.lookup thread = some call) :
    ∃ next, state.finish thread call = some next ∧ Explained next sharing := by
  have refines := explained.refines
  by_cases last : call.refs = 1
  · obtain ⟨pointer, refs⟩ := call
    cases last
    obtain ⟨content, found⟩ := (explained.sound.last pointer).mpr ⟨thread, called⟩
    refine ⟨_, by rw [State.finish, if_pos rfl, found, Option.map_some],
      explained.sound.free called found, explained.shared, ?_⟩
    exact ⟨refines.holders, refines.created, refines.counters.free found⟩
  · refine ⟨_, if_neg last, explained.sound.leave called last, explained.shared, ?_⟩
    exact ⟨refines.holders, refines.created, refines.counters⟩

/-- A permitted step touches no freed object, and is at most one step on the shared heap. -/
theorem advance (explained : Explained state sharing) (permitted : Permitted state event) :
    ∃ next, step state event = some next ∧ ∃ actions after,
      Sharing.system.runFrom sharing actions = some after ∧ Explained next after := by
  cases event with
  | create content =>
      obtain ⟨after, run, explained⟩ := explained.create content
      exact ⟨_, rfl, _, after, run, explained⟩
  | clone pointer =>
      obtain ⟨next, taken, after, run, explained⟩ := explained.clone permitted
      exact ⟨next, (if_pos permitted).trans taken, _, after, run, explained⟩
  | read pointer =>
      obtain ⟨content, found⟩ := explained.refines.lookup explained.shared permitted
      refine ⟨state, (if_pos permitted).trans ?_, [], sharing, rfl, explained⟩
      rw [State.content, found, Option.map_some, Option.map_some]
  | fetchSub thread pointer =>
      obtain ⟨next, taken, after, run, explained⟩ := explained.fetchSub permitted.1 permitted.2
      exact ⟨next, (if_pos permitted).trans taken, _, after, run, explained⟩
  | finish thread =>
      obtain ⟨call, called⟩ := permitted
      obtain ⟨next, taken, explained⟩ := explained.finish called
      refine ⟨next, ?_, [], sharing, rfl, explained⟩
      rw [step, called, Option.bind_some, taken]

end Explained

/-- The calls of the threads are steps on the shared heap, one at a time. -/
def simulation (Content : Type) : Simulation (system Content) Sharing.system where
  related := Explained
  init := .init
  step := fun _ explained taken => by
    obtain ⟨next, defined, matched⟩ := explained.advance (permitted_of_step taken)
    cases taken.symm.trans defined
    exact matched

theorem explained_of_reachable (reached : (system Content).Reachable state) :
    ∃ sharing, Sharing.system.Reachable sharing ∧ Explained state sharing :=
  (simulation Content).reachable reached

/-- A referenced object is live, and what it was made as. -/
theorem intact_of_held (reached : (system Content).Reachable state)
    (held : pointer ∈ state.references) : pointer ∉ state.freed ∧
      ∃ content, state.content pointer = some content ∧ state.made[pointer]? = some content := by
  obtain ⟨sharing, _, explained⟩ := explained_of_reachable reached
  obtain ⟨content, found⟩ := explained.refines.lookup explained.shared held
  constructor
  · intro freed
    cases found.symm.trans ((explained.sound.freed pointer).mp freed).2
  · refine ⟨content, ?_, explained.sound.made pointer _ found⟩
    rw [State.content, found, Option.map_some]

/-- An object can be read until it is freed, and is then what it was made as. -/
theorem content_eq (reached : (system Content).Reachable state)
    (below : pointer < state.made.length) :
    state.content pointer = if pointer ∈ state.freed then none else state.made[pointer]? := by
  obtain ⟨sharing, _, explained⟩ := explained_of_reachable reached
  have sound := explained.sound
  cases found : state.heap.lookup pointer with
  | none =>
      rw [State.content, found, if_pos ((sound.freed pointer).mpr ⟨below, found⟩), Option.map_none]
  | some cell =>
      have kept : pointer ∉ state.freed := fun freed => by
        cases found.symm.trans ((sound.freed pointer).mp freed).2
      rw [State.content, found, if_neg kept, sound.made pointer cell found, Option.map_some]

/-- What an object was made as stays so. -/
theorem made_prefix {last : State Content} {labels : List (Event Content)}
    (reached : (system Content).Reachable state)
    (run : (system Content).runFrom state labels = some last) : state.made <+: last.made := by
  refine System.runFrom_relation (motive := fun before after => before.made <+: after.made)
    (fun state => List.prefix_refl state.made) (fun _ _ _ => List.IsPrefix.trans) ?_ reached run
  intro state event next _ taken
  cases event with
  | create content =>
      cases taken
      exact List.prefix_append state.made [content]
  | clone pointer =>
      obtain ⟨_, _, rfl⟩ := Option.map_eq_some_iff.mp (Option.ite_none_right_eq_some.mp taken).2
      exact List.prefix_refl _
  | read pointer =>
      obtain ⟨_, _, rfl⟩ := Option.map_eq_some_iff.mp (Option.ite_none_right_eq_some.mp taken).2
      exact List.prefix_refl _
  | fetchSub thread pointer =>
      obtain ⟨_, _, rfl⟩ := Option.map_eq_some_iff.mp (Option.ite_none_right_eq_some.mp taken).2
      exact List.prefix_refl _
  | finish thread =>
      obtain ⟨call, _, finished⟩ := Option.bind_eq_some_iff.mp taken
      unfold State.finish at finished
      split at finished
      · obtain ⟨_, _, rfl⟩ := Option.map_eq_some_iff.mp finished
        exact List.prefix_refl _
      · cases finished
        exact List.prefix_refl _

/-- What threads can rely on that share objects. -/
structure SharedSafely (state : State Content) : Prop where
  /-- The references and the counters are those of a heap on which each call takes one step. -/
  atomic : ∃ sharing, Sharing.system.Reachable sharing ∧ Refines state sharing
  /-- No call touches a freed object. -/
  defined : ∀ event, Permitted state event → ∃ next, step state event = some next
  /-- A referenced object is what it was made as. -/
  intact : ∀ pointer ∈ state.references,
    ∃ content, state.content pointer = some content ∧ state.made[pointer]? = some content
  /-- An object that is not referenced has been freed, or one thread is about to free it. -/
  gone : ∀ pointer < state.made.length, pointer ∉ state.references →
    pointer ∈ state.freed ∨ ∃ thread, state.calls.lookup thread = some ⟨pointer, 1⟩ ∧
      ∀ other, state.calls.lookup other = some ⟨pointer, 1⟩ → other = thread
  /-- None is freed while it is referenced, none twice. -/
  once : state.freed.Nodup ∧ ∀ pointer ∈ state.freed, pointer ∉ state.references

/-- Threads that clone and delete what they share keep it safe in every interleaving. -/
theorem threads_share_safely (reached : (system Content).Reachable state) :
    SharedSafely state := by
  obtain ⟨sharing, reachable, explained⟩ := explained_of_reachable reached
  have sound := explained.sound
  refine ⟨⟨sharing, reachable, explained.refines⟩, fun event permitted => ?_,
    fun pointer held => (intact_of_held reached held).2, fun pointer below unheld => ?_,
    sound.once, fun pointer freed held => (intact_of_held reached held).1 freed⟩
  · obtain ⟨next, taken, _⟩ := explained.advance permitted
    exact ⟨next, taken⟩
  · cases located : state.heap.lookup pointer with
    | none => exact .inl ((sound.freed pointer).mpr ⟨below, located⟩)
    | some cell =>
        have zero : cell.refs = 0 := by
          by_contra counted
          have counter := (explained.refines.counters pointer cell.refs).mpr
            ⟨counted, cell.content, located⟩
          rw [explained.shared.counted pointer, explained.refines.holders, if_neg unheld] at counter
          cases counter
        obtain ⟨thread, called⟩ := (sound.last pointer).mp ⟨cell.content, zero ▸ located⟩
        exact .inr ⟨thread, called, fun other again =>
          sound.single pointer other thread again called⟩

/-- Two threads delete their references at once: the second to count down frees the object
before the first has seen that it does not have to. -/
theorem threads_share_safely_of_two :
    ∃ state : State Nat,
      (system Nat).run [.create 7, .clone 0, .read 0, .fetchSub 1 0, .create 8, .fetchSub 2 0,
        .finish 2, .finish 1] = some state ∧
      state.freed = [0] ∧ state.references = [1] ∧ SharedSafely state := by
  have evaluated :
      ((system Nat).run [.create 7, .clone 0, .read 0, .fetchSub 1 0, .create 8, .fetchSub 2 0,
        .finish 2, .finish 1]).map (fun state => (state.freed, state.references)) =
          some ([0], [1]) := by decide
  obtain ⟨state, run, same⟩ := Option.map_eq_some_iff.mp evaluated
  obtain ⟨freed, references⟩ := Prod.ext_iff.mp same
  exact ⟨state, run, freed, references, threads_share_safely ⟨_, run⟩⟩

end AsyncNats.Shared.Threads
