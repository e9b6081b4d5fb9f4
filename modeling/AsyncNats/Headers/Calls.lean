import AsyncNats.Headers.Cursor
import AsyncNats.Headers.Custody

/-! # The assertions of the header functions

The Rust functions `expect` that a message has headers, that an iterator has a cursor and
stands on a header, that an index is in range and that a name is given; each time the C++
side is said to have checked it. Here the cursors of views join the objects of a run. A cursor
keeps the pointer and the size of its view, so it must not be read after the view may not be.

What a cursor reads is the box of its view, or that box after it was freed: no other box takes
its place.
-/

namespace AsyncNats.Headers

open Sync Transition

variable {Name : Type}

/-- The failure of an `expect`. -/
def Failure.isExpect : Failure → Bool
  | .headersAbsent | .iterAbsent | .valAbsent | .indexOutOfRange | .headerAbsent => true
  | .null | .dangling => false

/-- A cursor, with the view it was got from as the view was then. -/
structure CursorRow where
  shown : HeaderVectorView
  stamp : Nat
  cursor : HeaderVectorView.Iterator

/-- The iterators and views, their cursors, and what a cursor ended the run with. -/
structure Session (Name : Type) where
  state : State Name
  cursors : Table ObjectId CursorRow
  failure : Option Failure

namespace Session

def init : Session Name where
  state := State.init
  cursors := ∅
  failure := none

/-- A call on an iterator or a view. -/
def onObjects (session : Session Name) (next : Option (State Name)) : Option (Session Name) :=
  next.map fun state => { session with state }

/-- `begin` or `end` of a view. -/
def cursorOf (session : Session Name) (object cursor : ObjectId)
    (place : HeaderVectorView → HeaderVectorView.Iterator) : Option (Session Name) :=
  match session.state.objects.lookup object with
  | some (.view shown stamp) =>
    some { session with cursors := session.cursors.insert cursor ⟨shown, stamp, place shown⟩ }
  | _ => none

/-- `size`, which asks no Rust function. -/
def size (session : Session Name) (object : ObjectId) : Option (Session Name) :=
  match session.state.objects.lookup object with
  | some (.view _ _) => some session
  | _ => none

def cursorMove (session : Session Name) (cursor : ObjectId) (call : HeaderVectorView.Move) :
    Option (Session Name) :=
  match session.cursors.lookup cursor with
  | some row =>
    some { session with
      cursors := session.cursors.insert cursor { row with cursor := row.cursor.move call } }
  | none => none

def cursorDeref (session : Session Name) (cursor : ObjectId) : Option (Session Name) :=
  match session.cursors.lookup cursor with
  | some row =>
    if session.state.mayRead row.shown row.stamp then
      match row.cursor.deref session.state.heap with
      | .ok _ => some session
      | .error failure => some { session with failure := some failure }
    else none
  | none => none

end Session

/-- The calls of an application that moves no iterator or view. -/
inductive Call where
  | getHeader (message : MessageId) (header : Bytes) (object : ObjectId)
  | iterBegin (message : MessageId) (object : ObjectId)
  | deref (source object : ObjectId)
  | advance (object : ObjectId)
  | size (object : ObjectId)
  | valueAt (object : ObjectId) (index : Nat)
  | destroy (object : ObjectId)
  | cursorBegin (object cursor : ObjectId)
  | cursorEnd (object cursor : ObjectId)
  | cursorMove (cursor : ObjectId) (call : HeaderVectorView.Move)
  | cursorDeref (cursor : ObjectId)

def Session.step [DecidableEq Name] (names : HeaderNames Name)
    (messages : MessageId → Option (HeaderMap Name)) (session : Session Name) (call : Call) :
    Option (Session Name) :=
  if session.failure ≠ none ∨ session.state.failure ≠ none then none
  else
    match call with
    | .getHeader message header object =>
      session.onObjects (session.state.getHeader names (messages message) header object)
    | .iterBegin message object =>
      session.onObjects (session.state.iterBegin (messages message) object)
    | .deref source object => session.onObjects (session.state.deref names source object)
    | .advance object => session.onObjects (session.state.advance object)
    | .size object => session.size object
    | .valueAt object index => session.onObjects (session.state.read object index)
    | .destroy object => session.onObjects (session.state.destroy object)
    | .cursorBegin object cursor => session.cursorOf object cursor HeaderVectorView.iterBegin
    | .cursorEnd object cursor => session.cursorOf object cursor HeaderVectorView.iterEnd
    | .cursorMove cursor call => session.cursorMove cursor call
    | .cursorDeref cursor => session.cursorDeref cursor

def calls [DecidableEq Name] (names : HeaderNames Name)
    (messages : MessageId → Option (HeaderMap Name)) : System (Session Name) Call where
  init := Session.init
  step := Session.step names messages

/-! What a call on the objects does to the heap. -/

/-- There are new boxes, an iterator changes its own, or a box that a lookup made is freed. -/
inductive Change (heap : Heap Name) (advances : Pointer → Nat) :
    Heap Name → (Pointer → Nat) → Prop where
  | grow (more : Heap Name) : Change heap advances (heap ++ more) advances
  | cursor {pointer : Pointer} {rest : List (Entry Name)} {entry : Entry Name}
      (live : heap[pointer]? = some (some ⟨some rest, some entry, 1⟩))
      (slot : Option (RustIterator Name)) :
      Change heap advances (heap.set pointer slot) (bump advances (some pointer))
  | parked {pointer : Pointer} {entry : Entry Name}
      (live : heap[pointer]? = some (some ⟨none, some entry, 1⟩)) :
      Change heap advances (heap.set pointer none) advances

theorem Change.refl (heap : Heap Name) (advances : Pointer → Nat) :
    Change heap advances heap advances := by
  have nothing : Change heap advances (heap ++ []) advances := .grow []
  rwa [List.append_nil] at nothing

/-- A box that was freed stays so. -/
theorem Change.freed {heap after : Heap Name} {advances later : Pointer → Nat}
    {pointer : Pointer} (change : Change heap advances after later)
    (there : heap[pointer]? = some none) : after[pointer]? = some none := by
  have written : ∀ {other : Pointer} {ctx : RustIterator Name} (slot : Option (RustIterator Name)),
      heap[other]? = some (some ctx) → (heap.set other slot)[pointer]? = some none := by
    intro other ctx slot live
    have distinct : other ≠ pointer := by
      rintro rfl
      cases there.symm.trans live
    exact (List.getElem?_set_ne distinct).trans there
  cases change with
  | grow more =>
      rw [List.getElem?_append_left (List.getElem?_eq_some_iff.mp there).1]
      exact there
  | cursor live slot => exact written slot live
  | parked live => exact written none live

/-- What a view, and a cursor of it, relies on once the view may be gone: the box is as the view
found it, or it was freed. -/
def Origin (heap : Heap Name) (advances : Pointer → Nat) (shown : HeaderVectorView)
    (stamp : Nat) : Prop :=
  (Object.view shown stamp).Ok heap advances ∨
    shown.owns = true ∧ ∀ pointer ∈ shown.it, heap[pointer]? = some none

theorem owned_view {shown : HeaderVectorView} {stamp : Nat} {pointer : Pointer} :
    pointer ∈ (Object.view shown stamp).owned ↔ shown.owns = true ∧ shown.it = some pointer := by
  rw [Object.owned]
  cases shown.owns with
  | true => exact Option.mem_toList.trans (iff_and_self.mpr fun _ => rfl)
  | false => exact iff_of_false List.not_mem_nil fun both => Bool.false_ne_true both.1

/-- The box of a view does not become another one. -/
theorem Origin.change {heap after : Heap Name} {advances later : Pointer → Nat}
    {shown : HeaderVectorView} {stamp : Nat} (origin : Origin heap advances shown stamp)
    (change : Change heap advances after later) : Origin after later shown stamp := by
  rcases origin with ok | ⟨owns, freed⟩
  · cases change with
    | grow more => exact .inl (ok.grow more)
    | @cursor pointer rest entry live slot =>
        refine .inl (ok.set_cursor (fun owned => ?_) slot)
        obtain ⟨owns, held⟩ := owned_view.mp owned
        obtain ⟨_, parked, _⟩ := (ok pointer held).1 owns
        cases parked.symm.trans live
    | @parked pointer entry live =>
        by_cases owned : pointer ∈ (Object.view shown stamp).owned
        · obtain ⟨owns, held⟩ := owned_view.mp owned
          refine .inr ⟨owns, fun other also => ?_⟩
          cases held.symm.trans also
          exact List.getElem?_set_self (List.getElem?_eq_some_iff.mp live).1
        · exact .inl (ok.set owned none (fun _ _ => rfl) (Nat.le_refl _) (.inl ⟨entry, live⟩))
  · exact .inr ⟨owns, fun pointer held => change.freed (freed pointer held)⟩

/-- A view holds a pointer, as all do that were not moved from. -/
def Object.Held : Object → Prop
  | .view shown _ => shown.it ≠ none
  | .iterator _ => True

/-- No call has failed so far, and no view was moved from. -/
structure Clean (state : State Name) : Prop where
  sound : Sound state
  returned : state.failure = none
  held : ∀ object row, state.objects.lookup object = some row → row.Held

namespace Clean

variable {state next : State Name} {object : ObjectId}

theorem getHeader [DecidableEq Name] {names : HeaderNames Name}
    {headers : Option (HeaderMap Name)} {header : Bytes} (clean : Clean state)
    (taken : state.getHeader names headers header object = some next) :
    Clean next ∧ Change state.heap state.advances next.heap next.advances := by
  have sound := clean.sound.getHeader taken
  obtain ⟨_, rfl | ⟨value, rfl⟩⟩ := State.getHeader_cases taken
  · exact ⟨clean, .refl _ _⟩
  · exact ⟨⟨sound, clean.returned, Table.forall_insert clean.held (Option.some_ne_none _)⟩,
      .grow _⟩

theorem iterBegin {headers : Option (HeaderMap Name)} (clean : Clean state)
    (taken : state.iterBegin headers object = some next) :
    Clean next ∧ Change state.heap state.advances next.heap next.advances := by
  have sound := clean.sound.iterBegin taken
  obtain ⟨_, ⟨slots, _, rfl⟩ | ⟨rest, entry, rfl⟩⟩ := State.iterBegin_cases taken
  · exact ⟨⟨sound, clean.returned, Table.forall_insert clean.held trivial⟩, .grow _⟩
  · exact ⟨⟨sound, clean.returned, Table.forall_insert clean.held trivial⟩, .grow _⟩

theorem deref {names : HeaderNames Name} {source : ObjectId} (clean : Clean state)
    (taken : state.deref names source object = some next) :
    Clean next ∧ Change state.heap state.advances next.heap next.advances := by
  have sound := clean.sound.deref taken
  obtain ⟨pointer, rest, entry, _, _, rfl⟩ := clean.sound.deref_cases taken
  exact ⟨⟨sound, clean.returned, Table.forall_insert clean.held (Option.some_ne_none _)⟩,
    .refl _ _⟩

theorem advance (clean : Clean state) (taken : state.advance object = some next) :
    Clean next ∧ Change state.heap state.advances next.heap next.advances := by
  have sound := clean.sound.advance taken
  obtain ⟨pointer, rest, entry, _, live, rfl | ⟨first, more, rfl⟩⟩ :=
    clean.sound.advance_cases taken
  · exact ⟨⟨sound, clean.returned, Table.forall_insert clean.held trivial⟩, .cursor live _⟩
  · exact ⟨⟨sound, clean.returned, Table.forall_insert clean.held trivial⟩, .cursor live _⟩

/-- A view that may be read gives a value or throws. -/
theorem read {index : Nat} (clean : Clean state) (taken : state.read object index = some next) :
    next = state := by
  unfold State.read at taken
  split at taken
  · next shown stamp found =>
      split at taken
      · next may =>
          cases taken
          obtain ⟨pointer, held⟩ := Option.ne_none_iff_exists'.mp (clean.held object _ found)
          obtain ⟨ctx, entry, live, stands, size⟩ :=
            (clean.sound.rows object _ found).reads held may
          rw [HeaderVectorView.valueAt_of_live held live stands size]
          rfl
      · cases taken
  · cases taken

/-- What an object frees, and what that changes. -/
theorem release (clean : Clean state) {row : Object}
    (found : state.objects.lookup object = some row) :
    Change state.heap state.advances (state.heap.release row.owned)
      (bump state.advances row.given) := by
  rcases (clean.sound.rows object row found).owned_cases with ⟨owned, given⟩ |
    ⟨pointer, entry, owned, given, parked⟩ | ⟨pointer, rest, entry, owned, given, live⟩
  · rw [owned, given]
    exact .refl _ _
  · rw [owned, given]
    exact .parked parked
  · rw [owned, given]
    exact .cursor live none

theorem destroy (clean : Clean state) (taken : state.destroy object = some next) :
    Clean next ∧ Change state.heap state.advances next.heap next.advances := by
  have sound := clean.sound.destroy taken
  obtain ⟨row, found, rfl⟩ := clean.sound.destroy_cases taken
  exact ⟨⟨sound, clean.returned, Table.forall_erase clean.held⟩, clean.release found⟩

end Clean

/-! What a cursor relies on. -/

/-- A cursor has the pointer and the size of its view. -/
structure CursorRow.Ok (state : State Name) (row : CursorRow) : Prop where
  it : row.cursor.it = row.shown.it
  size : row.cursor.size = row.shown.size
  held : row.shown.it ≠ none
  origin : Origin state.heap state.advances row.shown row.stamp

namespace CursorRow.Ok

variable {state next : State Name} {row : CursorRow}

theorem change (ok : row.Ok state)
    (change : Change state.heap state.advances next.heap next.advances) : row.Ok next where
  it := ok.it
  size := ok.size
  held := ok.held
  origin := ok.origin.change change

theorem move (ok : row.Ok state) (call : HeaderVectorView.Move) :
    CursorRow.Ok state { row with cursor := row.cursor.move call } where
  it := (row.cursor.move_it call).trans ok.it
  size := (row.cursor.move_size call).trans ok.size
  held := ok.held
  origin := ok.origin

/-- A cursor reads what its view has at its position. -/
theorem deref_eq (ok : row.Ok state) :
    row.cursor.deref state.heap = row.shown.valueAt state.heap row.cursor.pos := by
  unfold HeaderVectorView.Iterator.deref HeaderVectorView.valueAt
  rw [ok.it, ok.size]

/-- A cursor whose view may be read reads a value or throws. -/
theorem deref_of_ok (ok : row.Ok state)
    (view : (Object.view row.shown row.stamp).Ok state.heap state.advances)
    (may : state.mayRead row.shown row.stamp = true) :
    ∃ value, row.cursor.deref state.heap = .ok value := by
  obtain ⟨pointer, held⟩ := Option.ne_none_iff_exists'.mp ok.held
  obtain ⟨ctx, entry, live, stands, size⟩ := view.reads held may
  rw [ok.deref_eq]
  exact ⟨_, HeaderVectorView.valueAt_of_live held live stands size _⟩

/-- Otherwise its view is gone. -/
theorem deref (ok : row.Ok state) (may : state.mayRead row.shown row.stamp = true) :
    (∃ value, row.cursor.deref state.heap = .ok value) ∨
      row.cursor.deref state.heap = .error .dangling := by
  rcases ok.origin with view | ⟨_, freed⟩
  · exact .inl (ok.deref_of_ok view may)
  · obtain ⟨pointer, held⟩ := Option.ne_none_iff_exists'.mp ok.held
    rw [ok.deref_eq, HeaderVectorView.valueAt]
    split
    · exact .inl ⟨none, rfl⟩
    · refine .inr ?_
      simp only [Heap.valueAt, Heap.val, Heap.fromPtr, held, freed pointer held, bind,
        Except.bind]

end CursorRow.Ok

namespace Session

/-- No call on the objects fails, and a cursor fails only when its view is gone. -/
structure Sound (session : Session Name) : Prop where
  clean : Clean session.state
  cursors : ∀ cursor row, session.cursors.lookup cursor = some row → row.Ok session.state
  failure : session.failure = none ∨ session.failure = some .dangling

namespace Sound

variable {session next : Session Name}

theorem onObjects {after : Option (State Name)} (sound : Sound session)
    (kept : ∀ state, after = some state → Clean state ∧
      Change session.state.heap session.state.advances state.heap state.advances)
    (taken : session.onObjects after = some next) : Sound next := by
  obtain ⟨state, there, rfl⟩ := Option.map_eq_some_iff.mp taken
  obtain ⟨clean, change⟩ := kept state there
  exact ⟨clean, fun cursor row found => (sound.cursors cursor row found).change change,
    sound.failure⟩

theorem cursorOf {object cursor : ObjectId}
    {place : HeaderVectorView → HeaderVectorView.Iterator} (sound : Sound session)
    (of : ∀ shown, (place shown).it = shown.it ∧ (place shown).size = shown.size)
    (taken : session.cursorOf object cursor place = some next) : Sound next := by
  unfold Session.cursorOf at taken
  split at taken
  · next shown stamp found =>
      cases taken
      refine ⟨sound.clean, Table.forall_insert sound.cursors ?_, sound.failure⟩
      exact
        { it := (of shown).1
          size := (of shown).2
          held := sound.clean.held object _ found
          origin := .inl (sound.clean.sound.rows object _ found) }
  · cases taken

theorem cursorMove {cursor : ObjectId} {call : HeaderVectorView.Move} (sound : Sound session)
    (taken : session.cursorMove cursor call = some next) : Sound next := by
  unfold Session.cursorMove at taken
  split at taken
  · next row found =>
      cases taken
      exact ⟨sound.clean,
        Table.forall_insert sound.cursors ((sound.cursors cursor row found).move call),
        sound.failure⟩
  · cases taken

theorem cursorDeref {cursor : ObjectId} (sound : Sound session)
    (taken : session.cursorDeref cursor = some next) : Sound next := by
  unfold Session.cursorDeref at taken
  split at taken
  · next row found =>
      split at taken
      · next may =>
          rcases (sound.cursors cursor row found).deref may with ⟨value, reads⟩ | dangles
          · rw [reads] at taken
            cases taken
            exact sound
          · rw [dangles] at taken
            cases taken
            exact ⟨sound.clean, sound.cursors, .inr rfl⟩
      · cases taken
  · cases taken

theorem step [DecidableEq Name] {names : HeaderNames Name}
    {messages : MessageId → Option (HeaderMap Name)} {call : Call} (sound : Sound session)
    (taken : session.step names messages call = some next) : Sound next := by
  unfold Session.step at taken
  split at taken
  · cases taken
  · cases call with
    | getHeader => exact sound.onObjects (fun _ made => sound.clean.getHeader made) taken
    | iterBegin => exact sound.onObjects (fun _ made => sound.clean.iterBegin made) taken
    | deref => exact sound.onObjects (fun _ made => sound.clean.deref made) taken
    | advance => exact sound.onObjects (fun _ made => sound.clean.advance made) taken
    | destroy => exact sound.onObjects (fun _ made => sound.clean.destroy made) taken
    | valueAt =>
        refine sound.onObjects (fun state made => ?_) taken
        rw [sound.clean.read made]
        exact ⟨sound.clean, .refl _ _⟩
    | size object =>
        simp only [Session.size] at taken
        split at taken
        · cases taken
          exact sound
        · cases taken
    | cursorBegin => exact sound.cursorOf (fun _ => ⟨rfl, rfl⟩) taken
    | cursorEnd => exact sound.cursorOf (fun _ => ⟨rfl, rfl⟩) taken
    | cursorMove => exact sound.cursorMove taken
    | cursorDeref => exact sound.cursorDeref taken

end Sound

/-- No `expect` has failed: an index out of range throws before a call is made. -/
structure AssertsHold (session : Session Name) : Prop where
  expects : ∀ failure, session.state.failure = some failure ∨ session.failure = some failure →
    failure.isExpect = false
  /-- `at` throws for an index out of range. -/
  thrown : ∀ object shown stamp index,
    session.state.objects.lookup object = some (.view shown stamp) →
    shown.size ≤ index → shown.valueAt session.state.heap index = .ok none
  /-- A cursor throws at a position out of range. -/
  passed : ∀ cursor row, session.cursors.lookup cursor = some row →
    row.cursor.size ≤ row.cursor.pos → row.cursor.deref session.state.heap = .ok none
  /-- No call on an iterator or a view fails at all. -/
  objects : session.state.failure = none
  /-- A cursor fails only if its view is gone. -/
  cursors : ∀ cursor row object, session.cursors.lookup cursor = some row →
    session.state.objects.lookup object = some (.view row.shown row.stamp) →
      session.state.mayRead row.shown row.stamp = true →
        ∃ value, row.cursor.deref session.state.heap = .ok value

section Runs

variable [DecidableEq Name] {names : HeaderNames Name}
  {messages : MessageId → Option (HeaderMap Name)} {session : Session Name}

theorem sound_of_reachable (reached : (calls names messages).Reachable session) :
    Sound session := by
  refine System.Reachable.induction ?_ (fun _ _ _ _ sound taken => sound.step taken) reached
  exact
    { clean := ⟨State.sound_init, rfl, fun _ _ found => by cases found⟩
      cursors := fun _ _ found => by cases found
      failure := .inl rfl }

/-- Whatever calls are made, the assertions of the Rust functions hold. -/
theorem asserts_hold (reached : (calls names messages).Reachable session) :
    AssertsHold session := by
  have sound := sound_of_reachable reached
  exact
    { expects := fun failure failed => by
        rcases failed with object | cursor
        · cases sound.clean.returned.symm.trans object
        · rcases sound.failure with returned | dangles
          · cases returned.symm.trans cursor
          · cases dangles.symm.trans cursor
            rfl
      thrown := fun _ _ _ _ _ beyond => if_pos beyond
      passed := fun _ _ _ beyond => if_pos beyond
      objects := sound.clean.returned
      cursors := fun cursor row object found there may =>
        (sound.cursors cursor row found).deref_of_ok (sound.clean.sound.rows object _ there) may }

/-- A cursor is moved out of the range of its view and read, another is read after its view
is gone. -/
def farAndGone : List Call :=
  [.iterBegin 0 0, .deref 0 1, .cursorBegin 1 0, .cursorMove 0 (.minus 1), .cursorDeref 0,
    .valueAt 1 5, .getHeader 0 [65] 2, .cursorEnd 2 1, .cursorMove 1 .decrement, .cursorDeref 1,
    .advance 0, .getHeader 0 [66] 3, .getHeader 0 [] 3, .size 1, .destroy 1, .destroy 2,
    .cursorDeref 1]

theorem asserts_hold_of_farAndGone :
    ∃ messages : MessageId → Option (HeaderMap Bytes), ∃ session,
      (calls .visible messages).run farAndGone = some session ∧
        session.failure = some .dangling ∧ AssertsHold session := by
  refine ⟨fun _ => some (AList.insert [65] ⟨[[1], [2]], by decide⟩ ∅), ?_⟩
  have evaluated : ((calls .visible fun _ => some (AList.insert [65] ⟨[[1], [2]], by decide⟩ ∅)).run
      farAndGone).map Session.failure = some (some .dangling) := by decide
  obtain ⟨session, run, failure⟩ := Option.map_eq_some_iff.mp evaluated
  exact ⟨session, run, failure, asserts_hold ⟨_, run⟩⟩

end Runs

end Session

end AsyncNats.Headers
