import AsyncNats.OwnedStrings.Basic

/-! # The sizes of the deleted strings

Every pointer is deleted at most once and while its block is live, whoever deletes it. But the
delete takes it for a box of one `c_char`, so a block comes back with the size it was taken with
if and only if there is nothing in it but the terminator.
-/

namespace AsyncNats.OwnedStrings

open Ownership Sync Transition

variable {heap after : Heap} {s : Pointer} {state next : State} {event : Event}
  {holders : List Pointer}

/-- Everything that can be deleted is a live block of its own. -/
abbrev Sound (state : State) : Prop := Held state.holders state.heap

/-- A pointer that is held can be deleted, and then it is not held any more. -/
theorem deleteUnlessNull_of_held {handle : Option Pointer}
    (held : Held (handle.toList ++ holders) heap) :
    ∃ after, deleteUnlessNull heap handle = some after ∧ Held holders after := by
  cases handle with
  | none => exact ⟨heap, rfl, held⟩
  | some s => exact held.release sizeOfCChar

/-- What a step comes to, with the pointer that it deletes: a string comes out, pointers go from
one holder to another, or one of them is deleted. -/
inductive Comes (state : State) : Option Pointer → State → Prop where
  | handed (cstring : CString) :
      Comes state none
        { state with
          heap := (state.heap.alloc cstring).2
          raw := (state.heap.alloc cstring).1 :: state.raw }
  | passed {next : State} (same : next.heap = state.heap)
      (kept : state.holders.Perm next.holders) : Comes state none next
  | deleted {handle : Option Pointer} {next : State}
      (gone : deleteUnlessNull state.heap handle = some next.heap)
      (parted : state.holders.Perm (handle.toList ++ next.holders)) : Comes state handle next

/-- The five functions do the same with their texts. -/
theorem comes_of_obtain {text : RustString}
    (obtained : state.obtain (stringToOwnedString state.heap text) = some next) :
    Comes state none next := by
  obtain ⟨made, handed, rfl⟩ := Option.map_eq_some_iff.mp obtained
  obtain ⟨cstring, _, rfl, _⟩ := stringToOwnedString_cases handed
  exact .handed cstring

theorem comes_of_construct {object : ObjectId} {handle : Option Pointer}
    (constructed : state.construct object handle = some next) : Comes state none next := by
  unfold State.construct at constructed
  split at constructed
  · next allowed =>
    cases constructed
    refine .passed rfl ?_
    simp only [State.holders, Wrappers.holders_insert_new allowed.1]
    cases handle with
    | none => exact .refl _
    | some pointer =>
        rw [← List.append_assoc]
        apply List.Perm.append_right
        exact (List.perm_cons_erase (allowed.2 pointer rfl)).trans
          (List.perm_append_singleton _ _).symm
  · cases constructed

theorem comes_of_moveConstruct {source object : ObjectId}
    (moved : state.moveConstruct source object = some next) : Comes state none next := by
  unfold State.moveConstruct at moved
  split at moved
  · next fresh found =>
    cases moved
    exact .passed rfl ((Wrappers.holders_move_new found fresh).symm.append_left _)
  · cases moved

/-- The target deletes what it held, unless it is its own source. -/
theorem comes_of_moveAssign {target source : ObjectId}
    (moved : state.moveAssign target source = some next) :
    Comes state (state.deletes (.moveAssign target source)) next := by
  unfold State.moveAssign at moved
  split at moved
  · next wrapper row there found =>
    split at moved
    · next same =>
      cases moved
      rw [State.deletes, if_pos same]
      exact .passed rfl (.refl _)
    · next distinct =>
      obtain ⟨heap, deleted, rfl⟩ := Option.map_eq_some_iff.mp moved
      have raw := Wrappers.raw_of_lookup there
      have parted := Wrappers.holders_move found (Ne.symm distinct)
      rw [raw] at parted
      rw [State.deletes, if_neg distinct, raw]
      exact .deleted deleted
        ((parted.symm.append_left _).trans (List.perm_append_comm_assoc _ _ _))
  · cases moved

theorem comes_of_destroy {object : ObjectId} (destroyed : state.destroy object = some next) :
    Comes state (state.deletes (.destroy object)) next := by
  unfold State.destroy at destroyed
  split at destroyed
  · next wrapper found =>
    obtain ⟨heap, deleted, rfl⟩ := Option.map_eq_some_iff.mp destroyed
    have raw := Wrappers.raw_of_lookup found
    have parted := Wrappers.holders_perm state.objects object
    rw [raw] at parted
    rw [State.deletes, raw]
    exact .deleted deleted ((parted.append_left _).trans (List.perm_append_comm_assoc _ _ _))
  · cases destroyed

theorem comes_of_delete (deleted : state.delete s = some next) : Comes state (some s) next := by
  unfold State.delete at deleted
  split at deleted
  · next held =>
    obtain ⟨heap, gone, rfl⟩ := Option.map_eq_some_iff.mp deleted
    exact .deleted gone ((List.perm_cons_erase held).append_right _)
  · cases deleted

theorem step_comes (stepped : step state event = some next) :
    Comes state (state.deletes event) next := by
  cases event with
  | mailbox inbox => exact comes_of_obtain stepped
  | connectionErrorDescribtion err => exact comes_of_obtain stepped
  | requestErrorDescribtion err => exact comes_of_obtain stepped
  | messageToString msg => exact comes_of_obtain stepped
  | subscribeError e =>
      rw [step, subscribeError_eq] at stepped
      exact comes_of_obtain stepped
  | construct object s => exact comes_of_construct stepped
  | moveConstruct source object => exact comes_of_moveConstruct stepped
  | moveAssign target source => exact comes_of_moveAssign stepped
  | destroy object => exact comes_of_destroy stepped
  | delete s => exact comes_of_delete stepped

theorem Sound.step (sound : Sound state) (stepped : OwnedStrings.step state event = some next) :
    Sound next := by
  have comes := step_comes stepped
  generalize state.deletes event = handle at comes
  cases comes with
  | handed cstring => exact sound.alloc cstring
  | passed same kept =>
      unfold Sound
      rw [same]
      exact sound.perm kept
  | deleted gone parted =>
      obtain ⟨after, again, held⟩ := deleteUnlessNull_of_held (sound.perm parted)
      cases gone.symm.trans again
      exact held

/-- Nothing is deleted twice, and nothing that is still held is gone. -/
theorem sound_of_reachable (reached : system.Reachable state) : Sound state :=
  System.Reachable.induction Held.empty (fun _ _ _ _ sound stepped => sound.step stepped) reached

/-- If the event deletes a string, it is an empty one. -/
def DeletesEmpty (state : State) (event : Event) : Prop :=
  ∀ s ∈ state.deletes event, ∀ text, state.heap.blocks.lookup s = some text → text.1 = []

/-- A box of one `c_char` is as large as the terminator. -/
theorem sizeOfCChar_eq_iff {text : CString} : sizeOfCChar = allocatedSize text ↔ text.1 = [] := by
  rw [allocatedSize_eq, sizeOfCChar, ← List.length_eq_zero_iff]
  omega

/-- Every block that has come back came back with the size it was allocated with. -/
def Matched (state : State) : Prop := state.heap.Matched allocatedSize

instance decidableMatched (state : State) : Decidable (Matched state) :=
  inferInstanceAs (Decidable (state.heap.Matched allocatedSize))

/-- The blocks match after a step if they did before and the step deletes nothing that is not
empty. -/
theorem matched_step_iff (stepped : step state event = some next) :
    Matched next ↔ Matched state ∧ DeletesEmpty state event := by
  have comes := step_comes stepped
  unfold DeletesEmpty
  cases goes : state.deletes event with
  | none =>
      rw [goes] at comes
      have same : Matched next ↔ Matched state := by
        cases comes with
        | handed cstring => exact Iff.rfl
        | passed same kept => exact iff_of_eq (congrArg (Allocator.Matched allocatedSize) same)
        | deleted gone parted =>
            exact iff_of_eq (congrArg (Allocator.Matched allocatedSize) (Option.some.inj gone).symm)
      exact same.trans (and_iff_left fun s deleted => by cases deleted).symm
  | some s =>
      rw [goes] at comes
      cases comes with
      | deleted gone parted =>
          unfold Matched
          rw [Allocator.matched_release gone]
          simp only [sizeOfCChar_eq_iff, Option.mem_some_iff, forall_eq']

/-- All along a run, the blocks come back with the sizes they were allocated with if and only if
nothing but empty strings is deleted in it. -/
theorem matched_iff_deletesEmpty {events : List Event} {last : State}
    (run : system.run events = some last) :
    system.Always Matched State.init events ↔ system.Meets DeletesEmpty State.init events := by
  refine System.always_iff_meets Matched (fun _ matched => matched) ?_ ?_
    (Allocator.matched_empty allocatedSize) run
  · intro state event next matched empty stepped
    exact (matched_step_iff stepped).mpr ⟨matched, empty⟩
  · intro state event next _ full stepped matched
    exact full ((matched_step_iff stepped).mp matched).2

/-- The text of an error that is empty goes back as it was taken. -/
theorem matched_iff_deletesEmpty_of_empty :
    system.Always Matched State.init
        [.connectionErrorDescribtion [], .construct 0 (some 0), .destroy 0] ↔
      system.Meets DeletesEmpty State.init
        [.connectionErrorDescribtion [], .construct 0 (some 0), .destroy 0] := by
  obtain ⟨last, run⟩ := Option.isSome_iff_exists.mp (show (system.run
    [.connectionErrorDescribtion [], .construct 0 (some 0), .destroy 0]).isSome = true by decide)
  exact matched_iff_deletesEmpty run

/-- The description `timed out` is taken as ten bytes, and its `OwnedString` gives one back. -/
theorem not_matched_of_describtion :
    ¬ ∀ events last, system.run events = some last → Matched last := by
  intro always
  have broken : (system.run
      [.connectionErrorDescribtion ['t', 'i', 'm', 'e', 'd', ' ', 'o', 'u', 't'],
        .construct 0 (some 0), .destroy 0]).map (fun last => decide (Matched last)) =
          some false := by decide
  obtain ⟨last, run, wrong⟩ := Option.map_eq_some_iff.mp broken
  exact of_decide_eq_false wrong (always _ last run)

end AsyncNats.OwnedStrings
