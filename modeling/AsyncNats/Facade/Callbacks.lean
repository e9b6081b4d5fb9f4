import AsyncNats.Facade.Custody

/-! # What the callbacks take over

A callback is given one object: a value or an error. Each callback makes an owner of it, but for
the one of `subcribe`, which does not look at the text of an error.
-/

namespace AsyncNats.Facade

open Sync Ownership Transition

/-- Each reference that came out has an owner or has gone back, none went back twice, and when
there are no objects any more, all have gone back. -/
structure NothingLost (state : State) : Prop where
  owner : ∀ pointer, (Wrappers.holders state.objects).count pointer +
    (state.boundary.ledger.given pointer + state.boundary.ledger.deleted pointer) =
      state.boundary.ledger.made pointer
  clean : state.boundary.ledger.Clean
  finished : state.objects = ∅ → ∀ pointer,
    state.boundary.ledger.given pointer + state.boundary.ledger.deleted pointer =
      state.boundary.ledger.made pointer

/-- What a task passes to a callback has one owner afterwards. -/
def TakesOver (state : State) (event : Event) : Prop :=
  match event with
  | .finish _ _ _ _ | .received _ _ _ =>
    ∀ next, step state event = some next → ∀ pointer, state.boundary.boxes.length ≤ pointer →
      pointer < next.boundary.boxes.length → (Wrappers.holders next.objects).count pointer = 1
  | _ => True

/-- No subscribe task ends with the client's error. It panics on a text that is no C string. -/
def Subscribes (state : State) (event : Event) : Prop :=
  ∀ id text object exception, event = .finish id (.error text) object exception →
    state.tasks.lookup id = some (.operation .subscribe) → 0 ∈ text

theorem stray_of_subscribes {state : State} {event : Event} (subscribes : Subscribes state event) :
    stray state event = [] := by
  unfold stray
  split
  · next id text object exception =>
      exact if_neg fun both => both.2 (subscribes id text object exception rfl both.1)
  · rfl

/-- The only new place is the last one. -/
theorem eq_length_of_lt {boxes : List Kind} {pointer : Pointer} (kind : Kind)
    (fresh : boxes.length ≤ pointer) (made : pointer < (boxes ++ [kind]).length) :
    pointer = boxes.length := by
  rw [List.length_append, List.length_singleton] at made
  exact Nat.le_antisymm (Nat.le_of_lt_succ made) fresh

namespace Sound

variable {lost : List Pointer} {state next : State} {object : ObjectId} {pointer : Pointer}

/-- Nobody holds a box that is not made yet. -/
theorem count_of_fresh (sound : Sound lost state) (fresh : state.boundary.boxes.length ≤ pointer) :
    (Wrappers.holders state.objects).count pointer = 0 := by
  have balanced := sound.accounts.kept.balanced pointer
  rw [sound.accounts.fresh pointer (List.getElem?_eq_none fresh), List.count_append] at balanced
  omega

/-- A new object is the only owner of a new box. -/
theorem count_of_insert (sound : Sound lost state) (fresh : state.objects.lookup object = none)
    (kind : Class) :
    (Wrappers.holders (state.objects.insert object ⟨kind, some state.boundary.boxes.length⟩)).count
      state.boundary.boxes.length = 1 := by
  rw [Wrappers.holders_insert_new fresh, Option.toList_some, List.singleton_append,
    List.count_cons_self, sound.count_of_fresh (Nat.le_refl _)]

theorem takesOver_finished {id : TaskId} {response : Except Bytes Unit} {exception : ObjectId}
    (sound : Sound lost state)
    (subscribes : Subscribes state (.finish id response object exception))
    (finished : Finished state id object exception response next)
    (fresh : state.boundary.boxes.length ≤ pointer)
    (made : pointer < next.boundary.boxes.length) :
    (Wrappers.holders next.objects).count pointer = 1 := by
  cases finished with
  | panicked => exact absurd made (Nat.not_lt.mpr fresh)
  | @value operation found absent =>
      obtain rfl := eq_length_of_lt operation.value.boxed fresh made
      exact sound.count_of_insert absent operation.value
  | @exception operation text found throws absent also distinct =>
      have bound : pointer < (state.boundary.boxes ++ [operation.exception.boxed]).length := by
        cases operation <;> exact made
      obtain rfl := eq_length_of_lt operation.exception.boxed fresh bound
      have still : (state.objects.insert object ⟨operation.value, none⟩).lookup exception = none :=
        (AList.lookup_insert_ne (Ne.symm distinct)).trans also
      have held : ((state.boundary.intoRaw operation.exception.boxed).2.makeExceptionPtr
          operation.exception (some state.boundary.boxes.length)).1 =
            some state.boundary.boxes.length := by
        cases operation <;> rfl
      change (Wrappers.holders (AList.insert exception ⟨operation.exception, _⟩
        (state.objects.insert object ⟨operation.value, none⟩))).count _ = 1
      rw [Wrappers.holders_insert_new still, Wrappers.holders_insert_new absent]
      change ((((state.boundary.intoRaw operation.exception.boxed).2.makeExceptionPtr
        operation.exception (some state.boundary.boxes.length)).1).toList ++
          Wrappers.holders state.objects).count _ = 1
      rw [held, Option.toList_some, List.singleton_append, List.count_cons_self,
        sound.count_of_fresh (Nat.le_refl _)]
  | ignored found noNul => exact absurd (subscribes id _ object exception rfl found) noNul

theorem takesOver {event : Event} (sound : Sound lost state) (subscribes : Subscribes state event) :
    TakesOver state event := by
  cases event with
  | finish =>
      intro next taken pointer fresh made
      cases (step_cases taken).2 with
      | finish finished => exact sound.takesOver_finished subscribes finished fresh made
  | received =>
      intro next taken pointer fresh made
      cases (step_cases taken).2 with
      | received absent =>
          obtain rfl := eq_length_of_lt .message fresh made
          exact sound.count_of_insert absent .message
      | receivedNone => exact absurd made (Nat.not_lt.mpr fresh)
  | _ => trivial

theorem nothingLost (sound : Sound [] state) : NothingLost state := by
  have kept : Kept (Wrappers.holders state.objects) state.boundary.ledger := by
    have kept := sound.accounts.kept
    rw [List.append_nil] at kept
    exact kept
  refine ⟨kept.balanced, kept.clean, fun finished => ?_⟩
  rw [finished] at kept
  exact kept.settled

/-- A string that was lost has no owner. -/
theorem not_nothingLost (sound : Sound (pointer :: lost) state) : ¬ NothingLost state := by
  intro nothing
  have balanced := sound.accounts.kept.balanced pointer
  have owner := nothing.owner pointer
  rw [List.count_append, List.count_cons_self] at balanced
  omega

end Sound

/-- All along a run the callbacks take over what they are given, and all of it goes back,
exactly when no subscription fails. -/
theorem nothingLost_iff_subscribes {events : List Event} {last : State}
    (run : system.run events = some last) :
    (system.Always NothingLost State.init events ∧ system.Meets TakesOver State.init events) ↔
      system.Meets Subscribes State.init events := by
  have kept : ∀ state event next, Sound [] state → Subscribes state event →
      system.step state event = some next → Sound [] next := by
    intro state event next sound subscribes taken
    have after := sound.step (step_cases taken).2
    rw [stray_of_subscribes subscribes] at after
    exact after
  have always : system.Always NothingLost State.init events ↔
      system.Meets Subscribes State.init events := by
    refine System.always_iff_meets (M := system) (Sound []) (fun _ => Sound.nothingLost)
      kept ?_ sound_init run
    intro state event next sound fails taken
    unfold Subscribes at fails
    push Not at fails
    obtain ⟨id, text, object, exception, rfl, found, noNul⟩ := fails
    have stepped : step state (.finish id (.error text) object exception) = some next := taken
    have after := sound.step (step_cases stepped).2
    rw [stray, if_pos ⟨found, noNul⟩] at after
    exact after.not_nothingLost
  refine ⟨fun both => always.mp both.1, fun meets => ⟨always.mpr meets, ?_⟩⟩
  exact System.Meets.imp kept (fun _ _ sound subscribes => sound.takesOver subscribes) sound_init
    meets

/-- A subscription fails, and all objects are destroyed. -/
theorem not_nothingLost_of_subscribe :
    ¬ ∀ events last, system.run events = some last →
      system.Always NothingLost State.init events ∧
        system.Meets TakesOver State.init events := by
  intro always
  have evaluated :
      (system.run
        [.construct 0 .connectionOptions, .start 0 .connect, .finish 0 (.ok ()) 1 2,
          .start 1 .subscribe, .finish 1 (.error [0x65]) 2 3, .destroy 0, .destroy 1,
          .destroy 2]).map
            (fun state => (state.objects.entries, state.boundary.ledger.made 2,
              state.boundary.ledger.given 2, state.boundary.ledger.deleted 2)) =
        some ([], 1, 0, 0) := by decide
  obtain ⟨last, run, values⟩ := Option.map_eq_some_iff.mp evaluated
  simp only [Prod.mk.injEq] at values
  obtain ⟨objects, made, given, deleted⟩ := values
  have finished := ((always _ last run).1.last run).finished (AList.ext objects) 2
  rw [made, given, deleted] at finished
  cases finished

/-- Each operation once with a value and, but for the subscription, once with an error. -/
def eachOperation : List Event :=
  [.construct 0 .connectionOptions, .start 0 .connect, .start 0 .connect,
    .finish 0 (.error [0x65]) 1 2, .finish 1 (.ok ()) 3 4, .start 3 .subscribe,
    .finish 2 (.ok ()) 4 5, .receive 4, .received 3 true 5, .copyConstruct 5 6,
    .start 3 .request, .construct 7 .requestBuilder, .sendRequest 3 7,
    .finish 5 (.error [0x65]) 8 9, .finish 4 (.ok ()) 10 11, .copyConstruct 9 11, .receive 4,
    .received 6 false 12]

theorem nothingLost_iff_subscribes_of_operations :
    ∃ last, system.run eachOperation = some last ∧
      ((system.Always NothingLost State.init eachOperation ∧
          system.Meets TakesOver State.init eachOperation) ↔
        system.Meets Subscribes State.init eachOperation) := by
  have evaluated : (system.run eachOperation).isSome = true := by decide
  obtain ⟨last, run⟩ := Option.isSome_iff_exists.mp evaluated
  exact ⟨last, run, nothingLost_iff_subscribes run⟩

end AsyncNats.Facade
