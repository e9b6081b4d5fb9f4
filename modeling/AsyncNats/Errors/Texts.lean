import AsyncNats.Errors.Basic
import AsyncNats.Shared.Counting

/-! # Kept texts

An object keeps the text it was asked for. The move members carry the text along with the
pointer and the copy constructor starts without one, but the copy assignment replaces the
error and leaves the text of the old one, or the empty string object that a move has left.
-/

namespace AsyncNats.Errors

open Sync Ownership Transition

variable {Error : Type} {client : ClientErrors Error} {state next : State Error}
  {event : Event Error}

/-- An object is of one of the two classes, and what it keeps is the text of its error. -/
structure Keeps (client : ClientErrors Error) (errors : List Error) (str : Cache)
    (wrapper : Wrapper Shared.Class) : Prop where
  kind : wrapper.kind = .connectionError ∨ wrapper.kind = .requestError
  text : ∀ pointer ∈ wrapper.raw, ∀ kept ∈ str, ∃ text error,
    kept = some text ∧ errors[pointer]? = some error ∧ text.1 = client.describe error

namespace Keeps

variable {errors : List Error} {str : Cache} {wrapper : Wrapper Shared.Class}

/-- Nothing is kept. -/
theorem nothing (kind : wrapper.kind = .connectionError ∨ wrapper.kind = .requestError) :
    Keeps client errors none wrapper where
  kind := kind
  text := fun _ _ _ kept => by cases kept

/-- Any text will do for an object that was moved from. -/
theorem moved (keeps : Keeps client errors str wrapper) (after : Cache) :
    Keeps client errors after { wrapper with raw := none } where
  kind := keeps.kind
  text := fun _ held => by cases held

theorem grow (keeps : Keeps client errors str wrapper) (more : List Error) :
    Keeps client (errors ++ more) str wrapper where
  kind := keeps.kind
  text := fun pointer held kept member => by
    obtain ⟨text, error, same, stored, described⟩ := keeps.text pointer held kept member
    refine ⟨text, error, same, ?_, described⟩
    rw [List.getElem?_append_left (List.getElem?_eq_some_iff.mp stored).1, stored]

end Keeps

/-- The counters are right, each pointer has its error, and the objects keep the right texts. -/
structure Sound (client : ClientErrors Error) (state : State Error) : Prop where
  shares : Shared.Shares state.shared
  errors : state.errors.length = state.shared.created
  rows : ∀ object wrapper, state.shared.objects.lookup object = some wrapper →
    Keeps client state.errors (state.str object) wrapper

/-- An object that is assigned a copy of another one keeps no text, or one that is the text
of the other's error too. -/
def AssignsFresh (client : ClientErrors Error) (state : State Error) (event : Event Error) :
    Prop :=
  ∀ target source error kept, event = .copyAssign target source → target ≠ source →
    state.error source = some error → state.str target = some kept →
      ∃ text, kept = some text ∧ text.1 = client.describe error

namespace Sound

/-- The pointer of an object is the pointer of an error. -/
theorem error_of_raw (sound : Sound client state) {object : ObjectId} {pointer : Pointer}
    (held : Wrappers.raw state.shared.objects object = some pointer) :
    ∃ error, state.errors[pointer]? = some error ∧ state.error object = some error := by
  obtain ⟨wrapper, found, same⟩ := Option.bind_eq_some_iff.mp held
  have member := Wrappers.mem_holders found pointer same
  have live := sound.shares.counted.lookup_of_mem member
  have bound : pointer < state.errors.length := by
    rw [sound.errors]
    exact sound.shares.created pointer member
  refine ⟨state.errors[pointer], List.getElem?_eq_getElem bound, ?_⟩
  rw [State.error, held, Option.bind_some, live, Option.bind_some,
    List.getElem?_eq_getElem bound]

theorem construct (sound : Sound client state) {object : ObjectId} {kind : Shared.Class}
    {error : Error} (taken : state.construct object kind error = some next) :
    Sound client next := by
  simp only [State.construct, Option.ite_none_right_eq_some, Option.map_eq_some_iff] at taken
  obtain ⟨classes, shared, constructed, rfl⟩ := taken
  have taken : Shared.step state.shared (.construct object kind) = some shared := constructed
  have shares := sound.shares.of_step taken
  simp only [Shared.State.construct, Option.ite_none_right_eq_some, Option.some.injEq]
    at constructed
  obtain ⟨_, rfl⟩ := constructed
  refine ⟨shares, ?_, fun other wrapper found => ?_⟩
  · rw [List.length_append, sound.errors, List.length_singleton]
  · rcases Table.lookup_of_insert found with ⟨rfl, rfl⟩ | ⟨distinct, old⟩
    · simp only [Function.update_self]
      exact .nothing classes
    · simp only [Function.update_of_ne distinct]
      exact (sound.rows other wrapper old).grow _

theorem copyConstruct (sound : Sound client state) {source object : ObjectId}
    (taken : state.copyConstruct source object = some next) : Sound client next := by
  simp only [State.copyConstruct, Option.map_eq_some_iff] at taken
  obtain ⟨shared, constructed, rfl⟩ := taken
  have taken : Shared.step state.shared (.copyConstruct source object) = some shared := constructed
  have shares := sound.shares.of_step taken
  simp only [Shared.State.copyConstruct] at constructed
  split at constructed
  · next wrapper fresh found =>
      obtain ⟨counters, cloned, rfl⟩ := Option.map_eq_some_iff.mp constructed
      refine ⟨shares, sound.errors, fun other row there => ?_⟩
      rcases Table.lookup_of_insert there with ⟨rfl, rfl⟩ | ⟨distinct, old⟩
      · simp only [Function.update_self]
        exact .nothing (sound.rows source row found).kind
      · simp only [Function.update_of_ne distinct]
        exact sound.rows other row old
  · cases constructed

/-- The text goes where the pointer goes. -/
theorem move (sound : Sound client state) {source target : ObjectId} {shared : Shared.State}
    {wrapper : Wrapper Shared.Class} (found : state.shared.objects.lookup source = some wrapper)
    (shares : Shared.Shares shared) (created : shared.created = state.shared.created)
    (objects : shared.objects = Wrappers.move state.shared.objects source target) :
    Sound client { state with shared, str := moveStr state.str source target } where
  shares := shares
  errors := sound.errors.trans created.symm
  rows := fun other row there => by
    have keeps := sound.rows source wrapper found
    simp only [objects] at there
    rcases Wrappers.lookup_of_move found there with
      ⟨rfl, rfl⟩ | ⟨notSource, rfl, rfl⟩ | ⟨notSource, notTarget, old⟩
    · exact keeps.moved _
    · simp only [moveStr, Function.update_of_ne notSource, Function.update_self]
      exact keeps
    · simp only [moveStr, Function.update_of_ne notSource, Function.update_of_ne notTarget]
      exact sound.rows other row old

theorem moveConstruct (sound : Sound client state) {source object : ObjectId}
    (taken : state.moveConstruct source object = some next) : Sound client next := by
  simp only [State.moveConstruct, Option.map_eq_some_iff] at taken
  obtain ⟨shared, constructed, rfl⟩ := taken
  have taken : Shared.step state.shared (.moveConstruct source object) = some shared := constructed
  have shares := sound.shares.of_step taken
  simp only [Shared.State.moveConstruct] at constructed
  split at constructed
  · next wrapper fresh found =>
      cases constructed
      exact sound.move found shares rfl rfl
  · cases constructed

theorem moveAssign (sound : Sound client state) {target source : ObjectId}
    (taken : state.moveAssign target source = some next) : Sound client next := by
  simp only [State.moveAssign, Option.map_eq_some_iff] at taken
  obtain ⟨shared, assigned, rfl⟩ := taken
  have taken : Shared.step state.shared (.moveAssign target source) = some shared := assigned
  have shares := sound.shares.of_step taken
  simp only [Shared.State.moveAssign] at assigned
  split at assigned
  · next kind raw wrapper found given =>
      rw [Option.ite_none_left_eq_some] at assigned
      obtain ⟨_, assigned⟩ := assigned
      by_cases same : target = source
      · rw [if_pos same] at assigned
        cases assigned
        simp only [if_pos same]
        exact sound
      · rw [if_neg same] at assigned
        obtain ⟨counters, released, rfl⟩ := Option.map_eq_some_iff.mp assigned
        simp only [if_neg same]
        exact sound.move given shares rfl rfl
  · cases assigned

/-- What a copy assignment comes to. -/
theorem copyAssign_cases (sound : Sound client state) {target source : ObjectId}
    (taken : state.copyAssign target source = some next) :
    (target = source ∧ next = state) ∨ (target ≠ source ∧ ∃ pointer wrapper error,
      state.shared.objects.lookup source = some wrapper ∧ wrapper.raw = some pointer ∧
      state.errors[pointer]? = some error ∧ state.error source = some error ∧
      Shared.Shares next.shared ∧ next.shared.created = state.shared.created ∧
      next.shared.objects = state.shared.objects.insert target wrapper ∧
      next.errors = state.errors ∧ next.str = state.str) := by
  simp only [State.copyAssign, Option.map_eq_some_iff] at taken
  obtain ⟨shared, assigned, rfl⟩ := taken
  have taken : Shared.step state.shared (.copyAssign target source) = some shared := assigned
  have shares := sound.shares.of_step taken
  simp only [Shared.State.copyAssign] at assigned
  split at assigned
  · next kind raw wrapper found given =>
      rw [Option.ite_none_left_eq_some] at assigned
      obtain ⟨_, assigned⟩ := assigned
      by_cases same : target = source
      · rw [if_pos same] at assigned
        cases assigned
        exact .inl ⟨same, rfl⟩
      · rw [if_neg same, Option.bind_eq_some_iff] at assigned
        obtain ⟨released, _, mapped⟩ := assigned
        obtain ⟨counters, cloned, rfl⟩ := Option.map_eq_some_iff.mp mapped
        have copied := Shared.copyable_of_clone cloned
        have held : wrapper.raw ≠ none := by
          obtain ⟨kind, raw⟩ := wrapper
          rcases (sound.rows source _ given).kind with rfl | rfl <;> exact copied
        obtain ⟨pointer, held⟩ := Option.ne_none_iff_exists'.mp held
        obtain ⟨error, stored, behind⟩ :=
          sound.error_of_raw ((Wrappers.raw_of_lookup given).trans held)
        exact .inr ⟨same, pointer, wrapper, error, given, held, stored, behind, shares, rfl, rfl,
          rfl, rfl⟩
  · cases assigned

theorem copyAssign (sound : Sound client state) {target source : ObjectId}
    (allowed : AssignsFresh client state (.copyAssign target source))
    (taken : state.copyAssign target source = some next) : Sound client next := by
  rcases sound.copyAssign_cases taken with
    ⟨_, rfl⟩ | ⟨distinct, pointer, wrapper, error, given, held, stored, behind, shares, created,
      objects, errors, str⟩
  · exact sound
  · refine ⟨shares, by rw [errors, created, sound.errors], fun other row there => ?_⟩
    rw [objects] at there
    rw [errors, str]
    rcases Table.lookup_of_insert there with ⟨rfl, rfl⟩ | ⟨_, old⟩
    · refine ⟨(sound.rows source row given).kind, fun same holds kept member => ?_⟩
      cases held.symm.trans holds
      obtain ⟨text, fresh, described⟩ := allowed other source error kept rfl distinct behind member
      exact ⟨text, error, fresh, stored, described⟩
    · exact sound.rows other row old

/-- `what()` keeps the text of the error. -/
theorem what_cases (sound : Sound client state) (noNul : ∀ error, 0 ∉ client.describe error)
    {object : ObjectId} {wrapper : Wrapper Shared.Class} {pointer : Pointer}
    (found : state.shared.objects.lookup object = some wrapper)
    (held : wrapper.raw = some pointer) :
    ∃ error text, state.errors[pointer]? = some error ∧ state.error object = some error ∧
      text.1 = client.describe error ∧ state.what client object =
        some (some text,
          { state with str := Function.update state.str object (some (some text)) }) := by
  have raw := (Wrappers.raw_of_lookup found).trans held
  obtain ⟨error, stored, behind⟩ := sound.error_of_raw raw
  cases kept : state.str object with
  | some cache =>
      obtain ⟨text, other, rfl, again, described⟩ :=
        (sound.rows object wrapper found).text pointer held cache kept
      cases stored.symm.trans again
      refine ⟨error, text, stored, behind, described, ?_⟩
      simp only [State.what, raw, kept]
      rw [Function.update_eq_self_iff.mpr kept.symm]
  | none =>
      refine ⟨error, ⟨client.describe error, noNul error⟩, stored, behind, rfl, ?_⟩
      simp only [State.what, raw, kept, behind, Option.bind_some, Operations.cstringNew,
        dif_pos (noNul error), Option.map_some]

theorem what (sound : Sound client state) (noNul : ∀ error, 0 ∉ client.describe error)
    {object : ObjectId} {result : Option CString}
    (taken : state.what client object = some (result, next)) : Sound client next := by
  cases raw : Wrappers.raw state.shared.objects object with
  | none => simp only [State.what, raw, reduceCtorEq] at taken
  | some pointer =>
      obtain ⟨wrapper, found, held⟩ := Option.bind_eq_some_iff.mp raw
      obtain ⟨error, text, stored, _, described, returned⟩ := sound.what_cases noNul found held
      cases taken.symm.trans returned
      refine ⟨sound.shares, sound.errors, fun other row there => ?_⟩
      by_cases same : other = object
      · subst same
        cases found.symm.trans there
        simp only [Function.update_self]
        refine ⟨(sound.rows other wrapper found).kind, fun again holds kept member => ?_⟩
        cases held.symm.trans holds
        cases member
        exact ⟨text, error, rfl, stored, described⟩
      · simp only [Function.update_of_ne same]
        exact sound.rows other row there

theorem destroy (sound : Sound client state) {object : ObjectId}
    (taken : state.destroy object = some next) : Sound client next := by
  simp only [State.destroy, Option.map_eq_some_iff] at taken
  obtain ⟨shared, destroyed, rfl⟩ := taken
  have taken : Shared.step state.shared (.destroy object) = some shared := destroyed
  have shares := sound.shares.of_step taken
  simp only [Shared.State.destroy] at destroyed
  split at destroyed
  · next found =>
      obtain ⟨counters, released, rfl⟩ := Option.map_eq_some_iff.mp destroyed
      refine ⟨shares, sound.errors, fun other row there => ?_⟩
      obtain ⟨distinct, old⟩ := Table.lookup_of_erase there
      simp only [Function.update_of_ne distinct]
      exact sound.rows other row old
  · cases destroyed

theorem step (sound : Sound client state) (noNul : ∀ error, 0 ∉ client.describe error)
    (allowed : AssignsFresh client state event)
    (taken : Errors.step client state event = some next) : Sound client next := by
  cases event with
  | construct => exact sound.construct taken
  | copyConstruct => exact sound.copyConstruct taken
  | moveConstruct => exact sound.moveConstruct taken
  | copyAssign => exact sound.copyAssign allowed taken
  | moveAssign => exact sound.moveAssign taken
  | kind object =>
      obtain ⟨_, _, rfl⟩ := Option.map_eq_some_iff.mp taken
      exact sound
  | what object =>
      obtain ⟨⟨result, after⟩, returned, rfl⟩ := Option.map_eq_some_iff.mp taken
      exact sound.what noNul returned
  | destroy => exact sound.destroy taken

end Sound

/-- Every object that was not moved from has an error, `kind()` returns its kind, and `what()`
returns its text. -/
def TextMatches (client : ClientErrors Error) (state : State Error) : Prop :=
  ∀ object wrapper, state.shared.objects.lookup object = some wrapper → wrapper.raw ≠ none →
    ∃ error kind text next, state.error object = some error ∧
      client.kind error wrapper.kind = some kind ∧ state.kind client object = some kind ∧
      state.what client object = some (some text, next) ∧ text.1 = client.describe error

theorem Sound.textMatches (sound : Sound client state)
    (noNul : ∀ error, 0 ∉ client.describe error) : TextMatches client state := by
  intro object wrapper found held
  obtain ⟨pointer, held⟩ := Option.ne_none_iff_exists'.mp held
  obtain ⟨error, text, _, behind, described, returned⟩ := sound.what_cases noNul found held
  have kinds : ∃ kind, client.kind error wrapper.kind = some kind := by
    rcases (sound.rows object wrapper found).kind with same | same <;> rw [same] <;>
      exact ⟨_, rfl⟩
  obtain ⟨kind, reads⟩ := kinds
  refine ⟨error, kind, text, _, behind, reads, ?_, returned, described⟩
  simp only [State.kind, found, behind, Option.bind_some, reads]

/-- The error that an object's pointer leads to. -/
theorem stored_of_error {object : ObjectId} {pointer : Pointer} {error : Error}
    (held : Wrappers.raw state.shared.objects object = some pointer)
    (behind : state.error object = some error) : state.errors[pointer]? = some error := by
  simp only [State.error, held, Option.bind_some, Option.bind_eq_some_iff] at behind
  obtain ⟨_, _, stored⟩ := behind
  exact stored

/-- A copy assignment that leaves a wrong text makes `what()` wrong. -/
theorem Sound.stale_of_copyAssign (sound : Sound client state) {target source : ObjectId}
    {error : Error} {kept : Option CString} (distinct : target ≠ source)
    (behind : state.error source = some error) (cached : state.str target = some kept)
    (wrong : ∀ text, kept = some text → text.1 ≠ client.describe error)
    (taken : state.copyAssign target source = some next) : ¬ TextMatches client next := by
  intro matching
  rcases sound.copyAssign_cases taken with
    ⟨same, _⟩ | ⟨_, pointer, wrapper, copied, given, held, stored, also, _, _, objects, errors, str⟩
  · exact distinct same
  · cases behind.symm.trans also
    have there : next.shared.objects.lookup target = some wrapper := by
      rw [objects, AList.lookup_insert]
    have raw := (Wrappers.raw_of_lookup there).trans held
    obtain ⟨other, _, text, _, behind, _, _, returned, described⟩ :=
      matching target wrapper there (Option.ne_none_iff_exists'.mpr ⟨pointer, held⟩)
    have again := stored_of_error raw behind
    rw [errors, stored, Option.some.injEq] at again
    subst again
    simp only [State.what, raw, str, cached, Option.some.injEq, Prod.mk.injEq] at returned
    exact wrong text returned.1 described

section Runs

variable {last : State Error}

/-- All along a run `what()` matches `kind()` exactly when no copy assignment leaves a kept text
that is not the text of the new error. -/
theorem textMatches_iff_assignsFresh (noNul : ∀ error, 0 ∉ client.describe error)
    {events : List (Event Error)} (run : (system client).run events = some last) :
    (system client).Always (TextMatches client) State.init events ↔
      (system client).Meets (AssignsFresh client) State.init events := by
  refine System.always_iff_meets (M := system client) (Sound client)
    (fun _ sound => sound.textMatches noNul)
    (fun _ _ _ sound allowed taken => sound.step noNul allowed taken) ?_ ?_ run
  · intro state event next sound stale taken matching
    unfold AssignsFresh at stale
    push Not at stale
    obtain ⟨target, source, error, kept, rfl, distinct, behind, cached, wrong⟩ := stale
    exact sound.stale_of_copyAssign distinct behind cached wrong taken matching
  · refine ⟨⟨fun pointer => rfl, fun pointer member => (List.not_mem_nil member).elim⟩, rfl, ?_⟩
    intro object wrapper found
    cases found

/-- A client whose errors are their texts. -/
def ClientErrors.texts : ClientErrors CString where
  describe := Subtype.val
  connectKind := fun _ => .io
  requestKind := fun _ => .other

/-- The text of an object's error is asked for, and then the object is assigned a copy of
another one. -/
theorem not_textMatches_of_copyAssign :
    ¬ ∀ state, (system ClientErrors.texts).Reachable state →
      TextMatches ClientErrors.texts state := by
  have evaluated :
      ((system ClientErrors.texts).run
        [.construct 0 .connectionError ⟨[0x61], by decide⟩,
          .construct 1 .connectionError ⟨[0x62], by decide⟩, .what 0, .copyAssign 0 1]).map
            (fun state => (state.error 0, (state.what ClientErrors.texts 0).map Prod.fst)) =
        some (some ⟨[0x62], by decide⟩, some (some ⟨[0x61], by decide⟩)) := by decide
  obtain ⟨state, run, values⟩ := Option.map_eq_some_iff.mp evaluated
  simp only [Prod.mk.injEq, Option.map_eq_some_iff] at values
  obtain ⟨behind, ⟨result, after⟩, returned, stale⟩ := values
  obtain ⟨pointer, held, _⟩ := Option.bind_eq_some_iff.mp behind
  obtain ⟨wrapper, found, held⟩ := Option.bind_eq_some_iff.mp held
  intro always
  obtain ⟨error, _, text, _, also, _, _, again, described⟩ :=
    always state ⟨_, run⟩ 0 wrapper found (Option.ne_none_iff_exists'.mpr ⟨pointer, held⟩)
  cases behind.symm.trans also
  cases returned.symm.trans again
  cases stale
  revert described
  decide

/-- Copies, moves and assignments between four objects, with a text that goes along. -/
theorem textMatches_iff_assignsFresh_of_moves :
    ∃ state,
      (system ClientErrors.texts).run
        [.construct 0 .requestError ⟨[0x61], by decide⟩,
          .construct 1 .requestError ⟨[0x62], by decide⟩, .what 0, .moveConstruct 0 2,
          .copyConstruct 2 3, .moveAssign 1 2, .copyAssign 3 1, .kind 3, .what 3] = some state ∧
      ((system ClientErrors.texts).Always (TextMatches ClientErrors.texts) State.init
          [.construct 0 .requestError ⟨[0x61], by decide⟩,
            .construct 1 .requestError ⟨[0x62], by decide⟩, .what 0, .moveConstruct 0 2,
            .copyConstruct 2 3, .moveAssign 1 2, .copyAssign 3 1, .kind 3, .what 3] ↔
        (system ClientErrors.texts).Meets (AssignsFresh ClientErrors.texts) State.init
          [.construct 0 .requestError ⟨[0x61], by decide⟩,
            .construct 1 .requestError ⟨[0x62], by decide⟩, .what 0, .moveConstruct 0 2,
            .copyConstruct 2 3, .moveAssign 1 2, .copyAssign 3 1, .kind 3, .what 3]) := by
  have evaluated :
      ((system ClientErrors.texts).run
        [.construct 0 .requestError ⟨[0x61], by decide⟩,
          .construct 1 .requestError ⟨[0x62], by decide⟩, .what 0, .moveConstruct 0 2,
          .copyConstruct 2 3, .moveAssign 1 2, .copyAssign 3 1, .kind 3, .what 3]).isSome =
        true := by
    decide
  obtain ⟨state, run⟩ := Option.isSome_iff_exists.mp evaluated
  exact ⟨state, run, textMatches_iff_assignsFresh (fun error => error.2) run⟩

end Runs

end AsyncNats.Errors
