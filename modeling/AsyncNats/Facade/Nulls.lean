import AsyncNats.Facade.Steps
import AsyncNats.Headers.View

/-! # No function is called with null

A `Message` checks for null before it is copied. The copy members of the other classes, the
constructors from the pointer of another object, and the members of `HeadersView` that ask for
headers pass on what they find.
-/

namespace AsyncNats.Facade

open Sync Ownership Transition

/-- An object that is copied is not null, or a message. -/
def CopiesHeld (state : State) (source : ObjectId) : Prop :=
  ∀ wrapper, state.objects.lookup source = some wrapper → wrapper.kind ≠ .message →
    wrapper.raw ≠ none

/-- A pointer that goes unchecked into a Rust function is not null. -/
def Guarded (state : State) : Event → Prop
  | .sender source _ | .getCancellationToken source _ | .receiver source _ =>
      Wrappers.raw state.objects source ≠ none
  | .copyConstruct source _ => CopiesHeld state source
  | .copyAssign target source => target ≠ source → CopiesHeld state source
  | .operatorBool view => Wrappers.raw state.objects view ≠ none
  | .getHeader view header => header.isEmpty = false → Wrappers.raw state.objects view ≠ none
  | _ => True

/-! No null goes into a function of the boundary exactly if none went in before and the handle
is not null, or checked. -/

namespace Boundary

variable {boundary : Boundary} {raw : Option Pointer}

theorem noNull_record {entry : Entry} : (boundary.record entry).ledger.NoNull ↔
    boundary.ledger.NoNull ∧ entry.handle ≠ some none := Ledger.noNull_concat

theorem noNull_lend : (boundary.record (.lent raw)).ledger.NoNull ↔
    boundary.ledger.NoNull ∧ raw ≠ none := by
  rw [noNull_record, Entry.handle, ne_eq, Option.some.injEq]

theorem noNull_intoRaw (kind : Kind) :
    (boundary.intoRaw kind).2.ledger.NoNull ↔ boundary.ledger.NoNull := by
  rw [intoRaw, Ledger.noNull_concat, and_iff_left]
  intro same
  cases same

theorem noNull_respond (kind : Kind) :
    (boundary.respond raw kind).2.ledger.NoNull ↔ boundary.ledger.NoNull := by
  cases raw with
  | none => exact Iff.rfl
  | some pointer => exact noNull_intoRaw kind

theorem noNull_derive (kind : Kind) : (boundary.derive raw kind).2.ledger.NoNull ↔
    boundary.ledger.NoNull ∧ raw ≠ none := by
  rw [derive, noNull_respond, noNull_lend]

theorem noNull_namedReceiverNew : (boundary.namedReceiverNew raw).2.ledger.NoNull ↔
    boundary.ledger.NoNull ∧ raw ≠ none := by
  rw [namedReceiverNew, noNull_respond, noNull_record, Entry.handle, ne_eq, Option.some.injEq]

theorem noNull_clone (kind : Kind) : (boundary.clone kind raw).2.ledger.NoNull ↔
    boundary.ledger.NoNull ∧ raw ≠ none := by
  unfold clone
  split
  · cases raw with
    | none => exact noNull_lend
    | some pointer =>
        refine noNull_record.trans ((and_iff_left ?_).trans noNull_lend)
        intro same
        cases same
  · exact noNull_derive kind

theorem noNull_release : (boundary.release raw).ledger.NoNull ↔ boundary.ledger.NoNull := by
  cases raw with
  | none => exact Iff.rfl
  | some pointer =>
      rw [release, noNull_record, and_iff_left]
      intro same
      cases same

theorem noNull_copy (kind : Class) : (boundary.copy kind raw).2.ledger.NoNull ↔
    boundary.ledger.NoNull ∧ (kind ≠ .message → raw ≠ none) := by
  unfold copy
  split
  · next checked =>
      obtain ⟨rfl, rfl⟩ := checked
      exact (and_iff_left fun differs => (differs rfl).elim).symm
  · next unchecked =>
      rw [noNull_clone]
      refine and_congr_right fun _ => ⟨fun held _ => held, fun held null => ?_⟩
      by_cases message : kind = .message
      · exact unchecked ⟨message, null⟩
      · exact held message null

theorem noNull_makeExceptionPtr (kind : Class) (pointer : Pointer) :
    (boundary.makeExceptionPtr kind (some pointer)).2.ledger.NoNull ↔
      boundary.ledger.NoNull := by
  rw [makeExceptionPtr, noNull_release, noNull_copy, and_iff_left]
  exact fun _ => Option.some_ne_none pointer

/-- A copy of null is null. -/
theorem copy_none (kind : Class) : (boundary.copy kind none).1 = none := by
  unfold copy
  split
  · rfl
  · unfold clone
    split <;> rfl

end Boundary

/-- What the two classes with a box of their own make is not null. -/
theorem Boundary.noNull_construct {boundary : Boundary} {kind : Class}
    {made : Option Pointer × Boundary} (constructs : boundary.construct kind = some made) :
    made.2.ledger.NoNull ↔ boundary.ledger.NoNull := by
  cases kind with
  | connectionOptions | requestBuilder =>
      cases constructs
      exact Boundary.noNull_intoRaw _
  | subscribtion | connection | subscribtionCancellationToken | message =>
      cases constructs
      exact Iff.rfl
  | sender | receiver | headersView | connectionError | requestError | ownedString =>
      cases constructs

section Steps

variable {state next : State} {event : Event}

theorem copiesHeld_iff {source : ObjectId} {kind : Class} {raw : Option Pointer}
    (found : state.objects.lookup source = some ⟨kind, raw⟩) :
    CopiesHeld state source ↔ (kind ≠ .message → raw ≠ none) := by
  simp only [CopiesHeld, found, Option.some.injEq, forall_eq']

/-- The error that a callback is given is not null. -/
theorem Finished.noNull {id : TaskId} {response : Except Bytes Unit}
    {object exception : ObjectId} (finished : Finished state id object exception response next)
    (clean : state.boundary.ledger.NoNull) : next.boundary.ledger.NoNull := by
  cases finished with
  | panicked => exact clean
  | value => exact (Boundary.noNull_intoRaw _).mpr clean
  | exception =>
      exact (Boundary.noNull_makeExceptionPtr _ _).mpr ((Boundary.noNull_intoRaw _).mpr clean)
  | ignored => exact (Boundary.noNull_intoRaw _).mpr clean

/-- A step calls no function with null exactly if what it does not check is not null. -/
theorem Step.noNull_iff (step : Step state event next) (clean : state.boundary.ledger.NoNull) :
    next.boundary.ledger.NoNull ↔ Guarded state event := by
  cases step with
  | sender fresh found | getCancellationToken fresh found =>
      rw [Guarded, Wrappers.raw_of_lookup found]
      exact (Boundary.noNull_derive _).trans (and_iff_right clean)
  | receiver fresh found =>
      rw [Guarded, Wrappers.raw_of_lookup found]
      exact Boundary.noNull_namedReceiverNew.trans (and_iff_right clean)
  | copyConstruct fresh found =>
      rw [Guarded, copiesHeld_iff found]
      exact (Boundary.noNull_copy _).trans (and_iff_right clean)
  | copyAssignSelf => exact iff_of_true clean fun distinct => (distinct rfl).elim
  | copyAssign found given distinct =>
      rw [Guarded, forall_prop_of_true distinct, copiesHeld_iff given]
      refine (Boundary.noNull_copy _).trans (and_iff_right ?_)
      exact Boundary.noNull_release.mpr clean
  | operatorBool found =>
      rw [Guarded, Wrappers.raw_of_lookup found]
      exact Boundary.noNull_lend.trans (and_iff_right clean)
  | getHeaderEmpty empty =>
      exact iff_of_true clean fun named => (Bool.false_ne_true (named.symm.trans empty)).elim
  | getHeader found named =>
      rw [Guarded, forall_prop_of_true named, Wrappers.raw_of_lookup found]
      exact Boundary.noNull_lend.trans (and_iff_right clean)
  | construct fresh constructs =>
      exact iff_of_true ((Boundary.noNull_construct constructs).mpr clean) trivial
  | headers =>
      refine iff_of_true ((Boundary.noNull_copy _).mpr ⟨clean, fun differs => ?_⟩) trivial
      exact (differs rfl).elim
  | newMailbox fresh found held =>
      exact iff_of_true ((Boundary.noNull_derive _).mpr ⟨clean, held⟩) trivial
  | moveConstruct | moveAssignSelf | receivedNone => exact iff_of_true clean trivial
  | moveAssign | destroy => exact iff_of_true (Boundary.noNull_release.mpr clean) trivial
  | start | receive =>
      exact iff_of_true (Boundary.noNull_lend.mpr ⟨clean, Option.some_ne_none _⟩) trivial
  | @sendRequest conn builder handle request found given =>
      have lent := Boundary.noNull_lend.mpr ⟨clean, Option.some_ne_none handle⟩
      refine iff_of_true (Boundary.noNull_record.mpr ⟨lent, fun same => ?_⟩) trivial
      cases same
  | finish finished => exact iff_of_true (finished.noNull clean) trivial
  | received => exact iff_of_true ((Boundary.noNull_intoRaw _).mpr clean) trivial

end Steps

/-! What `HeadersView` answers is not defined for a view of null, except to a lookup without
a name. -/

section Answers

variable {Name : Type} [DecidableEq Name]

/-- `HeadersView::operator bool`. -/
def operatorBool (messages : Pointer → Option (Headers.HeaderMap Name)) (raw : Option Pointer) :
    Option Bool :=
  raw.map fun message => (messages message).isSome

/-- Whether `HeadersView::get_header` returns a view. -/
def getHeader (names : Headers.HeaderNames Name)
    (messages : Pointer → Option (Headers.HeaderMap Name)) (raw : Option Pointer)
    (header : Bytes) : Option Bool :=
  if header.isEmpty then some false
  else raw.map fun message =>
    (Headers.HeadersView.lookup names (messages message) header).isSome

/-- No function is called with null in a step, a copy of an empty object is empty, and the
view of an empty message has no headers. -/
structure NullSafe (names : Headers.HeaderNames Name)
    (messages : Pointer → Option (Headers.HeaderMap Name)) (state : State) (event : Event) :
    Prop where
  calls : ∀ next, step state event = some next → next.boundary.ledger.NoNull
  copies : ∀ source target next,
    event = .copyConstruct source target ∨ event = .copyAssign target source →
      Wrappers.raw state.objects source = none → step state event = some next →
        Wrappers.raw next.objects target = none
  asked : ∀ view, event = .operatorBool view → Wrappers.raw state.objects view = none →
    operatorBool messages (Wrappers.raw state.objects view) = some false
  looked : ∀ view header, event = .getHeader view header →
    Wrappers.raw state.objects view = none →
      getHeader names messages (Wrappers.raw state.objects view) header = some false

/-- An object that gets a copy of null is empty. -/
theorem raw_of_place_copy (state : State) (boundary : Boundary) (object : ObjectId) (kind : Class) :
    Wrappers.raw (state.place object kind (boundary.copy kind none)).objects object = none := by
  have there : (state.place object kind (boundary.copy kind none)).objects.lookup object =
      some ⟨kind, (boundary.copy kind none).1⟩ := AList.lookup_insert _
  rw [Wrappers.raw_of_lookup there, Boundary.copy_none]

/-- A copy of an empty object is empty. -/
theorem raw_of_copies {state next : State} {event : Event} {source target : ObjectId}
    (step : Step state event next)
    (copies : event = .copyConstruct source target ∨ event = .copyAssign target source)
    (null : Wrappers.raw state.objects source = none) :
    Wrappers.raw next.objects target = none := by
  rcases copies with rfl | rfl
  · cases step with
    | copyConstruct fresh found =>
        rw [Wrappers.raw_of_lookup found] at null
        subst null
        exact raw_of_place_copy state state.boundary target _
  · cases step with
    | copyAssignSelf => exact null
    | copyAssign found given distinct =>
        rw [Wrappers.raw_of_lookup given] at null
        subst null
        exact raw_of_place_copy state _ target _

variable {names : Headers.HeaderNames Name}
  {messages : Pointer → Option (Headers.HeaderMap Name)} {state next : State} {event : Event}

theorem nullSafe_iff (taken : step state event = some next) :
    NullSafe names messages state event ↔ Guarded state event := by
  obtain ⟨clean, outcome⟩ := step_cases taken
  constructor
  · intro safe
    exact (outcome.noNull_iff clean).mp (safe.calls next taken)
  · intro guarded
    refine ⟨?_, ?_, ?_, ?_⟩
    · intro other also
      exact ((step_cases also).2.noNull_iff clean).mpr guarded
    · intro source target other copies null also
      exact raw_of_copies (step_cases also).2 copies null
    · rintro view rfl null
      exact absurd null guarded
    · rintro view header rfl null
      cases empty : header.isEmpty with
      | true => rw [getHeader, if_pos empty]
      | false => exact absurd null (guarded empty)

end Answers

/-- All along a run the wrappers are safe with null exactly when every pointer that goes
unchecked into a Rust function is not null. -/
theorem nullSafe_iff_guarded {Name : Type} [DecidableEq Name] (names : Headers.HeaderNames Name)
    (messages : Pointer → Option (Headers.HeaderMap Name)) {events : List Event} {last : State}
    (run : system.run events = some last) :
    system.Meets (NullSafe names messages) State.init events ↔
      system.Meets Guarded State.init events :=
  System.meets_congr (M := system) (fun _ _ _ taken => nullSafe_iff taken) run

/-- `Connection a; Connection b(a);` clones null. -/
theorem not_nullSafe_of_copyConstruct :
    ¬ ∀ events last, system.run events = some last →
      system.Meets (NullSafe .visible fun _ => none) State.init events := by
  intro always
  have evaluated : (system.run [.construct 0 .connection, .copyConstruct 0 1]).map
      (fun state => decide state.boundary.ledger.NoNull) = some false := by decide
  obtain ⟨last, run, broken⟩ := Option.map_eq_some_iff.mp evaluated
  obtain ⟨middle, constructs, copies⟩ := (System.runFrom_cons_eq_some system).mp run
  rw [System.runFrom_singleton] at copies
  have safe := ((always _ last run).2 middle constructs).1
  exact of_decide_eq_false broken (safe.calls last copies)

/-- Empty messages are copied, a connection is copied when it is there, and a view is asked
when its message is. -/
def emptyMessages : List Event :=
  [.construct 0 .message, .copyConstruct 0 1, .headers 0 2, .getHeader 2 [],
    .construct 3 .connectionOptions, .start 3 .connect, .finish 0 (.ok ()) 4 5,
    .copyConstruct 4 5, .start 5 .request, .finish 1 (.ok ()) 6 7, .copyAssign 1 6,
    .headers 1 7, .operatorBool 7, .moveConstruct 5 8, .copyAssign 4 4]

theorem nullSafe_iff_guarded_of_messages :
    ∃ last, system.run emptyMessages = some last ∧
      (system.Meets (NullSafe .visible fun _ => none) State.init emptyMessages ↔
        system.Meets Guarded State.init emptyMessages) := by
  have evaluated : (system.run emptyMessages).isSome = true := by decide
  obtain ⟨last, run⟩ := Option.isSome_iff_exists.mp evaluated
  exact ⟨last, run, nullSafe_iff_guarded _ _ run⟩

end AsyncNats.Facade
