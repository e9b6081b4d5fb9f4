import AsyncNats.Facade.Runs

/-! # The outcomes of a step

What each step of a run does, once for all results about runs.
-/

namespace AsyncNats.Facade

open Sync Ownership Transition

/-- The ways in which the task of an operation ends. -/
inductive Finished (state : State) (id : TaskId) (object exception : ObjectId) :
    Except Bytes Unit → State → Prop where
  | panicked {text : Bytes} (found : state.tasks.lookup id = some (.operation .subscribe))
      (nul : 0 ∈ text) :
      Finished state id object exception (.error text)
        { state with tasks := state.tasks.erase id }
  | value {operation : Operation} (found : state.tasks.lookup id = some (.operation operation))
      (fresh : state.objects.lookup object = none) :
      Finished state id object exception (.ok ())
        ({ state with tasks := state.tasks.erase id }.place object operation.value
          (some (state.boundary.intoRaw operation.value.boxed).1,
            (state.boundary.intoRaw operation.value.boxed).2))
  | exception {operation : Operation} {text : Bytes}
      (found : state.tasks.lookup id = some (.operation operation))
      (throws : operation ≠ .subscribe) (fresh : state.objects.lookup object = none)
      (also : state.objects.lookup exception = none) (distinct : object ≠ exception) :
      Finished state id object exception (.error text)
        (({ state with tasks := state.tasks.erase id }.place object operation.value
          (none, (state.boundary.intoRaw operation.exception.boxed).2)).place exception
            operation.exception
            ((state.boundary.intoRaw operation.exception.boxed).2.makeExceptionPtr
              operation.exception (some (state.boundary.intoRaw operation.exception.boxed).1)))
  | ignored {text : Bytes} (found : state.tasks.lookup id = some (.operation .subscribe))
      (noNul : 0 ∉ text) (fresh : state.objects.lookup object = none) :
      Finished state id object exception (.error text)
        ({ state with tasks := state.tasks.erase id }.place object .subscribtion
          (none, (state.boundary.intoRaw .ownedString).2))

theorem finish_cases {state next : State} {id : TaskId} {response : Except Bytes Unit}
    {object exception : ObjectId}
    (taken : state.finish id response object exception = some next) :
    Finished state id object exception response next := by
  unfold State.finish at taken
  split at taken
  · next operation found =>
      split at taken
      · next names =>
          obtain ⟨fresh, also, distinct⟩ := names
          cases response with
          | ok gave =>
              cases operation <;> cases taken <;> exact .value found fresh
          | error text =>
            cases operation with
            | connect | request | sendRequest =>
                cases taken
                exact .exception found Operation.noConfusion fresh also distinct
            | subscribe =>
                by_cases nul : 0 ∈ text
                · simp only [Operation.boxed, Operations.boxSubscribe, Operations.cstringNew, id_eq,
                    nul, not_true_eq_false, ↓reduceDIte, Option.map_none,
                    Option.some.injEq] at taken
                  subst taken
                  exact .panicked found nul
                · simp only [Operation.boxed, Operations.boxSubscribe, Operations.cstringNew, id_eq,
                    nul, not_false_eq_true, ↓reduceDIte, Option.map_some,
                    Option.some.injEq] at taken
                  subst taken
                  exact .ignored found nul fresh
      · cases taken
  · cases taken

/-- The outcomes of a step. -/
inductive Step (state : State) : Event → State → Prop where
  | construct {object : ObjectId} {kind : Class} {made : Option Pointer × Boundary}
      (fresh : state.objects.lookup object = none)
      (constructs : state.boundary.construct kind = some made) :
      Step state (.construct object kind) (state.place object kind made)
  | sender {conn object : ObjectId} {raw : Option Pointer}
      (fresh : state.objects.lookup object = none)
      (found : state.objects.lookup conn = some ⟨.connection, raw⟩) :
      Step state (.sender conn object)
        (state.place object .sender (state.boundary.derive raw .namedSender))
  | getCancellationToken {sub object : ObjectId} {raw : Option Pointer}
      (fresh : state.objects.lookup object = none)
      (found : state.objects.lookup sub = some ⟨.subscribtion, raw⟩) :
      Step state (.getCancellationToken sub object)
        (state.place object .subscribtionCancellationToken
          (state.boundary.derive raw .cancellationToken))
  | headers {message object : ObjectId} {raw : Option Pointer}
      (fresh : state.objects.lookup object = none)
      (found : state.objects.lookup message = some ⟨.message, raw⟩) :
      Step state (.headers message object)
        (state.place object .headersView (state.boundary.copy .message raw))
  | newMailbox {conn object : ObjectId} {raw : Option Pointer}
      (fresh : state.objects.lookup object = none)
      (found : state.objects.lookup conn = some ⟨.connection, raw⟩) (held : raw ≠ none) :
      Step state (.newMailbox conn object)
        (state.place object .ownedString (state.boundary.derive raw .ownedString))
  | copyConstruct {source object : ObjectId} {kind : Class} {raw : Option Pointer}
      (fresh : state.objects.lookup object = none)
      (found : state.objects.lookup source = some ⟨kind, raw⟩) :
      Step state (.copyConstruct source object)
        (state.place object kind (state.boundary.copy kind raw))
  | moveConstruct {source object : ObjectId} {wrapper : Wrapper Class}
      (fresh : state.objects.lookup object = none)
      (found : state.objects.lookup source = some wrapper) :
      Step state (.moveConstruct source object)
        { state with objects := Wrappers.move state.objects source object }
  | copyAssignSelf {object : ObjectId} : Step state (.copyAssign object object) state
  | copyAssign {target source : ObjectId} {kind : Class} {old raw : Option Pointer}
      (found : state.objects.lookup target = some ⟨kind, old⟩)
      (given : state.objects.lookup source = some ⟨kind, raw⟩) (distinct : target ≠ source) :
      Step state (.copyAssign target source)
        (state.place target kind ((state.boundary.release old).copy kind raw))
  | moveAssignSelf {object : ObjectId} : Step state (.moveAssign object object) state
  | moveAssign {target source : ObjectId} {wrapper moved : Wrapper Class}
      (found : state.objects.lookup target = some wrapper)
      (given : state.objects.lookup source = some moved) (distinct : target ≠ source) :
      Step state (.moveAssign target source)
        { state with
          boundary := state.boundary.release wrapper.raw
          objects := Wrappers.move state.objects source target }
  | destroy {object : ObjectId} {wrapper : Wrapper Class}
      (found : state.objects.lookup object = some wrapper) :
      Step state (.destroy object)
        { state with
          boundary := state.boundary.release wrapper.raw, objects := state.objects.erase object }
  | receiver {sub object : ObjectId} {raw : Option Pointer}
      (fresh : state.objects.lookup object = none)
      (found : state.objects.lookup sub = some ⟨.subscribtion, raw⟩) :
      Step state (.receiver sub object)
        ((state.releaseRaw sub .subscribtion).place object .receiver
          (state.boundary.namedReceiverNew raw))
  | operatorBool {view : ObjectId} {raw : Option Pointer}
      (found : state.objects.lookup view = some ⟨.headersView, raw⟩) :
      Step state (.operatorBool view)
        { state with boundary := state.boundary.record (.lent raw) }
  | getHeaderEmpty {view : ObjectId} {header : Bytes} (empty : header.isEmpty = true) :
      Step state (.getHeader view header) state
  | getHeader {view : ObjectId} {header : Bytes} {raw : Option Pointer}
      (found : state.objects.lookup view = some ⟨.headersView, raw⟩)
      (named : header.isEmpty = false) :
      Step state (.getHeader view header)
        { state with boundary := state.boundary.record (.lent raw) }
  | start {object : ObjectId} {operation : Operation} {kind : Class} {handle : Pointer}
      (found : state.objects.lookup object = some ⟨kind, some handle⟩) :
      Step state (.start object operation)
        ({ state with boundary := state.boundary.record (.lent (some handle)) }.spawn
          (.operation operation))
  | sendRequest {conn builder : ObjectId} {handle request : Pointer}
      (found : state.objects.lookup conn = some ⟨.connection, some handle⟩)
      (given : state.objects.lookup builder = some ⟨.requestBuilder, some request⟩) :
      Step state (.sendRequest conn builder)
        ({ state.releaseRaw builder .requestBuilder with
          boundary := (state.boundary.record (.lent (some handle))).record
            (.given (some request)) }.spawn (.operation .sendRequest))
  | receive {sub : ObjectId} {handle : Pointer}
      (found : state.objects.lookup sub = some ⟨.subscribtion, some handle⟩) :
      Step state (.receive sub)
        ({ state with boundary := state.boundary.record (.lent (some handle)) }.spawn .receive)
  | finish {id : TaskId} {response : Except Bytes Unit} {object exception : ObjectId}
      {next : State} (finished : Finished state id object exception response next) :
      Step state (.finish id response object exception) next
  | received {id : TaskId} {object : ObjectId} (fresh : state.objects.lookup object = none) :
      Step state (.received id true object)
        ({ state with tasks := state.tasks.erase id }.place object .message
          (some (state.boundary.intoRaw .message).1, (state.boundary.intoRaw .message).2))
  | receivedNone {id : TaskId} {object : ObjectId}
      (fresh : state.objects.lookup object = none) :
      Step state (.received id false object)
        ({ state with tasks := state.tasks.erase id }.place object .message
          (none, state.boundary))

variable {state next : State} {source target object : ObjectId}

/-- A new object from the pointer of another one. -/
theorem obtain_cases {of kind : Class}
    {make : Boundary → Option Pointer → Option Pointer × Boundary}
    (taken : state.obtain source object of kind make = some next) :
    state.objects.lookup object = none ∧ ∃ raw,
      state.objects.lookup source = some ⟨of, raw⟩ ∧
        next = state.place object kind (make state.boundary raw) := by
  unfold State.obtain at taken
  split at taken
  · next wrapper fresh found =>
      split at taken
      · next same =>
          cases taken
          subst same
          exact ⟨fresh, wrapper.raw, found, rfl⟩
      · cases taken
  · cases taken

theorem newMailbox_cases (taken : state.newMailbox source object = some next) :
    Step state (.newMailbox source object) next := by
  unfold State.newMailbox at taken
  split at taken
  · cases taken
  · next held =>
      obtain ⟨fresh, raw, found, rfl⟩ := obtain_cases taken
      rw [Wrappers.raw_of_lookup found] at held
      exact .newMailbox fresh found held

theorem construct_cases {kind : Class} (taken : state.construct object kind = some next) :
    Step state (.construct object kind) next := by
  unfold State.construct at taken
  split at taken
  · next fresh =>
      obtain ⟨made, constructs, rfl⟩ := Option.map_eq_some_iff.mp taken
      exact .construct fresh constructs
  · cases taken

theorem copyConstruct_cases (taken : state.copyConstruct source object = some next) :
    Step state (.copyConstruct source object) next := by
  unfold State.copyConstruct at taken
  split at taken
  · next kind raw fresh found =>
      split at taken
      · cases taken
        exact .copyConstruct fresh found
      · cases taken
  · cases taken

theorem moveConstruct_cases (taken : state.moveConstruct source object = some next) :
    Step state (.moveConstruct source object) next := by
  unfold State.moveConstruct at taken
  split at taken
  · next wrapper fresh found =>
      cases taken
      exact .moveConstruct fresh found
  · cases taken

theorem copyAssign_cases (taken : state.copyAssign target source = some next) :
    Step state (.copyAssign target source) next := by
  unfold State.copyAssign at taken
  split at taken
  · next kind raw wrapper found given =>
      split at taken
      · cases taken
      · next classes =>
          have same : kind = wrapper.kind := not_not.mp fun differs => classes (.inl differs)
          split at taken
          · next self =>
              cases taken
              subst self
              exact .copyAssignSelf
          · next distinct =>
              cases taken
              subst same
              exact .copyAssign found given distinct
  · cases taken

theorem moveAssign_cases (taken : state.moveAssign target source = some next) :
    Step state (.moveAssign target source) next := by
  unfold State.moveAssign at taken
  split at taken
  · next kind raw wrapper found given =>
      split at taken
      · cases taken
      · split at taken
        · next self =>
            cases taken
            subst self
            exact .moveAssignSelf
        · next distinct =>
            cases taken
            exact .moveAssign found given distinct
  · cases taken

theorem destroy_cases (taken : state.destroy object = some next) :
    Step state (.destroy object) next := by
  unfold State.destroy at taken
  split at taken
  · next kind raw found =>
      cases taken
      exact .destroy found
  · cases taken

theorem receiver_cases (taken : state.receiver source object = some next) :
    Step state (.receiver source object) next := by
  unfold State.receiver at taken
  split at taken
  · next raw fresh found =>
      cases taken
      exact .receiver fresh found
  · cases taken

theorem operatorBool_cases (taken : state.operatorBool object = some next) :
    Step state (.operatorBool object) next := by
  unfold State.operatorBool at taken
  split at taken
  · next raw found =>
      cases taken
      exact .operatorBool found
  · cases taken

theorem getHeader_cases {header : Bytes} (taken : state.getHeader object header = some next) :
    Step state (.getHeader object header) next := by
  unfold State.getHeader at taken
  split at taken
  · next raw found =>
      split at taken
      · next empty =>
          cases taken
          exact .getHeaderEmpty empty
      · next named =>
          cases taken
          exact .getHeader found (Bool.eq_false_iff.mpr named)
  · cases taken

theorem start_cases {operation : Operation} (taken : state.start object operation = some next) :
    Step state (.start object operation) next := by
  unfold State.start at taken
  split at taken
  · next kind handle found =>
      split at taken
      · cases taken
        exact .start found
      · cases taken
  · cases taken

theorem sendRequest_cases (taken : state.sendRequest source object = some next) :
    Step state (.sendRequest source object) next := by
  unfold State.sendRequest at taken
  split at taken
  · next handle request found given =>
      cases taken
      exact .sendRequest found given
  · cases taken

theorem receive_cases (taken : state.receive object = some next) :
    Step state (.receive object) next := by
  unfold State.receive at taken
  split at taken
  · next handle found =>
      cases taken
      exact .receive found
  · cases taken

theorem received_cases {id : TaskId} {arrived : Bool}
    (taken : state.received id arrived object = some next) :
    Step state (.received id arrived object) next := by
  unfold State.received at taken
  split at taken
  · split at taken
    · next fresh =>
        cases arrived with
        | true =>
            cases taken
            exact .received fresh
        | false =>
            cases taken
            exact .receivedNone fresh
    · cases taken
  · cases taken

/-- No null went in before a step, and it has one of the outcomes. -/
theorem step_cases {event : Event} (taken : step state event = some next) :
    state.boundary.ledger.NoNull ∧ Step state event next := by
  unfold step at taken
  split at taken
  · next clean =>
      refine ⟨clean, ?_⟩
      cases event with
      | construct => exact construct_cases taken
      | sender =>
          obtain ⟨fresh, raw, found, rfl⟩ := obtain_cases taken
          exact .sender fresh found
      | getCancellationToken =>
          obtain ⟨fresh, raw, found, rfl⟩ := obtain_cases taken
          exact .getCancellationToken fresh found
      | headers =>
          obtain ⟨fresh, raw, found, rfl⟩ := obtain_cases taken
          exact .headers fresh found
      | newMailbox => exact newMailbox_cases taken
      | copyConstruct => exact copyConstruct_cases taken
      | moveConstruct => exact moveConstruct_cases taken
      | copyAssign => exact copyAssign_cases taken
      | moveAssign => exact moveAssign_cases taken
      | destroy => exact destroy_cases taken
      | receiver => exact receiver_cases taken
      | operatorBool => exact operatorBool_cases taken
      | getHeader => exact getHeader_cases taken
      | start => exact start_cases taken
      | sendRequest => exact sendRequest_cases taken
      | receive => exact receive_cases taken
      | finish => exact .finish (finish_cases taken)
      | received => exact received_cases taken
  · cases taken

end AsyncNats.Facade
