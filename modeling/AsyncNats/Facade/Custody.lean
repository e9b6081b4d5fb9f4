import AsyncNats.Facade.Accounts
import AsyncNats.Facade.Steps

/-! # Every box has one owner

The objects of the application stand for the references that are out: a box that is not
counted has one owner, until it is deleted or handed over to the worker of a receiver or to the
task of a request. The strings that a callback ignored are the one exception. They are in a list
of their own.
-/

namespace AsyncNats.Facade

open Sync Ownership Transition

/-- Objects hold pointers to boxes of their type, and what was lost are strings. -/
structure Typed (boxes : List Kind) (lost : List Pointer) (objects : Wrappers Class) : Prop where
  rows : ∀ object wrapper, objects.lookup object = some wrapper →
    ∀ pointer ∈ wrapper.raw, boxes[pointer]? = some wrapper.kind.boxed
  strays : ∀ pointer ∈ lost, boxes[pointer]? = some .ownedString

namespace Typed

variable {boxes after : List Kind} {lost : List Pointer} {objects : Wrappers Class}
  {source target object : ObjectId} {wrapper : Wrapper Class}

theorem grow (typed : Typed boxes lost objects) (grown : boxes <+: after) :
    Typed after lost objects where
  rows := fun object wrapper found pointer held =>
    getElem?_of_prefix grown (typed.rows object wrapper found pointer held)
  strays := fun pointer stray => getElem?_of_prefix grown (typed.strays pointer stray)

theorem insert (typed : Typed boxes lost objects)
    (new : ∀ pointer ∈ wrapper.raw, boxes[pointer]? = some wrapper.kind.boxed) :
    Typed boxes lost (AList.insert object wrapper objects) where
  rows := fun other row there => by
    rcases Table.lookup_of_insert there with ⟨_, rfl⟩ | ⟨_, old⟩
    · exact new
    · exact typed.rows other row old
  strays := typed.strays

theorem erase (typed : Typed boxes lost objects) (object : ObjectId) :
    Typed boxes lost (AList.erase object objects) where
  rows := fun other row found => typed.rows other row (Table.lookup_of_erase found).2
  strays := typed.strays

theorem move (typed : Typed boxes lost objects) (found : objects.lookup source = some wrapper) :
    Typed boxes lost (Wrappers.move objects source target) where
  rows := fun other row there => by
    rcases Wrappers.lookup_of_move found there with ⟨_, rfl⟩ | ⟨_, _, rfl⟩ | ⟨_, _, old⟩
    · intro pointer held
      cases held
    · exact typed.rows source row found
    · exact typed.rows other row old
  strays := typed.strays

end Typed

/-- The objects and the lost strings account for the boundary. -/
structure Sound (lost : List Pointer) (state : State) : Prop where
  accounts : Accounts (Wrappers.holders state.objects ++ lost) state.boundary
  typed : Typed state.boundary.boxes lost state.objects

/-- What an object holds is accounted for. -/
theorem mem_holders_append {objects : Wrappers Class} {object : ObjectId} {wrapper : Wrapper Class}
    (found : objects.lookup object = some wrapper) (lost : List Pointer) :
    ∀ pointer ∈ wrapper.raw, pointer ∈ Wrappers.holders objects ++ lost :=
  fun pointer held => List.mem_append_left _ (Wrappers.mem_holders found pointer held)

theorem boxes_release (boundary : Boundary) (raw : Option Pointer) :
    (boundary.release raw).boxes = boundary.boxes := by
  cases raw <;> rfl

/-- An object gets what a function gives, the holders being the other objects. -/
theorem Sound.of_gives {lost : List Pointer} {boundary : Boundary} {state : State}
    {object : ObjectId} {kind : Class} {made : Option Pointer × Boundary}
    (typed : Typed boundary.boxes lost state.objects)
    (gives : Gives (Wrappers.holders (AList.erase object state.objects) ++ lost) boundary
      kind.boxed made) : Sound lost (state.place object kind made) where
  accounts := by
    have accounts := gives.accounts
    rw [← List.append_assoc] at accounts
    rw [State.place, Wrappers.holders_insert]
    exact accounts
  typed := (typed.grow gives.grown).insert gives.typed

namespace Sound

variable {lost : List Pointer} {state next : State} {source target object : ObjectId}
  {kind : Class} {wrapper : Wrapper Class}

/-- One object's pointer apart from those of the others. -/
theorem apart (sound : Sound lost state) (found : state.objects.lookup object = some wrapper) :
    Accounts (wrapper.raw.toList ++ (Wrappers.holders (AList.erase object state.objects) ++ lost))
      state.boundary := by
  have split := Wrappers.holders_perm state.objects object
  rw [Wrappers.raw_of_lookup found] at split
  rw [← List.append_assoc]
  exact sound.accounts.perm (split.append_right lost)

/-- A new object. -/
theorem place (sound : Sound lost state) (fresh : state.objects.lookup object = none)
    {made : Option Pointer × Boundary}
    (gives : Gives (Wrappers.holders state.objects ++ lost) state.boundary kind.boxed made) :
    Sound lost (state.place object kind made) := by
  refine of_gives sound.typed ?_
  rw [Table.erase_of_lookup_none fresh]
  exact gives

/-- A new object with a box made of the handle of another one. -/
theorem derive {of : Class} {raw : Option Pointer} (sound : Sound lost state)
    (fresh : state.objects.lookup object = none)
    (found : state.objects.lookup source = some ⟨of, raw⟩) (kind : Class) :
    Sound lost (state.place object kind (state.boundary.derive raw kind.boxed)) :=
  sound.place fresh (.derive sound.accounts (mem_holders_append found lost) _)

theorem copyAssign {old raw : Option Pointer} (sound : Sound lost state)
    (found : state.objects.lookup target = some ⟨kind, old⟩)
    (given : state.objects.lookup source = some ⟨kind, raw⟩) (distinct : target ≠ source) :
    Sound lost (state.place target kind ((state.boundary.release old).copy kind raw)) := by
  have typed : Typed (state.boundary.release old).boxes lost state.objects := by
    rw [boxes_release]
    exact sound.typed
  have still : (state.objects.erase target).lookup source = some ⟨kind, raw⟩ :=
    (AList.lookup_erase_ne (Ne.symm distinct)).trans given
  refine of_gives typed (.copy (sound.apart found).release (mem_holders_append still lost) ?_)
  exact typed.rows source _ given

theorem moveAssign {moved : Wrapper Class} (sound : Sound lost state)
    (found : state.objects.lookup target = some wrapper)
    (given : state.objects.lookup source = some moved) (distinct : target ≠ source) :
    Sound lost { state with
      boundary := state.boundary.release wrapper.raw
      objects := Wrappers.move state.objects source target } := by
  have same := Wrappers.holders_move given (Ne.symm distinct)
  rw [Wrappers.raw_of_lookup found] at same
  have accounts := sound.accounts.perm (same.symm.append_right lost)
  rw [List.append_assoc] at accounts
  refine ⟨accounts.release, ?_⟩
  rw [boxes_release]
  exact sound.typed.move given

theorem destroy (sound : Sound lost state)
    (found : state.objects.lookup object = some wrapper) :
    Sound lost { state with
      boundary := state.boundary.release wrapper.raw, objects := state.objects.erase object } := by
  refine ⟨(sound.apart found).release, ?_⟩
  rw [boxes_release]
  exact sound.typed.erase object

/-- An object that was released holds null, and the others hold what they held. -/
theorem typed_releaseRaw (sound : Sound lost state) (object : ObjectId) (kind : Class) :
    Typed state.boundary.boxes lost (state.releaseRaw object kind).objects :=
  sound.typed.insert fun _ held => by cases held

theorem receiver {raw : Option Pointer} (sound : Sound lost state)
    (fresh : state.objects.lookup object = none)
    (found : state.objects.lookup source = some ⟨.subscribtion, raw⟩) :
    Sound lost ((state.releaseRaw source .subscribtion).place object .receiver
      (state.boundary.namedReceiverNew raw)) := by
  have distinct : object ≠ source := by
    rintro rfl
    rw [fresh] at found
    cases found
  have still : (state.releaseRaw source .subscribtion).objects.lookup object = none :=
    (AList.lookup_insert_ne distinct).trans fresh
  refine of_gives (sound.typed_releaseRaw source .subscribtion) ?_
  rw [Table.erase_of_lookup_none still, State.releaseRaw, Wrappers.holders_insert]
  exact .namedReceiverNew (sound.apart found)

/-- A function that dereferences the handle of an object. -/
theorem lend {raw : Option Pointer} (sound : Sound lost state)
    (found : state.objects.lookup object = some ⟨kind, raw⟩) :
    Sound lost { state with boundary := state.boundary.record (.lent raw) } where
  accounts := sound.accounts.lend (mem_holders_append found lost)
  typed := sound.typed

/-- The tasks hold nothing that an object holds. -/
theorem spawn (sound : Sound lost state) (task : Task) : Sound lost (state.spawn task) :=
  ⟨sound.accounts, sound.typed⟩

theorem endTask (sound : Sound lost state) (id : TaskId) :
    Sound lost { state with tasks := state.tasks.erase id } :=
  ⟨sound.accounts, sound.typed⟩

theorem sendRequest {handle request : Pointer} (sound : Sound lost state)
    (found : state.objects.lookup source = some ⟨.connection, some handle⟩)
    (given : state.objects.lookup object = some ⟨.requestBuilder, some request⟩) :
    Sound lost { state.releaseRaw object .requestBuilder with
      boundary :=
        (state.boundary.record (.lent (some handle))).record (.given (some request)) } := by
  have apart := (sound.lend found).apart given
  refine ⟨?_, sound.typed_releaseRaw object .requestBuilder⟩
  rw [State.releaseRaw, Wrappers.holders_insert]
  exact apart.give

end Sound

/-- The string that the callback of `subcribe` is given and does not take. -/
def stray (state : State) : Event → List Pointer
  | .finish id (.error text) _ _ =>
    if state.tasks.lookup id = some (.operation .subscribe) ∧ 0 ∉ text then
      [state.boundary.boxes.length]
    else []
  | _ => []

namespace Sound

variable {lost : List Pointer} {state next : State} {event : Event}

theorem finish {id : TaskId} {response : Except Bytes Unit} {object exception : ObjectId}
    (sound : Sound lost state) (finished : Finished state id object exception response next) :
    Sound (stray state (.finish id response object exception) ++ lost) next := by
  cases finished with
  | panicked found nul =>
      rw [stray, if_neg fun both => both.2 nul]
      exact sound.endTask id
  | value found fresh => exact (sound.endTask id).place fresh (.intoRaw sound.accounts _)
  | @exception operation text found throws fresh also distinct =>
      rw [stray, if_neg fun both => throws (by cases found.symm.trans both.1; rfl)]
      have made := Gives.intoRaw sound.accounts operation.exception.boxed
      have typed : Typed (state.boundary.intoRaw operation.exception.boxed).2.boxes lost
          (state.objects.insert object ⟨operation.value, none⟩) :=
        (sound.typed.grow made.grown).insert fun _ held => by cases held
      have still : (state.objects.insert object ⟨operation.value, none⟩).lookup exception = none :=
        (AList.lookup_insert_ne (Ne.symm distinct)).trans also
      refine of_gives typed (.makeExceptionPtr ?_ made.typed)
      change Accounts (_ ++ (Wrappers.holders (AList.erase exception
        (state.objects.insert object ⟨operation.value, none⟩)) ++ lost)) _
      rw [Table.erase_of_lookup_none still, Wrappers.holders_insert_new fresh]
      exact made.accounts
  | ignored found noNul fresh =>
      rw [stray, if_pos ⟨found, noNul⟩]
      have made := Gives.intoRaw sound.accounts .ownedString
      have grown := sound.typed.grow made.grown
      have typed : Typed (state.boundary.intoRaw .ownedString).2.boxes
          (state.boundary.boxes.length :: lost) state.objects := by
        refine ⟨grown.rows, fun pointer member => ?_⟩
        rcases List.mem_cons.mp member with rfl | old
        · exact made.typed _ rfl
        · exact grown.strays pointer old
      refine of_gives typed (.null ?_ _)
      rw [Table.erase_of_lookup_none fresh]
      exact made.accounts.perm (List.perm_append_comm_assoc ..)

/-- A step keeps the accounts, except for the string that a callback ignores. -/
theorem step (sound : Sound lost state) (step : Step state event next) :
    Sound (stray state event ++ lost) next := by
  cases step with
  | construct fresh constructs => exact sound.place fresh (.construct sound.accounts constructs)
  | sender fresh found => exact sound.derive fresh found .sender
  | getCancellationToken fresh found =>
      exact sound.derive fresh found .subscribtionCancellationToken
  | newMailbox fresh found => exact sound.derive fresh found .ownedString
  | headers fresh found =>
      have copied := Gives.copy sound.accounts (mem_holders_append found lost)
        (sound.typed.rows _ _ found)
      exact sound.place fresh ⟨copied.accounts, copied.grown, copied.typed⟩
  | copyConstruct fresh found =>
      exact sound.place fresh (.copy sound.accounts (mem_holders_append found lost)
        (sound.typed.rows _ _ found))
  | moveConstruct fresh found =>
      have same := Wrappers.holders_move_new found fresh
      exact ⟨sound.accounts.perm (same.symm.append_right lost), sound.typed.move found⟩
  | copyAssignSelf | moveAssignSelf | getHeaderEmpty => exact sound
  | copyAssign found given distinct => exact sound.copyAssign found given distinct
  | moveAssign found given distinct => exact sound.moveAssign found given distinct
  | destroy found => exact sound.destroy found
  | receiver fresh found => exact sound.receiver fresh found
  | operatorBool found => exact sound.lend found
  | getHeader found => exact sound.lend found
  | start found => exact (sound.lend found).spawn _
  | sendRequest found given => exact (sound.sendRequest found given).spawn _
  | receive found => exact (sound.lend found).spawn _
  | finish finished => exact sound.finish finished
  | @received id object fresh =>
      exact (sound.endTask id).place fresh (.intoRaw sound.accounts .message)
  | @receivedNone id object fresh =>
      exact (sound.endTask id).place fresh (.null sound.accounts _)

end Sound

/-- There is nothing to account for at first. -/
theorem sound_init : Sound [] State.init where
  accounts :=
    { kept := .nil
      fresh := fun _ _ => rfl
      once := fun _ _ there => by cases there }
  typed :=
    { rows := fun _ _ found => by cases found
      strays := fun _ member => (List.not_mem_nil member).elim }

theorem sound_of_reachable {state : State} (reached : system.Reachable state) :
    ∃ lost, Sound lost state := by
  refine System.Reachable.induction (M := system) (motive := fun state => ∃ lost, Sound lost state)
    ⟨[], sound_init⟩ ?_ reached
  intro state event next _ sound taken
  obtain ⟨lost, sound⟩ := sound
  exact ⟨_, sound.step (step_cases taken).2⟩

/-- The boxes that the classes with one owner stand for. -/
def Kind.owned : Kind → Bool
  | .connetionParams | .request | .subscribtion | .connection => true
  | .cancellationToken | .namedSender | .namedReceiver => true
  | .message | .connectError | .requestError | .ownedString => false

/-- Where the boxes of these classes are. -/
structure Custody (state : State) : Prop where
  /-- A box has one owner, or was handed over once, or was deleted once. -/
  owner : ∀ pointer kind, state.boundary.boxes[pointer]? = some kind → kind.owned = true →
    (Wrappers.holders state.objects).count pointer +
      (state.boundary.ledger.given pointer + state.boundary.ledger.deleted pointer) = 1
  finished : state.objects = ∅ → ∀ pointer kind,
    state.boundary.boxes[pointer]? = some kind → kind.owned = true →
      state.boundary.ledger.given pointer + state.boundary.ledger.deleted pointer = 1
  /-- A box that goes into a function was not handed over or deleted before. -/
  quiet : ∀ before entry after, state.boundary.ledger = before ++ entry :: after →
    ∀ pointer kind, state.boundary.boxes[pointer]? = some kind → kind.owned = true →
      entry.handle = some (some pointer) →
        Ledger.given before pointer = 0 ∧ Ledger.deleted before pointer = 0

namespace Sound

variable {lost : List Pointer} {state : State} {pointer : Pointer} {kind : Kind}

/-- A box with one owner came out once. -/
theorem made_of_owned (sound : Sound lost state)
    (there : state.boundary.boxes[pointer]? = some kind) (owned : kind.owned = true) :
    state.boundary.ledger.made pointer = 1 := by
  refine sound.accounts.once pointer kind there ?_
  cases kind <;> cases owned <;> rfl

theorem owner (sound : Sound lost state) (there : state.boundary.boxes[pointer]? = some kind)
    (owned : kind.owned = true) :
    (Wrappers.holders state.objects).count pointer +
      (state.boundary.ledger.given pointer + state.boundary.ledger.deleted pointer) = 1 := by
  have kept : lost.count pointer = 0 := by
    apply List.count_eq_zero.mpr
    intro stray
    cases there.symm.trans (sound.typed.strays pointer stray)
    cases owned
  rw [← sound.made_of_owned there owned, ← sound.accounts.kept.balanced pointer,
    List.count_append, kept, Nat.add_zero]

theorem custody (sound : Sound lost state) : Custody state where
  owner := fun _ _ there owned => sound.owner there owned
  finished := fun finished pointer kind there owned => by
    have counted := sound.owner there owned
    rw [finished, Wrappers.holders_empty, List.count_nil, Nat.zero_add] at counted
    exact counted
  quiet := fun before entry after split pointer kind there owned goes => by
    have once := sound.made_of_owned there owned
    have live := sound.accounts.kept.clean before entry after split pointer goes
    rw [split, Ledger.made, List.count_append] at once
    unfold Ledger.Live Ledger.made at live
    omega

end Sound

/-- Whatever the application does, each box has one owner, or was handed over or deleted once
and is not used any more. -/
theorem boxes_in_custody {state : State} (reached : system.Reachable state) : Custody state := by
  obtain ⟨lost, sound⟩ := sound_of_reachable reached
  exact sound.custody

/-- A connection is copied, a subscription is handed over to a receiver and a builder to a
request, objects are assigned to themselves and to each other, and all are destroyed. -/
def handOver : List Event :=
  [.construct 0 .connectionOptions, .moveConstruct 0 1, .start 1 .connect,
    .finish 0 (.ok ()) 2 3, .copyConstruct 2 3, .copyAssign 3 3, .copyAssign 2 3,
    .start 3 .subscribe, .finish 1 (.ok ()) 4 5, .getCancellationToken 4 5, .receiver 4 6,
    .copyConstruct 6 7, .moveAssign 6 7, .sender 2 8, .construct 9 .requestBuilder,
    .moveAssign 9 9, .sendRequest 3 9, .destroy 0, .destroy 1, .destroy 2, .destroy 3,
    .destroy 4, .destroy 5, .destroy 6, .destroy 7, .destroy 8, .destroy 9]

theorem boxes_in_custody_of_handOver :
    ∃ state, system.run handOver = some state ∧ state.objects = ∅ ∧
      state.boundary.boxes.length = 10 ∧ Custody state := by
  have evaluated : (system.run handOver).map
      (fun state => (state.objects.entries, state.boundary.boxes.length)) = some ([], 10) := by
    decide
  obtain ⟨state, run, values⟩ := Option.map_eq_some_iff.mp evaluated
  obtain ⟨objects, boxes⟩ := Prod.mk.inj values
  exact ⟨state, run, AList.ext objects, boxes, boxes_in_custody ⟨_, run⟩⟩

end AsyncNats.Facade
