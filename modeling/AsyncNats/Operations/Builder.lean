import AsyncNats.Api.Buffers
import AsyncNats.Operations.Timeout
import AsyncNats.Ownership.Boxes

/-! # Building requests

A `RequestBuilder` holds a boxed `AsyncNatsRequest`, which its setters change, and can be moved
as often as a completion token needs before `Connection::request` takes the box. What arrives at
the client depends only on the setters that were called on the way.
-/

namespace AsyncNats.Operations

open Ownership Transition

/-- `async_nats_request_new`. -/
def requestNew : Request := ⟨none, none, none⟩

/-- `async_nats_request_inbox`. A C string that is null is undefined behaviour. -/
def requestInbox (request : Request) (inbox : BorrowedString) : Option Request :=
  inbox.map fun text => { request with inbox := some (lossyConvert text) }

/-- `async_nats_request_message`. -/
def requestMessage (request : Request) (message : Buffer) : Option Request :=
  message.fromRawParts.map fun dataSlice => { request with payload := some dataSlice }

namespace RequestBuilder

/-- The setters with their arguments. -/
inductive Setter where
  | inbox (inbox : BorrowedString)
  | data (data : Buffer)
  | timeout (duration : Int64)

def editing : Editing Request Setter where
  default := requestNew
  apply
    | request, .inbox inbox => requestInbox request inbox
    | request, .data data => requestMessage request data
    | request, .timeout duration => some (RequestBuilder.timeout request duration)

/-- All runs with any number of builders. A builder that a request takes gives its box away. -/
def system : System (Boxes Request) (Usage Setter) := Boxes.system editing

namespace Setter

/-! What a setter sets. -/

def inboxText : Setter → Option RustString
  | .inbox text => text.map lossyConvert
  | _ => none

def payload : Setter → Option Bytes
  | .data buffer => some buffer.bytes
  | _ => none

def millis : Setter → Option Nat
  | .timeout duration => some (stored duration)
  | _ => none

end Setter

/-- The last of what some setters set. -/
def last {α : Type} (sets : Setter → Option α) (setters : List Setter) : Option α :=
  (setters.filterMap sets).getLast?

/-- The request that some setters ask for. -/
def asked (setters : List Setter) : Request where
  inbox := last Setter.inboxText setters
  timeout := last Setter.millis setters
  payload := last Setter.payload setters

/-- What the client gets of it. -/
def clientRequest (setters : List Setter) : ClientRequest where
  inbox := last Setter.inboxText setters
  timeout := (last Setter.millis setters).map some
  payload := last Setter.payload setters

theorem build_asked (setters : List Setter) : (asked setters).build = clientRequest setters := by
  unfold Request.build asked clientRequest
  cases last Setter.millis setters <;> rfl

theorem last_concat {α : Type} (sets : Setter → Option α) (setters : List Setter)
    (setter : Setter) : last sets (setters ++ [setter]) = (sets setter).or (last sets setters) := by
  unfold last
  rw [List.filterMap_append, List.getLast?_append, List.filterMap_cons, List.filterMap_nil]
  cases sets setter <;> rfl

/-- A setter sets one field and leaves the others. -/
theorem apply_asked {setters : List Setter} {setter : Setter} {request : Request}
    (applied : editing.apply (asked setters) setter = some request) :
    request = asked (setters ++ [setter]) := by
  unfold asked
  simp only [last_concat]
  cases setter with
  | inbox inbox =>
      obtain ⟨text, rfl, rfl⟩ := Option.map_eq_some_iff.mp applied
      rfl
  | data data =>
      obtain ⟨bytes, found, rfl⟩ := Option.map_eq_some_iff.mp applied
      rw [← (Buffer.fromRawParts_eq_some_iff.mp found).2]
      rfl
  | timeout duration =>
      rw [← Option.some.inj applied, RequestBuilder.timeout, requestTimeout,
        Duration.asMillis_fromMillis]
      rfl

/-- Every request is the one that its setters ask for. -/
theorem asked_of_replays {request : Request} {setters : List Setter}
    (replays : editing.Replays request setters) : request = asked setters := by
  induction setters using List.reverseRecOn generalizing request with
  | nil => exact (Option.some.inj replays).symm
  | append_singleton front setter ih =>
      rw [Editing.Replays, List.foldlM_append] at replays
      obtain ⟨before, prior, applied⟩ := Option.bind_eq_some_iff.mp replays
      rw [ih prior] at applied
      refine apply_asked (Eq.trans ?_ applied)
      exact (bind_pure _).symm

/-- The requests that were sent and those that are still built are what was asked for. -/
structure SentAsAsked (labels : List (Usage Setter)) (state : Boxes Request) : Prop where
  asked : ∃ histories, (Values.system (Editing.history Setter)).run labels = some histories ∧
    Values.Related
      (fun request setters => request = asked setters ∧ request.build = clientRequest setters)
      state.values histories
  /-- A box that is not sent is in one builder. -/
  held : ∀ pointer request, state.boxes.lookup pointer = some request →
    ∃ object, Wrappers.raw state.objects object = some pointer ∧
      ∀ other, Wrappers.raw state.objects other = some pointer → other = object

/-- Builders behave as the values they stand for, however they are moved and assigned, and the
client gets for each request the last inbox, timeout and payload that were set, if they were. -/
theorem sent_as_asked (labels : List (Usage Setter)) :
    (system.run labels).map Boxes.values = (Values.system editing).run labels ∧
      ∀ state, system.run labels = some state → SentAsAsked labels state := by
  refine ⟨(Boxes.agrees_run editing labels).values, fun state run => ?_⟩
  obtain ⟨sound, histories, ran, related⟩ := Boxes.run_replays run
  refine ⟨⟨histories, ran, related.imp fun request setters replays => ?_⟩,
    fun pointer request => sound.holder⟩
  rw [asked_of_replays replays]
  exact ⟨rfl, build_asked setters⟩

/-- The payload is set twice, the builder moved in between, and another one assigned over. -/
def resetPayload : List (Usage Setter) :=
  [.construct 0, .edit 0 (.data ⟨some 8, [1], nofun⟩), .edit 0 (.timeout 2500000),
    .moveConstruct 0 1, .edit 1 (.data ⟨some 9, [2, 3], nofun⟩), .construct 2, .moveAssign 2 1,
    .take 2]

theorem sent_as_asked_of_resetPayload :
    ∃ state, system.run resetPayload = some state ∧
      state.taken.map (fun request => (request.timeout, request.payload)) =
        [(some 2, some [2, 3])] ∧
      SentAsAsked resetPayload state := by
  have evaluated : (system.run resetPayload).map (fun state =>
      state.taken.map fun request => (request.timeout, request.payload)) =
        some [(some 2, some [2, 3])] := by decide +kernel
  obtain ⟨state, run, same⟩ := Option.map_eq_some_iff.mp evaluated
  exact ⟨state, run, same, (sent_as_asked resetPayload).2 state run⟩

end RequestBuilder

end AsyncNats.Operations
