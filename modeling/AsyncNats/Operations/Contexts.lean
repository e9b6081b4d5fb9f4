import AsyncNats.Operations.Basic
import AsyncNats.Sync.Table
import AsyncNats.Transition.System

/-! # The completion contexts

Every operation moves its completion handler into storage from the allocator that is
associated with the handler, and passes the address through the library as the context of its
callback. The callback calls the handler in its context and gives the storage back. It does
not destroy the handler, so what the handler still holds stays referenced for good.
-/

namespace AsyncNats.Operations.Contexts

open Sync Transition

/-- Completion handlers of all types: the associated allocator of a handler, the resources it
has captured, and what is left of it when a call with some arguments has returned. -/
structure Handlers (Handler Allocator Resource : Type) where
  allocator : Handler → Allocator
  captured : Handler → List Resource
  invoke : Handler → Completion → Handler

/-- The operations with a completion handler: `connect`, the members of `Connection` and
`Subscribtion::receive`. -/
inductive Kind where
  | connect
  | publish
  | publishWithReply
  | subcribe
  | request
  | requestBuilder
  | receive
  deriving DecidableEq, Repr

/-- A call of the callback `f` of an operation, with its context. -/
inductive Call where
  | operation (invocation : Invocation)
  | receive (msg : Option Pointer) (ctx : Context)
  deriving DecidableEq, Repr

namespace Call

def ctx : Call → Context
  | .operation (.connect _ _ ctx) => ctx
  | .operation (.publish ctx) => ctx
  | .operation (.subscribe _ _ ctx) => ctx
  | .operation (.request _ _ ctx) => ctx
  | .receive _ ctx => ctx

/-- What `f` passes to the handler. -/
def arguments : Call → Completion
  | .operation invocation => complete invocation
  | .receive msg _ => ⟨none, msg⟩

end Call

/-- The parameters of `f` in each operation. -/
def Kind.takes : Kind → Call → Bool
  | .connect, .operation (.connect ..) => true
  | .publish, .operation (.publish _) => true
  | .publishWithReply, .operation (.publish _) => true
  | .subcribe, .operation (.subscribe ..) => true
  | .request, .operation (.request ..) => true
  | .requestBuilder, .operation (.request ..) => true
  | .receive, .receive .. => true
  | _, _ => false

/-- What happens to a handler object in allocated storage. -/
inductive Entry (Allocator : Type) where
  | constructed
  | invoked (arguments : Completion)
  | destroyed
  | returned (allocator : Allocator)
  deriving DecidableEq

namespace Entry

variable {Allocator : Type}

def isConstructed : Entry Allocator → Bool
  | .constructed => true
  | _ => false

def isDestroyed : Entry Allocator → Bool
  | .destroyed => true
  | _ => false

end Entry

/-- A handler object: the allocator its storage came from, the token it was made of, its value
now, and its history. -/
structure Record (Handler Allocator : Type) where
  owner : Allocator
  token : Handler
  handler : Handler
  history : List (Entry Allocator)

/-- Where the callback of a context is: not called yet, or back from the handler. -/
inductive Stage where
  | waiting
  | returned
  deriving DecidableEq, Repr

structure Slot (Handler Allocator : Type) where
  kind : Kind
  stage : Stage
  record : Record Handler Allocator

/-- The contexts whose storage is in use, by their addresses, and the records of those that
are over. An allocator may give the address of the latter again. -/
structure State (Handler Allocator : Type) where
  contexts : Table Context (Slot Handler Allocator)
  ended : List (Record Handler Allocator)

variable {Handler Allocator Resource : Type}

namespace State

def init : State Handler Allocator where
  contexts := ∅
  ended := []

end State

variable (handlers : Handlers Handler Allocator Resource)

/-- `allocate_ctx`. The storage at `ctx` is not in use. -/
def allocateCtx (token : Handler) : Record Handler Allocator where
  owner := handlers.allocator token
  token := token
  handler := token
  history := [.constructed]

/-- `deallocate_ctx`. The allocator is the one that is associated with what is there. -/
def deallocateCtx (token : Record Handler Allocator) : Record Handler Allocator :=
  { token with history := token.history ++ [.returned (handlers.allocator token.handler)] }

/-- `(*c)(..)`, which returns normally. -/
def invokeHandler (c : Record Handler Allocator) (arguments : Completion) :
    Record Handler Allocator :=
  { c with
    handler := handlers.invoke c.handler arguments
    history := c.history ++ [.invoked arguments] }

/-- The application starts an operation, and the allocator gives storage at `ctx`. -/
def State.start (state : State Handler Allocator) (kind : Kind) (token : Handler)
    (ctx : Context) : Option (State Handler Allocator) :=
  match state.contexts.lookup ctx with
  | some _ => none
  | none =>
    some { state with
      contexts := state.contexts.insert ctx ⟨kind, .waiting, allocateCtx handlers token⟩ }

/-- The library calls `f`, once for each context, and `f` calls the handler. -/
def State.call (state : State Handler Allocator) (call : Call) :
    Option (State Handler Allocator) :=
  match state.contexts.lookup call.ctx with
  | none => none
  | some slot =>
    if slot.stage = .waiting ∧ slot.kind.takes call then
      some { state with
        contexts := state.contexts.insert call.ctx
          { slot with
            stage := .returned
            record := invokeHandler handlers slot.record call.arguments } }
    else none

/-- The rest of `f`, when the handler is back. -/
def State.finish (state : State Handler Allocator) (ctx : Context) :
    Option (State Handler Allocator) :=
  match state.contexts.lookup ctx with
  | none => none
  | some slot =>
    if slot.stage = .returned then
      some { state with
        contexts := state.contexts.erase ctx
        ended := state.ended ++ [deallocateCtx handlers slot.record] }
    else none

inductive Event (Handler : Type) where
  | start (kind : Kind) (token : Handler) (ctx : Context)
  | call (call : Call)
  | finish (ctx : Context)

def step (state : State Handler Allocator) : Event Handler → Option (State Handler Allocator)
  | .start kind token ctx => state.start handlers kind token ctx
  | .call call => state.call handlers call
  | .finish ctx => state.finish handlers ctx

/-- All orders of starts, calls of the callbacks and their returns, on any threads and from
inside the handlers too. -/
def system : System (State Handler Allocator) (Event Handler) where
  init := State.init
  step := step handlers

/-- A handler object is constructed, called once, destroyed, and its storage goes back to its
own allocator. -/
def Record.LifeCycle (record : Record Handler Allocator) : Prop :=
  ∃ arguments, record.history =
    [.constructed, .invoked arguments, .destroyed, .returned record.owner]

namespace State

/-- The records of all handler objects. -/
def records (state : State Handler Allocator) : List (Record Handler Allocator) :=
  Table.gather (fun slot => [slot.record]) state.contexts ++ state.ended

def histories (state : State Handler Allocator) : List (Entry Allocator) :=
  state.records.flatMap Record.history

end State

/-- The resources that a handler object holds: those that the handler captures, until it is
destroyed. -/
def Record.holds (record : Record Handler Allocator) : List Resource :=
  if record.history.any Entry.isDestroyed then [] else handlers.captured record.handler

/-- What stays referenced by the handlers in contexts. -/
def State.referenced (state : State Handler Allocator) : List Resource :=
  state.records.flatMap (Record.holds handlers)

/-- What the contexts promise of a state. -/
structure State.KeepsLifeCycle (state : State Handler Allocator) : Prop where
  each : ∀ record ∈ state.ended, record.LifeCycle
  balanced : state.contexts = ∅ →
    state.histories.countP Entry.isConstructed = state.histories.countP Entry.isDestroyed
  released : state.contexts = ∅ → state.referenced handlers = []

/-- A record whose handler waits for its call. -/
structure Record.Waiting (record : Record Handler Allocator) : Prop where
  owner : record.owner = handlers.allocator record.token
  handler : record.handler = record.token
  history : record.history = [.constructed]

/-- A record whose handler has been called. -/
structure Record.Called (record : Record Handler Allocator) (arguments : Completion) : Prop where
  owner : record.owner = handlers.allocator record.token
  handler : record.handler = handlers.invoke record.token arguments
  history : record.history = [.constructed, .invoked arguments]

/-- A record whose storage was given back, without a call of the destructor. -/
structure Record.Returned (record : Record Handler Allocator) (arguments : Completion) :
    Prop where
  owner : record.owner = handlers.allocator record.token
  handler : record.handler = handlers.invoke record.token arguments
  history : record.history = [.constructed, .invoked arguments,
    .returned (handlers.allocator record.handler)]

/-- What is true of a context whose storage is in use. -/
def Slot.Ok (slot : Slot Handler Allocator) : Prop :=
  match slot.stage with
  | .waiting => slot.record.Waiting handlers
  | .returned => ∃ arguments, slot.record.Called handlers arguments

structure State.Sound (state : State Handler Allocator) : Prop where
  contexts : ∀ ctx slot, state.contexts.lookup ctx = some slot → slot.Ok handlers
  ended : ∀ record ∈ state.ended, ∃ arguments, record.Returned handlers arguments

variable {handlers}

theorem waiting_allocateCtx (token : Handler) : (allocateCtx handlers token).Waiting handlers where
  owner := rfl
  handler := rfl
  history := rfl

theorem Record.Waiting.call {record : Record Handler Allocator} (waiting : record.Waiting handlers)
    (arguments : Completion) :
    (invokeHandler handlers record arguments).Called handlers arguments where
  owner := waiting.owner
  handler := by rw [invokeHandler, waiting.handler]
  history := by rw [invokeHandler, waiting.history]; rfl

theorem Record.Called.finish {record : Record Handler Allocator} {arguments : Completion}
    (called : record.Called handlers arguments) :
    (deallocateCtx handlers record).Returned handlers arguments where
  owner := called.owner
  handler := called.handler
  history := by rw [deallocateCtx, called.history]; rfl

namespace State

variable {state next : State Handler Allocator}

theorem start_eq_some {kind : Kind} {token : Handler} {ctx : Context}
    (started : state.start handlers kind token ctx = some next) :
    state.contexts.lookup ctx = none ∧
      next = { state with
        contexts := state.contexts.insert ctx ⟨kind, .waiting, allocateCtx handlers token⟩ } := by
  unfold start at started
  split at started
  · cases started
  next free => exact ⟨free, (Option.some.inj started).symm⟩

theorem call_eq_some {call : Call} (called : state.call handlers call = some next) :
    ∃ slot, state.contexts.lookup call.ctx = some slot ∧ slot.stage = .waiting ∧
      slot.kind.takes call ∧
      next = { state with
        contexts := state.contexts.insert call.ctx
          { slot with
            stage := .returned
            record := invokeHandler handlers slot.record call.arguments } } := by
  unfold State.call at called
  split at called
  · cases called
  next slot found =>
    split at called
    next guard => exact ⟨slot, found, guard.1, guard.2, (Option.some.inj called).symm⟩
    · cases called

theorem finish_eq_some {ctx : Context} (finished : state.finish handlers ctx = some next) :
    ∃ slot, state.contexts.lookup ctx = some slot ∧ slot.stage = .returned ∧
      next = { state with
        contexts := state.contexts.erase ctx
        ended := state.ended ++ [deallocateCtx handlers slot.record] } := by
  unfold finish at finished
  split at finished
  · cases finished
  next slot found =>
    split at finished
    next guard => exact ⟨slot, found, guard, (Option.some.inj finished).symm⟩
    · cases finished

theorem Sound.step (sound : state.Sound handlers) {event : Event Handler}
    (taken : step handlers state event = some next) : next.Sound handlers := by
  cases event with
  | start kind token ctx =>
      obtain ⟨_, rfl⟩ := start_eq_some taken
      refine ⟨Table.forall_insert sound.contexts ?_, sound.ended⟩
      exact waiting_allocateCtx token
  | call call =>
      obtain ⟨slot, found, stage, _, rfl⟩ := call_eq_some taken
      have ok := sound.contexts _ slot found
      rw [Slot.Ok, stage] at ok
      refine ⟨Table.forall_insert sound.contexts ?_, sound.ended⟩
      exact ⟨call.arguments, ok.call call.arguments⟩
  | finish ctx =>
      obtain ⟨slot, found, stage, rfl⟩ := finish_eq_some taken
      have ok := sound.contexts _ slot found
      rw [Slot.Ok, stage] at ok
      obtain ⟨arguments, called⟩ := ok
      refine ⟨Table.forall_erase sound.contexts, ?_⟩
      rw [List.forall_mem_append, List.forall_mem_singleton]
      exact ⟨sound.ended, arguments, called.finish⟩

end State

theorem sound_of_reachable {state : State Handler Allocator}
    (reached : (system handlers).Reachable state) : state.Sound handlers := by
  refine System.Reachable.induction (motive := State.Sound handlers) ?_ ?_ reached
  · refine ⟨fun ctx slot found => ?_, fun record member => ?_⟩
    · cases found
    · cases member
  · intro state event next _ sound taken
    exact sound.step taken

/-- A handler object in a context is constructed once and never destroyed. -/
structure Record.Kept (record : Record Handler Allocator) : Prop where
  constructed : record.history.countP Entry.isConstructed = 1
  destroyed : record.history.countP Entry.isDestroyed = 0

theorem Slot.Ok.kept {slot : Slot Handler Allocator} (ok : slot.Ok handlers) :
    slot.record.Kept := by
  unfold Slot.Ok at ok
  split at ok
  · exact ⟨by rw [ok.history]; rfl, by rw [ok.history]; rfl⟩
  · obtain ⟨arguments, called⟩ := ok
    exact ⟨by rw [called.history]; rfl, by rw [called.history]; rfl⟩

theorem Record.Returned.kept {record : Record Handler Allocator} {arguments : Completion}
    (returned : record.Returned handlers arguments) : record.Kept where
  constructed := by rw [returned.history]; rfl
  destroyed := by rw [returned.history]; rfl

theorem Record.Kept.not_lifeCycle {record : Record Handler Allocator} (kept : record.Kept) :
    ¬ record.LifeCycle := by
  rintro ⟨arguments, history⟩
  have destroyed := kept.destroyed
  rw [history] at destroyed
  cases destroyed

theorem Record.Kept.holds_eq {record : Record Handler Allocator} (kept : record.Kept) :
    record.holds handlers = handlers.captured record.handler := by
  have none := List.countP_eq_zero.mp kept.destroyed
  rw [holds, if_neg]
  simpa only [List.any_eq_true, not_exists, not_and] using none

namespace State

variable {state : State Handler Allocator}

theorem Sound.kept (sound : state.Sound handlers) : ∀ record ∈ state.records, record.Kept := by
  intro record member
  rcases List.mem_append.mp member with inUse | ended
  · obtain ⟨ctx, slot, found, held⟩ := (Table.mem_gather _).mp inUse
    rw [List.mem_singleton.mp held]
    exact (sound.contexts ctx slot found).kept
  · obtain ⟨arguments, returned⟩ := sound.ended record ended
    exact returned.kept

/-- As many handler objects were constructed as there are records. -/
theorem Sound.constructed_eq (sound : state.Sound handlers) :
    state.histories.countP Entry.isConstructed = state.records.length := by
  have each : ∀ record ∈ state.records,
      (List.countP Entry.isConstructed ∘ Record.history) record = 1 :=
    fun record member => (sound.kept record member).constructed
  rw [histories, List.countP_flatMap, List.map_congr_left each, List.map_const',
    List.sum_replicate_nat, Nat.mul_one]

/-- None was destroyed. -/
theorem Sound.destroyed_eq_zero (sound : state.Sound handlers) :
    state.histories.countP Entry.isDestroyed = 0 := by
  rw [List.countP_eq_zero]
  intro entry member
  obtain ⟨record, recorded, inside⟩ := List.mem_flatMap.mp member
  exact List.countP_eq_zero.mp (sound.kept record recorded).destroyed entry inside

/-- The numbers agree only before the first operation. -/
theorem Sound.balanced_iff (sound : state.Sound handlers) :
    state.histories.countP Entry.isConstructed = state.histories.countP Entry.isDestroyed ↔
      state.records = [] := by
  rw [sound.constructed_eq, sound.destroyed_eq_zero, List.length_eq_zero_iff]

/-- Whatever the handlers hold after their calls stays referenced. -/
theorem Sound.referenced_eq (sound : state.Sound handlers) :
    state.referenced handlers =
      state.records.flatMap fun record => handlers.captured record.handler :=
  List.flatMap_congr fun record member => (sound.kept record member).holds_eq

/-- When all callbacks have run, nothing stays referenced if and only if the call of each
handler leaves it without resources. -/
theorem Sound.released_iff (sound : state.Sound handlers) (done : state.contexts = ∅) :
    state.referenced handlers = [] ↔
      ∀ record ∈ state.ended, ∃ arguments,
        record.Returned handlers arguments ∧
          handlers.captured (handlers.invoke record.token arguments) = [] := by
  have records : state.records = state.ended := by
    rw [State.records, done, Table.gather_empty, List.nil_append]
  rw [sound.referenced_eq, records, List.flatMap_eq_nil_iff]
  refine forall₂_congr fun record member => ?_
  obtain ⟨arguments, returned⟩ := sound.ended record member
  constructor
  · intro empty
    exact ⟨arguments, returned, returned.handler ▸ empty⟩
  · rintro ⟨passed, other, empty⟩
    rw [other.handler, empty]

end State

/-- The storage of a handler goes back once, and to its own allocator if calls of handlers
leave their allocators as they are. -/
theorem returned_to_owner {state : State Handler Allocator}
    (keeps : ∀ handler arguments,
      handlers.allocator (handlers.invoke handler arguments) = handlers.allocator handler)
    (reached : (system handlers).Reachable state) {record : Record Handler Allocator}
    (finished : record ∈ state.ended) :
    ∃ arguments, record.history = [.constructed, .invoked arguments, .returned record.owner] := by
  obtain ⟨arguments, returned⟩ := (sound_of_reachable reached).ended record finished
  have own : handlers.allocator record.handler = record.owner := by
    rw [returned.handler, keeps, returned.owner]
  exact ⟨arguments, own ▸ returned.history⟩

/-- Once a callback has run, its handler has not had its life cycle, whatever its type and its
allocator are. -/
theorem lifeCycle_fails {state : State Handler Allocator}
    (reached : (system handlers).Reachable state) {record : Record Handler Allocator}
    (finished : record ∈ state.ended) : ¬ state.KeepsLifeCycle handlers := by
  intro keeps
  have kept := (sound_of_reachable reached).kept record (List.mem_append_right _ finished)
  exact kept.not_lifeCycle (keeps.each record finished)

/-- Closures that capture shared pointers and leave them in place when they are called, under
one allocator. -/
def closures : Handlers (List Nat) Unit Nat where
  allocator := fun _ => ()
  captured := id
  invoke := fun handler _ => handler

/-- A message is published and its callback runs. -/
def publishOne : List (Event (List Nat)) :=
  [.start .publish [7] 0, .call (.operation (.publish 0)), .finish 0]

/-- What `publishOne` leaves behind. -/
def publishedRecord : Record (List Nat) Unit :=
  ⟨(), [7], [7], [.constructed, .invoked ⟨none, none⟩, .returned ()]⟩

theorem run_publishOne : (system closures).run publishOne = some ⟨∅, [publishedRecord]⟩ := by
  rfl

theorem lifeCycle_fails_of_publish :
    ¬ State.KeepsLifeCycle closures ⟨∅, [publishedRecord]⟩ :=
  lifeCycle_fails ⟨publishOne, run_publishOne⟩ List.mem_cons_self

/-- A closure with a shared pointer is never destroyed, and the pointer stays referenced. -/
theorem not_keepsLifeCycle_of_publish :
    ¬ ∀ state, (system closures).Reachable state → state.KeepsLifeCycle closures := by
  intro keeps
  have released := (keeps _ ⟨publishOne, run_publishOne⟩).released rfl
  cases released

end AsyncNats.Operations.Contexts
