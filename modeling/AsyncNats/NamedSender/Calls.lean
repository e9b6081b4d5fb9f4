import AsyncNats.NamedSender.Steps

/-! # Calls in progress

Each thread has at most one call in progress, its calls are numbered in the order
in which it makes them, and the thread-local buffers are empty between steps, so
the message a call builds holds that call's own topic and payload.
-/

namespace AsyncNats.NamedSender

open Sync

/-- What holds of a call in progress, given the calls accepted and the results
returned so far. -/
structure RowOk (entered : Nat) (accepted : List Call) (returned : List (Call × Bool))
    (thread : ThreadId) (pending : Pending) : Prop where
  thread_eq : pending.call.thread = thread
  number_lt : pending.call.number < entered
  built : ∀ message, pending.stage = .built message →
    ∃ permit, message = pending.call.message permit
  later : ∀ call ∈ accepted, call.thread = thread → call.number < pending.call.number
  unreturned : ∀ result ∈ returned, result.1 ≠ pending.call

/-- The bookkeeping of calls. It names the fields it is about, so a step that
touches none of them keeps it as it stands. -/
structure CallsOk (calls : Table ThreadId Pending) (bytes : ThreadId → EntryPoint → Bytes)
    (entered : Nat) (accepted : List Call) (returned : List (Call × Bool)) : Prop where
  rows : ∀ thread pending, calls.lookup thread = some pending →
    RowOk entered accepted returned thread pending
  buffers : ∀ thread entry, bytes thread entry = []
  accepted_lt : ∀ call ∈ accepted, call.number < entered
  returned_lt : ∀ result ∈ returned, result.1.number < entered
  ordered : accepted.Pairwise fun earlier later =>
    earlier.thread = later.thread → earlier.number < later.number

def State.CallsOk (state : State) : Prop :=
  NamedSender.CallsOk state.calls state.bytes state.entered state.accepted state.returned

variable {calls : Table ThreadId Pending} {bytes : ThreadId → EntryPoint → Bytes} {entered : Nat}
  {accepted : List Call} {returned : List (Call × Bool)} {thread : ThreadId} {pending : Pending}

namespace CallsOk

/-- A new call is later than all calls before it. -/
theorem enter (ok : CallsOk calls bytes entered accepted returned) (handle : HandleId)
    (entry : EntryPoint) (topic : BorrowedString) (data : Bytes) :
    CallsOk (calls.insert thread ⟨entry, handle, ⟨entered, thread, topic, data⟩, .entered⟩)
      bytes (entered + 1) accepted returned where
  rows := by
    refine Table.forall_insert (fun other row found => ?_) ?_
    · have row := ok.rows other row found
      exact { row with number_lt := Nat.lt_succ_of_lt row.number_lt }
    · exact
        { thread_eq := rfl
          number_lt := Nat.lt_succ_self entered
          built := fun message stage => by cases stage
          later := fun call member _ => ok.accepted_lt call member
          unreturned := fun result member same => by
            have bound := ok.returned_lt result member
            rw [same] at bound
            exact Nat.lt_irrefl _ bound }
  buffers := ok.buffers
  accepted_lt := fun call member => Nat.lt_succ_of_lt (ok.accepted_lt call member)
  returned_lt := fun result member => Nat.lt_succ_of_lt (ok.returned_lt result member)
  ordered := ok.ordered

/-- A call may go to any stage whose message, if there is one, is its own. -/
theorem setStage (ok : CallsOk calls bytes entered accepted returned)
    (calling : calls.lookup thread = some pending) (stage : Stage)
    (own : ∀ message, stage = .built message → ∃ permit, message = pending.call.message permit) :
    CallsOk (calls.insert thread { pending with stage }) bytes entered accepted returned :=
  { ok with
    rows := Table.forall_insert ok.rows { ok.rows thread pending calling with built := own } }

/-- Copying a payload leaves the thread's buffer empty. -/
theorem build (ok : CallsOk calls bytes entered accepted returned)
    (calling : calls.lookup thread = some pending) (permit : Option Permit) :
    CallsOk
      (calls.insert thread { pending with
        stage := .built (pending.call.messageThrough permit (bytes thread pending.entry)) })
      (Function.update bytes thread (Function.update (bytes thread) pending.entry
        (copyThrough (bytes thread pending.entry) pending.call.data).2))
      entered accepted returned := by
  have own : pending.call.messageThrough permit (bytes thread pending.entry) =
      pending.call.message permit := by
    simp only [Call.messageThrough, ok.buffers, copyThrough_nil]
    rfl
  have unchanged : Function.update bytes thread (Function.update (bytes thread) pending.entry
      (copyThrough (bytes thread pending.entry) pending.call.data).2) = bytes := by
    rw [ok.buffers, copyThrough_nil, ← ok.buffers thread pending.entry,
      Function.update_eq_self, Function.update_eq_self]
  rw [own, unchanged]
  refine ok.setStage calling _ fun message stage => ⟨permit, ?_⟩
  cases stage
  rfl

/-- A call leaves, possibly with a result. -/
theorem leave (ok : CallsOk calls bytes entered accepted returned)
    (calling : calls.lookup thread = some pending) (results : List (Call × Bool))
    (own : ∀ result ∈ results, result.1 = pending.call) :
    CallsOk (calls.erase thread) bytes entered accepted (returned ++ results) where
  rows := fun other row found => by
    obtain ⟨distinct, found⟩ := Table.lookup_of_erase found
    have row := ok.rows other row found
    refine { row with unreturned := fun result member same => ?_ }
    rcases List.mem_append.mp member with before | now
    · exact row.unreturned result before same
    · have threads := (ok.rows thread pending calling).thread_eq
      rw [← own result now, same, row.thread_eq] at threads
      exact distinct threads
  buffers := ok.buffers
  accepted_lt := ok.accepted_lt
  returned_lt := fun result member => by
    rcases List.mem_append.mp member with before | now
    · exact ok.returned_lt result before
    · rw [own result now]
      exact (ok.rows thread pending calling).number_lt
  ordered := ok.ordered

/-- The call that is accepted is the latest of its thread, and it leaves. -/
theorem accept (ok : CallsOk calls bytes entered accepted returned)
    (calling : calls.lookup thread = some pending) (results : List (Call × Bool))
    (own : ∀ result ∈ results, result.1 = pending.call) :
    CallsOk (calls.erase thread) bytes entered (accepted ++ [pending.call])
      (returned ++ results) := by
  have row := ok.rows thread pending calling
  have left := ok.leave calling results own
  exact
    { left with
      rows := fun other found looked => by
        have distinct := (Table.lookup_of_erase looked).1
        have kept := left.rows other found looked
        refine { kept with later := fun call member same => ?_ }
        rcases List.mem_append.mp member with before | now
        · exact kept.later call before same
        · rw [List.mem_singleton.mp now, row.thread_eq] at same
          exact (distinct same.symm).elim
      accepted_lt := fun call member => by
        rcases List.mem_append.mp member with before | now
        · exact ok.accepted_lt call before
        · rw [List.mem_singleton.mp now]
          exact row.number_lt
      ordered := by
        refine List.pairwise_append.mpr ⟨ok.ordered, List.pairwise_singleton _ _, ?_⟩
        intro earlier member later last
        rw [List.mem_singleton.mp last]
        exact fun same => row.later earlier member (same.trans row.thread_eq) }

end CallsOk

theorem State.own_report (pending : Pending) :
    ∀ result ∈ State.report pending, result.1 = pending.call := by
  intro result member
  unfold State.report at member
  cases entry : pending.entry with
  | send =>
      rw [entry] at member
      cases member
  | trySend =>
      rw [entry] at member
      rw [List.mem_singleton.mp member]

theorem withCapacity_callsOk {topic : CString} {capacity : Nat} {init : State}
    (created : withCapacity topic capacity = some init) : init.CallsOk := by
  unfold withCapacity at created
  obtain ⟨sem, _, rfl⟩ := Option.map_eq_some_iff.mp created
  exact
    { rows := fun thread pending found => by
        rw [AList.lookup_empty] at found
        cases found
      buffers := fun _ _ => rfl
      accepted_lt := fun _ member => by cases member
      returned_lt := fun _ member => by cases member
      ordered := .nil }

theorem Step.callsOk {state next : State} {event : Event} (step : Step state event next)
    (ok : state.CallsOk) : next.CallsOk := by
  cases step with
  | enter live idle => exact CallsOk.enter ok ..
  | acquired calling stage acquired =>
      exact CallsOk.setStage ok calling _ fun message built => by cases built
  | unpermitted calling stage entry exhausted =>
      exact CallsOk.setStage ok calling _ fun message built => by cases built
  | build calling stage => exact CallsOk.build ok calling _
  | refused calling stage entry exhausted =>
      refine CallsOk.leave ok calling _ fun result member => ?_
      rw [List.mem_singleton.mp member]
  | sent calling stage opened => exact CallsOk.accept ok calling _ (State.own_report _)
  | discarded calling stage closed => exact CallsOk.leave ok calling _ (State.own_report _)
  | clone | delete | received | broke | published | cancelledReceiving | cancelledPublishing
  | alreadyOver | closed | drained | ended => exact ok

/-- The bookkeeping holds in every reachable state. -/
theorem callsOk_of_reachable {topic : CString} {capacity : Nat} {init state : State}
    (created : withCapacity topic capacity = some init) (reached : (system init).Reachable state) :
    state.CallsOk :=
  Transition.System.Reachable.induction (motive := State.CallsOk) (withCapacity_callsOk created)
    (fun _ _ _ _ ok taken => (step_cases taken).callsOk ok) reached

end AsyncNats.NamedSender
