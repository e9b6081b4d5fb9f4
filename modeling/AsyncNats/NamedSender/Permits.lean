import AsyncNats.NamedSender.Calls

/-! # No permit is lost

The permits of a sender are in three places: in calls in progress, in the message
the worker is publishing and in the queue. Together with the available ones they
are the capacity, whatever the callers, the worker and the runtime do.
-/

namespace AsyncNats.NamedSender

open Sync Transition

def Message.permits (message : Message) : List Permit := message.permit.toList

/-- The permit a call in progress holds. -/
def Pending.permits (pending : Pending) : List Permit :=
  match pending.stage with
  | .entered => []
  | .acquired permit => permit.toList
  | .built message => message.permits

/-- The permit of the message being published. -/
def Worker.permits : Worker → List Permit
  | .publishing message => message.permits
  | _ => []

/-- The permits held by the calls in progress, by the worker and by the queued
messages. -/
def heldIn (calls : Table ThreadId Pending) (worker : Worker) (queue : List Message) :
    List Permit :=
  Table.gather Pending.permits calls ++ (worker.permits ++ queue.flatMap Message.permits)

/-- All permits held. -/
def State.held (state : State) : List Permit :=
  heldIn state.calls state.worker state.channel.queue

/-- A call's permit apart from all others. -/
theorem heldIn_perm {calls : Table ThreadId Pending} {thread : ThreadId} {pending : Pending}
    (calling : calls.lookup thread = some pending) (worker : Worker) (queue : List Message) :
    (heldIn calls worker queue).Perm
      (pending.permits ++ heldIn (calls.erase thread) worker queue) := by
  unfold heldIn
  rw [← List.append_assoc pending.permits]
  exact (Table.gather_perm_of_lookup Pending.permits calling).append_right _

/-- Replacing a call replaces its permit. -/
theorem heldIn_insert (calls : Table ThreadId Pending) (thread : ThreadId) (pending : Pending)
    (worker : Worker) (queue : List Message) :
    heldIn (calls.insert thread pending) worker queue =
      pending.permits ++ heldIn (calls.erase thread) worker queue := by
  unfold heldIn
  rw [Table.gather_insert, List.append_assoc]

/-- A call that goes on with the same permit. -/
theorem heldIn_setStage {calls : Table ThreadId Pending} {thread : ThreadId} {pending : Pending}
    (calling : calls.lookup thread = some pending) (row : Pending)
    (same : row.permits = pending.permits) (worker : Worker) (queue : List Message) :
    (heldIn calls worker queue).Perm (heldIn (calls.insert thread row) worker queue) := by
  rw [heldIn_insert, same]
  exact heldIn_perm calling worker queue

section Places

variable (calls : Table ThreadId Pending) {worker : Worker} (message : Message)
  (queue : List Message)

/-- A new last message brings its permit. -/
theorem heldIn_concat : (heldIn calls worker (queue ++ [message])).Perm
    (message.permits ++ heldIn calls worker queue) := by
  unfold heldIn
  rw [List.flatMap_append, List.flatMap_singleton, ← List.append_assoc, ← List.append_assoc]
  exact List.perm_append_comm.trans (.of_eq (by rw [List.append_assoc]))

/-- The permit of the next message apart from all others. -/
theorem heldIn_cons : (heldIn calls worker (message :: queue)).Perm
    (message.permits ++ heldIn calls worker queue) := by
  unfold heldIn
  rw [List.flatMap_cons]
  exact ((List.perm_append_comm_assoc ..).append_left _).trans (List.perm_append_comm_assoc ..)

/-- The permit of the message being published apart from all others. -/
theorem heldIn_publishing (idle : worker.permits = []) :
    (heldIn calls (.publishing message) queue).Perm
      (message.permits ++ heldIn calls worker queue) := by
  unfold heldIn
  rw [idle, List.nil_append]
  exact List.perm_append_comm_assoc ..

end Places

/-- The ledger of a sender: its semaphore is balanced by the permits held, and the
permits released so far belonged to messages whose publish has finished or that
were dropped. -/
structure Accounts (capacity : Nat) (state : State) : Prop where
  balanced : Semaphore.Balanced capacity state.sem state.held
  settled : ∀ permit ∈ state.sem.released,
    ∃ message ∈ state.finished ++ state.dropped, message.permit = some permit

variable {capacity : Nat} {state next : State} {event : Event}

/-- A message that leaves for good gives its permit back. -/
theorem Accounts.retire (accounts : Accounts capacity state) (message : Message)
    (after : State) (sem : after.sem = state.sem.releaseOption message.permit)
    (held : state.held.Perm (message.permits ++ after.held))
    (gone : message ∈ after.finished ++ after.dropped)
    (kept : state.finished ++ state.dropped ⊆ after.finished ++ after.dropped) :
    Accounts capacity after where
  balanced := by
    rw [sem]
    exact (accounts.balanced.perm held).releaseOption
  settled := fun permit member => by
    rw [sem, Semaphore.releaseOption_released] at member
    rcases List.mem_append.mp member with before | now
    · obtain ⟨earlier, among, own⟩ := accounts.settled permit before
      exact ⟨earlier, kept among, own⟩
    · exact ⟨message, gone, Option.mem_toList.mp now⟩

/-- A step that moves permits between places. -/
theorem Accounts.move (accounts : Accounts capacity state) (after : State)
    (sem : after.sem = state.sem) (held : state.held.Perm after.held)
    (finished : after.finished = state.finished) (dropped : after.dropped = state.dropped) :
    Accounts capacity after where
  balanced := sem ▸ accounts.balanced.perm held
  settled := by
    rw [sem, finished, dropped]
    exact accounts.settled

/-- A message that is dropped gives its permit back. -/
theorem Accounts.drop (accounts : Accounts capacity state) (message : Message)
    (after : State) (sem : after.sem = state.sem.releaseOption message.permit)
    (held : state.held.Perm (message.permits ++ after.held))
    (finished : after.finished = state.finished)
    (dropped : after.dropped = state.dropped ++ [message]) : Accounts capacity after := by
  refine accounts.retire message after sem held ?_ ?_
  · rw [finished, dropped]
    exact List.mem_append_right _ (List.mem_append_right _ List.mem_cons_self)
  · rw [finished, dropped, ← List.append_assoc]
    exact List.subset_append_left _ _

/-- A message whose publish has finished gives its permit back. -/
theorem Accounts.finish (accounts : Accounts capacity state) (message : Message)
    (after : State) (sem : after.sem = state.sem.releaseOption message.permit)
    (held : state.held.Perm (message.permits ++ after.held))
    (finished : after.finished = state.finished ++ [message])
    (dropped : after.dropped = state.dropped) : Accounts capacity after := by
  refine accounts.retire message after sem held ?_ ?_
  · rw [finished, dropped]
    exact List.mem_append_left _ (List.mem_append_right _ List.mem_cons_self)
  · rw [finished, dropped]
    exact List.append_subset.mpr
      ⟨fun _ member => List.mem_append_left _ (List.mem_append_left _ member),
        List.subset_append_right _ _⟩

/-- A step that leaves every permit where it is. -/
theorem Accounts.stay (accounts : Accounts capacity state) (after : State)
    (sem : after.sem = state.sem) (calls : after.calls = state.calls)
    (worker : after.worker.permits = state.worker.permits)
    (queue : after.channel.queue = state.channel.queue)
    (finished : after.finished = state.finished) (dropped : after.dropped = state.dropped) :
    Accounts capacity after := by
  refine accounts.move after sem (.of_eq ?_) finished dropped
  unfold State.held heldIn
  rw [calls, worker, queue]

/-- The ledger is kept by every step. -/
theorem Step.accounts (step : Step state event next) (accounts : Accounts capacity state) :
    Accounts capacity next := by
  cases step with
  | clone live unused => exact accounts.stay _ rfl rfl rfl rfl rfl rfl
  | delete live idle =>
      exact accounts.stay _ rfl rfl rfl (State.dropInner_queue _) rfl rfl
  | enter live idle =>
      refine accounts.move _ rfl (.of_eq ?_) rfl rfl
      unfold State.held
      rw [heldIn_insert, Table.erase_of_lookup_none idle]
      rfl
  | @acquired thread pending permit sem calling stage acquired =>
      have none_yet : pending.permits = [] := by simp only [Pending.permits, stage]
      have apart := heldIn_perm calling state.worker state.channel.queue
      rw [none_yet, List.nil_append] at apart
      constructor
      · have taken := (accounts.balanced.perm apart).tryAcquireOwned acquired
        refine taken.perm (.of_eq (.symm ?_))
        exact heldIn_insert state.calls thread { pending with stage := .acquired (some permit) } ..
      · rw [Semaphore.tryAcquireOwned_released acquired]
        exact accounts.settled
  | @refused thread pending calling stage entry exhausted =>
      have none_yet : pending.permits = [] := by simp only [Pending.permits, stage]
      have apart := heldIn_perm calling state.worker state.channel.queue
      rw [none_yet, List.nil_append] at apart
      exact accounts.move _ rfl apart rfl rfl
  | @unpermitted thread pending calling stage entry exhausted =>
      have same : Pending.permits { pending with stage := .acquired none } = pending.permits := by
        simp only [Pending.permits, stage, Option.toList_none]
      exact accounts.move _ rfl (heldIn_setStage calling _ same ..) rfl rfl
  | @build thread pending permit calling stage =>
      refine accounts.move _ rfl (heldIn_setStage calling _ ?_ ..) rfl rfl
      simp only [Pending.permits, stage]
      rfl
  | @sent thread pending message calling stage opened =>
      have own : pending.permits = message.permits := by simp only [Pending.permits, stage]
      have apart := heldIn_perm calling state.worker state.channel.queue
      rw [own] at apart
      exact accounts.move _ rfl (apart.trans (heldIn_concat ..).symm) rfl rfl
  | @discarded thread pending message calling stage closed =>
      have own : pending.permits = message.permits := by simp only [Pending.permits, stage]
      have apart := heldIn_perm calling state.worker state.channel.queue
      rw [own] at apart
      exact accounts.drop message _ rfl apart rfl rfl
  | @received message rest waiting queue =>
      refine accounts.move _ rfl ?_ rfl rfl
      unfold State.held
      rw [Channel.advance_queue, queue, waiting]
      exact (heldIn_cons ..).trans (heldIn_publishing _ _ _ rfl).symm
  | broke waiting | cancelledReceiving waiting =>
      exact accounts.stay _ rfl rfl (by rw [waiting]; rfl) rfl rfl rfl
  | @published message succeeded publishing =>
      refine accounts.finish message _ rfl ?_ rfl rfl
      have idle : Worker.permits (if succeeded then .receiving else .dropping) = [] := by
        cases succeeded <;> rfl
      unfold State.held
      rw [publishing]
      exact heldIn_publishing _ _ _ idle
  | cancelledPublishing publishing =>
      refine accounts.drop _ _ rfl ?_ rfl rfl
      unfold State.held
      rw [publishing]
      exact heldIn_publishing _ _ _ rfl
  | alreadyOver => exact accounts
  | closed dropping => exact accounts.stay _ rfl rfl (by rw [dropping]; rfl) rfl rfl rfl
  | drained draining queue =>
      refine accounts.drop _ _ rfl ?_ rfl rfl
      unfold State.held
      rw [Channel.advance_queue, queue, draining]
      exact heldIn_cons ..
  | ended draining queue =>
      have emptied := State.dropInner_queue { state with worker := .ended }
      exact accounts.stay _ rfl rfl (by rw [draining]; rfl) emptied rfl rfl

section Runs

variable {name : CString} {init : State}

theorem withCapacity_accounts (created : withCapacity name capacity = some init) :
    Accounts capacity init := by
  unfold withCapacity at created
  obtain ⟨sem, new, rfl⟩ := Option.map_eq_some_iff.mp created
  refine ⟨Semaphore.Balanced.new new, fun permit member => ?_⟩
  unfold Semaphore.new at new
  split at new <;> cases new
  cases member

theorem accounts_of_reachable (created : withCapacity name capacity = some init)
    (reached : (system init).Reachable state) : Accounts capacity state :=
  System.Reachable.induction (motive := Accounts capacity) (withCapacity_accounts created)
    (fun _ _ _ _ accounts taken => (step_cases taken).accounts accounts) reached

/-- What permit conservation means for a sender of the given capacity in one of
its states. -/
structure PermitsConserved (capacity : Nat) (state : State) : Prop where
  /-- No permit is lost and none is made up. -/
  conserved : state.sem.available + state.held.length = capacity
  /-- At its acquire step `try_send` returns `false` exactly when all permits are
  held. -/
  refuses : ∀ thread pending, state.calls.lookup thread = some pending →
    pending.stage = .entered → pending.entry = .trySend →
      ∃ next, step state (.acquire thread) = some next ∧
        ((pending.call, false) ∈ next.returned ↔ state.held.length = capacity)
  /-- No other step makes a call return `false`. -/
  refuses_only : ∀ event next call, step state event = some next →
    (call, false) ∈ next.returned → (call, false) ∉ state.returned →
      ∃ thread pending, event = .acquire thread ∧ state.calls.lookup thread = some pending ∧
        pending.entry = .trySend ∧ pending.stage = .entered ∧ pending.call = call
  /-- A permit is released once. -/
  released_once : state.sem.released.Nodup
  /-- A released permit is held by nobody. -/
  released_not_held : ∀ permit ∈ state.sem.released, permit ∉ state.held
  /-- A permit is released after its message's publish or with its message. -/
  released_after : ∀ permit ∈ state.sem.released,
    ∃ message ∈ state.finished ++ state.dropped, message.permit = some permit
  /-- `send` goes on from its acquire step, with or without a permit. -/
  send_proceeds : ∀ thread pending, state.calls.lookup thread = some pending →
    pending.stage = .entered → pending.entry = .send →
      ∃ next permit, step state (.acquire thread) = some next ∧
        next.calls.lookup thread = some { pending with stage := .acquired permit }
  /-- An open channel takes every message, with or without a permit. -/
  send_enqueues : ∀ thread pending message, state.calls.lookup thread = some pending →
    pending.stage = .built message → state.channel.closed = false →
      ∃ next, step state (.sendToChannel thread) = some next ∧
        next.channel.queue = state.channel.queue ++ [message] ∧
        next.accepted = state.accepted ++ [pending.call]

/-- A result that a step adds is `false` only if the step refused a call. -/
theorem Step.returned_false (step : Step state event next) {call : Call}
    (after : (call, false) ∈ next.returned) (before : (call, false) ∉ state.returned) :
    ∃ thread pending, event = .acquire thread ∧ state.calls.lookup thread = some pending ∧
      pending.entry = .trySend ∧ pending.stage = .entered ∧ pending.call = call := by
  cases step with
  | @refused thread pending calling stage entry exhausted =>
      refine ⟨thread, pending, rfl, calling, entry, stage, ?_⟩
      have now := (List.mem_append.mp after).resolve_left before
      exact (congrArg Prod.fst (List.mem_singleton.mp now)).symm
  | @sent thread pending message calling stage opened
  | @discarded thread pending message calling stage closed =>
      have now := (List.mem_append.mp after).resolve_left before
      unfold State.report at now
      cases entry : pending.entry <;> simp only [entry, List.mem_singleton, Prod.mk.injEq,
        Bool.false_eq_true, and_false, List.not_mem_nil] at now
  | clone | delete | enter | acquired | unpermitted | build | received | broke | published
  | cancelledReceiving | cancelledPublishing | alreadyOver | closed | drained | ended =>
      exact (before after).elim

theorem acquire_of_trySend {thread : ThreadId} {pending : Pending}
    (calling : state.calls.lookup thread = some pending) (stage : pending.stage = .entered)
    (entry : pending.entry = .trySend) :
    step state (.acquire thread) = some (state.trySendAcquire thread pending) := by
  simp only [step, State.acquire, calling, stage, entry]

theorem acquire_of_send {thread : ThreadId} {pending : Pending}
    (calling : state.calls.lookup thread = some pending) (stage : pending.stage = .entered)
    (entry : pending.entry = .send) :
    step state (.acquire thread) = some (state.sendAcquire thread pending) := by
  simp only [step, State.acquire, calling, stage, entry]

theorem sendToChannel_of_open {thread : ThreadId} {pending : Pending} {message : Message}
    (calling : state.calls.lookup thread = some pending) (stage : pending.stage = .built message)
    (opened : state.channel.closed = false) :
    step state (.sendToChannel thread) = some { state.leave thread with
      channel := state.channel.push message state.channel.room_of_unbounded
      accepted := state.accepted ++ [pending.call]
      returned := state.returned ++ State.report pending } := by
  simp only [step, State.sendToChannel, calling, stage,
    Channel.trySend_of_room opened state.channel.room_of_unbounded]

/-- Permits are conserved in every reachable state. -/
theorem permits_conserved (created : withCapacity name capacity = some init)
    (reached : (system init).Reachable state) : PermitsConserved capacity state := by
  have accounts := accounts_of_reachable created reached
  have calls := callsOk_of_reachable created reached
  have unique := List.nodup_append.mp accounts.balanced.nodup
  exact
    { conserved := accounts.balanced.conserved
      refuses := fun thread pending calling stage entry => by
        refine ⟨_, acquire_of_trySend calling stage entry, ?_⟩
        rw [← accounts.balanced.tryAcquireOwned_eq_none]
        have fresh : (pending.call, false) ∉ state.returned := fun member =>
          (calls.rows thread pending calling).unreturned _ member rfl
        unfold State.trySendAcquire
        cases acquired : state.sem.tryAcquireOwned with
        | none => exact iff_of_true (List.mem_append_right _ List.mem_cons_self) rfl
        | some result => exact iff_of_false fresh (by simp only [reduceCtorEq, not_false_eq_true])
      refuses_only := fun event next call taken after before =>
        (step_cases taken).returned_false after before
      released_once := unique.1
      released_not_held := fun permit member held => unique.2.2 permit member permit held rfl
      released_after := accounts.settled
      send_proceeds := fun thread pending calling stage entry => by
        rw [acquire_of_send calling stage entry]
        unfold State.sendAcquire
        cases acquired : state.sem.tryAcquireOwned with
        | none => exact ⟨_, none, rfl, AList.lookup_insert _⟩
        | some result => exact ⟨_, some result.1, rfl, AList.lookup_insert _⟩
      send_enqueues := fun thread pending message calling stage opened =>
        ⟨_, sendToChannel_of_open calling stage opened, rfl, rfl⟩ }

/-- One permit, two calls: the second `try_send` is refused, the following `send`
goes through without a permit, and when the publish fails the permit is back. -/
theorem permits_conserved_of_overfull :
    ∃ init state, withCapacity ⟨[0x74], by decide⟩ 1 = some init ∧
      (system init).run
        [.enter 0 0 .trySend none [1], .acquire 0, .build 0, .sendToChannel 0,
          .enter 0 0 .trySend none [2], .acquire 0, .enter 0 0 .send none [3], .acquire 0,
          .build 0, .sendToChannel 0, .recv, .publishDone false] = some state ∧
      (state.sem.available = 1 ∧ state.held = [] ∧ state.channel.queue.length = 1) ∧
      PermitsConserved 1 state := by
  have evaluated :
      ((withCapacity ⟨[0x74], by decide⟩ 1).bind fun init =>
        ((system init).run
          [.enter 0 0 .trySend none [1], .acquire 0, .build 0, .sendToChannel 0,
            .enter 0 0 .trySend none [2], .acquire 0, .enter 0 0 .send none [3], .acquire 0,
            .build 0, .sendToChannel 0, .recv, .publishDone false]).map fun state =>
              (state.sem.available, state.held, state.channel.queue.length)) =
        some (1, [], 1) := by decide
  obtain ⟨init, created, ran⟩ := Option.bind_eq_some_iff.mp evaluated
  obtain ⟨state, run, values⟩ := Option.map_eq_some_iff.mp ran
  simp only [Prod.mk.injEq] at values
  exact ⟨init, state, created, run, values, permits_conserved created ⟨_, run⟩⟩

end Runs

end AsyncNats.NamedSender
