import AsyncNats.NamedSender.Permits

/-! # The capacity of the queue

`try_send` lets a message in when it finds a permit, and `send` also puts messages on the queue
that carry none. Messages leave in their order and give back what they carry, so the permits
do not count the messages: behind a message with a permit that has left, others without one
may still wait. They do count them when every message carries one.
-/

namespace AsyncNats.NamedSender

open Sync Transition

/-- The message being published. -/
def Worker.messages : Worker → List Message
  | .publishing message => [message]
  | .receiving | .dropping | .draining | .ended => []

/-- The messages that are being published or queued. -/
def State.outstanding (state : State) : List Message :=
  state.worker.messages ++ state.channel.queue

/-- Those that `send` has put on the queue without a permit. -/
def State.unpermitted (state : State) : List Message :=
  state.outstanding.filter fun message => message.permit.isNone

/-- The number of permits that no outstanding message carries: they are available, or a call in
progress has them. -/
def State.spare (state : State) : Nat :=
  state.sem.available + (Table.gather Pending.permits state.calls).length

/-- In this step `try_send` finds a permit, so it will return `true`. -/
def Decides (state : State) (event : Event) : Prop :=
  ∃ thread pending, event = .acquire thread ∧ state.calls.lookup thread = some pending ∧
    pending.entry = .trySend ∧ pending.stage = .entered ∧ state.sem.tryAcquireOwned ≠ none

/-- In this step the message of a `try_send` is put on the queue. -/
def Enqueues (state : State) (event : Event) : Prop :=
  ∃ thread pending message, event = .sendToChannel thread ∧
    state.calls.lookup thread = some pending ∧ pending.entry = .trySend ∧
    pending.stage = .built message

/-- When a message is accepted, fewer messages than the capacity are outstanding. -/
def RespectsCapacity (capacity : Nat) (accepts : State → Event → Prop) (state : State)
    (event : Event) : Prop :=
  accepts state event → state.outstanding.length < capacity

variable {capacity : Nat} {state next : State} {event : Event}

/-- Each message carries a permit or none. -/
theorem length_permits (messages : List Message) :
    (messages.flatMap Message.permits).length +
      (messages.filter fun message => message.permit.isNone).length = messages.length := by
  induction messages with
  | nil => rfl
  | cons message rest ih =>
      rw [List.flatMap_cons, List.length_append, List.length_cons]
      cases carried : message.permit with
      | none =>
          rw [List.filter_cons_of_pos (by rw [carried]; rfl), List.length_cons, Message.permits,
            carried, Option.toList_none, List.length_nil]
          omega
      | some permit =>
          rw [List.filter_cons_of_neg (by rw [carried]; exact Bool.false_ne_true),
            Message.permits, carried, Option.toList_some, List.length_singleton]
          omega

theorem Worker.permits_eq (worker : Worker) :
    worker.permits = worker.messages.flatMap Message.permits := by
  cases worker with
  | publishing message => exact (List.append_nil _).symm
  | receiving | dropping | draining | ended => rfl

/-- The permits count the outstanding messages up to those without a permit. -/
theorem Accounts.outstanding (accounts : Accounts capacity state) :
    state.outstanding.length + state.spare = capacity + state.unpermitted.length := by
  have conserved := accounts.balanced.conserved
  have permits := length_permits state.outstanding
  unfold State.held heldIn at conserved
  rw [Worker.permits_eq, ← List.flatMap_append, List.length_append] at conserved
  change _ + (_ + (state.outstanding.flatMap Message.permits).length) = _ at conserved
  unfold State.spare State.unpermitted
  omega

/-! Runs in which every message carries a permit. -/

/-- A `send` finds a permit. -/
def SendsPermitted (state : State) (event : Event) : Prop :=
  ∀ thread pending, event = .acquire thread → state.calls.lookup thread = some pending →
    pending.entry = .send → pending.stage = .entered → state.sem.tryAcquireOwned ≠ none

instance decidableSendsPermitted (state : State) : ∀ event, Decidable (SendsPermitted state event)
  | .acquire thread =>
    decidable_of_iff (∀ pending ∈ state.calls.lookup thread, pending.entry = .send →
      pending.stage = .entered → state.sem.tryAcquireOwned ≠ none)
      ⟨fun finds other pending same calling => by
        cases same
        exact finds pending calling, fun finds pending calling =>
          finds thread pending rfl calling⟩
  | .clone _ _ | .delete _ | .enter _ _ _ _ _ | .build _ | .sendToChannel _ | .recv
  | .publishDone _ | .runtimeDelete | .closeReceiver | .drain => .isTrue nofun

/-- The calls that went on and the outstanding messages have a permit. -/
structure AllPermitted (state : State) : Prop where
  calls : ∀ thread pending, state.calls.lookup thread = some pending →
    pending.stage ≠ .entered → pending.permits ≠ []
  outstanding : ∀ message ∈ state.outstanding, message.permit ≠ none

namespace AllPermitted

/-- A step that changes no call and adds no message. -/
theorem stay (permitted : AllPermitted state) (calls : next.calls = state.calls)
    (fewer : next.outstanding ⊆ state.outstanding) : AllPermitted next where
  calls := calls ▸ permitted.calls
  outstanding := fun message member => permitted.outstanding message (fewer member)

/-- A step of the worker after which it has no message. -/
theorem idle (permitted : AllPermitted state) (calls : next.calls = state.calls)
    (holds : next.worker.messages = []) (fewer : next.channel.queue ⊆ state.channel.queue) :
    AllPermitted next := by
  refine permitted.stay calls fun message member => ?_
  rw [State.outstanding, holds, List.nil_append] at member
  exact List.mem_append_right _ (fewer member)

/-- A call that returns. -/
theorem leave (permitted : AllPermitted state) {thread : ThreadId}
    (calls : next.calls = state.calls.erase thread)
    (outstanding : ∀ message ∈ next.outstanding, message.permit ≠ none) : AllPermitted next where
  calls := by
    rw [calls]
    exact Table.forall_erase permitted.calls
  outstanding := outstanding

/-- A call that goes on. -/
theorem setStage (permitted : AllPermitted state) {thread : ThreadId} {row : Pending}
    (calls : next.calls = state.calls.insert thread row)
    (own : row.stage ≠ .entered → row.permits ≠ [])
    (same : next.outstanding = state.outstanding) : AllPermitted next where
  calls := by
    rw [calls]
    exact Table.forall_insert permitted.calls own
  outstanding := same ▸ permitted.outstanding

theorem step (step : Step state event next) (sends : SendsPermitted state event)
    (permitted : AllPermitted state) : AllPermitted next := by
  cases step with
  | clone | alreadyOver => exact permitted.stay rfl (List.Subset.refl _)
  | @delete handle live idle =>
      refine permitted.stay rfl (List.append_subset.mpr ⟨List.subset_append_left _ _, ?_⟩)
      rw [State.dropInner_queue]
      exact List.subset_append_right _ _
  | enter live idle => exact permitted.setStage rfl (fun entered => (entered rfl).elim) rfl
  | @acquired thread pending permit sem calling stage acquired =>
      exact permitted.setStage rfl (fun _ => List.cons_ne_nil _ _) rfl
  | refused => exact permitted.leave rfl permitted.outstanding
  | @unpermitted thread pending calling stage entry exhausted =>
      exact (sends thread pending rfl calling entry stage exhausted).elim
  | @build thread pending permit calling stage =>
      refine permitted.setStage rfl (fun _ => ?_) rfl
      have own := permitted.calls thread pending calling (by rw [stage]; exact Stage.noConfusion)
      unfold Pending.permits at own ⊢
      rw [stage] at own
      exact own
  | @sent thread pending message calling stage opened =>
      refine permitted.leave rfl fun other member => ?_
      unfold State.outstanding at member
      rw [Channel.push_queue, ← List.append_assoc] at member
      rcases List.mem_append.mp member with before | now
      · exact permitted.outstanding other before
      · cases List.mem_singleton.mp now
        have own := permitted.calls thread pending calling (by rw [stage]; exact Stage.noConfusion)
        unfold Pending.permits at own
        rw [stage] at own
        exact fun absent => own (Option.toList_eq_nil_iff.mpr absent)
  | discarded => exact permitted.leave rfl permitted.outstanding
  | @received head rest waiting queue =>
      have same : state.outstanding = head :: rest := by
        rw [State.outstanding, waiting, queue]
        rfl
      refine permitted.stay rfl ?_
      rw [same, State.outstanding, Channel.advance_queue, queue]
      exact List.Subset.refl _
  | broke waiting queue orphaned => exact permitted.idle rfl rfl (List.Subset.refl _)
  | @published message succeeded publishing =>
      refine permitted.idle rfl ?_ (List.Subset.refl _)
      cases succeeded <;> rfl
  | cancelledReceiving waiting => exact permitted.idle rfl rfl (List.Subset.refl _)
  | cancelledPublishing publishing => exact permitted.idle rfl rfl (List.Subset.refl _)
  | closed dropping => exact permitted.idle rfl rfl (List.Subset.refl _)
  | @drained head rest draining queue =>
      exact permitted.idle rfl rfl (List.tail_sublist _).subset
  | ended draining queue =>
      refine permitted.idle rfl rfl ?_
      rw [State.dropInner_queue]
      exact List.Subset.refl _

/-- Then the permits count the outstanding messages. -/
theorem outstanding_add_spare (permitted : AllPermitted state)
    (accounts : Accounts capacity state) :
    state.outstanding.length + state.spare = capacity := by
  have counted := accounts.outstanding
  have none_left : state.unpermitted.length = 0 := by
    apply List.length_eq_zero_iff.mpr
    apply List.filter_eq_nil_iff.mpr
    intro message member absent
    exact permitted.outstanding message member (Option.isNone_iff_eq_none.mp absent)
  omega

/-- The permit that a `try_send` finds is spare. -/
theorem respects_decides (permitted : AllPermitted state) (accounts : Accounts capacity state) :
    RespectsCapacity capacity Decides state event := by
  rintro ⟨thread, pending, _, _, _, _, found⟩
  have counted := permitted.outstanding_add_spare accounts
  have positive : 0 < state.sem.available := by
    by_contra exhausted
    exact found (if_neg exhausted)
  unfold State.spare at counted
  omega

/-- So is the permit in a message that is not yet on the queue. -/
theorem respects_enqueues (permitted : AllPermitted state) (accounts : Accounts capacity state) :
    RespectsCapacity capacity Enqueues state event := by
  rintro ⟨thread, pending, message, _, calling, _, stage⟩
  have counted := permitted.outstanding_add_spare accounts
  have own := permitted.calls thread pending calling (by rw [stage]; exact Stage.noConfusion)
  obtain ⟨permit, held⟩ := List.exists_mem_of_ne_nil _ own
  have gathered : permit ∈ Table.gather Pending.permits state.calls :=
    (Table.mem_gather _).mpr ⟨thread, pending, calling, held⟩
  have positive := List.length_pos_of_mem gathered
  unfold State.spare at counted
  omega

end AllPermitted

section Runs

variable {name : CString} {init : State}

theorem withCapacity_allPermitted (created : withCapacity name capacity = some init) :
    AllPermitted init := by
  unfold withCapacity at created
  obtain ⟨sem, _, rfl⟩ := Option.map_eq_some_iff.mp created
  exact ⟨fun _ _ found => (by cases found), fun _ member => (List.not_mem_nil member).elim⟩

/-- In a run in which every `send` finds a permit, fewer messages than the capacity are
outstanding whenever `try_send` decides to accept a message, and whenever it puts one on the
queue. -/
theorem respectsCapacity_of_sendsPermitted (created : withCapacity name capacity = some init)
    {events : List Event} (sends : (system init).Meets SendsPermitted init events) :
    (system init).Meets (RespectsCapacity capacity Decides) init events ∧
      (system init).Meets (RespectsCapacity capacity Enqueues) init events := by
  have start : AllPermitted init ∧ Accounts capacity init :=
    ⟨withCapacity_allPermitted created, withCapacity_accounts created⟩
  have kept := fun (state : State) (event : Event) (next : State)
      (both : AllPermitted state ∧ Accounts capacity state) (sends : SendsPermitted state event)
      (taken : step state event = some next) =>
    And.intro (both.1.step (step_cases taken) sends) ((step_cases taken).accounts both.2)
  exact ⟨System.Meets.imp kept (fun _ _ both _ => both.1.respects_decides both.2) start sends,
    System.Meets.imp kept (fun _ _ both _ => both.1.respects_enqueues both.2) start sends⟩

/-- A message takes the only permit, one goes behind it without, and the first is published. -/
def overfilled : List Event :=
  [.enter 0 0 .trySend none [1], .acquire 0, .build 0, .sendToChannel 0,
    .enter 0 0 .send none [2], .acquire 0, .build 0, .sendToChannel 0, .recv, .publishDone true,
    .enter 0 0 .trySend none [3]]

/-- The permit of the published message lets one in behind the message without a permit. -/
theorem not_respectsCapacity_of_send :
    ∃ init, withCapacity ⟨[0x74], by decide⟩ 1 = some init ∧
      ¬ (system init).Meets (RespectsCapacity 1 Decides) init (overfilled ++ [.acquire 0]) ∧
      ¬ (system init).Meets SendsPermitted init (overfilled ++ [.acquire 0]) := by
  have evaluated :
      ((withCapacity ⟨[0x74], by decide⟩ 1).bind fun init =>
        ((system init).run overfilled).map fun state =>
          (state.calls.lookup 0, state.sem.available, state.outstanding.length,
            decide ((system init).Meets SendsPermitted init (overfilled ++ [.acquire 0])))) =
        some (some ⟨.trySend, 0, ⟨2, 0, none, [3]⟩, .entered⟩, 1, 1, false) := by decide
  obtain ⟨init, created, ran⟩ := Option.bind_eq_some_iff.mp evaluated
  obtain ⟨state, run, values⟩ := Option.map_eq_some_iff.mp ran
  simp only [Prod.mk.injEq] at values
  obtain ⟨calling, available, outstanding, unpermitted⟩ := values
  refine ⟨init, created, fun meets => ?_, of_decide_eq_false unpermitted⟩
  have respects := meets.concat _ run
  have found : state.sem.tryAcquireOwned ≠ none := by
    rw [Semaphore.tryAcquireOwned, available]
    exact Option.some_ne_none _
  have fewer := respects ⟨0, _, rfl, calling, rfl, rfl, found⟩
  rw [outstanding] at fewer
  exact Nat.lt_irrefl 1 fewer

/-- A `try_send` and a `send` take both permits, the first message is published, and there is
room for one message again. -/
def refilled : List Event :=
  [.enter 0 0 .trySend none [1], .acquire 0, .build 0, .sendToChannel 0,
    .enter 0 0 .send none [2], .acquire 0, .build 0, .sendToChannel 0, .recv, .publishDone true,
    .enter 0 0 .trySend none [3], .acquire 0, .build 0, .sendToChannel 0,
    .enter 0 0 .trySend none [4], .acquire 0]

theorem respectsCapacity_of_sendsPermitted_of_refilled :
    ∃ init state, withCapacity ⟨[0x74], by decide⟩ 2 = some init ∧
      (system init).run refilled = some state ∧
      (state.returned.map Prod.snd = [true, true, false] ∧ state.outstanding.length = 2) ∧
      (system init).Meets SendsPermitted init refilled ∧
      (system init).Meets (RespectsCapacity 2 Decides) init refilled ∧
      (system init).Meets (RespectsCapacity 2 Enqueues) init refilled := by
  have evaluated :
      ((withCapacity ⟨[0x74], by decide⟩ 2).bind fun init =>
        ((system init).run refilled).map fun state =>
          (state.returned.map Prod.snd, state.outstanding.length,
            decide ((system init).Meets SendsPermitted init refilled))) =
        some ([true, true, false], 2, true) := by decide
  obtain ⟨init, created, ran⟩ := Option.bind_eq_some_iff.mp evaluated
  obtain ⟨state, run, values⟩ := Option.map_eq_some_iff.mp ran
  simp only [Prod.mk.injEq] at values
  obtain ⟨returned, outstanding, permitted⟩ := values
  have sends := of_decide_eq_true permitted
  exact ⟨init, state, created, run, ⟨returned, outstanding⟩, sends,
    respectsCapacity_of_sendsPermitted created sends⟩

end Runs

end AsyncNats.NamedSender
