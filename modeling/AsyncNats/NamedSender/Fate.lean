import AsyncNats.NamedSender.Capacity
import AsyncNats.NamedSender.Order
import AsyncNats.NamedSender.Release
import AsyncNats.NamedSender.Truthful

/-! # What becomes of an accepted message

An accepted message is queued, then published, and its publish finishes. It is lost only with
the worker: when the task is dropped in the middle of a publish, and when the closed channel is
emptied. So the messages lost are the last ones accepted.
-/

namespace AsyncNats.NamedSender

open Sync Transition

variable {state next : State} {event : Event}

/-- The messages that were accepted and then dropped. -/
def State.lost (state : State) : List Message :=
  state.dropped.filter fun message => decide (message.call ∈ state.accepted)

/-- The worker has come to the end of its loop. -/
def Worker.Leaves : Worker → Prop
  | .receiving | .publishing _ => False
  | .dropping | .draining | .ended => True

/-- The call of a dropped message is over. -/
def Spent (calls : Table ThreadId Pending) (entered : Nat) (call : Call) : Prop :=
  call.number < entered ∧ ∀ thread row, calls.lookup thread = some row → row.call ≠ call

/-- Where the accepted messages are, in their order, and what the worker has to do with the
lost ones. -/
structure Fate (state : State) : Prop where
  places : (state.finished ++ state.worker.messages ++ state.lost ++ state.channel.queue).map
    Message.call = state.accepted
  leaves : state.lost ≠ [] → state.worker.Leaves
  spent : ∀ message ∈ state.dropped, Spent state.calls state.entered message.call
  closed : state.worker = .draining ∨ state.worker = .ended → state.channel.closed = true
  emptied : state.worker = .ended → state.channel.queue = []

/-- Rows that keep their calls. -/
theorem Spent.setStage {calls : Table ThreadId Pending} {entered : Nat} {call : Call}
    {thread : ThreadId} {pending : Pending} (spent : Spent calls entered call)
    (calling : calls.lookup thread = some pending) (stage : Stage) :
    Spent (calls.insert thread { pending with stage }) entered call :=
  ⟨spent.1, Table.forall_insert spent.2 (spent.2 thread pending calling)⟩

theorem Spent.erase {calls : Table ThreadId Pending} {entered : Nat} {call : Call}
    (spent : Spent calls entered call) (thread : ThreadId) :
    Spent (calls.erase thread) entered call :=
  ⟨spent.1, Table.forall_erase spent.2⟩

theorem Spent.enter {calls : Table ThreadId Pending} {entered : Nat} {call : Call}
    {thread : ThreadId} {pending : Pending} (spent : Spent calls entered call)
    (number : pending.call.number = entered) :
    Spent (calls.insert thread pending) (entered + 1) call := by
  refine ⟨Nat.lt_succ_of_lt spent.1, Table.forall_insert spent.2 fun same => ?_⟩
  rw [same] at number
  exact Nat.ne_of_lt spent.1 number

/-- The call that a thread leaves is over. -/
theorem State.CallsOk.spent_leave (ok : state.CallsOk) {thread : ThreadId} {pending : Pending}
    (calling : state.calls.lookup thread = some pending) :
    Spent (state.calls.erase thread) state.entered pending.call := by
  have row := ok.rows thread pending calling
  refine ⟨row.number_lt, fun other found looked same => ?_⟩
  obtain ⟨distinct, old⟩ := Table.lookup_of_erase looked
  have threads := (ok.rows other found old).thread_eq
  rw [same, row.thread_eq] at threads
  exact distinct threads.symm

/-- An accepted call is over. -/
theorem State.CallsOk.spent_accepted (ok : state.CallsOk) {call : Call}
    (accepted : call ∈ state.accepted) : Spent state.calls state.entered call := by
  refine ⟨ok.accepted_lt call accepted, fun thread row calling same => ?_⟩
  exact ok.not_accepted calling (same ▸ accepted)

namespace Fate

/-- A step that moves no message. -/
theorem stay (fate : Fate state) (finished : next.finished = state.finished)
    (messages : next.worker.messages = state.worker.messages)
    (dropped : next.dropped = state.dropped) (accepted : next.accepted = state.accepted)
    (queue : next.channel.queue = state.channel.queue)
    (leaves : state.worker.Leaves → next.worker.Leaves)
    (spent : ∀ call, Spent state.calls state.entered call → Spent next.calls next.entered call)
    (closed : next.worker = .draining ∨ next.worker = .ended → next.channel.closed = true)
    (emptied : next.worker = .ended → next.channel.queue = []) : Fate next := by
  have lost : next.lost = state.lost := by rw [State.lost, State.lost, dropped, accepted]
  exact
    { places := by rw [finished, messages, lost, queue, accepted]; exact fate.places
      leaves := fun some_lost => leaves (fate.leaves (lost ▸ some_lost))
      spent := fun message member => spent _ (fate.spent message (dropped ▸ member))
      closed := closed
      emptied := emptied }

/-- A step of a call that leaves channel and worker alone. -/
theorem call (fate : Fate state) (finished : next.finished = state.finished)
    (worker : next.worker = state.worker) (dropped : next.dropped = state.dropped)
    (accepted : next.accepted = state.accepted) (channel : next.channel = state.channel)
    (spent : ∀ call, Spent state.calls state.entered call → Spent next.calls next.entered call) :
    Fate next :=
  fate.stay finished (by rw [worker]) dropped accepted (by rw [channel])
    (by rw [worker]; exact id) spent (by rw [worker, channel]; exact fate.closed)
    (by rw [worker, channel]; exact fate.emptied)

/-- A worker in its loop has lost nothing. -/
theorem lost_eq_nil (fate : Fate state) (loops : ¬ state.worker.Leaves) : state.lost = [] := by
  by_contra some_lost
  exact loops (fate.leaves some_lost)

/-- The channel takes the message of a call. -/
theorem accept (fate : Fate state) {thread : ThreadId} {pending : Pending} {message : Message}
    (calling : state.calls.lookup thread = some pending) (own : message.call = pending.call)
    (opened : state.channel.closed = false) (finished : next.finished = state.finished)
    (worker : next.worker = state.worker) (dropped : next.dropped = state.dropped)
    (accepted : next.accepted = state.accepted ++ [pending.call])
    (queue : next.channel.queue = state.channel.queue ++ [message])
    (calls : next.calls = state.calls.erase thread) (entered : next.entered = state.entered) :
    Fate next := by
  have lost : next.lost = state.lost := by
    unfold State.lost
    rw [dropped]
    apply List.filter_congr
    intro other member
    have different := (fate.spent other member).2 thread pending calling
    rw [decide_eq_decide, accepted, List.mem_append, List.mem_singleton]
    exact or_iff_left (Ne.symm different)
  have serves : ¬ (state.worker = .draining ∨ state.worker = .ended) := by
    intro stopped
    rw [fate.closed stopped] at opened
    cases opened
  refine ⟨?_, fun some_lost => ?_, fun other member => ?_, fun stopped => ?_, fun stopped => ?_⟩
  · rw [finished, worker, lost, queue, ← List.append_assoc, List.map_append, fate.places,
      List.map_singleton, own, accepted]
  · rw [worker]
    exact fate.leaves (lost ▸ some_lost)
  · rw [calls, entered]
    exact (fate.spent other (dropped ▸ member)).erase thread
  · exact (serves (worker ▸ stopped)).elim
  · exact (serves (.inr (worker ▸ stopped))).elim

/-- The channel gives the message of a call back. -/
theorem refuse (fate : Fate state) (ok : state.CallsOk) {thread : ThreadId} {pending : Pending}
    {message : Message} (calling : state.calls.lookup thread = some pending)
    (own : message.call = pending.call) (finished : next.finished = state.finished)
    (worker : next.worker = state.worker) (dropped : next.dropped = state.dropped ++ [message])
    (accepted : next.accepted = state.accepted) (channel : next.channel = state.channel)
    (calls : next.calls = state.calls.erase thread) (entered : next.entered = state.entered) :
    Fate next := by
  have lost : next.lost = state.lost := by
    unfold State.lost
    rw [dropped, accepted, List.filter_append, List.filter_singleton, own,
      decide_eq_false (ok.not_accepted calling)]
    exact List.append_nil _
  refine ⟨?_, fun some_lost => ?_, fun other member => ?_, ?_, ?_⟩
  · rw [finished, worker, lost, channel, accepted]
    exact fate.places
  · rw [worker]
    exact fate.leaves (lost ▸ some_lost)
  · rw [calls, entered]
    rw [dropped] at member
    rcases List.mem_append.mp member with before | now
    · exact (fate.spent other before).erase thread
    · rw [List.mem_singleton.mp now, own]
      exact ok.spent_leave calling
  · rw [worker, channel]
    exact fate.closed
  · rw [worker, channel]
    exact fate.emptied

/-- The worker in its loop moves the messages on. -/
theorem work (fate : Fate state) (loops : ¬ state.worker.Leaves)
    (places : next.finished ++ next.worker.messages ++ next.channel.queue =
      state.finished ++ state.worker.messages ++ state.channel.queue)
    (dropped : next.dropped = state.dropped) (accepted : next.accepted = state.accepted)
    (calls : next.calls = state.calls) (entered : next.entered = state.entered)
    (serves : ¬ (next.worker = .draining ∨ next.worker = .ended)) : Fate next := by
  have none_lost := fate.lost_eq_nil loops
  have lost : next.lost = [] := by rw [State.lost, dropped, accepted]; exact none_lost
  refine ⟨?_, fun some_lost => (some_lost lost).elim, ?_, fun stopped => (serves stopped).elim,
    fun stopped => (serves (.inr stopped)).elim⟩
  · have before := fate.places
    rw [none_lost, List.append_nil] at before
    rw [lost, List.append_nil, places, accepted, before]
  · rw [dropped, calls, entered]
    exact fate.spent

/-- The worker, on its way out, drops the accepted message that is next. -/
theorem lose (fate : Fate state) (ok : state.CallsOk) {message : Message}
    (places : state.worker.messages ++ state.lost ++ state.channel.queue =
      state.lost ++ message :: next.channel.queue)
    (finished : next.finished = state.finished) (messages : next.worker.messages = [])
    (calls : next.calls = state.calls) (entered : next.entered = state.entered)
    (dropped : next.dropped = state.dropped ++ [message])
    (accepted : next.accepted = state.accepted) (leaves : next.worker.Leaves)
    (closed : next.worker = .draining ∨ next.worker = .ended → next.channel.closed = true)
    (running : next.worker ≠ .ended) : Fate next := by
  have order : (state.finished ++ (state.lost ++ message :: next.channel.queue)).map
      Message.call = state.accepted := by
    rw [← places, ← List.append_assoc, ← List.append_assoc]
    exact fate.places
  have among : message.call ∈ state.accepted := by
    rw [← order]
    apply List.mem_map_of_mem
    exact List.mem_append_right _ (List.mem_append_right _ List.mem_cons_self)
  have lost : next.lost = state.lost ++ [message] := by
    unfold State.lost
    rw [dropped, accepted, List.filter_append, List.filter_singleton, decide_eq_true among]
    rfl
  refine ⟨?_, fun _ => leaves, fun other member => ?_, closed,
    fun stopped => (running stopped).elim⟩
  · rw [finished, messages, lost, accepted, ← order]
    simp only [List.append_nil, List.append_assoc, List.singleton_append]
  · rw [calls, entered]
    rw [dropped] at member
    rcases List.mem_append.mp member with before | now
    · exact fate.spent other before
    · rw [List.mem_singleton.mp now]
      exact ok.spent_accepted among

end Fate

theorem Step.fate (step : Step state event next) (ok : state.CallsOk) (fate : Fate state) :
    Fate next := by
  cases step with
  | clone live unused => exact fate.call rfl rfl rfl rfl rfl fun _ spent => spent
  | delete live idle =>
      refine fate.stay rfl rfl rfl rfl (State.dropInner_queue _) id (fun _ spent => spent) ?_ ?_
      · rw [State.dropInner_closed]; exact fate.closed
      · rw [State.dropInner_queue]; exact fate.emptied
  | enter live idle => exact fate.call rfl rfl rfl rfl rfl fun _ spent => spent.enter rfl
  | acquired calling | unpermitted calling | build calling =>
      exact fate.call rfl rfl rfl rfl rfl fun _ spent => spent.setStage calling _
  | refused calling => exact fate.call rfl rfl rfl rfl rfl fun _ spent => spent.erase _
  | @sent thread pending message calling stage opened =>
      obtain ⟨permit, own⟩ := (ok.rows thread pending calling).built message stage
      exact fate.accept calling (by rw [own]; rfl) opened rfl rfl rfl rfl rfl rfl rfl
  | @discarded thread pending message calling stage closed =>
      obtain ⟨permit, own⟩ := (ok.rows thread pending calling).built message stage
      exact fate.refuse ok calling (by rw [own]; rfl) rfl rfl rfl rfl rfl rfl rfl
  | @received head rest waiting queue =>
      refine fate.work (by rw [waiting]; exact id) ?_ rfl rfl rfl rfl nofun
      rw [waiting, queue, Channel.advance_queue, queue]
      simp only [Worker.messages, List.append_nil, List.append_assoc, List.tail_cons,
        List.singleton_append]
  | broke waiting | cancelledReceiving waiting =>
      exact fate.stay rfl (by rw [waiting]; rfl) rfl rfl rfl (fun _ => trivial)
        (fun _ spent => spent) nofun nofun
  | @published message succeeded publishing =>
      refine fate.work (by rw [publishing]; exact id) ?_ rfl rfl rfl rfl ?_
      · rw [publishing]
        cases succeeded <;> simp only [Worker.messages, List.append_nil, ↓reduceIte,
          Bool.false_eq_true]
      · cases succeeded <;> nofun
  | @cancelledPublishing message publishing =>
      have none_lost := fate.lost_eq_nil (by rw [publishing]; exact id)
      refine fate.lose ok ?_ rfl rfl rfl rfl rfl rfl trivial nofun nofun
      rw [publishing, none_lost]
      rfl
  | alreadyOver => exact fate
  | closed dropping =>
      exact fate.stay rfl (by rw [dropping]; rfl) rfl rfl rfl (fun _ => trivial)
        (fun _ spent => spent) (fun _ => rfl) nofun
  | @drained head rest draining queue =>
      refine fate.lose ok ?_ rfl rfl rfl rfl rfl rfl trivial
        (fun _ => fate.closed (.inl draining)) nofun
      rw [draining, Channel.advance_queue, queue]
      rfl
  | ended draining queue =>
      refine fate.stay rfl (by rw [draining]; rfl) rfl rfl (State.dropInner_queue _)
        (fun _ => trivial) (fun _ spent => spent) (fun _ => ?_) (fun _ => ?_)
      · rw [State.dropInner_closed]; exact fate.closed (.inl draining)
      · rw [State.dropInner_queue]; exact queue

/-- What is lost stays lost. -/
theorem Step.lost_grows (step : Step state event next) : state.lost.Sublist next.lost := by
  have grows : ∀ dropped : List Message, state.accepted.Sublist next.accepted →
      next.dropped = state.dropped ++ dropped → state.lost.Sublist next.lost := by
    intro dropped more added
    unfold State.lost
    rw [added, List.filter_append]
    refine (List.monotone_filter_right state.dropped fun message member => ?_).trans
      (List.sublist_append_left _ _)
    rw [decide_eq_true_iff] at member ⊢
    exact more.subset member
  cases step with
  | sent => exact grows [] (List.sublist_append_left _ _) (List.append_nil _).symm
  | @discarded _ _ message | @cancelledPublishing message | @drained message =>
      exact grows [message] (List.Sublist.refl _) rfl
  | _ => exact grows [] (List.Sublist.refl _) (List.append_nil _).symm

/-- How many messages the client has been given: those whose publish is over or under way, and
of the lost ones at most one. -/
structure Given (state : State) : Prop where
  lower : state.finished.length + state.worker.messages.length ≤ state.published.length
  upper : state.published.length ≤ state.finished.length + state.worker.messages.length + 1
  lost : state.published.length ≤
    state.finished.length + state.worker.messages.length + state.lost.length

/-- A worker in its loop has given the client nothing else. -/
theorem Given.length_published (given : Given state) (fate : Fate state)
    (loops : ¬ state.worker.Leaves) :
    state.published.length = state.finished.length + state.worker.messages.length := by
  have upper := given.lost
  rw [fate.lost_eq_nil loops, List.length_nil, Nat.add_zero] at upper
  exact Nat.le_antisymm upper given.lower

theorem Step.given (step : Step state event next) (before : Fate state) (after : Fate next)
    (given : Given state) : Given next := by
  have grown := step.lost_grows.length_le
  have looping := given.length_published before
  obtain ⟨lower, upper, lost⟩ := given
  cases step with
  | delete live idle => exact ⟨lower, upper, lost⟩
  | @received head rest waiting queue =>
      have now := looping (by rw [waiting]; exact id)
      rw [waiting] at now
      simp only [Worker.messages, List.length_nil, Nat.add_zero] at now
      constructor <;> simp only [Worker.messages, List.length_append, List.length_singleton] <;>
        omega
  | broke waiting | cancelledReceiving waiting =>
      rw [waiting] at lower upper lost
      exact ⟨lower, upper, Nat.le_trans lost (Nat.add_le_add_left grown _)⟩
  | @published message succeeded publishing =>
      have now := looping (by rw [publishing]; exact id)
      rw [publishing] at now
      simp only [Worker.messages, List.length_singleton] at now
      cases succeeded <;> constructor <;> simp only [Worker.messages, List.length_append,
        List.length_singleton, List.length_nil, ↓reduceIte, Bool.false_eq_true] <;> omega
  | @cancelledPublishing message publishing =>
      have now := looping (by rw [publishing]; exact id)
      rw [publishing] at now
      simp only [Worker.messages, List.length_singleton] at now
      have among : message.call ∈ state.accepted := by
        rw [← before.places, publishing]
        apply List.mem_map_of_mem
        apply List.mem_append_left
        apply List.mem_append_left
        exact List.mem_append_right _ List.mem_cons_self
      have positive := List.length_pos_of_mem (l := State.lost { state with
          worker := .dropping
          sem := state.sem.releaseOption message.permit
          dropped := state.dropped ++ [message] })
        (List.mem_filter.mpr ⟨List.mem_append_right _ List.mem_cons_self, decide_eq_true among⟩)
      constructor <;> simp only [Worker.messages, List.length_nil] <;> omega
  | closed dropping =>
      rw [dropping] at lower upper lost
      exact ⟨lower, upper, lost⟩
  | drained draining =>
      rw [draining] at lower upper lost
      exact ⟨lower, upper, Nat.le_trans lost (Nat.add_le_add_left grown _)⟩
  | ended draining =>
      rw [draining] at lower upper lost
      exact ⟨lower, upper, Nat.le_trans lost (Nat.add_le_add_left grown _)⟩
  | _ => exact ⟨lower, upper, Nat.le_trans lost (Nat.add_le_add_left grown _)⟩

section Runs

variable {name : CString} {capacity : Nat} {init : State}

theorem fate_of_reachable (created : withCapacity name capacity = some init)
    (reached : (system init).Reachable state) : Fate state := by
  refine System.Reachable.induction (motive := Fate) ?_
    (fun _ _ _ reached fate taken => (step_cases taken).fate
      (callsOk_of_reachable created reached) fate) reached
  unfold withCapacity at created
  obtain ⟨sem, _, rfl⟩ := Option.map_eq_some_iff.mp created
  exact ⟨rfl, fun some_lost => (some_lost rfl).elim,
    fun _ member => (List.not_mem_nil member).elim, nofun, nofun⟩

theorem given_of_reachable (created : withCapacity name capacity = some init)
    (reached : (system init).Reachable state) : Given state := by
  refine System.Reachable.induction (motive := Given) ?_ ?_ reached
  · unfold withCapacity at created
    obtain ⟨sem, _, rfl⟩ := Option.map_eq_some_iff.mp created
    exact ⟨Nat.le_refl _, Nat.zero_le _, Nat.zero_le _⟩
  · intro before event after reached given taken
    exact (step_cases taken).given (fate_of_reachable created reached)
      (fate_of_reachable created (reached.step taken)) given

/-- The client is given what was accepted first. -/
theorem published_eq_take (created : withCapacity name capacity = some init)
    (reached : (system init).Reachable state) :
    state.published =
      (state.accepted.map (Call.publication (lossyConvert name))).take state.published.length := by
  obtain ⟨fifo, _, implements⟩ := (simulation created).reachable reached
  have grown := fifo.taken_prefix_put
  rw [implements.put, implements.taken] at grown
  exact List.prefix_iff_eq_take.mp grown

/-- What a sender with this default topic says about the messages it has accepted. -/
structure Accounted (topic : RustString) (state : State) : Prop where
  /-- Each is in one place: its publish has finished or is under way, or it was lost, or it is
  queued, and the places follow each other in the order of acceptance. -/
  places : (state.finished ++ state.worker.messages ++ state.lost ++ state.channel.queue).map
    Message.call = state.accepted
  /-- While the worker is in its loop none is lost. -/
  kept : ¬ state.worker.Leaves → state.lost = []
  /-- Once the worker is gone, those whose publish has not finished are lost. -/
  ended : state.worker = .ended → (state.finished ++ state.lost).map Message.call = state.accepted
  /-- The client was given, in this order, those whose publish has finished or is under way, and
  of the lost ones at most the first. -/
  given : ∃ cut, cut ≤ 1 ∧ state.published =
    (state.finished ++ state.worker.messages ++ state.lost.take cut).map fun message =>
      message.call.publication topic

/-- The accepted messages are accounted for in every reachable state. -/
theorem accepted_accounted (created : withCapacity name capacity = some init)
    (reached : (system init).Reachable state) : Accounted (lossyConvert name) state := by
  have fate := fate_of_reachable created reached
  have given := given_of_reachable created reached
  refine ⟨fate.places, fate.lost_eq_nil, fun gone => ?_, ?_⟩
  · have places := fate.places
    rw [gone, fate.emptied gone, List.append_nil, Worker.messages, List.append_nil] at places
    exact places
  · obtain ⟨cut, count⟩ := Nat.exists_eq_add_of_le given.lower
    have upper := given.upper
    have lost := given.lost
    have front : (state.finished ++ state.worker.messages ++ state.lost ++
        state.channel.queue).take state.published.length =
          state.finished ++ state.worker.messages ++ state.lost.take cut := by
      rw [count, ← List.length_append, List.append_assoc _ state.lost, List.take_length_add_append,
        List.take_append_of_le_length (by omega)]
    refine ⟨cut, by omega, ?_⟩
    rw [published_eq_take created reached, ← fate.places, List.map_map, ← List.map_take, front]
    rfl

/-- The runtime is deleted in the middle of the second of three publishes: the second and the
third message are lost. -/
theorem accepted_accounted_of_deleted :
    ∃ init state, withCapacity ⟨[0x74], by decide⟩ 8 = some init ∧
      (system init).run
        [.enter 0 0 .send none [1], .acquire 0, .build 0, .sendToChannel 0,
          .enter 0 0 .send none [2], .acquire 0, .build 0, .sendToChannel 0,
          .enter 0 0 .send none [3], .acquire 0, .build 0, .sendToChannel 0,
          .recv, .publishDone true, .recv, .runtimeDelete, .closeReceiver, .drain, .drain] =
        some state ∧
      state.finished.map Message.message = [[1]] ∧ state.lost.map Message.message = [[2], [3]] ∧
      state.published = [(['t'], [1]), (['t'], [2])] ∧ Accounted ['t'] state := by
  have evaluated :
      ((withCapacity ⟨[0x74], by decide⟩ 8).bind fun init =>
        ((system init).run
          [.enter 0 0 .send none [1], .acquire 0, .build 0, .sendToChannel 0,
            .enter 0 0 .send none [2], .acquire 0, .build 0, .sendToChannel 0,
            .enter 0 0 .send none [3], .acquire 0, .build 0, .sendToChannel 0,
            .recv, .publishDone true, .recv, .runtimeDelete, .closeReceiver, .drain,
            .drain]).map fun state =>
              (state.finished.map Message.message, state.lost.map Message.message,
                state.published)) =
        some ([[1]], [[2], [3]], [(['t'], [1]), (['t'], [2])]) := by decide
  obtain ⟨init, created, ran⟩ := Option.bind_eq_some_iff.mp evaluated
  obtain ⟨state, run, values⟩ := Option.map_eq_some_iff.mp ran
  simp only [Prod.mk.injEq] at values
  obtain ⟨finished, lost, published⟩ := values
  exact ⟨init, state, created, run, finished, lost, published,
    accepted_accounted created ⟨_, run⟩⟩

end Runs

end AsyncNats.NamedSender
