import AsyncNats.NamedSender.Order
import AsyncNats.NamedSender.Release
import AsyncNats.Transition.Progress

/-! # The worker gets to every message

The worker comes to each accepted message after a number of its own steps that the messages in
front of it determine: later sends go behind it. Until then it is never blocked.
-/

namespace AsyncNats.NamedSender

open Sync Transition

variable {state next last : State} {event : Event}

/-- The runtime is not deleted, and the client's publish has succeeded if the step is its
end. -/
def Undisturbed (_ : State) (event : Event) : Prop :=
  event ≠ .runtimeDelete ∧ event ≠ .publishDone false

/-- The worker is in its loop. -/
def Worker.Loops : Worker → Prop
  | .receiving | .publishing _ => True
  | .dropping | .draining | .ended => False

/-- The steps of the worker in its loop. -/
def Event.isWork : Event → Bool
  | .recv | .publishDone _ => true
  | _ => false

/-- The steps that the worker takes for one message. -/
def Worker.ahead : Worker → Nat
  | .receiving => 1
  | _ => 0

/-- How many steps the worker takes until it has called `publish` for the message that was
accepted as number `index`. -/
def State.distance (index : Nat) (state : State) : Nat :=
  2 * (index + 1 - state.published.length) - state.worker.ahead

theorem Worker.Loops.serving {worker : Worker} (loops : worker.Loops) : worker.Serving := by
  cases worker with
  | receiving | publishing => trivial
  | dropping | draining | ended => exact loops.elim

/-- A worker that nobody disturbs stays in its loop: there is always a sending half. -/
theorem Step.loops (step : Step state event next) (retains : Retains state)
    (undisturbed : Undisturbed state event) (loops : state.worker.Loops) :
    next.worker.Loops := by
  cases step with
  | received => trivial
  | broke waiting queue orphaned =>
      exact (retains.recv_of_receiving waiting
        (Channel.tryRecv_eq_disconnected.mpr ⟨queue, orphaned⟩)).elim
  | @published message succeeded publishing =>
      cases succeeded with
      | true => trivial
      | false => exact (undisturbed.2 rfl).elim
  | cancelledReceiving | cancelledPublishing => exact (undisturbed.1 rfl).elim
  | closed dropping => rw [dropping] at loops; exact loops.elim
  | drained draining => rw [draining] at loops; exact loops.elim
  | ended draining => rw [draining] at loops; exact loops.elim
  | _ => exact loops

/-- Each step of the worker brings it one step closer, if it is not there yet. -/
theorem Step.distance_work (step : Step state event next) (retains : Retains state)
    (undisturbed : Undisturbed state event) (work : event.isWork = true) (index : Nat) :
    next.distance index ≤ state.distance index - 1 := by
  cases step with
  | received waiting queue =>
      simp only [State.distance, waiting, Worker.ahead, List.length_append, List.length_singleton]
      omega
  | broke waiting queue orphaned =>
      exact (retains.recv_of_receiving waiting
        (Channel.tryRecv_eq_disconnected.mpr ⟨queue, orphaned⟩)).elim
  | @published message succeeded publishing =>
      cases succeeded with
      | true =>
          simp only [State.distance, publishing, Worker.ahead, ↓reduceIte]
          omega
      | false => exact (undisturbed.2 rfl).elim
  | _ => cases work

/-- The other steps leave it where it is. -/
theorem Step.distance_other (step : Step state event next) (undisturbed : Undisturbed state event)
    (loops : state.worker.Loops) (other : event.isWork = false) (index : Nat) :
    next.distance index ≤ state.distance index := by
  cases step with
  | received | broke | published => cases other
  | cancelledReceiving | cancelledPublishing => exact (undisturbed.1 rfl).elim
  | closed dropping => rw [dropping] at loops; exact loops.elim
  | drained draining => rw [draining] at loops; exact loops.elim
  | ended draining => rw [draining] at loops; exact loops.elim
  | _ => exact Nat.le_refl _

/-- The worker has then called it. -/
theorem published_of_distance {index : Nat} (near : state.distance index = 0) :
    index < state.published.length := by
  simp only [State.distance] at near
  cases worker : state.worker <;> simp only [worker, Worker.ahead] at near <;> omega

section Runs

variable {name : CString} {capacity : Nat} {init : State}

theorem retains_of_reachable (created : withCapacity name capacity = some init)
    (reached : (system init).Reachable state) : Retains state :=
  System.Reachable.induction (motive := Retains) (withCapacity_retains created)
    (fun _ _ _ _ retains taken => (step_cases taken).retains retains) reached

/-- The publications of the accepted calls: those the worker has made, and then those of the
queue as long as it serves the channel. -/
theorem published_append_queue (created : withCapacity name capacity = some init)
    (reached : (system init).Reachable state) (serving : state.worker.Serving) :
    state.published ++ state.channel.queue.map (State.publishArgs (lossyConvert name)) =
      state.accepted.map (Call.publication (lossyConvert name)) := by
  obtain ⟨fifo, _, implements⟩ := (simulation created).reachable reached
  rw [← implements.pending serving, ← implements.taken, ← implements.put]
  rfl

/-- Accepted calls stay accepted, in their places. -/
theorem accepted_prefix (reached : (system init).Reachable state) {events : List Event}
    (run : (system init).runFrom state events = some last) :
    state.accepted <+: last.accepted := by
  refine System.runFrom_relation (motive := fun before after : State =>
    before.accepted <+: after.accepted) (fun _ => List.prefix_rfl)
    (fun _ _ _ first second => first.trans second) ?_ reached run
  intro before event after _ taken
  cases step_cases taken with
  | sent => exact List.prefix_append _ _
  | _ => exact List.prefix_rfl

/-- The worker takes the message at the front of the queue. -/
theorem recv_of_queue {head : Message} {rest : List Message}
    (waiting : state.worker = .receiving) (queue : state.channel.queue = head :: rest) :
    step state .recv = some { state with
      channel := state.channel.advance
      worker := .publishing head
      published := state.published ++ [State.publishArgs state.topic head] } := by
  have found : state.channel.tryRecv = .message head state.channel.advance :=
    Channel.tryRecv_eq_message.mpr ⟨by rw [queue]; rfl, rfl⟩
  simp only [step, State.recv, waiting, found]

/-- The publish of a message may end. -/
theorem publishDone_of_publishing {message : Message}
    (publishing : state.worker = .publishing message) (succeeded : Bool) :
    step state (.publishDone succeeded) = some { state with
      worker := if succeeded then .receiving else .dropping
      sem := state.sem.releaseOption message.permit
      finished := state.finished ++ [message] } := by
  simp only [step, State.publishDone, publishing]

/-- In its loop the worker can take a step as long as there is something to publish. -/
theorem work_enabled (loops : state.worker.Loops)
    (waiting : state.worker = .receiving → state.channel.queue ≠ []) :
    ∃ event next, event.isWork = true ∧ Undisturbed state event ∧
      step state event = some next := by
  cases worker : state.worker with
  | receiving =>
      obtain ⟨head, rest, queue⟩ := List.exists_cons_of_ne_nil (waiting worker)
      exact ⟨.recv, _, rfl, ⟨nofun, nofun⟩, recv_of_queue worker queue⟩
  | publishing message =>
      exact ⟨.publishDone true, _, rfl, ⟨nofun, nofun⟩, publishDone_of_publishing worker true⟩
  | dropping | draining | ended => rw [worker] at loops; exact loops.elim

/-- The worker makes progress towards each accepted message. -/
theorem worker_progress (created : withCapacity name capacity = some init) (index : Nat) :
    (system init).Progress Event.isWork Undisturbed
      (fun state => (system init).Reachable state ∧ state.worker.Loops ∧
        index < state.accepted.length)
      (State.distance index) where
  kept := by
    intro state event next ⟨reached, loops, accepted⟩ undisturbed taken
    have more : state.accepted <+: next.accepted :=
      accepted_prefix reached (((system init).runFrom_singleton state event).trans taken)
    exact ⟨reached.step taken,
      (step_cases taken).loops (retains_of_reachable created reached) undisturbed loops,
      Nat.lt_of_lt_of_le accepted more.length_le⟩
  lowers := by
    intro state event next ⟨reached, _, _⟩ undisturbed work taken
    exact (step_cases taken).distance_work (retains_of_reachable created reached) undisturbed
      work index
  stays := by
    intro state event next ⟨_, loops, _⟩ undisturbed other taken
    exact (step_cases taken).distance_other undisturbed loops other index
  enabled := by
    intro state ⟨reached, loops, accepted⟩ positive
    refine work_enabled loops fun waiting queue => ?_
    have order := published_append_queue created reached loops.serving
    rw [queue, List.map_nil, List.append_nil] at order
    have length := congrArg List.length order
    rw [List.length_map] at length
    simp only [State.distance, waiting, Worker.ahead] at positive
    omega

/-- As long as publishes succeed and the runtime is there, each accepted message is published:
in every run on from a state with the worker in its loop, two steps of the worker for each
message up to it are enough, however many messages are sent meanwhile, and until then the
worker always has a step to take. -/
theorem accepted_gets_published (created : withCapacity name capacity = some init)
    (reached : (system init).Reachable state) (loops : state.worker.Loops) {index : Nat}
    {call : Call} (accepted : state.accepted[index]? = some call) {events : List Event}
    (undisturbed : (system init).Meets Undisturbed state events)
    (run : (system init).runFrom state events = some last) :
    (2 * (index + 1 - state.published.length) ≤ events.countP Event.isWork →
      last.published[index]? = some (call.publication (lossyConvert name))) ∧
    (last.published.length ≤ index → ∃ event next, event.isWork = true ∧
      Undisturbed last event ∧ step last event = some next) := by
  have progress := worker_progress created index
  have within : index < state.accepted.length := (List.getElem?_eq_some_iff.mp accepted).1
  obtain ⟨⟨after, looping, among⟩, _⟩ :=
    progress.run ⟨reached, loops, within⟩ undisturbed run
  constructor
  · intro enough
    have finished : last.distance index = 0 := by
      refine progress.finishes ⟨reached, loops, within⟩ undisturbed run (Nat.le_trans ?_ enough)
      exact Nat.sub_le _ _
    have far := published_of_distance finished
    have order := published_append_queue created after looping.serving
    obtain ⟨later, grown⟩ := accepted_prefix reached run
    rw [← List.getElem?_append_left far, order, List.getElem?_map, ← grown,
      List.getElem?_append_left within, accepted, Option.map_some]
  · intro behind
    refine progress.enabled last ⟨after, looping, among⟩ ?_
    simp only [State.distance]
    cases worker : last.worker <;> simp only [Worker.ahead] <;> omega

/-- Two messages are queued; while the worker publishes them a third one is sent. -/
theorem accepted_gets_published_of_two :
    ∃ init state last, withCapacity ⟨[0x74], by decide⟩ 8 = some init ∧
      (system init).run
        [.enter 0 0 .send none [1], .acquire 0, .build 0, .sendToChannel 0,
          .enter 0 0 .send none [2], .acquire 0, .build 0, .sendToChannel 0] = some state ∧
      (system init).runFrom state
        [.recv, .enter 0 0 .send none [3], .publishDone true, .acquire 0, .recv, .build 0,
          .publishDone true, .sendToChannel 0] = some last ∧
      last.published[1]? = some (['t'], [2]) := by
  have evaluated :
      ((withCapacity ⟨[0x74], by decide⟩ 8).bind fun init =>
        ((system init).run
          [.enter 0 0 .send none [1], .acquire 0, .build 0, .sendToChannel 0,
            .enter 0 0 .send none [2], .acquire 0, .build 0, .sendToChannel 0]).bind fun state =>
          ((system init).runFrom state
            [.recv, .enter 0 0 .send none [3], .publishDone true, .acquire 0, .recv, .build 0,
              .publishDone true, .sendToChannel 0]).map fun _ =>
            (state.worker, state.accepted[1]?, state.published.length)) =
        some (.receiving, some ⟨1, 0, none, [2]⟩, 0) := by decide
  obtain ⟨init, created, ran⟩ := Option.bind_eq_some_iff.mp evaluated
  obtain ⟨state, before, ran⟩ := Option.bind_eq_some_iff.mp ran
  obtain ⟨last, run, values⟩ := Option.map_eq_some_iff.mp ran
  simp only [Prod.mk.injEq] at values
  obtain ⟨worker, accepted, published⟩ := values
  have undisturbed : (system init).Meets Undisturbed state
      [.recv, .enter 0 0 .send none [3], .publishDone true, .acquire 0, .recv, .build 0,
        .publishDone true, .sendToChannel 0] :=
    System.Meets.of_forall (system init) (by
      simp only [List.forall_mem_cons, ne_eq, reduceCtorEq, not_false_eq_true,
        Event.publishDone.injEq, Bool.true_eq_false, and_self, List.not_mem_nil,
        false_imp_iff, implies_true])
  have loops : state.worker.Loops := by rw [worker]; trivial
  have enough : 2 * (1 + 1 - state.published.length) ≤ List.countP Event.isWork
      [.recv, .enter 0 0 .send none [3], .publishDone true, .acquire 0, .recv, .build 0,
        .publishDone true, .sendToChannel 0] := by rw [published]; decide
  exact ⟨init, state, last, created, before, run,
    (accepted_gets_published created ⟨_, before⟩ loops accepted undisturbed run).1 enough⟩

end Runs

end AsyncNats.NamedSender
