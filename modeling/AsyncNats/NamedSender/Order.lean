import AsyncNats.NamedSender.Calls

/-! # The sender publishes in order

The sender is a queue: a channel send puts the call's publication in and the
worker's `recv` takes one out. As long as the worker serves the channel, what is
still to be taken is what the channel holds; afterwards nothing is taken any
more.
-/

namespace AsyncNats.NamedSender

open Sync Transition

/-- What the worker has to publish for a call: its payload, to its own topic when
it has one and to the sender's otherwise. -/
def Call.publication (topic : RustString) (call : Call) : RustString × Bytes :=
  ((call.topic.map lossyConvert).getD topic, call.data)

/-- The worker has not closed the channel yet. -/
def Worker.Serving : Worker → Prop
  | .receiving | .publishing _ | .dropping => True
  | .draining | .ended => False

/-- A sender state and the queue it implements. -/
structure Implements (topic : RustString) (state : State) (fifo : Fifo (RustString × Bytes)) :
    Prop where
  topic_eq : state.topic = topic
  taken : fifo.taken = state.published
  put : fifo.put = state.accepted.map (Call.publication topic)
  pending : state.worker.Serving →
    fifo.pending = state.channel.queue.map (State.publishArgs topic)

variable {topic : RustString} {state next : State} {event : Event}
  {fifo : Fifo (RustString × Bytes)}

/-- A channel send puts the call's publication in. -/
theorem Implements.sent (implements : Implements topic state fifo) {call : Call}
    {message : Message} {permit : Option Permit} (own : message = call.message permit)
    (after : State) (topic_eq : after.topic = state.topic)
    (published : after.published = state.published) (worker : after.worker = state.worker)
    (accepted : after.accepted = state.accepted ++ [call])
    (queue : after.channel.queue = state.channel.queue ++ [message]) :
    Implements topic after
      { fifo with pending := fifo.pending ++ [call.publication topic] } where
  topic_eq := topic_eq.trans implements.topic_eq
  taken := implements.taken.trans published.symm
  put := by
    rw [Fifo.put_of_put, implements.put, accepted, List.map_append, List.map_singleton]
  pending := fun serving => by
    rw [worker] at serving
    rw [queue, List.map_append, implements.pending serving, own]
    rfl

/-- Every step of the sender is at most one operation of the queue. -/
theorem Step.implements (step : Step state event next) (ok : state.CallsOk)
    (implements : Implements topic state fifo) :
    ∃ actions after, (Fifo.system (RustString × Bytes)).runFrom fifo actions = some after ∧
      Implements topic next after := by
  cases step with
  | sent calling stage opened =>
      obtain ⟨permit, own⟩ := (ok.rows _ _ calling).built _ stage
      exact ⟨[.put _], _, rfl, implements.sent own _ rfl rfl rfl rfl rfl⟩
  | @received head rest waiting queue =>
      have pending := implements.pending (by rw [waiting]; trivial)
      rw [queue, List.map_cons] at pending
      refine ⟨[.take], ⟨fifo.taken ++ [State.publishArgs topic head],
        rest.map (State.publishArgs topic)⟩, ?_, ?_⟩
      · simp only [System.runFrom_singleton, Fifo.system, pending]
      · refine ⟨implements.topic_eq, ?_, ?_, ?_⟩
        · rw [implements.taken, ← implements.topic_eq]
        · have put := implements.put
          rw [Fifo.put, pending] at put
          rw [Fifo.put, List.append_assoc, List.singleton_append]
          exact put
        · intro _
          simp only [Channel.advance_queue, queue, List.tail_cons]
  | delete =>
      exact ⟨[], fifo, rfl, ⟨implements.topic_eq, implements.taken, implements.put,
        fun serving => by rw [State.dropInner_queue]; exact implements.pending serving⟩⟩
  | build | clone | enter | acquired | refused | unpermitted | discarded =>
      exact ⟨[], fifo, rfl, ⟨implements.topic_eq, implements.taken, implements.put,
        fun serving => implements.pending serving⟩⟩
  | broke waiting | cancelledReceiving waiting =>
      exact ⟨[], fifo, rfl, ⟨implements.topic_eq, implements.taken, implements.put,
        fun _ => implements.pending (by rw [waiting]; trivial)⟩⟩
  | published publishing | cancelledPublishing publishing =>
      exact ⟨[], fifo, rfl, ⟨implements.topic_eq, implements.taken, implements.put,
        fun _ => implements.pending (by rw [publishing]; trivial)⟩⟩
  | alreadyOver => exact ⟨[], fifo, rfl, implements⟩
  | closed | drained | ended =>
      exact ⟨[], fifo, rfl, ⟨implements.topic_eq, implements.taken, implements.put,
        fun serving => serving.elim⟩⟩

section Runs

variable {name : CString} {capacity : Nat} {init : State}

theorem withCapacity_implements (created : withCapacity name capacity = some init) :
    Implements (lossyConvert name) init ⟨[], []⟩ := by
  unfold withCapacity at created
  obtain ⟨sem, _, rfl⟩ := Option.map_eq_some_iff.mp created
  exact ⟨rfl, rfl, rfl, fun _ => rfl⟩

/-- The sender refines the queue of publications. -/
def simulation (created : withCapacity name capacity = some init) :
    Simulation (system init) (Fifo.system (RustString × Bytes)) where
  related := Implements (lossyConvert name)
  init := withCapacity_implements created
  step := fun reached implements taken =>
    (step_cases taken).implements (callsOk_of_reachable created reached) implements

/-- In every reachable state the worker has published exactly a prefix of the
accepted messages, in the order of their channel sends, each with its call's
topic and payload. No call is accepted twice, and the calls of one thread are
accepted in the order in which the thread made them. -/
theorem published_in_order (created : withCapacity name capacity = some init)
    (reached : (system init).Reachable state) :
    state.published <+: state.accepted.map (Call.publication (lossyConvert name)) ∧
      state.accepted.Nodup ∧
      state.accepted.Pairwise fun earlier later =>
        earlier.thread = later.thread → earlier.number < later.number := by
  obtain ⟨fifo, _, implements⟩ := (simulation created).reachable reached
  have ordered := (callsOk_of_reachable created reached).ordered
  refine ⟨?_, ?_, ordered⟩
  · rw [← implements.put, ← implements.taken]
    exact fifo.taken_prefix_put
  · refine ordered.imp fun {earlier later} before same => ?_
    subst same
    exact Nat.lt_irrefl _ (before rfl)

/-- Two threads race for the channel: the second call is accepted first, with the
sender's topic, and published first. -/
theorem published_in_order_of_race :
    ∃ init state, withCapacity ⟨[0x74], by decide⟩ 8 = some init ∧
      (system init).run
        [.enter 0 0 .trySend (some ⟨[0x75], by decide⟩) [1, 2], .clone 0 1, .acquire 0,
          .enter 1 1 .send none [3], .acquire 1, .build 0, .build 1, .sendToChannel 1,
          .sendToChannel 0, .recv, .publishDone true, .recv] = some state ∧
      state.published = [(['t'], [3]), (['u'], [1, 2])] ∧
      state.published <+: state.accepted.map (Call.publication ['t']) := by
  have evaluated :
      ((withCapacity ⟨[0x74], by decide⟩ 8).bind fun init =>
        ((system init).run
          [.enter 0 0 .trySend (some ⟨[0x75], by decide⟩) [1, 2], .clone 0 1, .acquire 0,
            .enter 1 1 .send none [3], .acquire 1, .build 0, .build 1, .sendToChannel 1,
            .sendToChannel 0, .recv, .publishDone true, .recv]).map State.published) =
        some [(['t'], [3]), (['u'], [1, 2])] := by decide
  obtain ⟨init, created, ran⟩ := Option.bind_eq_some_iff.mp evaluated
  obtain ⟨state, run, published⟩ := Option.map_eq_some_iff.mp ran
  exact ⟨init, state, created, run, published, (published_in_order created ⟨_, run⟩).1⟩

end Runs

end AsyncNats.NamedSender
