import AsyncNats.NamedSender.Basic

/-! # What one step of the sender can do

`Step` lists the outcomes of all steps with the conditions under which they are
taken. Every invariant is proved by cases on it.
-/

namespace AsyncNats.NamedSender

open Sync

/-- The message that a call builds from an empty buffer. -/
def Call.message (call : Call) (permit : Option Permit) : Message where
  topic := call.topic.map lossyConvert
  message := call.data
  permit
  call

/-- The message of a call that copies through `buffer`. -/
def Call.messageThrough (call : Call) (permit : Option Permit) (buffer : Bytes) : Message :=
  { call.message permit with message := (copyThrough buffer call.data).1 }

/-- The state after the message of a call has been built. -/
def State.built (state : State) (thread : ThreadId) (pending : Pending)
    (permit : Option Permit) : State :=
  { state.setStage thread pending
      (.built (pending.call.messageThrough permit (state.bytes thread pending.entry))) with
    bytes := Function.update state.bytes thread
      (Function.update (state.bytes thread) pending.entry
        (copyThrough (state.bytes thread pending.entry) pending.call.data).2) }

/-- The outcomes of a step. -/
inductive Step (state : State) : Event → State → Prop where
  | clone {source fresh : HandleId} (live : source ∈ state.handles)
      (unused : fresh ∉ state.handles) :
      Step state (.clone source fresh)
        { state with handles := fresh :: state.handles, innerRefs := state.innerRefs + 1 }
  | delete {handle : HandleId} (live : handle ∈ state.handles)
      (idle : ∀ entry ∈ state.calls.entries, entry.2.handle ≠ handle) :
      Step state (.delete handle)
        { state with handles := state.handles.erase handle }.dropInner
  | enter {thread : ThreadId} {handle : HandleId} {entry : EntryPoint} {topic : BorrowedString}
      {data : Bytes} (live : handle ∈ state.handles) (idle : state.calls.lookup thread = none) :
      Step state (.enter thread handle entry topic data)
        { state with
          calls := state.calls.insert thread
            ⟨entry, handle, ⟨state.entered, thread, topic, data⟩, .entered⟩
          entered := state.entered + 1 }
  | acquired {thread : ThreadId} {pending : Pending} {permit : Permit} {sem : Semaphore}
      (calling : state.calls.lookup thread = some pending) (stage : pending.stage = .entered)
      (acquired : state.sem.tryAcquireOwned = some (permit, sem)) :
      Step state (.acquire thread)
        { state.setStage thread pending (.acquired (some permit)) with sem }
  | refused {thread : ThreadId} {pending : Pending}
      (calling : state.calls.lookup thread = some pending) (stage : pending.stage = .entered)
      (entry : pending.entry = .trySend) (exhausted : state.sem.tryAcquireOwned = none) :
      Step state (.acquire thread)
        { state.leave thread with returned := state.returned ++ [(pending.call, false)] }
  | unpermitted {thread : ThreadId} {pending : Pending}
      (calling : state.calls.lookup thread = some pending) (stage : pending.stage = .entered)
      (entry : pending.entry = .send) (exhausted : state.sem.tryAcquireOwned = none) :
      Step state (.acquire thread) (state.setStage thread pending (.acquired none))
  | build {thread : ThreadId} {pending : Pending} {permit : Option Permit}
      (calling : state.calls.lookup thread = some pending)
      (stage : pending.stage = .acquired permit) :
      Step state (.build thread) (state.built thread pending permit)
  | sent {thread : ThreadId} {pending : Pending} {message : Message}
      (calling : state.calls.lookup thread = some pending) (stage : pending.stage = .built message)
      (opened : state.channel.closed = false) :
      Step state (.sendToChannel thread)
        { state.leave thread with
          channel := state.channel.push message state.channel.room_of_unbounded
          accepted := state.accepted ++ [pending.call]
          returned := state.returned ++ State.report pending }
  | discarded {thread : ThreadId} {pending : Pending} {message : Message}
      (calling : state.calls.lookup thread = some pending) (stage : pending.stage = .built message)
      (closed : state.channel.closed = true) :
      Step state (.sendToChannel thread)
        { state.leave thread with
          sem := state.sem.releaseOption message.permit
          dropped := state.dropped ++ [message]
          returned := state.returned ++ State.report pending }
  | received {head : Message} {rest : List Message} (waiting : state.worker = .receiving)
      (queue : state.channel.queue = head :: rest) :
      Step state .recv
        { state with
          channel := state.channel.advance
          worker := .publishing head
          published := state.published ++ [State.publishArgs state.topic head] }
  | broke (waiting : state.worker = .receiving) (queue : state.channel.queue = [])
      (orphaned : state.channel.closed = true ∨ state.channel.senders = 0) :
      Step state .recv { state with worker := .dropping }
  | published {message : Message} {succeeded : Bool}
      (publishing : state.worker = .publishing message) :
      Step state (.publishDone succeeded)
        { state with
          worker := if succeeded then .receiving else .dropping
          sem := state.sem.releaseOption message.permit
          finished := state.finished ++ [message] }
  | cancelledReceiving (waiting : state.worker = .receiving) :
      Step state .runtimeDelete { state with worker := .dropping }
  | cancelledPublishing {message : Message} (publishing : state.worker = .publishing message) :
      Step state .runtimeDelete
        { state with
          worker := .dropping
          sem := state.sem.releaseOption message.permit
          dropped := state.dropped ++ [message] }
  | alreadyOver : Step state .runtimeDelete state
  | closed (dropping : state.worker = .dropping) :
      Step state .closeReceiver
        { state with worker := .draining, channel := state.channel.close }
  | drained {head : Message} {rest : List Message} (draining : state.worker = .draining)
      (queue : state.channel.queue = head :: rest) :
      Step state .drain
        { state with
          worker := .draining
          channel := state.channel.advance
          sem := state.sem.releaseOption head.permit
          dropped := state.dropped ++ [head] }
  | ended (draining : state.worker = .draining) (queue : state.channel.queue = []) :
      Step state .drain { state with worker := .ended }.dropInner

namespace State

variable {state next : State} {thread : ThreadId}

theorem acquire_cases (step : state.acquire thread = some next) :
    Step state (.acquire thread) next := by
  unfold acquire at step
  cases calling : state.calls.lookup thread with
  | none => simp only [calling, reduceCtorEq] at step
  | some pending =>
      simp only [calling] at step
      cases stage : pending.stage with
      | acquired _ => simp only [stage, reduceCtorEq] at step
      | built _ => simp only [stage, reduceCtorEq] at step
      | entered =>
          cases entry : pending.entry with
          | trySend =>
              simp only [stage, entry, Option.some.injEq] at step
              subst step
              unfold trySendAcquire
              cases acquired : state.sem.tryAcquireOwned with
              | none => exact .refused calling stage entry acquired
              | some result => exact .acquired calling stage acquired
          | send =>
              simp only [stage, entry, Option.some.injEq] at step
              subst step
              unfold sendAcquire
              cases acquired : state.sem.tryAcquireOwned with
              | none => exact .unpermitted calling stage entry acquired
              | some result => exact .acquired calling stage acquired

theorem build_cases (step : state.build thread = some next) :
    Step state (.build thread) next := by
  unfold build at step
  cases calling : state.calls.lookup thread with
  | none => simp only [calling, reduceCtorEq] at step
  | some pending =>
      simp only [calling] at step
      cases stage : pending.stage with
      | entered => simp only [stage, reduceCtorEq] at step
      | built _ => simp only [stage, reduceCtorEq] at step
      | acquired permit =>
          simp only [stage, Option.some.injEq] at step
          subst step
          exact .build calling stage

theorem sendToChannel_cases (step : state.sendToChannel thread = some next) :
    Step state (.sendToChannel thread) next := by
  unfold sendToChannel at step
  cases calling : state.calls.lookup thread with
  | none => simp only [calling, reduceCtorEq] at step
  | some pending =>
      simp only [calling] at step
      cases stage : pending.stage with
      | entered => simp only [stage, reduceCtorEq] at step
      | acquired _ => simp only [stage, reduceCtorEq] at step
      | built message =>
          simp only [stage] at step
          cases sent : state.channel.trySend message with
          | ok channel =>
              obtain ⟨opened, room, rfl⟩ := Channel.trySend_eq_ok.mp sent
              simp only [sent, Option.some.injEq] at step
              subst step
              exact .sent calling stage opened
          | error error =>
              have closed := (Channel.trySend_eq_error sent).resolve_right
                (not_not_intro state.channel.room_of_unbounded)
              simp only [sent, Option.some.injEq] at step
              subst step
              exact .discarded calling stage closed

theorem recv_cases (step : state.recv = some next) : Step state .recv next := by
  unfold recv at step
  cases waiting : state.worker with
  | receiving =>
      simp only [waiting] at step
      cases found : state.channel.tryRecv with
      | empty => simp only [found, reduceCtorEq] at step
      | disconnected =>
          obtain ⟨queue, orphaned⟩ := Channel.tryRecv_eq_disconnected.mp found
          simp only [found, Option.some.injEq] at step
          subst step
          exact .broke waiting queue orphaned
      | message head channel =>
          have queue := Channel.queue_of_message found
          obtain ⟨_, rfl⟩ := Channel.tryRecv_eq_message.mp found
          simp only [found, Option.some.injEq] at step
          subst step
          exact .received waiting queue
  | _ => simp only [waiting, reduceCtorEq] at step

theorem drain_cases (step : state.drain = some next) : Step state .drain next := by
  unfold drain at step
  cases draining : state.worker with
  | draining =>
      simp only [draining] at step
      cases found : state.channel.tryRecv with
      | empty =>
          simp only [found, Option.some.injEq] at step
          subst step
          exact .ended draining (Channel.tryRecv_eq_empty.mp found).1
      | disconnected =>
          simp only [found, Option.some.injEq] at step
          subst step
          exact .ended draining (Channel.tryRecv_eq_disconnected.mp found).1
      | message head channel =>
          have queue := Channel.queue_of_message found
          obtain ⟨_, rfl⟩ := Channel.tryRecv_eq_message.mp found
          simp only [found, Option.some.injEq] at step
          subst step
          exact .drained draining queue
  | _ => simp only [draining, reduceCtorEq] at step

end State

/-- Every step has one of the listed outcomes. -/
theorem step_cases {state next : State} {event : Event} (taken : step state event = some next) :
    Step state event next := by
  cases event with
  | clone source fresh =>
      simp only [step, State.clone, Option.ite_none_right_eq_some, Option.some.injEq] at taken
      obtain ⟨⟨live, unused⟩, rfl⟩ := taken
      exact .clone live unused
  | delete handle =>
      simp only [step, State.delete, Option.ite_none_right_eq_some, Option.some.injEq] at taken
      obtain ⟨⟨live, idle⟩, rfl⟩ := taken
      exact .delete live idle
  | enter thread handle entry topic data =>
      simp only [step, State.enter, Option.ite_none_right_eq_some, Option.some.injEq] at taken
      obtain ⟨⟨live, idle⟩, rfl⟩ := taken
      exact .enter live idle
  | acquire thread => exact State.acquire_cases taken
  | build thread => exact State.build_cases taken
  | sendToChannel thread => exact State.sendToChannel_cases taken
  | recv => exact State.recv_cases taken
  | publishDone succeeded =>
      simp only [step, State.publishDone] at taken
      cases publishing : state.worker with
      | publishing message =>
          simp only [publishing, Option.some.injEq] at taken
          subst taken
          exact .published publishing
      | _ => simp only [publishing, reduceCtorEq] at taken
  | runtimeDelete =>
      simp only [step, State.runtimeDelete] at taken
      cases worker : state.worker with
      | receiving =>
          simp only [worker, Option.some.injEq] at taken
          subst taken
          exact .cancelledReceiving worker
      | publishing message =>
          simp only [worker, Option.some.injEq] at taken
          subst taken
          exact .cancelledPublishing worker
      | _ =>
          simp only [worker, Option.some.injEq] at taken
          subst taken
          exact .alreadyOver
  | closeReceiver =>
      simp only [step, State.closeReceiver] at taken
      cases dropping : state.worker with
      | dropping =>
          simp only [dropping, Option.some.injEq] at taken
          subst taken
          exact .closed dropping
      | _ => simp only [dropping, reduceCtorEq] at taken
  | drain => exact State.drain_cases taken

end AsyncNats.NamedSender
