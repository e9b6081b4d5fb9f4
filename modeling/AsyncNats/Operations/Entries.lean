import AsyncNats.Operations.Builder
import AsyncNats.OwnedStrings.Basic

/-! # Two sides of an entry point

What an entry point makes of the buffers it gets, and the task that it starts, are modelled apart
from each other: the first with the thread and its undefined behaviour, the second with the client
and its answers. The client is called with what was made. In the same way a setter of a request is
the entry point it calls, and a string that is handed out is a block of the allocator and a C
string in memory.
-/

namespace AsyncNats

open Operations

/-- The call of the client that an outcome leads to. -/
def Outcome.call : Outcome → Option ClientCall
  | .published subject none payload => some (.publish subject payload)
  | .published subject (some replyTo) payload => some (.publishWithReply subject replyTo payload)
  | .requested subject payload => some (.request subject payload)
  | .prepared _ | .queued _ _ _ | .refused | .converted _ => none

/-- The operation that an entry point starts. -/
def BufferCall.operation : BufferCall → Option Operation
  | .publish topic message => some (.publish topic.bytes message.bytes)
  | .publishWithReply topic replyTo message =>
      some (.publishWithReply topic.bytes replyTo.bytes message.bytes)
  | .request topic message => some (.request topic message.bytes)
  | .requestMessage _ _ | .trySend _ _ _ | .send _ _ _ | .lossyConvert _ => none

/-- The task of an operation waits for the call of the client that its entry point has made of the
buffers. -/
theorem BufferCall.task_of_run {Value Error : Type} (describe : Error → Bytes) (context : Context)
    {call : BufferCall} {operation : Operation} (starts : call.operation = some operation)
    {outcome : Outcome} {left : Locals} (ran : call.run Locals.new = some (outcome, left)) :
    ∃ client resume, outcome.call = some client ∧
      (operation.task describe context : TaskBody Value Error) = .await client resume := by
  have addressed : call.Addressed := by
    intro buffer member null
    rw [run_of_null Locals.new member null] at ran
    cases ran
  obtain ⟨rfl, rfl⟩ := Prod.mk.inj (Option.some.inj ((run_of_addressed addressed).symm.trans ran))
  cases call with
  | publish topic message | publishWithReply topic replyTo message =>
      cases starts
      refine ⟨_, fun _ => .report (.publish context) .ret, rfl, ?_⟩
      simp only [Operation.task, Operations.publishAsync, Operations.publishWithReplyAsync, notify,
        copyThrough_nil]
  | request topic message =>
      cases starts
      exact ⟨_, _, rfl, rfl⟩
  | requestMessage | trySend | send | lossyConvert => cases starts

/-- The setter of the payload is its entry point. -/
theorem requestMessage_eq (locals : Locals) (req : Request) (message : Buffer) :
    requestMessage locals req message =
      (Operations.requestMessage req message).map fun request => (.prepared request, locals) := by
  unfold requestMessage Operations.requestMessage
  cases message.fromRawParts <;> rfl

namespace OwnedStrings

/-- A string that was handed out is in memory as the C string in its block. -/
theorem stringToOwnedString_holds {heap after : Heap} {s : RustString} {pointer : Pointer}
    (made : stringToOwnedString heap s = some (pointer, after)) (memory : Memory) :
    ∃ text data before, after.blocks.lookup pointer = some text ∧
      Operations.stringToOwnedString memory s = some (data, before) ∧
      Holds before data (asBytesWithNul text) := by
  obtain ⟨text, fits, placed⟩ := Option.map_eq_some_iff.mp made
  cases placed
  refine ⟨text, _, _, AList.lookup_insert _, ?_, holds_append memory (asBytesWithNul text)⟩
  rw [Operations.stringToOwnedString, fits, Option.map_some]
  rfl

/-- Both panic on the same strings. -/
theorem stringToOwnedString_eq_none_iff (heap : Heap) (memory : Memory) (s : RustString) :
    stringToOwnedString heap s = none ↔ Operations.stringToOwnedString memory s = none := by
  rw [stringToOwnedString, Operations.stringToOwnedString, Option.map_eq_none_iff,
    Option.map_eq_none_iff]

end OwnedStrings

end AsyncNats
