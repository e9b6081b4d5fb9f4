import AsyncNats.Scratch.Places

/-! # Copies do not mix

What the places hold, said about each call: its buffer is empty before and after it, and its
bytes are its payload for as long as anybody has them, whatever the other calls and the tasks
do. A call that was entered can always go on to its end, and between its calls a thread is as a
new one, so that the copies of the other models are those that are made here step by step.
-/

namespace AsyncNats.Scratch

open Ownership Transition

variable {Mem Handle : Type} {store : Store Mem Handle UInt8} {state : State Mem Handle}
  {thread : ThreadId} {call : Call} {mbytes bytes : Handle}

/-- Copies are apart: between the calls that use it a buffer is empty and free, whatever is or
was frozen is the payload of its call, for each call that came to its end there is one job, in
the order of the calls of its thread, and nothing panicked. -/
structure Unmixed (store : Store Mem Handle UInt8) (state : State Mem Handle) : Prop where
  empty : ∀ thread which, (∀ call ∈ (state.stage thread).call?, call.which ≠ which) →
    ∀ cell, state.cells (thread, which) = some cell →
      cell.borrowed = false ∧ store.view state.mem cell.bytes = some []
  frozen : ∀ thread call bytes, state.stage thread = .frozen call bytes →
    store.view state.mem bytes = some call.data
  jobs : ∀ job ∈ state.jobs, ∀ bytes ∈ job.custody.bytes,
    store.view state.mem bytes = some job.call.data
  handed : ∀ entry ∈ state.handed,
    ∃ job, state.jobs[entry.1]? = some job ∧ entry.2 = some job.call.data
  ordered : ∀ thread, callsOf thread state.started =
    callsOf thread (state.jobs.map Job.entry) ++ (state.stage thread).call?.toList
  calm : ∀ thread, state.stage thread ≠ .panicked

/-- The buffers of a thread as values, where one that was not used yet is empty. -/
def State.locals (store : Store Mem Handle UInt8) (state : State Mem Handle)
    (thread : ThreadId) : Locals := fun which =>
  (state.cells (thread, which)).elim [] fun cell => (store.view state.mem cell.bytes).getD []

namespace Unmixed

/-- Between its calls a thread is as a new one. -/
theorem locals_of_idle (apart : Unmixed store state) (idle : state.stage thread = .idle) :
    state.locals store thread = Locals.new := by
  funext which
  have elsewhere : ∀ call ∈ (state.stage thread).call?, call.which ≠ which := by
    rw [idle]
    exact fun call inside => by cases inside
  cases there : state.cells (thread, which) with
  | none => rw [State.locals, there, Option.elim_none, Locals.new]
  | some cell =>
      rw [State.locals, there, Option.elim_some, (apart.empty thread which elsewhere cell there).2,
        Option.getD_some, Locals.new]

/-- What a job has is the copy that a call makes in one step. -/
theorem view_eq_copy (apart : Unmixed store state) {job : Job Handle} (member : job ∈ state.jobs)
    (has : bytes ∈ job.custody.bytes) :
    store.view state.mem bytes = some (Locals.new.copy job.call.which job.call.data).1 := by
  rw [apart.jobs job member bytes has, Locals.new_copy]

end Unmixed

theorem stage_borrowMut (store : Store Mem Handle UInt8) (state : State Mem Handle)
    (thread : ThreadId) (call : Call) :
    (state.borrowMut store thread call).stage thread = .panicked ∨
      ∃ mbytes, (state.borrowMut store thread call).stage thread = .borrowed call mbytes := by
  unfold State.borrowMut
  split
  · exact .inr ⟨_, Function.update_self ..⟩
  · exact .inl (Function.update_self ..)
  · exact .inr ⟨_, Function.update_self ..⟩

theorem stage_splitTo (store : Store Mem Handle UInt8) (state : State Mem Handle)
    (thread : ThreadId) (call : Call) (mbytes : Handle) :
    (state.splitTo store thread call mbytes).stage thread = .panicked ∨
      ∃ part, (state.splitTo store thread call mbytes).stage thread = .parted call mbytes part := by
  unfold State.splitTo
  split
  · exact .inl (Function.update_self ..)
  · exact .inr ⟨_, Function.update_self ..⟩

/-- Every call can go on, and each of its steps brings it nearer to its end. -/
theorem Sound.advance_left (lawful : store.Lawful) (sound : Sound store state)
    (inside : (state.stage thread).call? = some call) :
    ∃ next, state.advance store thread = some next ∧
      (next.stage thread).left + 1 = (state.stage thread).left := by
  cases stage : state.stage thread with
  | idle | panicked | exiting =>
      rw [stage] at inside
      cases inside
  | entered call =>
      refine ⟨state.borrowMut store thread call, by rw [State.advance, stage], ?_⟩
      rcases stage_borrowMut store state thread call with panicked | ⟨mbytes, borrowed⟩
      · exact absurd panicked ((sound.borrowMut lawful stage).calm thread)
      · rw [borrowed]
        rfl
  | borrowed call mbytes =>
      refine ⟨state.extendFromSlice store thread call mbytes, by rw [State.advance, stage], ?_⟩
      simp only [State.extendFromSlice, State.setStage, Function.update_self, Stage.left]
  | extended call mbytes =>
      refine ⟨state.splitTo store thread call mbytes, by rw [State.advance, stage], ?_⟩
      rcases stage_splitTo store state thread call mbytes with panicked | ⟨part, parted⟩
      · exact absurd panicked ((sound.splitTo lawful stage).calm thread)
      · rw [parted]
        rfl
  | parted call mbytes part =>
      refine ⟨state.freeze store thread call mbytes part, by rw [State.advance, stage], ?_⟩
      simp only [State.freeze, State.setStage, Function.update_self, Stage.left]
  | frozen call bytes =>
      refine ⟨state.handOver thread call bytes, by rw [State.advance, stage], ?_⟩
      simp only [State.handOver, State.setStage, Function.update_self, Stage.left]

end AsyncNats.Scratch
