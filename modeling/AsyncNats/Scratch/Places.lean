import AsyncNats.Scratch.Basic

/-! # What the buffers, calls and jobs hold

The buffers, the parts that calls have split off and the frozen bytes are places that hold
handles. What is in each of them is known at every step: a buffer has the payload of a call
between `extend_from_slice` and `split_to` and is empty otherwise, and everything that was split
off is the payload of its call. A step of a thread changes its own places, and a task or queue
those of its job.
-/

namespace AsyncNats.Scratch

open Ownership Transition

variable {Mem Handle : Type} {store : Store Mem Handle UInt8} {state next : State Mem Handle}
  {thread : ThreadId} {call : Call} {mbytes part bytes : Handle}

/-- What can hold a handle. -/
inductive Place where
  | cell (thread : ThreadId) (which : Local)
  | part (thread : ThreadId)
  | job (index : Nat)
  deriving DecidableEq

/-- The thread whose place it is. -/
def Place.thread? : Place → Option ThreadId
  | .cell thread _ | .part thread => some thread
  | .job _ => none

/-- The payload of a job. -/
def Job.data (job : Job Handle) : Bytes := job.call.data

def Job.entry (job : Job Handle) : ThreadId × Call := (job.thread, job.call)

/-- The calls of one thread. -/
def callsOf (thread : ThreadId) (entries : List (ThreadId × Call)) : List Call :=
  (entries.filter fun entry => entry.1 = thread).map Prod.snd

namespace State

def held (state : State Mem Handle) : Place → Option Handle
  | .cell thread which => (state.cells (thread, which)).map Cell.bytes
  | .part thread => (state.stage thread).part
  | .job index => state.jobs[index]?.bind (·.custody.bytes)

def content (state : State Mem Handle) : Place → Bytes
  | .cell thread which => (state.stage thread).residue which
  | .part thread => ((state.stage thread).call?).elim [] Call.data
  | .job index => state.jobs[index]?.elim [] Job.data

end State

/-- Each place holds what it should, a buffer is borrowed by nobody but the call that its thread
is in, the client was given payloads, no call was lost or made twice, and no thread panicked. -/
structure Sound (store : Store Mem Handle UInt8) (state : State Mem Handle) : Prop where
  owned : Owned store state.mem state.held state.content
  guards : ∀ thread which mbytes, state.cells (thread, which) = some ⟨true, mbytes⟩ ↔
    (state.stage thread).guard = some (which, mbytes)
  handed : ∀ entry ∈ state.handed, ∃ job, state.jobs[entry.1]? = some job ∧ entry.2 = some job.data
  ordered : ∀ thread, callsOf thread state.started =
    callsOf thread (state.jobs.map Job.entry) ++ (state.stage thread).call?.toList
  calm : ∀ thread, state.stage thread ≠ .panicked

theorem callsOf_append (thread : ThreadId) (front back : List (ThreadId × Call)) :
    callsOf thread (front ++ back) = callsOf thread front ++ callsOf thread back := by
  rw [callsOf, List.filter_append, List.map_append, callsOf, callsOf]

theorem callsOf_self {entries : List (ThreadId × Call)}
    (mine : ∀ entry ∈ entries, entry.1 = thread) :
    callsOf thread entries = entries.map Prod.snd := by
  rw [callsOf, List.filter_eq_self.mpr fun entry member => decide_eq_true (mine entry member)]

theorem callsOf_other {entries : List (ThreadId × Call)} {other : ThreadId}
    (mine : ∀ entry ∈ entries, entry.1 = thread) (apart : other ≠ thread) :
    callsOf other entries = [] := by
  have nothing : (entries.filter fun entry => entry.1 = other) = [] := by
    refine List.filter_eq_nil_iff.mpr fun entry member same => apart ?_
    exact (of_decide_eq_true same).symm.trans (mine entry member)
  rw [callsOf, nothing, List.map_nil]

/-- Places of other threads are not changed by an update of a place of this one. -/
theorem update_of_foreign {β : Type} {place target : Place} (foreign : place.thread? ≠ some thread)
    (mine : target.thread? = some thread) (values : Place → β) (value : β) :
    Function.update values target value place = values place := by
  apply Function.update_of_ne
  rintro rfl
  exact foreign mine

theorem update_cell {β : Type} {which target : Local} (apart : which ≠ target) (values : Place → β)
    (value : β) : Function.update values (.cell thread target) value (.cell thread which) =
      values (.cell thread which) := by
  apply Function.update_of_ne
  rintro ⟨⟩
  exact apart rfl

theorem update_key {β : Type} {which target : Local} (apart : which ≠ target)
    (values : ThreadId × Local → β) (value : β) :
    Function.update values (thread, target) value (thread, which) = values (thread, which) := by
  apply Function.update_of_ne
  rintro ⟨⟩
  exact apart rfl

theorem cells_others {cells : ThreadId × Local → Option (Cell Handle)} {which : Local}
    (cell : Option (Cell Handle)) (other : ThreadId) (apart : other ≠ thread) (target : Local) :
    Function.update cells (thread, which) cell (other, target) = cells (other, target) := by
  apply Function.update_of_ne
  rintro ⟨⟩
  exact apart rfl

/-- When no other buffer of the thread is borrowed, this one is the one that is, or none is. -/
theorem guards_update {cells : ThreadId × Local → Option (Cell Handle)} {target : Local}
    (cell : Cell Handle)
    (free : ∀ which mbytes, which ≠ target → cells (thread, which) ≠ some ⟨true, mbytes⟩)
    (which : Local) (mbytes : Handle) :
    Function.update cells (thread, target) (some cell) (thread, which) = some ⟨true, mbytes⟩ ↔
      (if cell.borrowed then some (target, cell.bytes) else none) = some (which, mbytes) := by
  obtain ⟨borrowed, bytes⟩ := cell
  by_cases same : which = target
  · cases borrowed <;>
      simp only [same, Function.update_self, Option.some.injEq, Cell.mk.injEq, Prod.mk.injEq,
        true_and, if_true, if_false, reduceCtorEq, Bool.false_eq_true, false_and]
  · rw [update_key same]
    refine iff_of_false (free which mbytes same) ?_
    cases borrowed <;>
      simp only [if_true, if_false, reduceCtorEq, Bool.false_eq_true, Option.some.injEq,
        Prod.mk.injEq, Ne.symm same, false_and, not_false_eq_true]

/-- A new stage of one thread leaves the others where they are. -/
theorem stage_others (thread : ThreadId) (state : State Mem Handle) (stage : Stage Handle)
    (other : ThreadId) (apart : other ≠ thread) :
    Function.update state.stage thread stage other = state.stage other ∧
      ∀ which, state.cells (other, which) = state.cells (other, which) :=
  ⟨Function.update_of_ne apart _ _, fun _ => rfl⟩

/-- A new last job leaves the others where they are. -/
theorem getElem?_concat_of_ne {jobs : List (Job Handle)} {index : Nat}
    (apart : index ≠ jobs.length) (job : Job Handle) : (jobs ++ [job])[index]? = jobs[index]? := by
  rcases Nat.lt_or_gt_of_ne apart with inside | beyond
  · exact List.getElem?_append_left inside
  · rw [List.getElem?_append_right (Nat.le_of_lt beyond), List.getElem?_singleton,
      if_neg (Nat.sub_ne_zero_of_lt beyond), List.getElem?_eq_none (Nat.le_of_lt beyond)]

/-- What the places of one thread hold after its step, when the others are as before. -/
theorem owned_of_thread {held : Place → Option Handle} {content : Place → Bytes}
    (thread : ThreadId)
    (others : ∀ other, other ≠ thread → next.stage other = state.stage other ∧
      ∀ which, next.cells (other, which) = state.cells (other, which))
    (jobs : next.jobs = state.jobs) (owned : Owned store next.mem held content)
    (foreign : ∀ place : Place, place.thread? ≠ some thread →
      held place = state.held place ∧ content place = state.content place)
    (cells : ∀ which, next.held (.cell thread which) = held (.cell thread which) ∧
      content (.cell thread which) = (next.stage thread).residue which)
    (part : ∀ handle, (next.stage thread).part = some handle →
      held (.part thread) = some handle ∧ content (.part thread) = next.content (.part thread)) :
    Owned store next.mem next.held next.content := by
  refine owned.congr fun place handle there => ?_
  cases place with
  | cell other which =>
      by_cases mine : other = thread
      · subst mine
        exact ⟨(cells which).1 ▸ there, (cells which).2⟩
      · have apart : (Place.cell other which).thread? ≠ some thread := fun same =>
          mine (Option.some.inj same)
        rw [(foreign _ apart).1, (foreign _ apart).2]
        simp only [State.held, State.content, (others other mine).1, (others other mine).2]
          at there ⊢
        exact ⟨there, trivial⟩
  | part other =>
      by_cases mine : other = thread
      · subst mine
        exact part handle there
      · have apart : (Place.part other).thread? ≠ some thread := fun same =>
          mine (Option.some.inj same)
        rw [(foreign _ apart).1, (foreign _ apart).2]
        simp only [State.held, State.content, (others other mine).1] at there ⊢
        exact ⟨there, trivial⟩
  | job index =>
      have apart : (Place.job index).thread? ≠ some thread := Option.some_ne_none thread |>.symm
      rw [(foreign _ apart).1, (foreign _ apart).2]
      simp only [State.held, State.content, jobs] at there ⊢
      exact ⟨there, trivial⟩

namespace Sound

/-- What is left to show of a step of one thread: what it does to the handles, to its own
buffers, and to its own calls. -/
theorem of_thread (sound : Sound store state) (thread : ThreadId)
    (calls : List (ThreadId × Call)) (jobs : List (Job Handle))
    (others : ∀ other, other ≠ thread → next.stage other = state.stage other ∧
      ∀ which, next.cells (other, which) = state.cells (other, which))
    (started : next.started = state.started ++ calls) (finished : next.jobs = state.jobs ++ jobs)
    (handed : next.handed = state.handed)
    (mine : ∀ entry ∈ calls ++ jobs.map Job.entry, entry.1 = thread)
    (owned : Owned store next.mem next.held next.content)
    (guards : ∀ which mbytes, next.cells (thread, which) = some ⟨true, mbytes⟩ ↔
      (next.stage thread).guard = some (which, mbytes))
    (balance : (state.stage thread).call?.toList ++ calls.map Prod.snd =
      (jobs.map Job.entry).map Prod.snd ++ (next.stage thread).call?.toList)
    (calm : next.stage thread ≠ .panicked) : Sound store next where
  owned := owned
  guards other which mbytes := by
    by_cases same : other = thread
    · rw [same]
      exact guards which mbytes
    · rw [(others other same).1, (others other same).2]
      exact sound.guards other which mbytes
  handed entry member := by
    rw [handed] at member
    obtain ⟨job, there, given⟩ := sound.handed entry member
    refine ⟨job, ?_, given⟩
    rw [finished, List.getElem?_append_left (List.getElem?_eq_some_iff.mp there).1, there]
  ordered other := by
    have ordered := sound.ordered other
    have newCalls := fun entry member => mine entry (List.mem_append_left _ member)
    have newJobs := fun entry member => mine entry (List.mem_append_right _ member)
    rw [started, finished, List.map_append, callsOf_append, callsOf_append, ordered]
    by_cases same : other = thread
    · rw [same, callsOf_self newCalls, callsOf_self newJobs, List.append_assoc, balance,
        List.append_assoc]
    · rw [callsOf_other newCalls same, callsOf_other newJobs same, (others other same).1,
        List.append_nil, List.append_nil]
  calm other := by
    by_cases same : other = thread
    · rw [same]
      exact calm
    · rw [(others other same).1]
      exact sound.calm other

/-- The buffer that a call has borrowed. -/
theorem cell (sound : Sound store state) {which : Local}
    (guard : (state.stage thread).guard = some (which, mbytes)) :
    state.held (.cell thread which) = some mbytes := by
  rw [State.held, (sound.guards thread which mbytes).mpr guard, Option.map_some]

theorem enter (sound : Sound store state) (idle : state.stage thread = .idle) (call : Call) :
    Sound store { state.setStage thread (.entered call) with
      started := state.started ++ [(thread, call)] } := by
  have others := stage_others thread state (.entered call)
  refine sound.of_thread thread [(thread, call)] [] others rfl
    (List.append_nil _).symm rfl ?_ ?_ ?_ ?_ ?_
  · exact List.forall_mem_singleton.mpr rfl
  · refine owned_of_thread thread others rfl sound.owned (fun _ _ => ⟨rfl, rfl⟩) ?_ ?_
    · intro which
      simp only [State.held, State.content, State.setStage, Function.update_self, idle,
        Stage.residue, and_self]
    · intro handle there
      simp only [State.setStage, Function.update_self, Stage.part, reduceCtorEq] at there
  · intro which mbytes
    have same := sound.guards thread which mbytes
    rw [idle] at same
    simp only [State.setStage, Function.update_self]
    exact same
  · simp only [State.setStage, Function.update_self, idle, Stage.call?, Option.toList_none,
      Option.toList_some, List.map_cons, List.map_nil, List.nil_append]
  · simp only [State.setStage, Function.update_self, ne_eq, reduceCtorEq, not_false_eq_true]

/-- A step inside a call. -/
theorem restage (sound : Sound store state) {stage : Stage Handle} {mem : Mem}
    {cells : ThreadId × Local → Option (Cell Handle)}
    {held : Place → Option Handle} {content : Place → Bytes}
    (others : ∀ other, other ≠ thread → ∀ which, cells (other, which) = state.cells (other, which))
    (owned : Owned store mem held content)
    (foreign : ∀ place : Place, place.thread? ≠ some thread →
      held place = state.held place ∧ content place = state.content place)
    (contents : ∀ which, held (.cell thread which) = (cells (thread, which)).map Cell.bytes ∧
      content (.cell thread which) = stage.residue which)
    (part : ∀ handle, stage.part = some handle → held (.part thread) = some handle ∧
      content (.part thread) = stage.call?.elim [] Call.data)
    (guards : ∀ which mbytes, cells (thread, which) = some ⟨true, mbytes⟩ ↔
      stage.guard = some (which, mbytes))
    (same : stage.call? = (state.stage thread).call?) (calm : stage ≠ .panicked) :
    Sound store { state with mem, cells, stage := Function.update state.stage thread stage } := by
  have elsewhere : ∀ other, other ≠ thread →
      Function.update state.stage thread stage other = state.stage other ∧
        ∀ which, cells (other, which) = state.cells (other, which) :=
    fun other apart => ⟨Function.update_of_ne apart _ _, others other apart⟩
  refine sound.of_thread thread [] [] elsewhere (List.append_nil _).symm
    (List.append_nil _).symm rfl ?_ ?_ ?_ ?_ ?_
  · exact fun entry member => by cases member
  · refine owned_of_thread thread elsewhere rfl owned foreign ?_ ?_
    · intro which
      simp only [State.held, Function.update_self]
      exact ⟨(contents which).1.symm, (contents which).2⟩
    · intro handle there
      simp only [State.content, Function.update_self] at there ⊢
      exact part handle there
  · simpa only [Function.update_self] using guards
  · simp only [Function.update_self, same, List.map_nil, List.append_nil, List.nil_append]
  · simpa only [Function.update_self] using calm

theorem exit (sound : Sound store state) (idle : state.stage thread = .idle) :
    Sound store (state.setStage thread .exiting) := by
  refine sound.restage (fun _ _ _ => rfl) sound.owned (fun _ _ => ⟨rfl, rfl⟩) ?_ ?_ ?_ ?_ ?_
  · exact fun which => ⟨rfl, by rw [State.content, idle]; rfl⟩
  · exact fun handle there => by cases there
  · intro which mbytes
    have same := sound.guards thread which mbytes
    rwa [idle] at same
  · rw [idle]
    rfl
  · exact fun same => by cases same

theorem borrowMut (lawful : store.Lawful) (sound : Sound store state)
    (stage : state.stage thread = .entered call) :
    Sound store (state.borrowMut store thread call) := by
  have guards := sound.guards thread
  rw [stage] at guards
  have empty : ∀ which, state.content (.cell thread which) = [] := fun which => by
    rw [State.content, stage]
    rfl
  have called : some call = (state.stage thread).call? := by
    rw [stage]
    rfl
  have free : ∀ which mbytes, which ≠ call.which →
      state.cells (thread, which) ≠ some ⟨true, mbytes⟩ := by
    intro which mbytes _ there
    cases (guards which mbytes).mp there
  unfold State.borrowMut
  split
  · next absent =>
    obtain ⟨bytes, mem, made, owned⟩ :=
      sound.owned.withCapacity lawful 65535 (.cell thread call.which)
    rw [made]
    refine sound.restage (cells_others _) owned ?_ ?_ ?_ (guards_update ⟨true, bytes⟩ free)
      called ?_
    · exact fun place foreign =>
        ⟨update_of_foreign foreign rfl _ _, update_of_foreign foreign rfl _ _⟩
    · intro which
      simp only [State.setCell]
      by_cases same : which = call.which
      · simp only [same, Function.update_self, Option.map_some, Stage.residue, and_self]
      · rw [update_cell same, update_cell same, update_key same]
        exact ⟨rfl, empty which⟩
    · exact fun handle there => by cases there
    · exact fun same => by cases same
  · next mbytes there => cases (guards call.which mbytes).mp there
  · next bytes there =>
    refine sound.restage (cells_others _) sound.owned (fun _ _ => ⟨rfl, rfl⟩) ?_ ?_
      (guards_update ⟨true, bytes⟩ free) called ?_
    · intro which
      refine ⟨?_, empty which⟩
      simp only [State.setCell]
      by_cases same : which = call.which
      · simp only [State.held, same, Function.update_self, there, Option.map_some]
      · rw [update_key same]
        rfl
    · exact fun handle there => by cases there
    · exact fun same => by cases same

theorem extendFromSlice (lawful : store.Lawful) (sound : Sound store state)
    (stage : state.stage thread = .borrowed call mbytes) :
    Sound store (state.extendFromSlice store thread call mbytes) := by
  have guards := sound.guards thread
  rw [stage] at guards
  have here := sound.cell ((congrArg Stage.guard stage).trans rfl)
  refine sound.restage (fun _ _ _ => rfl) (sound.owned.extendFromSlice lawful here call.data)
    ?_ ?_ ?_ guards ?_ ?_
  · exact fun place foreign => ⟨rfl, update_of_foreign foreign rfl _ _⟩
  · intro which
    refine ⟨rfl, ?_⟩
    by_cases same : which = call.which
    · rw [same, Function.update_self]
      simp only [State.content, stage, Stage.residue, List.nil_append, if_true]
    · rw [update_cell same]
      simp only [State.content, stage, Stage.residue, Ne.symm same, if_false]
  · exact fun handle there => by cases there
  · rw [stage]
    rfl
  · exact fun same => by cases same

theorem splitTo (lawful : store.Lawful) (sound : Sound store state)
    (stage : state.stage thread = .extended call mbytes) :
    Sound store (state.splitTo store thread call mbytes) := by
  have guards := sound.guards thread
  rw [stage] at guards
  have here := sound.cell ((congrArg Stage.guard stage).trans rfl)
  have filled : state.content (.cell thread call.which) = call.data := by
    simp only [State.content, stage, Stage.residue, if_true]
  have enough : call.data.length ≤ (state.content (.cell thread call.which)).length := by
    rw [filled]
  obtain ⟨part, mem, split, owned⟩ :=
    sound.owned.splitTo lawful here (.part thread) enough
  rw [filled, List.drop_length, List.take_length] at owned
  rw [State.splitTo, split]
  refine sound.restage (fun _ _ _ => rfl) owned ?_ ?_ ?_ guards ?_ ?_
  · intro place foreign
    rw [update_of_foreign foreign rfl, update_of_foreign foreign rfl, update_of_foreign foreign rfl]
    exact ⟨rfl, rfl⟩
  · intro which
    rw [Function.update_of_ne (by rintro ⟨⟩), Function.update_of_ne (by rintro ⟨⟩)]
    refine ⟨rfl, ?_⟩
    by_cases same : which = call.which
    · rw [same, Function.update_self]
      rfl
    · rw [update_cell same]
      simp only [State.content, stage, Stage.residue, Ne.symm same, if_false]
  · intro handle there
    rw [Function.update_self, Function.update_self]
    exact ⟨there, rfl⟩
  · rw [stage]
    rfl
  · exact fun same => by cases same

theorem freeze (lawful : store.Lawful) (sound : Sound store state)
    (stage : state.stage thread = .parted call mbytes part) :
    Sound store (state.freeze store thread call mbytes part) := by
  have guards := sound.guards thread
  rw [stage] at guards
  have free : ∀ which mbytes, which ≠ call.which →
      state.cells (thread, which) ≠ some ⟨true, mbytes⟩ := by
    intro which mbytes apart there
    cases (guards which mbytes).mp there
    exact apart rfl
  have here : state.held (.part thread) = some part := by
    rw [State.held, stage]
    rfl
  obtain ⟨bytes, mem, frozen, owned⟩ := sound.owned.freeze lawful here
  rw [State.freeze, frozen]
  refine sound.restage (cells_others _) owned ?_ ?_ ?_ (guards_update ⟨false, mbytes⟩ free) ?_ ?_
  · exact fun place foreign => ⟨update_of_foreign foreign rfl _ _, rfl⟩
  · intro which
    rw [Function.update_of_ne (by rintro ⟨⟩), State.content, stage]
    refine ⟨?_, rfl⟩
    simp only [State.setCell]
    by_cases same : which = call.which
    · rw [same, Function.update_self, sound.cell ((congrArg Stage.guard stage).trans rfl)]
      rfl
    · rw [update_key same]
      rfl
  · intro handle there
    rw [Function.update_self, State.content, stage]
    exact ⟨there, rfl⟩
  · rw [stage]
    rfl
  · exact fun same => by cases same

theorem handOver (sound : Sound store state) (stage : state.stage thread = .frozen call bytes) :
    Sound store (state.handOver thread call bytes) := by
  have guards := sound.guards thread
  rw [stage] at guards
  have others := stage_others thread state .idle
  have here : state.held (.part thread) = some bytes := by
    rw [State.held, stage]
    rfl
  have moved := sound.owned.move here (.job state.jobs.length)
  refine sound.of_thread thread [] [⟨thread, call, .waiting bytes⟩] others
    (List.append_nil _).symm rfl rfl ?_ (moved.congr fun place handle there => ?_) ?_ ?_ ?_
  · exact List.forall_mem_singleton.mpr rfl
  · cases place with
    | cell other which =>
      rw [Function.update_of_ne (by rintro ⟨⟩), Function.update_of_ne (by rintro ⟨⟩),
        Function.update_of_ne (by rintro ⟨⟩)]
      refine ⟨there, ?_⟩
      by_cases mine : other = thread
      · simp only [State.content, State.handOver, State.setStage, mine, stage,
          Function.update_self, Stage.residue]
      · rw [State.content, State.content]
        exact congrArg (Stage.residue which) (others other mine).1.symm
    | part other =>
      by_cases mine : other = thread
      · simp only [State.held, State.handOver, State.setStage, mine, Function.update_self,
          Stage.part, reduceCtorEq] at there
      · rw [Function.update_of_ne (by rintro ⟨⟩),
          Function.update_of_ne (by rintro ⟨⟩; exact mine rfl),
          Function.update_of_ne (by rintro ⟨⟩)]
        simp only [State.held, State.content, State.handOver, State.setStage,
          (others other mine).1] at there ⊢
        exact ⟨there, trivial⟩
    | job index =>
      by_cases new : index = state.jobs.length
      · subst new
        simp only [State.held, State.handOver, List.getElem?_concat_length, Option.bind_some]
          at there
        rw [Function.update_self, Function.update_self]
        simp only [State.content, State.handOver, List.getElem?_concat_length, stage]
        exact ⟨there, rfl⟩
      · rw [Function.update_of_ne (by rintro ⟨⟩; exact new rfl),
          Function.update_of_ne (by rintro ⟨⟩),
          Function.update_of_ne (by rintro ⟨⟩; exact new rfl)]
        simp only [State.held, State.content, State.handOver, getElem?_concat_of_ne new]
          at there ⊢
        exact ⟨there, trivial⟩
  · intro which mbytes
    simp only [State.handOver, State.setStage, Function.update_self]
    exact guards which mbytes
  · simp only [State.handOver, State.setStage, Function.update_self, stage, Stage.call?]
    rfl
  · simp only [State.handOver, State.setStage, Function.update_self, ne_eq, reduceCtorEq,
      not_false_eq_true]

/-- A job changes hands. -/
theorem of_job (sound : Sound store state) {index : Nat} {job : Job Handle} {mem : Mem}
    (found : state.jobs[index]? = some job) (custody : Custody Handle)
    (more : List (Nat × Option Bytes))
    (owned : Owned store mem (Function.update state.held (.job index) custody.bytes) state.content)
    (given : ∀ entry ∈ more, entry = (index, some job.data)) :
    Sound store { state with
      mem, jobs := state.jobs.set index { job with custody }, handed := state.handed ++ more } := by
  have inside : index < state.jobs.length := (List.getElem?_eq_some_iff.mp found).1
  have here : (state.jobs.set index { job with custody })[index]? = some { job with custody } :=
    List.getElem?_set_self inside
  have elsewhere : ∀ other, other ≠ index →
      (state.jobs.set index { job with custody })[other]? = state.jobs[other]? :=
    fun other apart => List.getElem?_set_ne (Ne.symm apart)
  have entries : (state.jobs.set index { job with custody }).map Job.entry =
      state.jobs.map Job.entry := by
    apply List.ext_getElem?
    intro other
    rw [List.getElem?_map, List.getElem?_map]
    by_cases mine : other = index
    · rw [mine, here, found]
      rfl
    · rw [elsewhere other mine]
  constructor
  · refine owned.congr fun place handle there => ?_
    cases place with
    | cell other which =>
      rw [Function.update_of_ne (by rintro ⟨⟩)]
      exact ⟨there, rfl⟩
    | part other =>
      rw [Function.update_of_ne (by rintro ⟨⟩)]
      exact ⟨there, rfl⟩
    | job other =>
      by_cases mine : other = index
      · subst mine
        simp only [State.held, State.content, here, found, Option.bind_some, Function.update_self]
          at there ⊢
        exact ⟨there, rfl⟩
      · rw [Function.update_of_ne (by rintro ⟨⟩; exact mine rfl)]
        simp only [State.held, State.content, elsewhere other mine] at there ⊢
        exact ⟨there, trivial⟩
  · exact sound.guards
  · intro entry member
    rcases List.mem_append.mp member with old | new
    · obtain ⟨before, there, same⟩ := sound.handed entry old
      by_cases mine : entry.1 = index
      · rw [mine, found] at there
        cases there
        refine ⟨{ job with custody }, ?_, same⟩
        rw [mine]
        exact here
      · exact ⟨before, (elsewhere _ mine).trans there, same⟩
    · rw [given entry new]
      exact ⟨_, here, rfl⟩
  · intro thread
    simp only [entries]
    exact sound.ordered thread
  · exact sound.calm

theorem hand (sound : Sound store state) {index : Nat}
    (moved : state.hand store index = some next) : Sound store next := by
  unfold State.hand at moved
  split at moved
  · next thread call bytes found =>
    cases moved
    have here : state.held (.job index) = some bytes := by
      rw [State.held, found]
      rfl
    have view := sound.owned.views here
    refine sound.of_job found (.client bytes) _ ?_ ?_
    · have same := sound.owned
      rwa [← Function.update_eq_self (Place.job index) state.held, here] at same
    · rw [view, State.content, found]
      exact List.forall_mem_singleton.mpr rfl
  · cases moved

theorem drop (lawful : store.Lawful) (sound : Sound store state) {index : Nat}
    (dropped : state.drop store index = some next) : Sound store next := by
  unfold State.drop at dropped
  split at dropped
  · next thread call custody found =>
    obtain ⟨bytes, has, rfl⟩ := Option.map_eq_some_iff.mp dropped
    have here : state.held (.job index) = some bytes := by
      rw [State.held, found]
      exact has
    have gone := sound.of_job found .dropped [] (sound.owned.drop lawful here)
      (fun entry member => by cases member)
    rwa [List.append_nil] at gone
  · cases dropped

theorem dropLocal (lawful : store.Lawful) (sound : Sound store state) {which : Local}
    (dropped : state.dropLocal store thread which = some next) : Sound store next := by
  unfold State.dropLocal at dropped
  split at dropped
  · next cell stage there =>
    cases dropped
    have guards := sound.guards thread
    rw [stage] at guards
    have here : state.held (.cell thread which) = some cell.bytes := by
      rw [State.held, there]
      rfl
    suffices gone : Sound store { state with
        mem := store.drop state.mem cell.bytes
        cells := Function.update state.cells (thread, which) none
        stage := Function.update state.stage thread .exiting } by
      rwa [← stage, Function.update_eq_self] at gone
    refine sound.restage (cells_others none) (sound.owned.drop lawful here) ?_ ?_ ?_ ?_ ?_ ?_
    · exact fun place foreign => ⟨update_of_foreign foreign rfl _ _, rfl⟩
    · intro target
      rw [State.content, stage]
      refine ⟨?_, rfl⟩
      by_cases same : target = which
      · rw [same, Function.update_self, Function.update_self]
        rfl
      · rw [update_cell same, update_key same]
        rfl
    · exact fun handle there => by cases there
    · intro target mbytes
      by_cases same : target = which
      · rw [same, Function.update_self]
        exact iff_of_false (fun gone => by cases gone) (fun gone => by cases gone)
      · rw [update_key same]
        exact guards target mbytes
    · rw [stage]
    · exact fun same => by cases same
  · cases dropped

theorem init (store : Store Mem Handle UInt8) : Sound store (State.init store) where
  owned := (Owned.none store store.empty fun _ => []).congr fun place handle there => by
    cases place <;> cases there
  guards := fun _ _ _ => iff_of_false (fun there => by cases there) (fun there => by cases there)
  handed := fun entry member => by cases member
  ordered := fun _ => rfl
  calm := fun _ same => by cases same

/-- Only an idle thread enters a function. -/
theorem of_enter (sound : Sound store state) (entered : state.enter thread call = some next) :
    Sound store next := by
  unfold State.enter at entered
  split at entered
  · next idle =>
    cases entered
    exact sound.enter idle call
  · cases entered

theorem advance (lawful : store.Lawful) (sound : Sound store state)
    (advanced : state.advance store thread = some next) : Sound store next := by
  unfold State.advance at advanced
  split at advanced
  · cases advanced
  · cases advanced
  · cases advanced
  · next call stage =>
    cases advanced
    exact sound.borrowMut lawful stage
  · next call mbytes stage =>
    cases advanced
    exact sound.extendFromSlice lawful stage
  · next call mbytes stage =>
    cases advanced
    exact sound.splitTo lawful stage
  · next call mbytes part stage =>
    cases advanced
    exact sound.freeze lawful stage
  · next call bytes stage =>
    cases advanced
    exact sound.handOver stage

theorem step (lawful : store.Lawful) (sound : Sound store state) {event : Event}
    (stepped : Scratch.step store state event = some next) : Sound store next := by
  cases event with
  | publishAsync thread message => exact sound.of_enter stepped
  | publishWithReplyAsync thread message => exact sound.of_enter stepped
  | send thread data => exact sound.of_enter stepped
  | trySend thread permitted data =>
      simp only [Scratch.step, State.trySend] at stepped
      split at stepped
      · exact sound.of_enter stepped
      · split at stepped <;> cases stepped
        exact sound
  | advance thread => exact sound.advance lawful stepped
  | hand index => exact sound.hand stepped
  | drop index => exact sound.drop lawful stepped
  | exit thread =>
      simp only [Scratch.step, State.exit] at stepped
      split at stepped
      · next idle =>
        cases stepped
        exact sound.exit idle
      · cases stepped
  | dropLocal thread which => exact sound.dropLocal lawful stepped

end Sound

end AsyncNats.Scratch
