import AsyncNats.Operations.Basic
import AsyncNats.Ownership.Boxes
import Mathlib.Data.List.TakeWhile

/-! # Connecting with options

`ConnectionOptions` holds a boxed `AsyncNatsConnetionParams`. `connect` passes the pointer to a
task, which reads the box when it is polled for the first time and not again. Until then nothing
keeps the options from being destroyed, assigned over or changed.
-/

namespace AsyncNats.Operations

open Sync Ownership Transition

/-- `async_nats_connection_config_new`. -/
def connectionConfigNew : ConnectionParams := ⟨[], none⟩

/-- `async_nats_connection_config_name`. -/
def connectionConfigName (cfg : ConnectionParams) (name : CString) : ConnectionParams :=
  { cfg with name := some (lossyConvert name) }

/-- `async_nats_connection_config_addr`, which panics on what the client does not parse. -/
def connectionConfigAddr (parses : RustString → Bool) (cfg : ConnectionParams) (addr : CString) :
    Option ConnectionParams :=
  if parses (lossyConvert addr) then
    some { cfg with addrs := cfg.addrs ++ [lossyConvert addr] }
  else none

/-- `std::string::c_str`, which is read up to the first NUL. -/
def stringCStr (string : Bytes) : CString :=
  ⟨string.takeWhile (· != 0), fun member => by
    have kept := List.mem_takeWhile_imp member
    exact absurd rfl (bne_iff_ne.mp kept)⟩

namespace ConnectionOptions

/-- The setters with their arguments. -/
inductive Setter where
  | name (name : Bytes)
  | address (addr : Bytes)
  deriving DecidableEq, Repr

def editing (parses : RustString → Bool) : Editing ConnectionParams Setter where
  default := connectionConfigNew
  apply
    | cfg, .name name => some (connectionConfigName cfg (stringCStr name))
    | cfg, .address addr => connectionConfigAddr parses cfg (stringCStr addr)

/-- The options, the boxes that tasks have yet to read, what the options were at each `connect`,
and the calls that the tasks have made. A task is the number of its `connect`. -/
structure State where
  options : Boxes ConnectionParams
  tasks : Table TaskId Pointer
  started : List ConnectionParams
  calls : List (TaskId × ClientCall)

inductive Event where
  | use (usage : Usage Setter)
  | connect (object : ObjectId)
  | poll (task : TaskId)

namespace State

def init : State where
  options := .init
  tasks := ∅
  started := []
  calls := []

/-- What a program does with its options. They do not give their box away. -/
def use (parses : RustString → Bool) (state : State) : Usage Setter → Option State
  | .take _ => none
  | usage =>
    (Boxes.step (editing parses) state.options usage).map fun options =>
      { state with options := options }

/-- `async_nats_connection_connect`, which spawns a task. -/
def connect (state : State) (object : ObjectId) : Option State :=
  (state.options.deref object).map fun (pointer, cfg) =>
    { state with
      tasks := state.tasks.insert state.started.length pointer
      started := state.started ++ [cfg] }

/-- The first poll of a task, up to the `await`. -/
def poll (state : State) (task : TaskId) : Option State :=
  (state.tasks.lookup task).bind fun pointer =>
    (state.options.boxes.lookup pointer).map fun cfg =>
      { state with
        tasks := state.tasks.erase task
        calls := state.calls ++ [(task, .connect cfg.addrs cfg.name)] }

end State

/-- A step is undefined when it would touch null or a freed box, and when it panics. -/
def step (parses : RustString → Bool) (state : State) : Event → Option State
  | .use usage => state.use parses usage
  | .connect object => state.connect object
  | .poll task => state.poll task

def system (parses : RustString → Bool) : System State Event where
  init := State.init
  step := step parses

/-- The box that a step frees. -/
def State.freed (state : State) : Event → Option Pointer
  | .use usage => state.options.freed usage
  | _ => none

/-- The box that a step changes or frees. -/
def State.touched (state : State) : Event → Option Pointer
  | .use usage => state.options.touched usage
  | _ => none

/-- Every task that was not polled finds its options. -/
def Readable (state : State) : Prop :=
  ∀ task pointer, state.tasks.lookup task = some pointer →
    ∃ cfg, state.options.boxes.lookup pointer = some cfg

/-- A step frees no options that a task has yet to read. -/
def KeepsPending (state : State) (event : Event) : Prop :=
  ∀ entry ∈ state.tasks.entries, state.freed event ≠ some entry.2

/-- A step neither frees nor changes options that a task has yet to read. -/
def LeavesPending (state : State) (event : Event) : Prop :=
  ∀ entry ∈ state.tasks.entries, state.touched event ≠ some entry.2

instance decidableKeepsPending (state : State) (event : Event) :
    Decidable (KeepsPending state event) :=
  inferInstanceAs (Decidable (∀ entry ∈ state.tasks.entries, state.freed event ≠ some entry.2))

instance decidableLeavesPending (state : State) (event : Event) :
    Decidable (LeavesPending state event) :=
  inferInstanceAs (Decidable (∀ entry ∈ state.tasks.entries, state.touched event ≠ some entry.2))

/-- What an event does with the options. -/
def Event.usage : Event → Option (Usage Setter)
  | .use usage => some usage
  | _ => none

variable {parses : RustString → Bool} {state next : State} {event : Event} {task : TaskId}
  {pointer : Pointer}

theorem use_eq_some_iff {usage : Usage Setter} : state.use parses usage = some next ↔
    (∀ object, usage ≠ .take object) ∧ ∃ options,
      Boxes.step (editing parses) state.options usage = some options ∧
        { state with options } = next := by
  cases usage with
  | take object => exact iff_of_false (Option.some_ne_none next).symm fun both => both.1 object rfl
  | _ =>
      rw [and_iff_right fun _ same => by cases same]
      exact Option.map_eq_some_iff

theorem connect_eq_some_iff {object : ObjectId} : state.connect object = some next ↔
    ∃ pointer cfg, state.options.deref object = some (pointer, cfg) ∧
      { state with
        tasks := state.tasks.insert state.started.length pointer
        started := state.started ++ [cfg] } = next := by
  simp only [State.connect, Option.map_eq_some_iff, Prod.exists]

theorem poll_eq_some_iff : state.poll task = some next ↔
    ∃ pointer, state.tasks.lookup task = some pointer ∧ ∃ cfg,
      state.options.boxes.lookup pointer = some cfg ∧
        { state with
          tasks := state.tasks.erase task
          calls := state.calls ++ [(task, .connect cfg.addrs cfg.name)] } = next := by
  simp only [State.poll, Option.bind_eq_some_iff, Option.map_eq_some_iff]

/-- The options are used as if nobody connected. -/
theorem options_run {labels : List Event} (run : (system parses).run labels = some state) :
    (Boxes.system (editing parses)).run (labels.filterMap Event.usage) = some state.options := by
  refine System.run_induction (motive := fun labels state => (Boxes.system (editing parses)).run
    (labels.filterMap Event.usage) = some state.options) rfl ?_ run
  intro labels state event next _ ih taken
  rw [List.filterMap_append]
  cases event with
  | use usage =>
      obtain ⟨_, options, used, rfl⟩ := use_eq_some_iff.mp taken
      exact (System.runFrom_concat_eq_some _).mpr ⟨state.options, ih, used⟩
  | connect object =>
      obtain ⟨_, _, _, rfl⟩ := connect_eq_some_iff.mp taken
      exact (List.append_nil _).symm ▸ ih
  | poll task =>
      obtain ⟨_, _, _, _, rfl⟩ := poll_eq_some_iff.mp taken
      exact (List.append_nil _).symm ▸ ih

theorem sound_of_reachable (reached : (system parses).Reachable state) :
    Boxes.Sound state.options := by
  obtain ⟨labels, run⟩ := reached
  exact (Boxes.run_replays (options_run run)).1

theorem mem_tasks (found : state.tasks.lookup task = some pointer) :
    ⟨task, pointer⟩ ∈ state.tasks.entries :=
  AList.mem_lookup_iff.mp found

/-- The tasks find their options after a step that keeps them. -/
theorem Readable.keep (readable : Readable state) (keeps : KeepsPending state event)
    (taken : step parses state event = some next) : Readable next := by
  cases event with
  | use usage =>
      obtain ⟨_, options, used, rfl⟩ := use_eq_some_iff.mp taken
      intro task pointer found
      exact (Boxes.change_of_step used).live (readable task pointer found)
        (keeps ⟨task, pointer⟩ (mem_tasks found))
  | connect object =>
      obtain ⟨pointer, cfg, used, rfl⟩ := connect_eq_some_iff.mp taken
      exact Table.forall_insert readable ⟨cfg, (Boxes.deref_eq_some_iff.mp used).2⟩
  | poll task =>
      obtain ⟨_, _, _, _, rfl⟩ := poll_eq_some_iff.mp taken
      exact Table.forall_erase readable

/-- A task does not find options that were freed. -/
theorem not_readable_of_freed (frees : ¬ KeepsPending state event)
    (taken : step parses state event = some next) : ¬ Readable next := by
  simp only [KeepsPending, not_forall, not_not] at frees
  obtain ⟨⟨task, pointer⟩, member, freed⟩ := frees
  cases event with
  | use usage =>
      obtain ⟨_, options, used, rfl⟩ := use_eq_some_iff.mp taken
      intro readable
      obtain ⟨cfg, live⟩ := readable task pointer (AList.mem_lookup_iff.mpr member)
      cases live.symm.trans ((Boxes.change_of_step used).gone freed)
  | connect | poll => cases freed

/-- All along a run the tasks find their options exactly if no step frees options between a
`connect` with them and the first poll of its task. -/
theorem readable_iff_keepsPending {labels : List Event}
    (run : (system parses).run labels = some state) :
    (system parses).Always Readable State.init labels ↔
      (system parses).Meets KeepsPending State.init labels := by
  refine System.always_iff_meets Readable (fun _ => id) ?_ ?_ ?_ run
  · exact fun _ _ _ readable keeps taken => readable.keep keeps taken
  · exact fun _ _ _ _ frees taken => not_readable_of_freed frees taken
  · exact fun _ _ found => by cases found

/-- The options are destroyed after the first poll of one task and before that of another. -/
def destroyedBetween : List Event :=
  [.use (.construct 0), .connect 0, .connect 0, .poll 0, .use (.destroy 0)]

theorem readable_iff_keepsPending_of_destroyedBetween :
    ∃ state, (system fun _ => true).run destroyedBetween = some state ∧
      ¬ (system fun _ => true).Always Readable State.init destroyedBetween := by
  have evaluated : ((system fun _ => true).run destroyedBetween).map State.calls =
      some [(0, .connect [] none)] := by rfl
  obtain ⟨state, run, _⟩ := Option.map_eq_some_iff.mp evaluated
  refine ⟨state, run, fun always => ?_⟩
  have meets := (readable_iff_keepsPending run).mp always
  revert meets
  decide

/-- What the tasks will read, and what they have read, is what the options were at the
`connect`. -/
structure Current (state : State) : Prop where
  pending : ∀ task pointer, state.tasks.lookup task = some pointer →
    ∃ cfg, state.started[task]? = some cfg ∧ state.options.boxes.lookup pointer = some cfg
  called : ∀ entry ∈ state.calls, ∃ cfg, state.started[entry.1]? = some cfg ∧
    entry.2 = .connect cfg.addrs cfg.name

theorem getElem?_append_of_some {α : Type} {list : List α} {index : Nat} {value : α}
    (more : List α) (found : list[index]? = some value) :
    (list ++ more)[index]? = some value := by
  rw [List.getElem?_append_left (List.getElem?_eq_some_iff.mp found).1, found]

theorem Current.keep (current : Current state) (sound : Boxes.Sound state.options)
    (leaves : LeavesPending state event) (taken : step parses state event = some next) :
    Current next := by
  cases event with
  | use usage =>
      obtain ⟨_, options, used, rfl⟩ := use_eq_some_iff.mp taken
      refine ⟨fun task pointer found => ?_, current.called⟩
      obtain ⟨cfg, started, located⟩ := current.pending task pointer found
      exact ⟨cfg, started, (Boxes.change_of_step used).same sound located
        (leaves ⟨task, pointer⟩ (mem_tasks found))⟩
  | connect object =>
      obtain ⟨pointer, cfg, used, rfl⟩ := connect_eq_some_iff.mp taken
      refine ⟨Table.forall_insert ?_ ?_, fun entry member => ?_⟩
      · intro task pointer found
        obtain ⟨old, started, located⟩ := current.pending task pointer found
        exact ⟨old, getElem?_append_of_some [cfg] started, located⟩
      · exact ⟨cfg, List.getElem?_concat_length, (Boxes.deref_eq_some_iff.mp used).2⟩
      · obtain ⟨old, started, called⟩ := current.called entry member
        exact ⟨old, getElem?_append_of_some [cfg] started, called⟩
  | poll task =>
      obtain ⟨pointer, found, cfg, located, rfl⟩ := poll_eq_some_iff.mp taken
      refine ⟨Table.forall_erase current.pending, ?_⟩
      refine List.forall_mem_append.mpr ⟨current.called, List.forall_mem_singleton.mpr ?_⟩
      obtain ⟨same, started, there⟩ := current.pending task pointer found
      cases located.symm.trans there
      exact ⟨cfg, started, rfl⟩

theorem started_prefix {last : State} {labels : List Event}
    (reached : (system parses).Reachable state)
    (run : (system parses).runFrom state labels = some last) : state.started <+: last.started := by
  refine System.runFrom_relation (motive := fun before after => before.started <+: after.started)
    (fun state => List.prefix_refl state.started) (fun _ _ _ => List.IsPrefix.trans) ?_ reached run
  intro state event next _ taken
  cases event with
  | use usage =>
      obtain ⟨_, _, _, rfl⟩ := use_eq_some_iff.mp taken
      exact List.prefix_refl _
  | connect object =>
      obtain ⟨_, cfg, _, rfl⟩ := connect_eq_some_iff.mp taken
      exact List.prefix_append state.started [cfg]
  | poll task =>
      obtain ⟨_, _, _, _, rfl⟩ := poll_eq_some_iff.mp taken
      exact List.prefix_refl _

/-- The calls of the client by one task. -/
def State.callsOf (state : State) (task : TaskId) : List ClientCall :=
  (state.calls.filter fun entry => decide (entry.1 = task)).map Prod.snd

/-- The event polls this task. -/
def Event.polls (task : TaskId) : Event → Bool
  | .poll other => decide (other = task)
  | _ => false

theorem mem_callsOf {call : ClientCall} :
    call ∈ state.callsOf task ↔ (task, call) ∈ state.calls := by
  unfold State.callsOf
  constructor
  · intro member
    obtain ⟨⟨other, _⟩, kept, rfl⟩ := List.mem_map.mp member
    obtain ⟨made, same⟩ := List.mem_filter.mp kept
    exact of_decide_eq_true same ▸ made
  · intro made
    exact List.mem_map.mpr ⟨(task, call), List.mem_filter.mpr ⟨made, decide_eq_true rfl⟩, rfl⟩

theorem callsOf_append (state : State) (options : Boxes ConnectionParams)
    (tasks : Table TaskId Pointer) (other : TaskId) (call : ClientCall) (task : TaskId) :
    { state with options, tasks, calls := state.calls ++ [(other, call)] }.callsOf task =
      state.callsOf task ++ if other = task then [call] else [] := by
  unfold State.callsOf
  rw [List.filter_append, List.map_append, List.filter_singleton]
  by_cases same : other = task
  · rw [decide_eq_true same, if_pos same]
    rfl
  · rw [decide_eq_false same, if_neg same]
    rfl

/-- A task makes one call each time it is polled. -/
theorem length_callsOf_of_step (taken : step parses state event = some next) (task : TaskId) :
    (next.callsOf task).length =
      (state.callsOf task).length + [event].countP (Event.polls task) := by
  cases event with
  | use usage =>
      obtain ⟨_, _, _, rfl⟩ := use_eq_some_iff.mp taken
      rfl
  | connect object =>
      obtain ⟨_, _, _, rfl⟩ := connect_eq_some_iff.mp taken
      rfl
  | poll other =>
      obtain ⟨_, _, cfg, _, rfl⟩ := poll_eq_some_iff.mp taken
      rw [callsOf_append, List.length_append, List.countP_singleton, Event.polls,
        Nat.add_left_cancel_iff]
      by_cases same : other = task
      · rw [if_pos same, decide_eq_true same]
        rfl
      · rw [if_neg same, decide_eq_false same]
        rfl

theorem length_callsOf_of_run {last : State} {labels : List Event}
    (run : (system parses).runFrom state labels = some last) (task : TaskId) :
    (last.callsOf task).length =
      (state.callsOf task).length + labels.countP (Event.polls task) := by
  induction labels generalizing state with
  | nil =>
      cases run
      rfl
  | cons label rest ih =>
      obtain ⟨middle, taken, tail⟩ := (System.runFrom_cons_eq_some _).mp run
      rw [ih tail, length_callsOf_of_step taken, Nat.add_assoc, ← List.countP_append,
        List.singleton_append]

/-- A task is polled for the first time once. -/
structure Polled (state : State) : Prop where
  pending : ∀ task pointer, state.tasks.lookup task = some pointer →
    task < state.started.length ∧ state.callsOf task = []
  called : ∀ task call, (task, call) ∈ state.calls → task < state.started.length
  once : ∀ task, (state.callsOf task).length ≤ 1

theorem Polled.callsOf_started (polled : Polled state) {task : TaskId}
    (later : state.started.length ≤ task) : state.callsOf task = [] := by
  refine List.eq_nil_iff_forall_not_mem.mpr fun call member => ?_
  exact Nat.not_le_of_lt (polled.called task call (mem_callsOf.mp member)) later

theorem Polled.keep (polled : Polled state) (taken : step parses state event = some next) :
    Polled next := by
  cases event with
  | use usage =>
      obtain ⟨_, _, _, rfl⟩ := use_eq_some_iff.mp taken
      exact ⟨polled.pending, polled.called, polled.once⟩
  | connect object =>
      obtain ⟨pointer, cfg, _, rfl⟩ := connect_eq_some_iff.mp taken
      have more : (state.started ++ [cfg]).length = state.started.length + 1 :=
        List.length_append
      refine ⟨Table.forall_insert ?_ ?_, fun task call member => ?_, polled.once⟩
      · intro task pointer found
        obtain ⟨started, silent⟩ := polled.pending task pointer found
        exact ⟨more ▸ Nat.lt_succ_of_lt started, silent⟩
      · exact ⟨more ▸ Nat.lt_succ_self _, polled.callsOf_started (Nat.le_refl _)⟩
      · exact more ▸ Nat.lt_succ_of_lt (polled.called task call member)
  | poll other =>
      obtain ⟨pointer, found, cfg, _, rfl⟩ := poll_eq_some_iff.mp taken
      obtain ⟨started, silent⟩ := polled.pending other pointer found
      refine ⟨fun task any located => ?_, fun task call member => ?_, fun task => ?_⟩
      · obtain ⟨distinct, old⟩ := Table.lookup_of_erase located
        rw [callsOf_append, if_neg (Ne.symm distinct), List.append_nil]
        exact polled.pending task any old
      · rcases List.mem_append.mp member with before | now
        · exact polled.called task call before
        · cases List.mem_singleton.mp now
          exact started
      · rw [callsOf_append]
        by_cases same : other = task
        · rw [← same, silent, if_pos rfl]
          exact Nat.le_refl 1
        · rw [if_neg same, List.append_nil]
          exact polled.once task

theorem polled_of_reachable (reached : (system parses).Reachable state) : Polled state := by
  refine System.Reachable.induction (motive := Polled) ?_
    (fun _ _ _ _ polled taken => polled.keep taken) reached
  exact ⟨fun _ _ found => (by cases found), fun _ _ member => (by cases member),
    fun _ => Nat.zero_le 1⟩

/-! What the setters set. -/

def Setter.nameText : Setter → Option RustString
  | .name text => some (lossyConvert (stringCStr text))
  | .address _ => none

def Setter.addressText : Setter → Option RustString
  | .name _ => none
  | .address text => some (lossyConvert (stringCStr text))

/-- The options that some setters ask for: all addresses, in their order, and the last name. -/
def asked (setters : List Setter) : ConnectionParams where
  addrs := setters.filterMap Setter.addressText
  name := (setters.filterMap Setter.nameText).getLast?

/-- Options are what their setters ask for. -/
theorem asked_of_replays {cfg : ConnectionParams} {setters : List Setter}
    (replays : (editing parses).Replays cfg setters) : cfg = asked setters := by
  induction setters using List.reverseRecOn generalizing cfg with
  | nil => exact (Option.some.inj replays).symm
  | append_singleton front setter ih =>
      rw [Editing.Replays, List.foldlM_append] at replays
      obtain ⟨before, prior, applied⟩ := Option.bind_eq_some_iff.mp replays
      rw [ih prior] at applied
      have edited : (editing parses).apply (asked front) setter = some cfg :=
        Eq.trans (bind_pure _).symm applied
      unfold asked
      rw [List.filterMap_append, List.filterMap_append, List.getLast?_append]
      cases setter with
      | name text =>
          cases edited
          rw [show List.filterMap Setter.addressText [.name text] = [] from rfl, List.append_nil]
          rfl
      | address text =>
          obtain ⟨_, made⟩ := Option.ite_none_right_eq_some.mp edited
          cases made
          rfl

/-- If no step changes or frees options between a `connect` and the first poll of its task, the
client is called by this poll, and not again, with the addresses and the name that had been set
on them before the `connect`. -/
theorem connects_as_asked {front rest : List Event} {object : ObjectId}
    (run : (system parses).run (front ++ .connect object :: rest) = some state)
    (left : (system parses).Meets LeavesPending State.init (front ++ .connect object :: rest)) :
    ∃ before histories setters, (system parses).run front = some before ∧
      (Values.system (Editing.history Setter)).run (front.filterMap Event.usage) =
        some histories ∧
      histories.objects object = some (some setters) ∧
      (.poll before.started.length ∈ rest → state.callsOf before.started.length =
        [.connect (asked setters).addrs (asked setters).name]) ∧
      (.poll before.started.length ∉ rest → state.callsOf before.started.length = []) := by
  have current : Current state := by
    refine System.ReachableUnder.induction ?_ ?_ ⟨_, left, run⟩
    · exact ⟨fun _ _ found => (by cases found), fun _ member => (by cases member)⟩
    · exact fun state event next reached leaves current taken =>
        current.keep (sound_of_reachable reached) leaves taken
  obtain ⟨before, ran, after⟩ := (System.runFrom_append_eq_some _).mp run
  obtain ⟨middle, taken, tail⟩ := (System.runFrom_cons_eq_some _).mp after
  obtain ⟨pointer, cfg, used, rfl⟩ := connect_eq_some_iff.mp taken
  obtain ⟨_, histories, replayed, related⟩ := Boxes.run_replays (options_run ran)
  obtain ⟨setters, there, replays⟩ := related.record_of_record (Boxes.values_of_deref used)
  have reached : (system parses).Reachable before := ⟨front, ran⟩
  have count := length_callsOf_of_run after before.started.length
  rw [(polled_of_reachable reached).callsOf_started (Nat.le_refl _), List.length_nil,
    Nat.zero_add, List.countP_cons_of_neg Bool.false_ne_true] at count
  refine ⟨before, histories, setters, ran, replayed, there, fun polls => ?_, fun silent => ?_⟩
  · have some_call : 0 < (state.callsOf before.started.length).length := by
      rw [count]
      exact List.countP_pos_iff.mpr ⟨_, polls, decide_eq_true rfl⟩
    have once := (polled_of_reachable ⟨_, run⟩).once before.started.length
    obtain ⟨call, only⟩ := List.length_eq_one_iff.mp (Nat.le_antisymm once some_call)
    have made : (before.started.length, call) ∈ state.calls :=
      mem_callsOf.mp (only ▸ List.mem_singleton_self call)
    obtain ⟨read, started, called⟩ := current.called _ made
    obtain ⟨more, extended⟩ := started_prefix (reached.step taken) tail
    have same : state.started[before.started.length]? = some cfg := by
      rw [← extended]
      exact getElem?_append_of_some more List.getElem?_concat_length
    cases same.symm.trans started
    rw [only, ← asked_of_replays replays, ← called]
  · rw [← List.length_eq_zero_iff, count, List.countP_eq_zero]
    intro event member polls
    cases event with
    | poll other =>
        cases of_decide_eq_true polls
        exact silent member
    | use | connect => cases polls

/-- Options are moved, connect, and get another address before they connect again. -/
def connectTwice : List Event :=
  [.use (.construct 0), .use (.edit 0 (.address [97])), .use (.moveConstruct 0 1)] ++
    .connect 1 :: [.poll 0, .use (.edit 1 (.address [98])), .connect 1]

theorem connects_as_asked_of_moved :
    ∃ state histories setters, (system fun _ => true).run connectTwice = some state ∧
      (Values.system (Editing.history Setter)).run [.construct 0, .edit 0 (.address [97]),
        .moveConstruct 0 1] = some histories ∧
      histories.objects 1 = some (some setters) ∧
      state.callsOf 0 = [.connect [['a']] none] ∧
      state.callsOf 0 = [.connect (asked setters).addrs (asked setters).name] := by
  have evaluated : ((system fun _ => true).run connectTwice).map State.calls =
      some [(0, .connect [['a']] none)] := by rfl
  have first : ((system fun _ => true).run [.use (.construct 0), .use (.edit 0 (.address [97])),
      .use (.moveConstruct 0 1)]).map State.started = some [] := by rfl
  obtain ⟨state, run, calls⟩ := Option.map_eq_some_iff.mp evaluated
  obtain ⟨before, histories, setters, ran, replayed, there, connected, _⟩ :=
    connects_as_asked run (by decide)
  rw [ran] at first
  rw [Option.some.inj first] at connected
  refine ⟨state, histories, setters, run, replayed, there, ?_, connected List.mem_cons_self⟩
  rw [State.callsOf, calls]
  rfl

end ConnectionOptions

end AsyncNats.Operations
