import AsyncNats.Operations.Waiting
import Mathlib.Data.List.Sort

/-! # The order of messages

Each publish is a task of its own, and its message is in the client's queue when the client has
answered it. Publishes that are started one after another's callback keep their order. Without
waiting for the callbacks any order is possible.
-/

namespace AsyncNats.Operations

open Sync Coroutine Transition

variable {Value Error : Type} {describe : Error → Bytes}

/-- The operation that a step starts. -/
def Event.started : Event Value Error → Option Operation
  | .start operation _ => some operation
  | _ => none

/-- The task whose call the client accepts. -/
def Event.accepted : Event Value Error → Option TaskId
  | .resolve id (.ok _) => some id
  | _ => none

/-- The operations in the order in which they were started. Tasks are numbered in this order. -/
def started (labels : List (Event Value Error)) : List Operation :=
  labels.filterMap Event.started

/-- The operations in the order in which the client accepted their calls. -/
def accepted (labels : List (Event Value Error)) : List Operation :=
  (labels.filterMap Event.accepted).filterMap fun id => (started labels)[id]?

/-- Nothing is started before the callbacks of all that was started have been invoked. -/
def Awaits (state : State Value Error) : Event Value Error → Prop
  | .start _ _ => ∀ entry ∈ state.rows.entries, state.callsOf entry.1 ≠ []
  | _ => True

instance decidableAwaits (state : State Value Error) (event : Event Value Error) :
    Decidable (Awaits state event) :=
  match event with
  | .start _ _ =>
      inferInstanceAs (Decidable (∀ entry ∈ state.rows.entries, state.callsOf entry.1 ≠ []))
  | .resolve _ _ | .run _ => inferInstanceAs (Decidable True)

/-- What is true of the labels and the state when all starts have waited: only the last operation
may be under way, and the client has accepted calls in the order of their numbers. -/
structure InTurn (labels : List (Event Value Error)) (state : State Value Error) : Prop where
  numbered : ∀ id row, state.rows.lookup id = some row → id < state.spawned
  first : ∀ id row, state.rows.lookup id = some row → row.task.body.WaitsFirst
  called : ∀ call ∈ state.calls, ∃ row, state.rows.lookup call.1 = some row
  silent : ∀ id row, state.rows.lookup id = some row → waits row.task = true →
    state.callsOf id = []
  alone : ∀ id row, state.rows.lookup id = some row → state.callsOf id = [] →
    id + 1 = state.spawned
  finished : ∀ id ∈ labels.filterMap Event.accepted, ∃ row, state.rows.lookup id = some row ∧
    waits row.task = false
  sorted : (labels.filterMap Event.accepted).Pairwise (· < ·)
  counted : (started labels).length = state.spawned

namespace InTurn

variable {labels : List (Event Value Error)} {state next : State Value Error} {id : TaskId}

theorem init : InTurn [] (State.init : State Value Error) where
  numbered := fun _ _ found => by cases found
  first := fun _ _ found => by cases found
  called := fun _ member => by cases member
  silent := fun _ _ found => by cases found
  alone := fun _ _ found => by cases found
  finished := fun _ member => by cases member
  sorted := .nil
  counted := rfl

theorem callsOf_new (turn : InTurn labels state) : state.callsOf state.spawned = [] := by
  refine List.map_eq_nil_iff.mpr (List.filter_eq_nil_iff.mpr fun call member => ?_)
  obtain ⟨row, found⟩ := turn.called call member
  simp only [decide_eq_true_eq]
  exact Nat.ne_of_lt (turn.numbered call.1 row found)

theorem start (turn : InTurn labels state) {operation : Operation} {context : Context}
    (awaits : Awaits state (.start operation context)) :
    InTurn (labels ++ [.start operation context]) (state.start describe operation context) := by
  have accepts : (labels ++ [Event.start operation context]).filterMap Event.accepted =
      labels.filterMap Event.accepted := by
    rw [List.filterMap_append]
    exact List.append_nil _
  constructor
  · exact Table.numbered_insert turn.numbered _
  · exact Table.forall_insert turn.first (task_waitsFirst operation context)
  · exact fun call member => Table.exists_lookup_insert (fun _ => turn.called call member) _
  · exact Table.forall_insert turn.silent fun _ => turn.callsOf_new
  · refine Table.forall_insert (fun id row found unheard => ?_) fun _ => rfl
    exact (awaits ⟨id, row⟩ (AList.mem_lookup_iff.mp found) unheard).elim
  · rw [accepts]
    intro id member
    obtain ⟨row, found, busy⟩ := turn.finished id member
    exact ⟨row, (AList.lookup_insert_ne (Nat.ne_of_lt (turn.numbered id row found))).trans found,
      busy⟩
  · rw [accepts]
    exact turn.sorted
  · rw [started, List.filterMap_append, List.length_append]
    exact congrArg (· + 1) turn.counted

/-- The accepted calls stay over when a task goes on. -/
theorem finished_insert (turn : InTurn labels state) {row : Row Value Error}
    (busy : waits row.task = false) :
    ∀ other ∈ labels.filterMap Event.accepted,
      ∃ found, (state.rows.insert id row).lookup other = some found ∧
        waits found.task = false := by
  intro other member
  by_cases same : other = id
  · exact ⟨row, same ▸ AList.lookup_insert _, busy⟩
  · obtain ⟨old, found, finished⟩ := turn.finished other member
    exact ⟨old, (AList.lookup_insert_ne same).trans found, finished⟩

theorem resolve (turn : InTurn labels state) {response : Except Error Value}
    (resolved : state.resolve id response = some next) :
    InTurn (labels ++ [.resolve id response]) next := by
  obtain ⟨row, found, task, answered, rfl⟩ := resolve_eq_some_iff.mp resolved
  have straight := Routine.straight_of_resolve (turn.first id row found) answered
  have busy := not_waits_of_straight straight
  have waiting := waits_of_resolve answered
  have latest := turn.alone id row found (turn.silent id row found waiting)
  have earlier : ∀ other ∈ labels.filterMap Event.accepted, other < id := by
    intro other member
    obtain ⟨old, there, finished⟩ := turn.finished other member
    have below := turn.numbered other old there
    have distinct : other ≠ id := by
      rintro rfl
      cases there.symm.trans found
      rw [finished] at waiting
      cases waiting
    rw [← latest] at below
    exact Nat.lt_of_le_of_ne (Nat.le_of_lt_succ below) distinct
  constructor
  · exact Table.forall_insert turn.numbered (turn.numbered id row found)
  · exact Table.forall_insert turn.first straight.waitsFirst
  · exact fun call member => Table.exists_lookup_insert (fun _ => turn.called call member) _
  · refine Table.forall_insert turn.silent fun again => ?_
    rw [busy] at again
    cases again
  · exact Table.forall_insert turn.alone (turn.alone id row found)
  · rw [List.filterMap_append]
    refine List.forall_mem_append.mpr ⟨turn.finished_insert busy, ?_⟩
    cases response with
    | ok value => exact List.forall_mem_singleton.mpr ⟨_, AList.lookup_insert _, busy⟩
    | error error => exact fun _ member => (List.not_mem_nil member).elim
  · rw [List.filterMap_append]
    cases response with
    | ok value =>
        refine List.pairwise_append.mpr ⟨turn.sorted, List.pairwise_singleton .., ?_⟩
        exact fun other member _ single => List.mem_singleton.mp single ▸ earlier other member
    | error error =>
        refine List.pairwise_append.mpr ⟨turn.sorted, .nil, fun _ _ _ member => ?_⟩
        exact (List.not_mem_nil member).elim
  · rw [started, List.filterMap_append]
    exact (congrArg List.length (List.append_nil _)).trans turn.counted

theorem run (turn : InTurn labels state) (ran : state.run id = some next) :
    InTurn (labels ++ [.run id]) next := by
  obtain ⟨row, found, task, heap, reports, went, rfl⟩ := run_eq_some_iff.mp ran
  have straight := (Routine.straight_of_run (turn.first id row found) went).2
  have busy := not_waits_of_straight straight
  have accepts : (labels ++ [Event.run id]).filterMap Event.accepted =
      labels.filterMap Event.accepted := by
    rw [List.filterMap_append]
    exact List.append_nil _
  constructor
  · exact Table.forall_insert turn.numbered (turn.numbered id row found)
  · exact Table.forall_insert turn.first straight.waitsFirst
  · refine List.forall_mem_append.mpr ⟨fun call member => ?_, fun call member => ?_⟩
    · exact Table.exists_lookup_insert (fun _ => turn.called call member) _
    · obtain ⟨_, _, rfl⟩ := List.mem_map.mp member
      exact ⟨_, AList.lookup_insert _⟩
  · intro other row there waiting
    rcases Table.lookup_of_insert there with ⟨rfl, rfl⟩ | ⟨distinct, there⟩
    · rw [busy] at waiting
      cases waiting
    · refine (callsOf_append state id other reports).trans ?_
      rw [if_neg (Ne.symm distinct), List.append_nil, turn.silent other row there waiting]
  · intro other row' there unheard
    have before : state.callsOf other = [] :=
      (List.append_eq_nil_iff.mp ((callsOf_append state id other reports).symm.trans unheard)).1
    rcases Table.lookup_of_insert there with ⟨rfl, _⟩ | ⟨_, there⟩
    · exact turn.alone other row found before
    · exact turn.alone other row' there before
  · rw [accepts]
    exact turn.finished_insert busy
  · rw [accepts]
    exact turn.sorted
  · rw [started, List.filterMap_append]
    exact (congrArg List.length (List.append_nil _)).trans turn.counted

end InTurn

theorem filterMap_getElem?_range {α : Type} (list : List α) :
    (List.range list.length).filterMap (list[·]?) = list := by
  induction list using List.reverseRecOn with
  | nil => rfl
  | append_singleton front last ih =>
      have before : ∀ id ∈ List.range front.length, (front ++ [last])[id]? = front[id]? :=
        fun id member => List.getElem?_append_left (List.mem_range.mp member)
      rw [List.length_append, List.length_singleton, List.range_succ, List.filterMap_append,
        List.filterMap_congr before, ih, List.filterMap_cons, List.getElem?_concat_length,
        List.filterMap_nil]

/-- Strictly rising positions in a list read a part of it in its order. -/
theorem filterMap_getElem?_sublist {α : Type} {list : List α} {ids : List Nat}
    (sorted : ids.Pairwise (· < ·)) (inside : ∀ id ∈ ids, id < list.length) :
    (ids.filterMap (list[·]?)).Sublist list := by
  have nodup : ids.Nodup := sorted.imp Nat.ne_of_lt
  have subset : ids ⊆ List.range list.length :=
    fun id member => List.mem_range.mpr (inside id member)
  have part : ids.Sublist (List.range list.length) :=
    List.sublist_of_subperm_of_pairwise (List.subperm_of_subset nodup subset) sorted
      List.pairwise_lt_range
  have read := part.filterMap (list[·]?)
  rwa [filterMap_getElem?_range] at read

/-- Operations that are started one after another's callback are accepted in their order. -/
theorem awaited_in_order {labels : List (Event Value Error)} {state : State Value Error}
    (awaits : (system Value describe).Meets Awaits State.init labels)
    (run : (system Value describe).run labels = some state) :
    (accepted labels).Sublist (started labels) := by
  have turn : InTurn labels state := by
    refine System.run_induction (motive := fun labels state =>
      (system Value describe).Meets Awaits State.init labels → InTurn labels state)
      (fun _ => .init) ?_ run awaits
    intro labels state event next ran ih taken meets
    have turn := ih meets.front
    have waited := meets.concat _ ran
    cases event with
    | start operation context =>
        cases taken
        exact turn.start waited
    | resolve id response => exact turn.resolve taken
    | run id => exact turn.run taken
  refine filterMap_getElem?_sublist turn.sorted fun id member => ?_
  obtain ⟨row, found, _⟩ := turn.finished id member
  rw [turn.counted]
  exact turn.numbered id row found

/-- Three publishes, each started after the callback of the one before. The client does not
accept the second message. -/
def threeInTurn : List (Event Nat Unit) :=
  [.start (.publish [0x61] [1]) 10, .resolve 0 (.ok 5), .run 0,
    .start (.publish [0x61] [2]) 11, .resolve 1 (.error ()), .run 1,
    .start (.publish [0x61] [3]) 12, .resolve 2 (.ok 5)]

theorem awaited_in_order_of_three :
    accepted threeInTurn = [.publish [0x61] [1], .publish [0x61] [3]] ∧
      (accepted threeInTurn).Sublist (started threeInTurn) := by
  have evaluated : ((system Nat fun _ : Unit => []).run threeInTurn).map State.spawned =
      some 3 := by decide
  obtain ⟨state, run, _⟩ := Option.map_eq_some_iff.mp evaluated
  exact ⟨rfl, awaited_in_order (by decide) run⟩

/-- The task of a publish that was started and waits. -/
def Unanswered (state : State Value Error) (id : TaskId) : Prop :=
  ∃ operation call context, state.rows.lookup id =
    some ⟨operation, context, Routine.spawn (notify call (.publish context))⟩

/-- A message with its topic, the topic for replies if it asks for some, and the context of its
publish. -/
structure Outgoing where
  topic : Bytes
  replyTo : Option Bytes
  message : Bytes
  context : Context

def publishOf (outgoing : Outgoing) : Operation :=
  match outgoing.replyTo with
  | none => .publish outgoing.topic outgoing.message
  | some replyTo => .publishWithReply outgoing.topic replyTo outgoing.message

theorem task_publishOf (describe : Error → Bytes) (outgoing : Outgoing) (context : Context) :
    ∃ call, ((publishOf outgoing).task describe context : TaskBody Value Error) =
      notify call (.publish context) := by
  cases outgoing with
  | mk topic replyTo message =>
      cases replyTo with
      | none => exact ⟨_, rfl⟩
      | some replyTo => exact ⟨_, rfl⟩

/-- The publishes are started one after the other. -/
def startAll (messages : List Outgoing) : List (Event Value Error) :=
  messages.map fun outgoing => .start (publishOf outgoing) outgoing.context

/-- The client accepts the calls of the tasks in some order, and each task goes on at once. -/
def answerAll (value : Value) (order : List TaskId) : List (Event Value Error) :=
  order.flatMap fun id => [.resolve id (.ok value), .run id]

theorem run_startAll (describe : Error → Bytes) (messages : List Outgoing)
    (state : State Value Error) :
    ∃ last, (system Value describe).runFrom state (startAll messages) = some last ∧
      last.calls = state.calls ∧
      (∀ id < state.spawned, last.rows.lookup id = state.rows.lookup id) ∧
      ∀ offset < messages.length, Unanswered last (state.spawned + offset) := by
  induction messages generalizing state with
  | nil => exact ⟨state, rfl, rfl, fun _ _ => rfl, fun _ below => (Nat.not_lt_zero _ below).elim⟩
  | cons message rest ih =>
      obtain ⟨last, run, calls, kept, waiting⟩ :=
        ih (state.start describe (publishOf message) message.context)
      refine ⟨last, ?_, calls, fun id below => ?_, fun offset below => ?_⟩
      · exact (System.runFrom_cons_eq_some _).mpr ⟨_, rfl, run⟩
      · refine (kept id (Nat.lt_succ_of_lt below)).trans ?_
        exact AList.lookup_insert_ne (Nat.ne_of_lt below)
      · cases offset with
        | zero =>
            obtain ⟨call, waits⟩ := @task_publishOf Value Error describe message message.context
            refine ⟨publishOf message, call, message.context, ?_⟩
            rw [← waits]
            exact (kept state.spawned (Nat.lt_succ_self _)).trans (AList.lookup_insert _)
        | succ offset =>
            have later := waiting offset (Nat.lt_of_succ_lt_succ below)
            rwa [show (state.start describe (publishOf message) message.context).spawned + offset =
              state.spawned + (offset + 1) from Nat.succ_add_eq_add_succ _ _] at later

/-- A publish that waits is accepted and invokes its callback. The other tasks stay as they are. -/
theorem run_answer (describe : Error → Bytes) (value : Value) {state : State Value Error}
    {id : TaskId} (waiting : Unanswered state id) :
    ∃ next, (system Value describe).runFrom state [.resolve id (.ok value), .run id] = some next ∧
      next.calls.map Prod.fst = state.calls.map Prod.fst ++ [id] ∧
      ∀ other ≠ id, next.rows.lookup other = state.rows.lookup other := by
  obtain ⟨operation, call, context, found⟩ := waiting
  let sent : Row Value Error :=
    ⟨operation, context, ⟨.report (.publish context) .ret, some (.ok value), .running⟩⟩
  let called : Row Value Error := { sent with task.body := .ret }
  let middle : State Value Error := { state with rows := state.rows.insert id sent }
  have resolved : state.resolve id (.ok value) = some middle :=
    resolve_eq_some_iff.mpr ⟨_, found, sent.task, rfl, rfl⟩
  let next : State Value Error :=
    { middle with
      rows := middle.rows.insert id called
      calls := middle.calls ++ [(id, .publish context)] }
  have ran : middle.run id = some next :=
    run_eq_some_iff.mpr ⟨sent, AList.lookup_insert _, called.task, _, _, rfl, rfl⟩
  refine ⟨next, ?_, List.map_append, fun other distinct => ?_⟩
  · refine (System.runFrom_cons_eq_some _).mpr ⟨middle, resolved, ?_⟩
    exact (System.runFrom_singleton _ _ _).trans ran
  · exact (AList.lookup_insert_ne distinct).trans (AList.lookup_insert_ne distinct)

theorem run_answerAll (describe : Error → Bytes) (value : Value) {order : List TaskId}
    (nodup : order.Nodup) (state : State Value Error)
    (waiting : ∀ id ∈ order, Unanswered state id) :
    ∃ last, (system Value describe).runFrom state (answerAll value order) = some last ∧
      last.calls.map Prod.fst = state.calls.map Prod.fst ++ order := by
  induction order generalizing state with
  | nil => exact ⟨state, rfl, (List.append_nil _).symm⟩
  | cons id rest ih =>
      obtain ⟨now, others⟩ := List.forall_mem_cons.mp waiting
      obtain ⟨fresh, nodup⟩ := List.nodup_cons.mp nodup
      obtain ⟨next, answered, called, kept⟩ := run_answer describe value now
      have still : ∀ other ∈ rest, Unanswered next other := by
        intro other member
        obtain ⟨operation, call, context, found⟩ := others other member
        have distinct : other ≠ id := fun same => fresh (same ▸ member)
        exact ⟨operation, call, context, (kept other distinct).trans found⟩
      obtain ⟨last, run, calls⟩ := ih nodup next still
      refine ⟨last, (System.runFrom_append_eq_some _).mpr ⟨next, answered, run⟩, ?_⟩
      rw [calls, called, List.append_assoc]
      rfl

theorem started_startAll (messages : List Outgoing) (value : Value) (order : List TaskId) :
    started (startAll messages ++ answerAll value order : List (Event Value Error)) =
      messages.map publishOf := by
  have none : started (answerAll value order : List (Event Value Error)) = [] := by
    refine List.filterMap_eq_nil_iff.mpr fun event member => ?_
    obtain ⟨id, _, member⟩ := List.mem_flatMap.mp member
    rcases List.mem_pair.mp member with rfl | rfl <;> rfl
  have all : started (startAll messages : List (Event Value Error)) = messages.map publishOf :=
    List.filterMap_map.trans (congrFun List.filterMap_eq_map _)
  rw [started, List.filterMap_append, ← started, ← started, none, all, List.append_nil]

theorem accepted_startAll (messages : List Outgoing) (value : Value) (order : List TaskId) :
    (startAll messages ++ answerAll value order : List (Event Value Error)).filterMap
      Event.accepted = order := by
  have none : (startAll messages : List (Event Value Error)).filterMap Event.accepted = [] := by
    refine List.filterMap_eq_nil_iff.mpr fun event member => ?_
    obtain ⟨message, _, rfl⟩ := List.mem_map.mp member
    rfl
  have all : (answerAll value order : List (Event Value Error)).filterMap Event.accepted =
      order := by
    induction order with
    | nil => rfl
    | cons id rest ih => exact congrArg (id :: ·) ih
  rw [List.filterMap_append, none, all, List.nil_append]

/-- Publishes, with and without a topic for replies, that are started without waiting for the
callbacks may be accepted, and call back, in every order. -/
theorem publishes_in_any_order (messages : List Outgoing) {order : List TaskId}
    (complete : order.Perm (List.range messages.length)) (value : Value) :
    ∃ (labels : List (Event Value Error)) (state : State Value Error),
      (system Value describe).run labels = some state ∧
      started labels = messages.map publishOf ∧
      accepted labels = order.filterMap ((messages.map publishOf)[·]?) ∧
      state.calls.map Prod.fst = order := by
  obtain ⟨middle, startedAll, calls, _, waiting⟩ :=
    run_startAll describe messages (State.init : State Value Error)
  have unanswered : ∀ id ∈ order, Unanswered middle id := by
    intro id member
    have below := List.mem_range.mp (complete.subset member)
    have waits := waiting id below
    rwa [show (State.init : State Value Error).spawned + id = id from Nat.zero_add id] at waits
  have nodup : order.Nodup := complete.nodup_iff.mpr List.nodup_range
  obtain ⟨last, answered, called⟩ :=
    run_answerAll describe value nodup middle unanswered
  refine ⟨startAll messages ++ answerAll value order, last, ?_, ?_, ?_, ?_⟩
  · exact (System.runFrom_append_eq_some _).mpr ⟨middle, startedAll, answered⟩
  · exact started_startAll messages value order
  · rw [accepted, accepted_startAll, started_startAll]
  · rw [called, calls]
    rfl

theorem publishes_in_any_order_of_two :
    [1, 0].Perm (List.range 2) ∧
      ∃ (labels : List (Event Nat Unit)) (state : State Nat Unit),
        (system Nat fun _ : Unit => []).run labels = some state ∧
        started labels = [.publish [0x61] [1], .publishWithReply [0x61] [0x62] [2]] ∧
        accepted labels = [.publishWithReply [0x61] [0x62] [2], .publish [0x61] [1]] ∧
        state.calls.map Prod.fst = [1, 0] := by
  have swapped : [1, 0].Perm (List.range 2) := by decide
  exact ⟨swapped, publishes_in_any_order
    [⟨[0x61], none, [1], 10⟩, ⟨[0x61], some [0x62], [2], 11⟩] swapped 5⟩

end AsyncNats.Operations
