import AsyncNats.Api.Lossy
import AsyncNats.Operations.Options
import Mathlib.Data.PNat.Notation

/-! # Configuring runtimes

A `TokioRuntimeConfig` holds a boxed `AsyncNatsTokioRuntimeConfig`, which its setters change.
Unlike the options of a connection it is read at once: a runtime has the last name and the last
number of threads that were set before it was made, whatever becomes of the configuration.
Whether the runtime's builder succeeds is not up to the configuration alone, so each attempt says
what it answers.
-/

namespace AsyncNats.Operations

open Sync Ownership Transition

/-- `AsyncNatsTokioRuntimeConfig`. -/
structure TokioRuntimeConfig where
  threadName : RustString
  threadCount : Nat
  deriving DecidableEq, Repr

/-- What a runtime is built with. -/
structure TokioRuntime where
  workerThreads : Nat
  threadName : RustString
  deriving DecidableEq, Repr

/-- `async_nats_tokio_runtime_config_new`, where `available` is what `available_parallelism`
answers. -/
def tokioRuntimeConfigNew (available : Option PNat) : TokioRuntimeConfig where
  threadName := "tokio_runtime".toList
  threadCount :=
    match available with
    | some x => x
    | none => 1

/-- `async_nats_tokio_runtime_config_thread_name`. -/
def tokioRuntimeConfigThreadName (cfg : TokioRuntimeConfig) (threadName : CString) :
    TokioRuntimeConfig :=
  { cfg with threadName := lossyConvert threadName }

/-- `async_nats_tokio_runtime_config_thread_count`. -/
def tokioRuntimeConfigThreadCount (cfg : TokioRuntimeConfig) (threadCount : UInt32) :
    TokioRuntimeConfig :=
  { cfg with threadCount := threadCount.toNat }

/-- `AsyncNatsTokioRuntime::new`, where `built` says whether `build` gives a runtime.
`worker_threads` panics on zero threads, and `expect` on an error of `build`. -/
def tokioRuntimeNew (cfg : TokioRuntimeConfig) (built : Bool) : Option TokioRuntime :=
  if cfg.threadCount = 0 then none
  else if built then some ⟨cfg.threadCount, cfg.threadName⟩
  else none

namespace TokioRuntimeConfig

/-- The setters with their arguments. -/
inductive Setter where
  | threadName (tname : Bytes)
  | threadCount (tcount : UInt32)
  deriving DecidableEq, Repr

def editing (available : Option PNat) : Editing TokioRuntimeConfig Setter where
  default := tokioRuntimeConfigNew available
  apply
    | cfg, .threadName tname => some (tokioRuntimeConfigThreadName cfg (stringCStr tname))
    | cfg, .threadCount tcount => some (tokioRuntimeConfigThreadCount cfg tcount)

/-- The configurations, and the runtimes in the order in which they were made. -/
structure State where
  configs : Boxes TokioRuntimeConfig
  runtimes : List TokioRuntime

inductive Event where
  | use (usage : Usage Setter)
  | create (object : ObjectId) (built : Bool)

namespace State

def init : State where
  configs := .init
  runtimes := []

/-- What a program does with its configurations. They do not give their box away. -/
def use (available : Option PNat) (state : State) : Usage Setter → Option State
  | .take _ => none
  | usage =>
    (Boxes.step (editing available) state.configs usage).map fun configs =>
      { state with configs := configs }

/-- `async_nats_tokio_runtime_new`. -/
def create (state : State) (object : ObjectId) (built : Bool) : Option State :=
  (state.configs.deref object).bind fun (_, cfg) =>
    (tokioRuntimeNew cfg built).map fun runtime =>
      { state with runtimes := state.runtimes ++ [runtime] }

end State

/-- A step is undefined when it would touch null or a freed box, and when it panics. -/
def step (available : Option PNat) (state : State) : Event → Option State
  | .use usage => state.use available usage
  | .create object built => state.create object built

def system (available : Option PNat) : System State Event where
  init := State.init
  step := step available

/-- What an event does with the configurations. -/
def Event.usage : Event → Option (Usage Setter)
  | .use usage => some usage
  | .create _ _ => none

namespace Setter

/-! What the setters set. -/

def nameText : Setter → Option RustString
  | .threadName tname => some (lossyConvert (stringCStr tname))
  | .threadCount _ => none

def count : Setter → Option Nat
  | .threadName _ => none
  | .threadCount tcount => some tcount.toNat

end Setter

/-- The configuration that some setters ask for. -/
def asked (available : Option PNat) (setters : List Setter) : TokioRuntimeConfig where
  threadName := (setters.filterMap Setter.nameText).getLast?.getD "tokio_runtime".toList
  threadCount :=
    (setters.filterMap Setter.count).getLast?.getD (tokioRuntimeConfigNew available).threadCount

variable {available : Option PNat} {state next : State} {event : Event}

theorem use_eq_some_iff {usage : Usage Setter} : state.use available usage = some next ↔
    (∀ object, usage ≠ .take object) ∧ ∃ configs,
      Boxes.step (editing available) state.configs usage = some configs ∧
        { state with configs := configs } = next := by
  cases usage with
  | take object => exact iff_of_false (Option.some_ne_none next).symm fun both => both.1 object rfl
  | _ =>
      rw [and_iff_right fun _ same => by cases same]
      exact Option.map_eq_some_iff

theorem create_eq_some_iff {object : ObjectId} {built : Bool} :
    state.create object built = some next ↔
      ∃ pointer cfg, state.configs.deref object = some (pointer, cfg) ∧ cfg.threadCount ≠ 0 ∧
        built = true ∧
          { state with
            runtimes := state.runtimes ++ [⟨cfg.threadCount, cfg.threadName⟩] } = next := by
  simp only [State.create, tokioRuntimeNew, Option.bind_eq_some_iff, Prod.exists,
    Option.map_eq_some_iff, Option.ite_none_left_eq_some, Option.ite_none_right_eq_some,
    Option.some.injEq, and_assoc, exists_and_left, exists_eq_left', ne_eq]

/-- The configurations are used as if no runtime was made. -/
theorem configs_run {labels : List Event} (run : (system available).run labels = some state) :
    (Boxes.system (editing available)).run (labels.filterMap Event.usage) =
      some state.configs := by
  refine System.run_induction (motive := fun labels state =>
    (Boxes.system (editing available)).run (labels.filterMap Event.usage) =
      some state.configs) rfl ?_ run
  intro labels state event next _ ih taken
  rw [List.filterMap_append]
  cases event with
  | use usage =>
      obtain ⟨_, configs, used, rfl⟩ := use_eq_some_iff.mp taken
      exact (System.runFrom_concat_eq_some _).mpr ⟨state.configs, ih, used⟩
  | create object built =>
      obtain ⟨_, _, _, _, _, rfl⟩ := create_eq_some_iff.mp taken
      exact (List.append_nil _).symm ▸ ih

theorem runtimes_prefix {last : State} {labels : List Event}
    (reached : (system available).Reachable state)
    (run : (system available).runFrom state labels = some last) :
    state.runtimes <+: last.runtimes := by
  refine System.runFrom_relation
    (motive := fun before after => before.runtimes <+: after.runtimes)
    (fun state => List.prefix_refl state.runtimes) (fun _ _ _ => List.IsPrefix.trans) ?_
    reached run
  intro state event next _ taken
  cases event with
  | use usage =>
      obtain ⟨_, _, _, rfl⟩ := use_eq_some_iff.mp taken
      exact List.prefix_refl _
  | create object built =>
      obtain ⟨_, cfg, _, _, _, rfl⟩ := create_eq_some_iff.mp taken
      exact List.prefix_append state.runtimes _

/-- A setter sets one field and leaves the other. -/
theorem apply_asked {setters : List Setter} {setter : Setter} {cfg : TokioRuntimeConfig}
    (applied : (editing available).apply (asked available setters) setter = some cfg) :
    cfg = asked available (setters ++ [setter]) := by
  unfold asked
  rw [List.filterMap_append, List.filterMap_append, List.getLast?_append, List.getLast?_append]
  cases setter <;> cases applied <;> rfl

/-- Configurations are what their setters ask for. -/
theorem asked_of_replays {cfg : TokioRuntimeConfig} {setters : List Setter}
    (replays : (editing available).Replays cfg setters) : cfg = asked available setters := by
  induction setters using List.reverseRecOn generalizing cfg with
  | nil => exact (Option.some.inj replays).symm
  | append_singleton front setter ih =>
      rw [Editing.Replays, List.foldlM_append] at replays
      obtain ⟨before, prior, applied⟩ := Option.bind_eq_some_iff.mp replays
      rw [ih prior] at applied
      refine apply_asked (Eq.trans ?_ applied)
      exact (bind_pure _).symm

/-- A thread can be given the name. -/
theorem zero_notMem_asked (available : Option PNat) (setters : List Setter) :
    '\x00' ∉ (asked available setters).threadName := by
  unfold asked
  cases found : (setters.filterMap Setter.nameText).getLast? with
  | none => exact show '\x00' ∉ "tokio_runtime".toList by decide
  | some text =>
      obtain ⟨setter, _, set⟩ := List.mem_filterMap.mp (List.mem_of_getLast? found)
      cases setter with
      | threadName tname =>
          cases set
          intro member
          exact (stringCStr tname).2 ((fromUtf8Lossy_reads _).zero_mem.mp member)
      | threadCount => cases set

/-- The runtime that a configuration asks for. -/
def runtimeAsked (available : Option PNat) (setters : List Setter) : TokioRuntime where
  workerThreads := (asked available setters).threadCount
  threadName := (asked available setters).threadName

/-- A runtime is made of a configuration that was not moved from and has not zero threads, if
`build` gives one, and only then. It has for good what was set last, or the defaults, and the name
of its threads has no NUL. -/
theorem runs_as_configured {labels : List Event}
    (run : (system available).run labels = some state) (object : ObjectId) :
    ∃ histories,
      (Values.system (Editing.history Setter)).run (labels.filterMap Event.usage) =
        some histories ∧
      (∀ built, step available state (.create object built) ≠ none ↔ built = true ∧
        ∃ setters, histories.objects object = some (some setters) ∧
          (asked available setters).threadCount ≠ 0) ∧
      ∀ setters, histories.objects object = some (some setters) → ∀ built rest last,
        (system available).runFrom state (.create object built :: rest) = some last →
          last.runtimes[state.runtimes.length]? = some (runtimeAsked available setters) ∧
            '\x00' ∉ (runtimeAsked available setters).threadName := by
  obtain ⟨_, histories, replayed, related⟩ := Boxes.run_replays (configs_run run)
  refine ⟨histories, replayed, fun built => ?_, fun setters there built rest last ran => ?_⟩
  · rw [Option.ne_none_iff_exists']
    constructor
    · rintro ⟨next, taken⟩
      obtain ⟨pointer, cfg, used, threads, gives, _⟩ := create_eq_some_iff.mp taken
      obtain ⟨setters, there, replays⟩ := related.record_of_record (Boxes.values_of_deref used)
      exact ⟨gives, setters, there, asked_of_replays replays ▸ threads⟩
    · rintro ⟨gives, setters, there, threads⟩
      obtain ⟨cfg, here, replays⟩ := related.record_of_mirrored there
      obtain ⟨pointer, used⟩ := Boxes.deref_of_values here
      rw [← asked_of_replays replays] at threads
      exact ⟨_, create_eq_some_iff.mpr ⟨pointer, cfg, used, threads, gives, rfl⟩⟩
  · obtain ⟨middle, taken, tail⟩ := (System.runFrom_cons_eq_some _).mp ran
    obtain ⟨pointer, cfg, used, _, _, rfl⟩ := create_eq_some_iff.mp taken
    obtain ⟨same, found, replays⟩ := related.record_of_record (Boxes.values_of_deref used)
    cases there.symm.trans found
    have reached : (system available).Reachable state := ⟨labels, run⟩
    obtain ⟨more, extended⟩ := runtimes_prefix (reached.step taken) tail
    refine ⟨?_, zero_notMem_asked available setters⟩
    rw [← extended, asked_of_replays replays]
    exact ConnectionOptions.getElem?_append_of_some more List.getElem?_concat_length

/-- A configuration is moved, made into a runtime, set to zero threads and destroyed. -/
def destroyedAfter : List Event :=
  [.use (.construct 0), .use (.edit 0 (.threadCount 2)), .use (.moveConstruct 0 1),
    .use (.edit 1 (.threadName [0x61, 0, 0x62])), .create 1 true,
    .use (.edit 1 (.threadCount 0)), .use (.destroy 1)]

theorem runs_as_configured_of_destroyedAfter :
    ∃ state histories last,
      (system none).run (destroyedAfter.take 4) = some state ∧
      (Values.system (Editing.history Setter)).run
        ((destroyedAfter.take 4).filterMap Event.usage) = some histories ∧
      step none state (.create 0 true) = none ∧ step none state (.create 1 false) = none ∧
      step none state (.create 1 true) ≠ none ∧
      (system none).run destroyedAfter = some last ∧ last.runtimes = [⟨2, ['a']⟩] ∧
      ∀ setters, histories.objects 1 = some (some setters) →
        last.runtimes[state.runtimes.length]? = some (runtimeAsked none setters) := by
  have evaluated : ((system none).run (destroyedAfter.take 4)).map (fun state =>
      ((step none state (.create 0 true)).isSome, (step none state (.create 1 false)).isSome,
        (step none state (.create 1 true)).isSome)) = some (false, false, true) := by rfl
  have finished : ((system none).run destroyedAfter).map State.runtimes =
      some [⟨2, ['a']⟩] := by rfl
  obtain ⟨state, run, same⟩ := Option.map_eq_some_iff.mp evaluated
  obtain ⟨last, ran, runtimes⟩ := Option.map_eq_some_iff.mp finished
  have whole : (system none).runFrom State.init
      (destroyedAfter.take 4 ++ destroyedAfter.drop 4) = some last := ran
  have tail : (system none).runFrom state (destroyedAfter.drop 4) = some last := by
    obtain ⟨middle, front, rest⟩ := (System.runFrom_append_eq_some _).mp whole
    cases run.symm.trans front
    exact rest
  obtain ⟨histories, replayed, _, kept⟩ := runs_as_configured run 1
  simp only [Prod.mk.injEq, Option.isSome_eq_false_iff, Option.isNone_iff_eq_none] at same
  obtain ⟨moved, failed, made⟩ := same
  exact ⟨state, histories, last, run, replayed, moved, failed, Option.isSome_iff_ne_none.mp made,
    ran, runtimes, fun setters there => (kept setters there true _ last tail).1⟩

end TokioRuntimeConfig

end AsyncNats.Operations
