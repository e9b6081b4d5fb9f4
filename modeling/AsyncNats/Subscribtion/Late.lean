import AsyncNats.Subscribtion.Drain

/-! # Cancelling under load

`pop` looks at the shutdown channel only when its poll of the buffer finds
nothing. While the buffer is never empty at that moment a cancel is not noticed,
and messages go on being accepted and returned. Where no `pop` meets that case,
the first `pop` that starts after a cancel returns from a stream that is over.
-/

namespace AsyncNats.Subscribtion

open Sync Transition

variable {capacity : Option Nat} {Msg : Type} {state next : State capacity Msg}
  {event : Event Msg}

/-- No message that was accepted after the completion of a `pop` started after a
cancel has been returned. -/
def NoLate (state : State capacity Msg) : Prop :=
  ∀ length, state.sealed = some length → state.delivered <+: state.accepted.take length

/-- A `pop` that started after a cancel does not find a message in the buffer of a
stream that is not over. -/
def FindsNoBacklog (state : State capacity Msg) : Event Msg → Prop
  | .pollNext =>
      state.pop = .atNext → state.armed = true → state.sub.queue ≠ [] → state.Over
  | _ => True

instance (state : State capacity Msg) : Decidable state.Over :=
  inferInstanceAs (Decidable (state.sub.closed = true ∨ state.sub.senders = 0))

instance (state : State capacity Msg) : ∀ event, Decidable (FindsNoBacklog state event)
  | .pollNext =>
      inferInstanceAs (Decidable
        (state.pop = .atNext → state.armed = true → state.sub.queue ≠ [] → state.Over))
  | .arrive _ | .endOfStream | .getCancellationToken _ | .tokenClone _ _ | .tokenDelete _
  | .tokenCancel _ | .popStart | .pollShutdown | .unsubscribed _ => .isTrue trivial

/-- The first `pop` after a cancel seals the stream at its completion. -/
theorem sealed_of_popReturn {value : Option Msg} {length : Nat}
    (after : (state.popReturn value).sealed = some length) :
    state.sealed = some length ∨ state.armed = true ∧ length = state.accepted.length := by
  change (if state.armed then state.sealed.or (some state.accepted.length) else state.sealed) =
    some length at after
  by_cases armed : state.armed = true
  · rw [if_pos armed, Option.or_eq_some_iff] at after
    exact after.imp id fun first => ⟨armed, (Option.some.inj first.2).symm⟩
  · rw [if_neg armed] at after
    exact .inl after

theorem popReturn_sealed_of_sealed (state : State capacity Msg) {length : Nat}
    (sealed : state.sealed = some length) (value : Option Msg) :
    (state.popReturn value).sealed = some length := by
  change (if state.armed then state.sealed.or (some state.accepted.length) else state.sealed) =
    some length
  rw [sealed, Option.some_or, ite_self]

theorem popReturn_sealed_of_armed (state : State capacity Msg) (armed : state.armed = true)
    (value : Option Msg) : ∃ length, (state.popReturn value).sealed = some length := by
  cases sealed : state.sealed with
  | none =>
      refine ⟨state.accepted.length, ?_⟩
      change (if state.armed then state.sealed.or (some state.accepted.length) else state.sealed) =
        some state.accepted.length
      rw [if_pos armed, sealed, Option.none_or]
  | some length => exact ⟨length, popReturn_sealed_of_sealed state sealed value⟩

/-- The first completion of a `pop` that started after a cancel saw the whole
stream. -/
def SealedOver (state : State capacity Msg) : Prop :=
  ∀ length, state.sealed = some length → length = state.accepted.length ∧ state.Over

theorem SealedOver.keep (sealedOver : SealedOver state) (sealed : next.sealed = state.sealed)
    (accepted : state.Over → next.accepted = state.accepted) (isOver : state.Over → next.Over) :
    SealedOver next := by
  intro length after
  rw [sealed] at after
  obtain ⟨whole, ended⟩ := sealedOver length after
  exact ⟨by rw [accepted ended]; exact whole, isOver ended⟩

/-- A `pop` that returns from a stream that is over, or that started before any
cancel. -/
theorem SealedOver.popReturn (sealedOver : SealedOver state)
    (isOver : state.armed = true → state.Over) (value : Option Msg) :
    SealedOver (state.popReturn value) := by
  intro length after
  rcases sealed_of_popReturn after with before | ⟨armed, whole⟩
  · exact sealedOver length before
  · exact ⟨whole, isOver armed⟩

theorem Step.sealedOver (step : Step state event next) (finds : FindsNoBacklog state event)
    (sealedOver : SealedOver state) : SealedOver next := by
  have accepted := step.accepted_of_over
  have isOver := step.over
  cases step with
  | @returnedMessage head rest polling queue =>
      have ended : state.armed = true → state.Over := fun armed =>
        finds polling armed (by rw [queue]; exact List.cons_ne_nil head rest)
      have advanced : SealedOver { state with sub := state.sub.advance } := sealedOver
      exact advanced.popReturn ended (some head)
  | returnedNone polling queue ended => exact sealedOver.popReturn (fun _ => ended) none
  | _ => exact sealedOver.keep rfl accepted isOver

theorem SealedOver.noLate (sealedOver : SealedOver state)
    (order : state.delivered ++ state.sub.queue = state.accepted) : NoLate state := by
  intro length after
  rw [(sealedOver length after).1, List.take_length, ← order]
  exact List.prefix_append _ _

/-- `pop` calls that drain the buffer return all of it, and what was sealed stays. -/
theorem drain (state : State capacity Msg) (idle : state.pop = .idle) {length : Nat}
    (sealed : state.sealed = some length) :
    ∃ events last, (system capacity Msg).runFrom state events = some last ∧
      last.delivered = state.delivered ++ state.sub.queue ∧ last.sealed = some length ∧
      last.accepted = state.accepted := by
  induction queue : state.sub.queue generalizing state with
  | nil => exact ⟨[], state, rfl, (List.append_nil _).symm, sealed, rfl⟩
  | cons head rest ih =>
      let polling : State capacity Msg := { state with pop := .atNext, armed := state.cancelled }
      let returned := { polling with sub := polling.sub.advance }.popReturn (some head)
      have start : step state .popStart = some polling := by
        simp only [step, State.popStart, idle, polling]
      have poll : step polling .pollNext = some returned :=
        pollNext_of_message (rfl : polling.pop = .atNext) queue
      have resealed : returned.sealed = some length :=
        popReturn_sealed_of_sealed { polling with sub := polling.sub.advance } sealed (some head)
      have left : returned.sub.queue = rest := by
        change state.sub.queue.tail = rest
        rw [queue, List.tail_cons]
      obtain ⟨events, last, run, delivered, kept, accepted⟩ := ih returned rfl resealed left
      refine ⟨.popStart :: .pollNext :: events, last, ?_, ?_, kept, accepted⟩
      · apply (system capacity Msg).runFrom_cons_eq_some.mpr
        refine ⟨polling, start, ?_⟩
        exact (system capacity Msg).runFrom_cons_eq_some.mpr ⟨returned, poll, run⟩
      · rw [delivered, State.popReturn_delivered, List.append_assoc]
        rfl

/-- An open stream whose first sealed length lies behind it can accept one more
message and return it. -/
theorem exists_late (reached : (system capacity Msg).Reachable state) (idle : state.pop = .idle)
    (opened : state.sub.closed = false) (fed : state.sub.senders ≠ 0) (room : state.sub.Room)
    {length : Nat} (sealed : state.sealed = some length) (within : length ≤ state.accepted.length)
    (message : Msg) :
    ∃ events last, (system capacity Msg).runFrom state events = some last ∧ ¬ NoLate last := by
  let arrived : State capacity Msg :=
    { state with
      sub := state.sub.push message room, accepted := state.accepted ++ [message] }
  have arrive : (system capacity Msg).step state (.arrive message) = some arrived := by
    simp only [system, step, State.arrive, if_neg fed, Channel.trySend_of_room opened room, arrived]
  have order : arrived.delivered ++ arrived.sub.queue = arrived.accepted :=
    delivered_append_queue (reached.step arrive)
  obtain ⟨events, last, run, delivered, kept, accepted⟩ := drain arrived idle sealed
  refine ⟨.arrive message :: events, last, ?_, fun noLate => ?_⟩
  · exact (system capacity Msg).runFrom_cons_eq_some.mpr ⟨arrived, arrive, run⟩
  · have bound := (noLate length kept).length_le
    rw [delivered, order, accepted] at bound
    simp only [arrived, List.length_append, List.length_singleton, List.length_take] at bound
    omega

/-- A sealed length was the number of messages accepted at some time. -/
def SealedWithin (state : State capacity Msg) : Prop :=
  ∀ length, state.sealed = some length → length ≤ state.accepted.length

theorem Step.sealedWithin (step : Step state event next) (within : SealedWithin state) :
    SealedWithin next := by
  have returned : ∀ (source : State capacity Msg) (value : Option Msg), SealedWithin source →
      SealedWithin (source.popReturn value) := by
    intro source value before length after
    rcases sealed_of_popReturn after with sealed | ⟨_, whole⟩
    · exact before length sealed
    · exact Nat.le_of_eq whole
  cases step with
  | arrived fed opened room =>
      intro length sealed
      refine Nat.le_trans (within length sealed) ?_
      rw [List.length_append]
      exact Nat.le_add_right _ _
  | returnedMessage => exact returned _ _ within
  | returnedNone => exact returned _ _ within
  | _ => exact within

theorem sealedWithin_of_reachable (reached : (system capacity Msg).Reachable state) :
    SealedWithin state :=
  System.Reachable.induction (motive := SealedWithin) (fun length sealed => by cases sealed)
    (fun _ _ _ _ within taken => (step_cases taken).sealedWithin within) reached

/-- A step that breaks the condition polls a backlog of an open stream. -/
theorem backlog_of_not_findsNoBacklog (backlog : ¬ FindsNoBacklog state event) :
    event = .pollNext ∧ state.pop = .atNext ∧ state.armed = true ∧
      (∃ head rest, state.sub.queue = head :: rest) ∧ ¬ state.sub.closed = true ∧
      state.sub.senders ≠ 0 := by
  cases event with
  | pollNext =>
      simp only [FindsNoBacklog] at backlog
      push Not at backlog
      obtain ⟨polling, armed, nonempty, open_stream⟩ := backlog
      obtain ⟨opened, fed⟩ := not_or.mp open_stream
      exact ⟨rfl, polling, armed, List.exists_cons_of_ne_nil nonempty, opened, fed⟩
  | _ => exact (backlog trivial).elim

/-- A cancel takes effect for the next `pop` in every run in which no `pop` started
after a cancel finds a backlog in an open stream; and a run that meets one can be
continued to return a late message. -/
theorem noLate_of_findsNoBacklog (state : State capacity Msg) :
    ((system capacity Msg).ReachableUnder FindsNoBacklog state → NoLate state) ∧
    (∀ event, (system capacity Msg).Reachable state → ¬ FindsNoBacklog state event →
      ∃ events last, (system capacity Msg).runFrom state (event :: events) = some last ∧
        ¬ NoLate last) := by
  constructor
  · intro reached
    have sealedOver : SealedOver state :=
      System.ReachableUnder.induction (motive := SealedOver)
        (fun length sealed => by cases sealed)
        (fun _ _ _ _ finds sealedOver taken => (step_cases taken).sealedOver finds sealedOver)
        reached
    exact sealedOver.noLate (delivered_append_queue reached.reachable)
  · intro event reached backlog
    obtain ⟨rfl, polling, armed, ⟨head, rest, queue⟩, opened, fed⟩ :=
      backlog_of_not_findsNoBacklog backlog
    have taken : (system capacity Msg).step state .pollNext =
        some ({ state with sub := state.sub.advance }.popReturn (some head)) :=
      pollNext_of_message polling queue
    have after := reached.step taken
    obtain ⟨length, sealed⟩ :=
      popReturn_sealed_of_armed { state with sub := state.sub.advance } armed (some head)
    have bound := sealedWithin_of_reachable after length sealed
    obtain ⟨events, last, run, late⟩ :=
      exists_late after rfl (Bool.not_eq_true _ ▸ opened) fed (Channel.room_advance queue) sealed
        bound head
    exact ⟨events, last, (system capacity Msg).runFrom_cons_eq_some.mpr ⟨_, taken, run⟩, late⟩

/-- A cancelled subscription whose buffer is empty: the next `pop` unsubscribes, and
what arrives after its completion is not accepted. -/
theorem noLate_of_findsNoBacklog_of_idle :
    ∃ state : State (some 2) Nat,
      (system (some 2) Nat).run
        [.getCancellationToken 0, .tokenCancel 0, .popStart, .pollNext, .pollShutdown,
          .unsubscribed true, .pollNext, .arrive 7, .popStart, .pollNext] = some state ∧
      (state.sealed = some 0 ∧ state.returned = [none, none]) ∧ NoLate state := by
  have evaluated :
      ((system (some 2) Nat).run
        [.getCancellationToken 0, .tokenCancel 0, .popStart, .pollNext, .pollShutdown,
          .unsubscribed true, .pollNext, .arrive 7, .popStart, .pollNext]).map
            (fun state => (state.sealed, state.returned)) = some (some 0, [none, none]) := by decide
  obtain ⟨state, run, values⟩ := Option.map_eq_some_iff.mp evaluated
  simp only [Prod.mk.injEq] at values
  exact ⟨state, run, values, (noLate_of_findsNoBacklog state).1 ⟨_, by decide, run⟩⟩

/-- One message is buffered when a receive starts after the cancel. The receive
returns it, and the next message arrives and is delivered as before. -/
theorem late_after_cancel :
    ¬ ∀ state : State (some 2) Nat, (system (some 2) Nat).Reachable state → NoLate state := by
  have evaluated :
      ((system (some 2) Nat).run
        [.getCancellationToken 0, .arrive 1, .tokenCancel 0, .popStart, .pollNext, .arrive 2,
          .popStart, .pollNext]).map
            (fun state => (state.sealed, state.returned, state.accepted)) =
        some (some 1, [some 1, some 2], [1, 2]) := by decide
  obtain ⟨state, run, values⟩ := Option.map_eq_some_iff.mp evaluated
  simp only [Prod.mk.injEq] at values
  obtain ⟨sealed, returned, accepted⟩ := values
  intro always
  have noLate := always state ⟨_, run⟩ 1 sealed
  rw [State.delivered, returned, accepted] at noLate
  exact absurd noLate (by decide)

end AsyncNats.Subscribtion
