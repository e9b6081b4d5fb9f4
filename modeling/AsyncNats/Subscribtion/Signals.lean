import AsyncNats.Subscribtion.Drain
import Mathlib.Data.List.Count

/-! # Signals come from tokens

The subscription keeps a sending half of its shutdown channel, so that channel never runs out of
senders, however many tokens are made and dropped. What `pop` takes off it is a signal that some
`cancel` has put there, and a stream ends only because it was cancelled or because the connection
ended it.
-/

namespace AsyncNats.Subscribtion

open Sync Transition

variable {capacity : Option Nat} {Msg : Type} {state next : State capacity Msg}
  {event : Event Msg}

/-- A call of `cancel`. -/
def Event.isCancel : Event Msg → Bool
  | .tokenCancel _ => true
  | _ => false

/-- The connection ends the stream. -/
def Event.isEnd : Event Msg → Bool
  | .endOfStream => true
  | _ => false

/-- The sending halves of the shutdown channel are the tokens' and the subscription's own. -/
structure Connected (state : State capacity Msg) : Prop where
  senders : state.shutdown.senders = state.tokens.length + 1
  opened : state.shutdown.closed = false

/-- Only a token that is there is deleted. -/
theorem mem_tokens_of_delete {token : TokenId}
    (taken : step state (.tokenDelete token) = some next) : token ∈ state.tokens := by
  simp only [step, State.tokenDelete, Option.ite_none_right_eq_some] at taken
  exact taken.1

theorem Connected.keep (connected : Connected state) (taken : step state event = some next) :
    Connected next := by
  obtain ⟨senders, opened⟩ := connected
  have there : ∀ token, event = .tokenDelete token → token ∈ state.tokens := by
    intro token same
    subst same
    exact mem_tokens_of_delete taken
  cases step_cases taken with
  | getCancellationToken | tokenClone =>
      refine ⟨?_, opened⟩
      simp only [Channel.addSender_senders, senders, List.length_cons]
  | @tokenDelete token =>
      have length := List.length_erase_of_mem (there token rfl)
      have positive := List.length_pos_of_mem (there token rfl)
      refine ⟨?_, opened⟩
      simp only [Channel.dropSender_senders, senders]
      omega
  | _ => exact ⟨senders, opened⟩

/-- The second branch of the select takes a signal or finds none. -/
theorem Connected.pollShutdown (connected : Connected state)
    (taken : state.pollShutdown = some next) :
    (∃ signal rest, state.shutdown.queue = signal :: rest ∧
      next = { state with
        shutdown := state.shutdown.advance
        pop := .unsubscribing
        unsubscribes := state.unsubscribes + 1 }) ∨
      next = { state with pop := .atNext } := by
  unfold State.pollShutdown at taken
  cases polling : state.pop with
  | atShutdown =>
      simp only [polling] at taken
      cases found : state.shutdown.tryRecv with
      | message signal shutdown =>
          have queue := Channel.queue_of_message found
          obtain ⟨_, rfl⟩ := Channel.tryRecv_eq_message.mp found
          simp only [found, Option.some.injEq] at taken
          exact .inl ⟨signal, _, queue, taken.symm⟩
      | disconnected =>
          obtain ⟨_, closed | gone⟩ := Channel.tryRecv_eq_disconnected.mp found
          · rw [connected.opened] at closed
            cases closed
          · rw [connected.senders] at gone
            cases gone
      | empty =>
          simp only [found, Option.some.injEq] at taken
          exact .inr taken.symm
  | _ => simp only [polling, reduceCtorEq] at taken

/-- A step takes no more signals than there are, and only `cancel` adds one. -/
theorem Connected.signals (connected : Connected state) (taken : step state event = some next) :
    next.unsubscribes + next.shutdown.queue.length ≤
      state.unsubscribes + state.shutdown.queue.length + [event].countP Event.isCancel := by
  cases event with
  | pollShutdown =>
      rcases connected.pollShutdown taken with ⟨signal, rest, queue, rfl⟩ | rfl
      · simp only [Channel.advance_queue, queue, List.tail_cons, List.length_cons]
        omega
      · exact Nat.le_add_right _ _
  | tokenCancel token =>
      cases step_cases taken with
      | signalled room =>
          simp only [Channel.push_queue, List.length_append, List.length_singleton,
            List.countP_singleton, Event.isCancel, ↓reduceIte]
          omega
      | ignored => exact Nat.le_add_right _ _
  | _ => cases step_cases taken <;> exact Nat.le_add_right _ _

section Runs

variable {events : List (Event Msg)}

theorem connected_of_run (run : (system capacity Msg).run events = some state) :
    Connected state :=
  System.run_induction (motive := fun _ => Connected) ⟨rfl, rfl⟩
    (fun _ _ _ _ _ connected taken => connected.keep taken) run

theorem signals_of_run (run : (system capacity Msg).run events = some state) :
    state.unsubscribes + state.shutdown.queue.length ≤ events.countP Event.isCancel := by
  refine System.run_induction (motive := fun events (state : State capacity Msg) =>
    state.unsubscribes + state.shutdown.queue.length ≤ events.countP Event.isCancel)
    (Nat.zero_le _) ?_ run
  intro labels before event after run signals taken
  have step := (connected_of_run run).signals taken
  rw [List.countP_append]
  omega

/-- Why `pop` may be in the middle of an unsubscribe, and why the stream may be over. -/
structure Explained (events : List (Event Msg)) (state : State capacity Msg) : Prop where
  unsubscribing : state.pop = .unsubscribing → 0 < state.unsubscribes
  isOver : state.Over → 0 < state.unsubscribes ∨ events.any Event.isEnd = true
  ended : none ∈ state.returned → state.Over

theorem Explained.keep {labels : List (Event Msg)} (explained : Explained labels state)
    (step : Step state event next) : Explained (labels ++ [event]) next := by
  obtain ⟨unsubscribing, isOver, ended⟩ := explained
  have before : state.Over → 0 < state.unsubscribes ∨ (labels ++ [event]).any Event.isEnd = true :=
    fun ending => (isOver ending).imp_right fun some_end => by
      rw [List.any_append, some_end, Bool.true_or]
  have ending : none ∈ state.returned → next.Over := fun member => step.over (ended member)
  cases step with
  | endOfStream =>
      refine ⟨unsubscribing, fun _ => .inr ?_, ending⟩
      rw [List.any_append]
      exact Bool.or_true _
  | returnedMessage polling queue =>
      refine ⟨nofun, before, fun member => ?_⟩
      rcases List.mem_append.mp member with old | new
      · exact ending old
      · cases List.mem_singleton.mp new
  | returnedNone polling queue finished =>
      exact ⟨nofun, before, fun _ => finished⟩
  | popStart | pending | noSignal => exact ⟨nofun, before, ending⟩
  | takeSignal | noSender =>
      exact ⟨fun _ => Nat.succ_pos _, fun _ => .inl (Nat.succ_pos _), ending⟩
  | unsubscribed waiting =>
      exact ⟨nofun, fun _ => .inl (unsubscribing waiting), ending⟩
  | panicked waiting => exact ⟨nofun, before, ending⟩
  | _ => exact ⟨unsubscribing, before, ending⟩

/-- Nothing but a `cancel` makes `pop` unsubscribe: in every run the shutdown channel has one
sender more than there are tokens, `pop` has unsubscribed at most as often as `cancel` was called,
less the signal that is still pending, and it has returned `None` only if `cancel` was called or
the connection has ended the stream. -/
theorem ends_on_cancel (run : (system capacity Msg).run events = some state) :
    state.shutdown.senders = state.tokens.length + 1 ∧
    state.unsubscribes + state.shutdown.queue.length ≤ events.countP Event.isCancel ∧
    (none ∈ state.returned →
      0 < events.countP Event.isCancel ∨ events.any Event.isEnd = true) := by
  have signals := signals_of_run run
  have explained : Explained events state := by
    refine System.run_induction (motive := Explained)
      ⟨fun unsubscribing => (by cases unsubscribing), ?_,
        fun member => (List.not_mem_nil member).elim⟩ ?_ run
    · intro isOver
      rcases isOver with closed | ended
      · cases closed
      · cases ended
    · intro labels before event after _ explained taken
      exact explained.keep (step_cases taken)
  refine ⟨(connected_of_run run).senders, signals, fun member => ?_⟩
  refine (explained.isOver (explained.ended member)).imp_left fun unsubscribed => ?_
  omega

/-- Two tokens are made and dropped; one of three cancels is taken as a signal. -/
theorem ends_on_cancel_of_three :
    ∃ state : State none Nat,
      (system none Nat).run
        [.getCancellationToken 0, .tokenClone 0 1, .popStart, .pollNext, .pollShutdown,
          .tokenCancel 1, .tokenCancel 0, .tokenDelete 1, .pollNext, .pollShutdown,
          .tokenCancel 0, .unsubscribed true, .pollNext, .tokenDelete 0] = some state ∧
      (state.unsubscribes = 1 ∧ state.shutdown.queue.length = 1 ∧ none ∈ state.returned) ∧
      state.shutdown.senders = state.tokens.length + 1 ∧
      state.unsubscribes + state.shutdown.queue.length ≤ 3 := by
  have evaluated :
      ((system none Nat).run
        [.getCancellationToken 0, .tokenClone 0 1, .popStart, .pollNext, .pollShutdown,
          .tokenCancel 1, .tokenCancel 0, .tokenDelete 1, .pollNext, .pollShutdown,
          .tokenCancel 0, .unsubscribed true, .pollNext, .tokenDelete 0]).map (fun state =>
            (state.unsubscribes, state.shutdown.queue.length, decide (none ∈ state.returned))) =
        some (1, 1, true) := by decide
  obtain ⟨state, run, values⟩ := Option.map_eq_some_iff.mp evaluated
  simp only [Prod.mk.injEq, decide_eq_true_eq] at values
  obtain ⟨senders, signals, _⟩ := ends_on_cancel run
  exact ⟨state, run, values, senders, signals⟩

end Runs

end AsyncNats.Subscribtion
