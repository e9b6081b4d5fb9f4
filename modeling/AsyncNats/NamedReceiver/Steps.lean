import AsyncNats.NamedReceiver.Basic

/-! # The outcomes of a step

One inversion of the step function, with the guards and the next state of every
outcome. The invariants of the receiver are derived from it.
-/

namespace AsyncNats.Subscribtion

variable {buffering : Option Nat} {Msg : Type} {before after : State buffering Msg}
  {event : Event Msg}

theorem State.popResult_of_append {value : Option Msg}
    (returned : after.returned = before.returned ++ [value]) :
    before.popResult after = some value := by
  rw [State.popResult, returned, List.getElem?_concat_length]

theorem State.popResult_of_same (returned : after.returned = before.returned) :
    before.popResult after = none := by
  rw [State.popResult, returned, List.getElem?_eq_none (Nat.le_refl _)]

/-- What a step adds to the values that `pop` has returned. `None` comes from a
drained stream that is over. -/
inductive Adds (before after : State buffering Msg) : Event Msg → Prop where
  | nothing {event : Event Msg} (returned : after.returned = before.returned)
      (panics : after.panics = before.panics) : Adds before after event
  | message (head : Msg) (returned : after.returned = before.returned ++ [some head])
      (delivered : after.delivered = before.delivered ++ [head]) : Adds before after .pollNext
  | none (returned : after.returned = before.returned ++ [Option.none])
      (queue : after.sub.queue = []) (isOver : after.Over) : Adds before after .pollNext
  | panic (returned : after.returned = before.returned)
      (panics : after.panics = before.panics + 1) : Adds before after (.unsubscribed false)

theorem Step.adds (step : Step before event after) : Adds before after event := by
  cases step with
  | @returnedMessage head rest polling queue =>
      exact .message head rfl (State.popReturn_delivered _ (some head))
  | returnedNone polling queue isOver => exact .none rfl queue isOver
  | panicked waiting => exact .panic rfl rfl
  | _ => exact .nothing rfl rfl

end AsyncNats.Subscribtion

namespace AsyncNats.NamedReceiver

open Sync Transition

variable {buffering : Option Nat} {capacity : Nat} {Msg : Type}

/-- The outcomes of a step. -/
inductive Step (state : State buffering capacity Msg) :
    Event Msg → State buffering capacity Msg → Prop where
  | subscribtion {event : Subscribtion.Event Msg} {sub : Subscribtion.State buffering Msg}
      (taken : Subscribtion.Step state.sub event sub)
      (returned : sub.returned = state.sub.returned) :
      Step state (.subscribtion event) { state with sub }
  | popped {event : Subscribtion.Event Msg} {sub : Subscribtion.State buffering Msg}
      {message : Msg} (taken : Subscribtion.Step state.sub event sub)
      (popping : state.worker = .popping)
      (delivered : sub.delivered = state.sub.delivered ++ [message]) :
      Step state (.subscribtion event)
        { state with
          sub
          worker := .holding ⟨state.popped.length, message⟩
          popped := state.popped ++ [⟨state.popped.length, message⟩] }
  | sawEnd {event : Subscribtion.Event Msg} {sub : Subscribtion.State buffering Msg}
      (taken : Subscribtion.Step state.sub event sub) (popping : state.worker = .popping)
      (returned : sub.returned = state.sub.returned ++ [none])
      (queue : sub.sub.queue = []) (isOver : sub.Over) :
      Step state (.subscribtion event) { state with sub, worker := .ending, sawEnd := true }
  | panicked {sub : Subscribtion.State buffering Msg}
      (taken : Subscribtion.Step state.sub (.unsubscribed false) sub)
      (popping : state.worker = .popping) (returned : sub.returned = state.sub.returned) :
      Step state (.subscribtion (.unsubscribed false)) { state with sub, worker := .ending }
  | stored {letter : Letter Msg} (holding : state.worker = .holding letter)
      (opened : state.channel.closed = false) (room : state.channel.Room) :
      Step state (.trySend none)
        { state with
          channel := state.channel.push letter room
          worker := .popping
          stored := state.stored ++ [letter] }
  | rejected {letter : Letter Msg} (holding : state.worker = .holding letter)
      (refused : state.channel.closed = true ∨ ¬ state.channel.Room) :
      Step state (.trySend none)
        { state with
          worker := .popping
          rejected :=
            state.rejected ++ [⟨letter, state.channel.queue.length, state.channel.closed⟩] }
  | passed {letter : Letter Msg} {receiver : ReceiverId}
      (holding : state.worker = .holding letter) (slots : capacity = 0)
      (waits : receiver ∈ state.waiting) :
      Step state (.trySend (some receiver))
        { state with
          worker := .popping
          stored := state.stored ++ [letter]
          waiting := state.waiting.erase receiver
          returned := state.returned ++ [⟨receiver, .recv, some letter⟩] }
  | dropSubscribtion (ending : state.worker = .ending) :
      Step state .dropSubscribtion
        { state with
          sub := { state.sub with
            sub := state.sub.sub.close, shutdown := state.sub.shutdown.close.dropSender }
          worker := .closing }
  | dropSender (closing : state.worker = .closing) :
      Step state .dropSender { state with channel := state.channel.dropSender, worker := .done }
  | runtimeDelete (popping : state.worker = .popping) :
      Step state .runtimeDelete { state with worker := .ending }
  | clone {source fresh : ReceiverId} (live : source ∈ state.receivers) :
      Step state (.clone source fresh) { state with receivers := fresh :: state.receivers }
  | delete {receiver : ReceiverId} (unused : receiver ∉ state.waiting) :
      Step state (.delete receiver)
        { state with
          receivers := state.receivers.erase receiver
          channel :=
            if state.receivers.erase receiver = [] then state.channel.close else state.channel }
  | recvStart {receiver : ReceiverId} (live : receiver ∈ state.receivers) :
      Step state (.recvStart receiver) { state with waiting := receiver :: state.waiting }
  | received {receiver : ReceiverId} {letter : Letter Msg} {rest : List (Letter Msg)}
      (waits : receiver ∈ state.waiting) (queue : state.channel.queue = letter :: rest) :
      Step state (.recvReturn receiver)
        { state with
          channel := state.channel.advance
          waiting := state.waiting.erase receiver
          returned := state.returned ++ [⟨receiver, .recv, some letter⟩] }
  | disconnected {receiver : ReceiverId} (waits : receiver ∈ state.waiting)
      (queue : state.channel.queue = [])
      (finished : state.channel.closed = true ∨ state.channel.senders = 0) :
      Step state (.recvReturn receiver)
        { state with
          waiting := state.waiting.erase receiver
          returned := state.returned ++ [⟨receiver, .recv, none⟩] }
  | tryReceived {receiver : ReceiverId} {letter : Letter Msg} {rest : List (Letter Msg)}
      (queue : state.channel.queue = letter :: rest) :
      Step state (.tryRecv receiver)
        { state with
          channel := state.channel.advance
          returned := state.returned ++ [⟨receiver, .tryRecv, some letter⟩] }
  | tryEmpty {receiver : ReceiverId} (queue : state.channel.queue = []) :
      Step state (.tryRecv receiver)
        { state with returned := state.returned ++ [⟨receiver, .tryRecv, none⟩] }

variable {state next : State buffering capacity Msg}

theorem subscribtion_cases {event : Subscribtion.Event Msg}
    (taken : state.subscribtion event = some next) : Step state (.subscribtion event) next := by
  unfold State.subscribtion at taken
  cases caller : event.caller with
  | handle => simp only [caller, reduceCtorEq] at taken
  | outside =>
      simp only [caller, Option.map_eq_some_iff] at taken
      obtain ⟨sub, taken, rfl⟩ := taken
      have step := Subscribtion.step_cases taken
      cases step.adds with
      | nothing returned => exact .subscribtion step returned
      | message | none | panic => cases caller
  | pop =>
      cases popping : state.worker with
      | popping =>
          simp only [caller, popping, Option.map_eq_some_iff] at taken
          obtain ⟨sub, taken, rfl⟩ := taken
          have step := Subscribtion.step_cases taken
          cases step.adds with
          | nothing returned panics =>
              rw [State.resume, Subscribtion.State.popResult_of_same returned]
              simp only [panics, ↓reduceIte]
              exact .subscribtion step returned
          | message head returned delivered =>
              rw [State.resume, Subscribtion.State.popResult_of_append returned]
              exact .popped step popping delivered
          | none returned queue isOver =>
              rw [State.resume, Subscribtion.State.popResult_of_append returned]
              exact .sawEnd step popping returned queue isOver
          | panic returned panics =>
              rw [State.resume, Subscribtion.State.popResult_of_same returned]
              have grown : sub.panics ≠ state.sub.panics := by omega
              simp only [grown, ↓reduceIte]
              exact .panicked step popping returned
      | _ => simp only [caller, popping, reduceCtorEq] at taken

theorem trySend_cases {partner : Option ReceiverId} (taken : state.trySend partner = some next) :
    Step state (.trySend partner) next := by
  unfold State.trySend at taken
  cases holding : state.worker with
  | holding letter =>
      cases partner with
      | none =>
          simp only [holding] at taken
          cases sent : state.channel.trySend letter with
          | ok channel =>
              obtain ⟨opened, room, rfl⟩ := Channel.trySend_eq_ok.mp sent
              simp only [sent, Option.some.injEq] at taken
              subst taken
              exact .stored holding opened room
          | error error =>
              simp only [sent, Option.some.injEq] at taken
              subst taken
              exact .rejected holding (Channel.trySend_eq_error sent)
      | some receiver =>
          simp only [holding, Option.ite_none_right_eq_some, Option.some.injEq] at taken
          obtain ⟨⟨slots, waits⟩, rfl⟩ := taken
          exact .passed holding slots waits
  | _ => simp only [holding, reduceCtorEq] at taken

theorem recvReturn_cases {receiver : ReceiverId}
    (taken : state.recvReturn receiver = some next) : Step state (.recvReturn receiver) next := by
  simp only [State.recvReturn, Option.ite_none_right_eq_some] at taken
  obtain ⟨waits, taken⟩ := taken
  unfold State.take at taken
  cases found : state.channel.tryRecv with
  | message letter channel =>
      have queue := Channel.queue_of_message found
      obtain ⟨_, rfl⟩ := Channel.tryRecv_eq_message.mp found
      simp only [found, Option.some.injEq] at taken
      subst taken
      exact .received waits queue
  | disconnected =>
      obtain ⟨queue, finished⟩ := Channel.tryRecv_eq_disconnected.mp found
      simp only [found, Option.some.injEq] at taken
      subst taken
      exact .disconnected waits queue finished
  | empty => simp only [found, reduceCtorEq] at taken

theorem tryRecv_cases {receiver : ReceiverId} (taken : state.tryRecv receiver = some next) :
    Step state (.tryRecv receiver) next := by
  simp only [State.tryRecv, Option.ite_none_right_eq_some] at taken
  obtain ⟨_, taken⟩ := taken
  unfold State.take at taken
  cases found : state.channel.tryRecv with
  | message letter channel =>
      have queue := Channel.queue_of_message found
      obtain ⟨_, rfl⟩ := Channel.tryRecv_eq_message.mp found
      simp only [found, Option.some_or, Option.some.injEq] at taken
      subst taken
      exact .tryReceived queue
  | disconnected =>
      have queue := (Channel.tryRecv_eq_disconnected.mp found).1
      simp only [found, Option.some_or, Option.some.injEq] at taken
      subst taken
      exact .tryEmpty queue
  | empty =>
      have queue := (Channel.tryRecv_eq_empty.mp found).1
      simp only [found, Option.none_or, Option.some.injEq] at taken
      subst taken
      exact .tryEmpty queue

/-- Every step has one of the listed outcomes. -/
theorem step_cases {event : Event Msg} (taken : step state event = some next) :
    Step state event next := by
  cases event with
  | subscribtion event => exact subscribtion_cases taken
  | trySend partner => exact trySend_cases taken
  | dropSubscribtion =>
      simp only [step, State.dropSubscribtion] at taken
      cases ending : state.worker with
      | ending =>
          simp only [ending, Option.some.injEq] at taken
          subst taken
          exact .dropSubscribtion ending
      | _ => simp only [ending, reduceCtorEq] at taken
  | dropSender =>
      simp only [step, State.dropSender] at taken
      cases closing : state.worker with
      | closing =>
          simp only [closing, Option.some.injEq] at taken
          subst taken
          exact .dropSender closing
      | _ => simp only [closing, reduceCtorEq] at taken
  | runtimeDelete =>
      simp only [step, State.runtimeDelete] at taken
      cases popping : state.worker with
      | popping =>
          simp only [popping, Option.some.injEq] at taken
          subst taken
          exact .runtimeDelete popping
      | _ => simp only [popping, reduceCtorEq] at taken
  | clone source fresh =>
      simp only [step, State.clone, Option.ite_none_right_eq_some, Option.some.injEq] at taken
      obtain ⟨⟨live, _⟩, rfl⟩ := taken
      exact .clone live
  | delete receiver =>
      simp only [step, State.delete, Option.ite_none_right_eq_some, Option.some.injEq] at taken
      obtain ⟨⟨_, unused⟩, rfl⟩ := taken
      exact .delete unused
  | recvStart receiver =>
      simp only [step, State.recvStart, Option.ite_none_right_eq_some, Option.some.injEq] at taken
      obtain ⟨live, rfl⟩ := taken
      exact .recvStart live
  | recvReturn receiver => exact recvReturn_cases taken
  | tryRecv receiver => exact tryRecv_cases taken

end AsyncNats.NamedReceiver
