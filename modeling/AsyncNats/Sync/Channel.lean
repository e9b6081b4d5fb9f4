import AsyncNats.Transition.System
import Mathlib.Data.Option.Basic

/-! # Message channels

One model of the queues between threads: a first-in first-out list with an
optional capacity, a number of sending halves and a flag that closes it for
senders. The capacity is a parameter of the type and the bound is a field, so an
overfull channel cannot be built. `Fifo` is the abstract queue: it only knows
what was put in and what has been taken out.
-/

namespace Sync

universe u

/-- Why a message was not stored. The message itself is given back to the
caller. -/
inductive SendError where
  | full
  | closed
  deriving DecidableEq, Repr

/-- A channel of at most `capacity` messages (no bound for `none`). `closed`
says that the receiving side is gone or has closed the channel: nothing can be
stored any more, but what is stored can still be received. -/
structure Channel (capacity : Option Nat) (α : Type u) where
  queue : List α
  senders : Nat
  closed : Bool
  fits : ∀ bound ∈ capacity, queue.length ≤ bound

/-- What a receiver finds: a message and the channel without it, nothing yet, or
nothing any more. -/
inductive Received (capacity : Option Nat) (α : Type u) where
  | message (head : α) (rest : Channel capacity α)
  | empty
  | disconnected

namespace Channel

variable {capacity : Option Nat} {α : Type u}

/-- An empty channel with one sending half. -/
def new (capacity : Option Nat) (α : Type u) : Channel capacity α where
  queue := []
  senders := 1
  closed := false
  fits := fun _ _ => Nat.zero_le _

/-- There is room for one more message. -/
def Room (channel : Channel capacity α) : Prop :=
  ∀ bound ∈ capacity, channel.queue.length < bound

instance (channel : Channel capacity α) : Decidable channel.Room :=
  inferInstanceAs (Decidable (∀ bound ∈ capacity, channel.queue.length < bound))

/-- Store a message at the back. -/
def push (channel : Channel capacity α) (message : α) (room : channel.Room) :
    Channel capacity α where
  queue := channel.queue ++ [message]
  senders := channel.senders
  closed := channel.closed
  fits := fun bound member => by
    rw [List.length_append, List.length_singleton]
    exact room bound member

/-- Drop the message at the front. -/
def advance (channel : Channel capacity α) : Channel capacity α where
  queue := channel.queue.tail
  senders := channel.senders
  closed := channel.closed
  fits := fun bound member => by
    rw [List.length_tail]
    exact Nat.le_trans (Nat.sub_le _ _) (channel.fits bound member)

/-- Store a message without waiting. -/
def trySend (channel : Channel capacity α) (message : α) :
    Except SendError (Channel capacity α) :=
  if channel.closed then .error .closed
  else if room : channel.Room then .ok (channel.push message room)
  else .error .full

/-- Receive without waiting. Stored messages come first, also from a channel
that is closed or has no sending half left. -/
def tryRecv (channel : Channel capacity α) : Received capacity α :=
  match channel.queue with
  | head :: _ => .message head channel.advance
  | [] => if channel.closed || channel.senders == 0 then .disconnected else .empty

/-- Refuse all further messages. -/
def close (channel : Channel capacity α) : Channel capacity α :=
  { channel with closed := true }

/-- One more sending half. -/
def addSender (channel : Channel capacity α) : Channel capacity α :=
  { channel with senders := channel.senders + 1 }

/-- One sending half fewer. -/
def dropSender (channel : Channel capacity α) : Channel capacity α :=
  { channel with senders := channel.senders - 1 }

@[simp] theorem new_queue : (new capacity α).queue = [] := rfl
@[simp] theorem new_senders : (new capacity α).senders = 1 := rfl
@[simp] theorem new_closed : (new capacity α).closed = false := rfl

section Fields

variable (channel : Channel capacity α) (message : α) (room : channel.Room)

@[simp] theorem push_queue : (channel.push message room).queue = channel.queue ++ [message] := rfl
@[simp] theorem push_senders : (channel.push message room).senders = channel.senders := rfl
@[simp] theorem push_closed : (channel.push message room).closed = channel.closed := rfl
@[simp] theorem advance_queue : channel.advance.queue = channel.queue.tail := rfl
@[simp] theorem advance_senders : channel.advance.senders = channel.senders := rfl
@[simp] theorem advance_closed : channel.advance.closed = channel.closed := rfl
@[simp] theorem close_queue : channel.close.queue = channel.queue := rfl
@[simp] theorem close_senders : channel.close.senders = channel.senders := rfl
@[simp] theorem close_closed : channel.close.closed = true := rfl
@[simp] theorem addSender_queue : channel.addSender.queue = channel.queue := rfl
@[simp] theorem addSender_senders : channel.addSender.senders = channel.senders + 1 := rfl
@[simp] theorem addSender_closed : channel.addSender.closed = channel.closed := rfl
@[simp] theorem dropSender_queue : channel.dropSender.queue = channel.queue := rfl
@[simp] theorem dropSender_senders : channel.dropSender.senders = channel.senders - 1 := rfl
@[simp] theorem dropSender_closed : channel.dropSender.closed = channel.closed := rfl

end Fields

/-- A channel without a capacity always has room. -/
theorem room_of_unbounded (channel : Channel none α) : channel.Room := by
  intro bound member
  cases member

/-- A message is stored exactly when the channel is open and has room, and then
at the back. -/
theorem trySend_eq_ok {channel next : Channel capacity α} {message : α} :
    channel.trySend message = .ok next ↔
      channel.closed = false ∧ ∃ room : channel.Room, next = channel.push message room := by
  unfold trySend
  cases closed : channel.closed with
  | true => simp only [↓reduceIte, reduceCtorEq, Bool.true_eq_false, false_and]
  | false =>
      by_cases room : channel.Room
      · simp only [Bool.false_eq_true, ↓reduceIte, room, ↓reduceDIte, Except.ok.injEq,
          exists_true_left, true_and]
        exact eq_comm
      · simp only [Bool.false_eq_true, ↓reduceIte, room, ↓reduceDIte, reduceCtorEq,
          IsEmpty.exists_iff, and_false]

/-- Taking a message out leaves room for one more. -/
theorem room_advance {channel : Channel capacity α} {head : α} {rest : List α}
    (queue : channel.queue = head :: rest) : channel.advance.Room := by
  intro bound member
  have fits := channel.fits bound member
  rw [queue, List.length_cons] at fits
  rw [advance_queue, queue, List.tail_cons]
  exact fits

theorem trySend_of_room {channel : Channel capacity α} (opened : channel.closed = false)
    (room : channel.Room) (message : α) :
    channel.trySend message = .ok (channel.push message room) :=
  trySend_eq_ok.mpr ⟨opened, room, rfl⟩

/-- A refused message met a closed channel or a full one. -/
theorem trySend_eq_error {channel : Channel capacity α} {message : α} {error : SendError}
    (refused : channel.trySend message = .error error) :
    channel.closed = true ∨ ¬ channel.Room := by
  by_contra both
  rw [not_or, Bool.not_eq_true, not_not] at both
  rw [trySend_of_room both.1 both.2] at refused
  cases refused

theorem tryRecv_eq_message {channel rest : Channel capacity α} {head : α} :
    channel.tryRecv = .message head rest ↔
      channel.queue.head? = some head ∧ rest = channel.advance := by
  unfold tryRecv
  cases channel.queue with
  | nil =>
      simp only [List.head?_nil, reduceCtorEq, false_and, iff_false]
      split <;> simp only [reduceCtorEq, not_false_eq_true]
  | cons first tail =>
      simp only [Received.message.injEq, List.head?_cons, Option.some.injEq]
      exact and_congr_right fun _ => eq_comm

theorem tryRecv_eq_disconnected {channel : Channel capacity α} :
    channel.tryRecv = .disconnected ↔
      channel.queue = [] ∧ (channel.closed = true ∨ channel.senders = 0) := by
  unfold tryRecv
  cases channel.queue with
  | nil => simp only [ite_eq_left_iff, Bool.or_eq_true, beq_iff_eq, reduceCtorEq, imp_false,
      not_not, true_and]
  | cons first tail => simp only [reduceCtorEq, false_and]

theorem tryRecv_eq_empty {channel : Channel capacity α} :
    channel.tryRecv = .empty ↔
      channel.queue = [] ∧ channel.closed = false ∧ channel.senders ≠ 0 := by
  unfold tryRecv
  cases channel.queue with
  | nil => simp only [ite_eq_right_iff, Bool.or_eq_true, beq_iff_eq, reduceCtorEq, imp_false,
      not_or, Bool.not_eq_true, true_and, ne_eq]
  | cons first tail => simp only [reduceCtorEq, false_and]

/-- A received message was at the front. -/
theorem queue_of_message {channel rest : Channel capacity α} {head : α}
    (received : channel.tryRecv = .message head rest) :
    channel.queue = head :: rest.queue := by
  obtain ⟨first, rfl⟩ := tryRecv_eq_message.mp received
  exact (List.cons_head?_tail (Option.mem_def.mpr first)).symm

end Channel

/-- The abstract queue: what has been taken out, in order, and what is still to
be taken. -/
structure Fifo (α : Type u) where
  taken : List α
  pending : List α
  deriving DecidableEq

namespace Fifo

variable {α : Type u}

/-- Everything that was ever put in, in order. -/
def put (fifo : Fifo α) : List α := fifo.taken ++ fifo.pending

inductive Action (α : Type u) where
  | put (item : α)
  | take

/-- The queue that is put to at the back and taken from at the front. -/
def system (α : Type u) : Transition.System (Fifo α) (Action α) where
  init := ⟨[], []⟩
  step fifo
    | .put item => some { fifo with pending := fifo.pending ++ [item] }
    | .take =>
      match fifo.pending with
      | [] => none
      | head :: rest => some ⟨fifo.taken ++ [head], rest⟩

/-- What is taken out is a prefix of what was put in: the order is kept, nothing
is skipped and nothing is taken twice. -/
theorem taken_prefix_put (fifo : Fifo α) : fifo.taken <+: fifo.put :=
  List.prefix_append _ _

theorem put_of_put (fifo : Fifo α) (item : α) :
    ({ fifo with pending := fifo.pending ++ [item] } : Fifo α).put = fifo.put ++ [item] := by
  simp only [put, List.append_assoc]

end Fifo

end Sync
