import AsyncNats.Facade.Runs

/-! # Accounts of the boundary

A list of holders accounts for a boundary if it stands for the references that are out, a box
that is not made yet has none, and a box that is not counted came out once. Each function of
the boundary keeps the accounts when the holders change with it.
-/

namespace AsyncNats.Facade

open Sync Ownership Transition

structure Accounts (holders : List Pointer) (boundary : Boundary) : Prop where
  kept : Kept holders boundary.ledger
  fresh : ∀ pointer, boundary.boxes[pointer]? = none → boundary.ledger.made pointer = 0
  once : ∀ pointer kind, boundary.boxes[pointer]? = some kind → kind.counted = false →
    boundary.ledger.made pointer = 1

/-- A function keeps the accounts with what it returns as another holder, which has its
type. It may make boxes. -/
structure Gives (holders : List Pointer) (before : Boundary) (kind : Kind)
    (made : Option Pointer × Boundary) : Prop where
  accounts : Accounts (made.1.toList ++ holders) made.2
  grown : before.boxes <+: made.2.boxes
  typed : ∀ pointer ∈ made.1, made.2.boxes[pointer]? = some kind

/-- Old boxes keep their types. -/
theorem getElem?_of_prefix {before after : List Kind} (grown : before <+: after)
    {pointer : Pointer} {kind : Kind} (there : before[pointer]? = some kind) :
    after[pointer]? = some kind := by
  obtain ⟨bound, same⟩ := List.getElem?_eq_some_iff.mp there
  rw [List.prefix_iff_getElem?.mp grown pointer bound, same]

namespace Accounts

variable {holders other : List Pointer} {boundary : Boundary} {pointer : Pointer} {kind : Kind}
  {handle : Option Pointer}

theorem perm (accounts : Accounts holders boundary) (same : holders.Perm other) :
    Accounts other boundary where
  kept := accounts.kept.perm same
  fresh := accounts.fresh
  once := accounts.once

/-- An entry that is no new reference. -/
theorem record (accounts : Accounts holders boundary) {entry : Entry}
    (quiet : ∀ pointer, entry ≠ .made pointer) (kept : Kept other (boundary.ledger ++ [entry])) :
    Accounts other (boundary.record entry) where
  kept := kept
  fresh := fun pointer absent => by
    rw [Boundary.record, Ledger.made_concat_of_ne (quiet pointer)]
    exact accounts.fresh pointer absent
  once := fun pointer kind there single => by
    rw [Boundary.record, Ledger.made_concat_of_ne (quiet pointer)]
    exact accounts.once pointer kind there single

theorem lend (accounts : Accounts holders boundary) (held : ∀ pointer ∈ handle, pointer ∈ holders) :
    Accounts holders (boundary.record (.lent handle)) :=
  accounts.record (fun _ same => by cases same) (accounts.kept.lend held)

theorem give (accounts : Accounts (handle.toList ++ holders) boundary) :
    Accounts holders (boundary.record (.given handle)) :=
  accounts.record (fun _ same => by cases same) accounts.kept.give

theorem release (accounts : Accounts (handle.toList ++ holders) boundary) :
    Accounts holders (boundary.release handle) := by
  cases handle with
  | none => exact accounts
  | some pointer => exact accounts.record (fun _ same => by cases same) accounts.kept.delete

/-- Another reference to a counted object. -/
theorem again (accounts : Accounts holders boundary) (there : boundary.boxes[pointer]? = some kind)
    (counted : kind.counted = true) :
    Accounts (pointer :: holders) (boundary.record (.made pointer)) where
  kept := accounts.kept.make pointer
  fresh := fun other absent => by
    have distinct : pointer ≠ other := by
      rintro rfl
      rw [Boundary.record, there] at absent
      cases absent
    rw [Boundary.record, Ledger.made_concat_of_ne fun same => distinct (Entry.made.inj same)]
    exact accounts.fresh other absent
  once := fun other second also single => by
    have distinct : pointer ≠ other := by
      rintro rfl
      cases there.symm.trans also
      rw [counted] at single
      cases single
    rw [Boundary.record, Ledger.made_concat_of_ne fun same => distinct (Entry.made.inj same)]
    exact accounts.once other second also single

theorem intoRaw (accounts : Accounts holders boundary) (kind : Kind) :
    Accounts ((boundary.intoRaw kind).1 :: holders) (boundary.intoRaw kind).2 where
  kept := accounts.kept.make boundary.boxes.length
  fresh := fun pointer absent => by
    have bound := List.getElem?_eq_none_iff.mp absent
    rw [Boundary.intoRaw, List.length_append, List.length_singleton] at bound
    have distinct : boundary.boxes.length ≠ pointer := by omega
    rw [Boundary.intoRaw, Ledger.made_concat_of_ne fun same => distinct (Entry.made.inj same)]
    exact accounts.fresh pointer (List.getElem?_eq_none (by omega))
  once := fun pointer other there single => by
    by_cases same : boundary.boxes.length = pointer
    · subst same
      rw [Boundary.intoRaw, Ledger.made_concat_self,
        accounts.fresh _ (List.getElem?_eq_none (Nat.le_refl _))]
    · rw [Boundary.intoRaw, Ledger.made_concat_of_ne fun again => same (Entry.made.inj again)]
      refine accounts.once pointer other ?_ single
      rw [Boundary.intoRaw, List.getElem?_append] at there
      split at there
      · exact there
      · next later =>
          rw [List.getElem?_singleton, if_neg (by omega)] at there
          cases there

end Accounts

namespace Gives

variable {holders : List Pointer} {boundary : Boundary} {kind : Kind} {raw handle : Option Pointer}

/-- Null is given for nothing. -/
theorem null (accounts : Accounts holders boundary) (kind : Kind) :
    Gives holders boundary kind (none, boundary) where
  accounts := accounts
  grown := List.prefix_rfl
  typed := fun _ held => by cases held

/-- A new box. -/
theorem intoRaw (accounts : Accounts holders boundary) (kind : Kind) :
    Gives holders boundary kind
      (some (boundary.intoRaw kind).1, (boundary.intoRaw kind).2) where
  accounts := accounts.intoRaw kind
  grown := List.prefix_append _ _
  typed := fun pointer held => by
    cases held
    exact List.getElem?_concat_length

theorem respond (accounts : Accounts holders boundary) (handle : Option Pointer) (kind : Kind) :
    Gives holders boundary kind (boundary.respond handle kind) := by
  cases handle with
  | none => exact null accounts kind
  | some pointer => exact intoRaw accounts kind

theorem derive (accounts : Accounts holders boundary) (held : ∀ pointer ∈ raw, pointer ∈ holders)
    (kind : Kind) : Gives holders boundary kind (boundary.derive raw kind) :=
  have gives := respond (accounts.lend held) raw kind
  ⟨gives.accounts, gives.grown, gives.typed⟩

theorem namedReceiverNew (accounts : Accounts (raw.toList ++ holders) boundary) :
    Gives holders boundary .namedReceiver (boundary.namedReceiverNew raw) :=
  have gives := respond accounts.give raw .namedReceiver
  ⟨gives.accounts, gives.grown, gives.typed⟩

theorem clone (accounts : Accounts holders boundary) (held : ∀ pointer ∈ raw, pointer ∈ holders)
    (typed : ∀ pointer ∈ raw, boundary.boxes[pointer]? = some kind) :
    Gives holders boundary kind (boundary.clone kind raw) := by
  unfold Boundary.clone
  by_cases counted : kind.counted = true
  · rw [if_pos counted]
    have lent := accounts.lend held
    cases raw with
    | none => exact ⟨lent, List.prefix_rfl, fun _ held => by cases held⟩
    | some pointer => exact ⟨lent.again (typed pointer rfl) counted, List.prefix_rfl, typed⟩
  · rw [if_neg counted]
    exact derive accounts held kind

theorem copy {kind : Class} (accounts : Accounts holders boundary)
    (held : ∀ pointer ∈ raw, pointer ∈ holders)
    (typed : ∀ pointer ∈ raw, boundary.boxes[pointer]? = some kind.boxed) :
    Gives holders boundary kind.boxed (boundary.copy kind raw) := by
  unfold Boundary.copy
  split
  · exact null accounts kind.boxed
  · exact clone accounts held typed

theorem construct {kind : Class} {made : Option Pointer × Boundary}
    (accounts : Accounts holders boundary) (taken : boundary.construct kind = some made) :
    Gives holders boundary kind.boxed made := by
  cases kind <;> cases taken
  case connectionOptions => exact intoRaw accounts _
  case requestBuilder => exact intoRaw accounts _
  all_goals exact null accounts _

/-- The error is copied and destroyed, and the exception holds the copy. -/
theorem makeExceptionPtr {kind : Class} (accounts : Accounts (raw.toList ++ holders) boundary)
    (typed : ∀ pointer ∈ raw, boundary.boxes[pointer]? = some kind.boxed) :
    Gives holders boundary kind.boxed (boundary.makeExceptionPtr kind raw) := by
  have copied := copy accounts (fun pointer held =>
    List.mem_append_left _ (Option.mem_toList.mpr held)) typed
  refine ⟨?_, ?_, ?_⟩
  · exact (copied.accounts.perm (List.perm_append_comm_assoc ..)).release
  · cases raw <;> exact copied.grown
  · cases raw <;> exact copied.typed

end Gives

end AsyncNats.Facade
