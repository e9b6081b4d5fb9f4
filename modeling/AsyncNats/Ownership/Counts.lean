import AsyncNats.Ownership.Wrappers
import Mathlib.Data.List.Count

/-! # Reference counts

A heap of counted objects: `retain` and `release` are undefined on an object that
has been freed. `Counted` says that the counters are right for a list of holders,
and each operation keeps it when the holders change with the counters.
-/

namespace Ownership

open Sync

/-- The live objects with their counters. -/
abbrev Counters := Table Pointer Nat

namespace Counters

/-- `fetch_add(1)`. -/
def retain (counters : Counters) (pointer : Pointer) : Option Counters :=
  (counters.lookup pointer).map fun refs => AList.insert pointer (refs + 1) counters

/-- `fetch_sub(1)`, and the object is freed if the counter was one. -/
def release (counters : Counters) (pointer : Pointer) : Option Counters :=
  (counters.lookup pointer).map fun refs =>
    if refs = 1 then AList.erase pointer counters else AList.insert pointer (refs - 1) counters

/-- Release what a pointer refers to, unless it is null. -/
def releaseRaw (counters : Counters) : Option Pointer → Option Counters
  | none => some counters
  | some pointer => release counters pointer

/-- Retain what a pointer refers to, unless it is null. -/
def retainRaw (counters : Counters) : Option Pointer → Option Counters
  | none => some counters
  | some pointer => retain counters pointer

end Counters

/-- An object is live if somebody holds it, and its counter is the number of its
holders. -/
def Counted (counters : Counters) (holders : List Pointer) : Prop :=
  ∀ pointer, counters.lookup pointer =
    if pointer ∈ holders then some (holders.count pointer) else none

namespace Counted

variable {counters : Counters} {holders other : List Pointer} {pointer : Pointer}

theorem perm (counted : Counted counters holders) (same : holders.Perm other) :
    Counted counters other := by
  intro pointer
  rw [counted pointer, same.count_eq]
  by_cases member : pointer ∈ holders
  · rw [if_pos member, if_pos (same.mem_iff.mp member)]
  · rw [if_neg member, if_neg fun held => member (same.mem_iff.mpr held)]

theorem lookup_of_mem (counted : Counted counters holders) (member : pointer ∈ holders) :
    counters.lookup pointer = some (holders.count pointer) := by
  rw [counted pointer, if_pos member]

/-- A counter that changes by one along with the holders of its object. -/
theorem insert_cons (counted : Counted counters holders) (pointer : Pointer) :
    Counted (AList.insert pointer (holders.count pointer + 1) counters) (pointer :: holders) := by
  intro any
  by_cases same : any = pointer
  · subst same
    rw [AList.lookup_insert, if_pos List.mem_cons_self, List.count_cons_self]
  · rw [AList.lookup_insert_ne same, counted any, List.count_cons_of_ne fun eq => same eq.symm]
    by_cases member : any ∈ holders
    · rw [if_pos member, if_pos (List.mem_cons_of_mem _ member)]
    · rw [if_neg member, if_neg fun held => member ((List.mem_cons.mp held).resolve_left same)]

/-- A new object with one holder. -/
theorem create (counted : Counted counters holders) (fresh : pointer ∉ holders) :
    Counted (AList.insert pointer 1 counters) (pointer :: holders) := by
  have inserted := counted.insert_cons pointer
  rw [List.count_eq_zero_of_not_mem fresh] at inserted
  exact inserted

theorem retain (counted : Counted counters holders) (held : pointer ∈ holders) :
    ∃ next, Counters.retain counters pointer = some next ∧
      Counted next (pointer :: holders) := by
  refine ⟨_, ?_, counted.insert_cons pointer⟩
  rw [Counters.retain, counted.lookup_of_mem held, Option.map_some]

theorem release (counted : Counted counters (pointer :: holders)) :
    ∃ next, Counters.release counters pointer = some next ∧ Counted next holders := by
  have found := counted.lookup_of_mem List.mem_cons_self
  rw [List.count_cons_self] at found
  rw [Counters.release, found, Option.map_some]
  refine ⟨_, rfl, fun any => ?_⟩
  by_cases same : any = pointer
  · subst same
    by_cases last : holders.count any = 0
    · rw [if_pos (by omega), AList.lookup_erase, if_neg (List.count_eq_zero.mp last)]
    · rw [if_neg (by omega), AList.lookup_insert,
        if_pos (List.count_pos_iff.mp (Nat.pos_of_ne_zero last)), Nat.add_sub_cancel]
  · have before := counted any
    rw [List.count_cons_of_ne fun eq => same eq.symm] at before
    have kept : ∀ next : Counters, next.lookup any = counters.lookup any →
        next.lookup any = if any ∈ holders then some (holders.count any) else none := by
      intro next unchanged
      rw [unchanged, before]
      by_cases member : any ∈ holders
      · rw [if_pos member, if_pos (List.mem_cons_of_mem _ member)]
      · rw [if_neg member, if_neg fun held => member ((List.mem_cons.mp held).resolve_left same)]
    by_cases last : holders.count pointer + 1 = 1
    · rw [if_pos last]
      exact kept _ (AList.lookup_erase_ne same)
    · rw [if_neg last]
      exact kept _ (AList.lookup_insert_ne same)

theorem releaseRaw {raw : Option Pointer} (counted : Counted counters (raw.toList ++ holders)) :
    ∃ next, Counters.releaseRaw counters raw = some next ∧ Counted next holders := by
  cases raw with
  | none => exact ⟨counters, rfl, counted⟩
  | some pointer => exact counted.release

theorem retainRaw {raw : Option Pointer} (counted : Counted counters holders)
    (held : ∀ pointer ∈ raw, pointer ∈ holders) :
    ∃ next, Counters.retainRaw counters raw = some next ∧
      Counted next (raw.toList ++ holders) := by
  cases raw with
  | none => exact ⟨counters, rfl, counted⟩
  | some pointer => exact counted.retain (held pointer rfl)

end Counted

end Ownership
