import AsyncNats.Ownership.Wrappers

/-! # Blocks that are taken and given back

An allocator hands out blocks and takes each of them back with the size that the program says it
has. An allocator that does not look at that size works all the same, so that a wrong size shows
only in the log of what came back. `Held` says that some holders stand for live blocks, each for
one of its own, and that nothing came back twice.
-/

namespace Ownership

open Sync

universe u

/-- A block that came back as one of `size` bytes. -/
structure Release (Content : Type u) where
  pointer : Pointer
  content : Content
  size : Nat
  deriving DecidableEq, Repr

/-- The live blocks with what they were made for, a counter for new ones, and what came back. -/
structure Allocator (Content : Type u) where
  blocks : Table Pointer Content
  created : Pointer
  releases : List (Release Content)

namespace Allocator

variable {Content : Type u}

def empty : Allocator Content where
  blocks := ∅
  created := 0
  releases := []

def alloc (allocator : Allocator Content) (content : Content) : Pointer × Allocator Content :=
  (allocator.created,
    { allocator with
      blocks := allocator.blocks.insert allocator.created content
      created := allocator.created + 1 })

/-- Without a block at the pointer it is undefined behaviour. -/
def release (allocator : Allocator Content) (pointer : Pointer) (size : Nat) :
    Option (Allocator Content) :=
  (allocator.blocks.lookup pointer).map fun content =>
    { allocator with
      blocks := allocator.blocks.erase pointer
      releases := allocator.releases ++ [⟨pointer, content, size⟩] }

/-- Each block came back with the size it was taken with. -/
def Matched (size : Content → Nat) (allocator : Allocator Content) : Prop :=
  ∀ release ∈ allocator.releases, release.size = size release.content

instance decidableMatched (size : Content → Nat) (allocator : Allocator Content) :
    Decidable (Matched size allocator) :=
  inferInstanceAs (Decidable (∀ release ∈ allocator.releases, release.size = size release.content))

variable {allocator after : Allocator Content} {pointer : Pointer} {count : Nat}
  {size : Content → Nat}

theorem matched_empty (size : Content → Nat) : Matched size (empty : Allocator Content) :=
  fun _ member => by cases member

@[simp] theorem matched_alloc (content : Content) :
    Matched size (allocator.alloc content).2 ↔ Matched size allocator := Iff.rfl

theorem release_eq_some_iff : allocator.release pointer count = some after ↔
    ∃ content, allocator.blocks.lookup pointer = some content ∧
      { allocator with
        blocks := allocator.blocks.erase pointer
        releases := allocator.releases ++ [⟨pointer, content, count⟩] } = after :=
  Option.map_eq_some_iff

/-- All blocks have come back right if those before have and this one does. -/
theorem matched_release (released : allocator.release pointer count = some after) :
    Matched size after ↔ Matched size allocator ∧
      ∀ content, allocator.blocks.lookup pointer = some content → count = size content := by
  obtain ⟨content, found, rfl⟩ := release_eq_some_iff.mp released
  simp only [Matched, List.forall_mem_append, List.forall_mem_singleton, found,
    Option.some.injEq, forall_eq']

end Allocator

variable {Content : Type u}

/-- The holders stand for blocks that are live, and each block came back at most once. -/
structure Held (holders : List Pointer) (allocator : Allocator Content) : Prop where
  nodup : holders.Nodup
  live : ∀ pointer ∈ holders, ∃ content, allocator.blocks.lookup pointer = some content
  numbered : ∀ pointer content, allocator.blocks.lookup pointer = some content →
    pointer < allocator.created
  spent : ∀ release ∈ allocator.releases, release.pointer < allocator.created ∧
    allocator.blocks.lookup release.pointer = none
  once : (allocator.releases.map Release.pointer).Nodup

namespace Held

variable {holders other : List Pointer} {allocator : Allocator Content} {pointer : Pointer}

theorem empty : Held [] (Allocator.empty : Allocator Content) where
  nodup := List.nodup_nil
  live := fun _ member => by cases member
  numbered := fun _ _ found => by cases found
  spent := fun _ member => by cases member
  once := List.nodup_nil

theorem perm (held : Held holders allocator) (same : holders.Perm other) :
    Held other allocator where
  nodup := same.nodup_iff.mp held.nodup
  live := fun pointer member => held.live pointer (same.mem_iff.mpr member)
  numbered := held.numbered
  spent := held.spent
  once := held.once

/-- The one who allocates a block holds it. -/
theorem alloc (held : Held holders allocator) (content : Content) :
    Held ((allocator.alloc content).1 :: holders) (allocator.alloc content).2 where
  nodup := by
    refine List.nodup_cons.mpr ⟨fun member => ?_, held.nodup⟩
    obtain ⟨old, found⟩ := held.live _ member
    exact absurd (held.numbered _ old found) (Nat.lt_irrefl _)
  live := by
    intro pointer member
    refine Table.exists_lookup_insert (fun apart => ?_) content
    rcases List.mem_cons.mp member with rfl | member
    · exact absurd rfl apart
    · exact held.live pointer member
  numbered := Table.numbered_insert held.numbered content
  spent := by
    intro release member
    obtain ⟨below, gone⟩ := held.spent release member
    refine ⟨Nat.lt_succ_of_lt below, ?_⟩
    exact (AList.lookup_insert_ne (Nat.ne_of_lt below)).trans gone
  once := held.once

/-- A holder gives its block back. -/
theorem release (held : Held (pointer :: holders) allocator) (size : Nat) :
    ∃ after, allocator.release pointer size = some after ∧ Held holders after := by
  obtain ⟨content, found⟩ := held.live pointer List.mem_cons_self
  obtain ⟨unheld, nodup⟩ := List.nodup_cons.mp held.nodup
  refine ⟨_, Allocator.release_eq_some_iff.mpr ⟨content, found, rfl⟩, ?_⟩
  constructor
  · exact nodup
  · intro other member
    obtain ⟨content, found⟩ := held.live other (List.mem_cons_of_mem _ member)
    have apart : other ≠ pointer := by
      rintro rfl
      exact unheld member
    exact ⟨content, (AList.lookup_erase_ne apart).trans found⟩
  · exact Table.forall_erase held.numbered
  · refine List.forall_mem_append.mpr ⟨fun release member => ?_, List.forall_mem_singleton.mpr ?_⟩
    · obtain ⟨below, gone⟩ := held.spent release member
      refine ⟨below, ?_⟩
      by_cases same : release.pointer = pointer
      · rw [same, AList.lookup_erase]
      · rw [AList.lookup_erase_ne same, gone]
    · exact ⟨held.numbered pointer content found, AList.lookup_erase ..⟩
  · rw [List.map_append, List.map_singleton]
    refine List.nodup_append.mpr ⟨held.once, List.nodup_singleton _, ?_⟩
    rintro _ member _ (mem : _ ∈ [pointer]) rfl
    obtain ⟨release, before, rfl⟩ := List.mem_map.mp member
    rw [← List.mem_singleton.mp mem, (held.spent release before).2] at found
    cases found

end Held

end Ownership
