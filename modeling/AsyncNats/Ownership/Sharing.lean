import AsyncNats.Ownership.Counts
import AsyncNats.Transition.System

/-! # A heap of shared objects

The abstract heap behind reference counting: an object is made with one reference, whoever has
a reference may make another one, and giving the last one up frees the object, all in one step
each.
-/

namespace Ownership

open Sync Transition

/-- The counters of the live objects, the references, and a counter for new objects. -/
structure Sharing where
  counters : Counters
  holders : List Pointer
  created : Pointer

namespace Sharing

inductive Action where
  | create
  | retain (pointer : Pointer)
  | release (pointer : Pointer)

def system : System Sharing Action where
  init := ⟨∅, [], 0⟩
  step sharing
    | .create => some
        { counters := AList.insert sharing.created 1 sharing.counters
          holders := sharing.created :: sharing.holders
          created := sharing.created + 1 }
    | .retain pointer =>
      if pointer ∈ sharing.holders then
        (sharing.counters.retain pointer).map fun counters =>
          { sharing with counters, holders := pointer :: sharing.holders }
      else none
    | .release pointer =>
      if pointer ∈ sharing.holders then
        (sharing.counters.release pointer).map fun counters =>
          { sharing with counters, holders := sharing.holders.erase pointer }
      else none

/-- The counters count the references, and new objects are new. -/
structure Sound (sharing : Sharing) : Prop where
  counted : Counted sharing.counters sharing.holders
  created : ∀ pointer ∈ sharing.holders, pointer < sharing.created

namespace Sound

variable {sharing : Sharing} {pointer : Pointer}

theorem init : Sound system.init :=
  ⟨fun _ => rfl, fun _ member => (List.not_mem_nil member).elim⟩

theorem create (sound : Sound sharing) : ∃ next, system.step sharing .create = some next ∧
    Sound next ∧ next.counters = AList.insert sharing.created 1 sharing.counters ∧
    next.holders = sharing.created :: sharing.holders ∧ next.created = sharing.created + 1 := by
  refine ⟨_, rfl, ⟨?_, ?_⟩, rfl, rfl, rfl⟩
  · exact sound.counted.create fun member => Nat.lt_irrefl _ (sound.created _ member)
  · refine List.forall_mem_cons.mpr ⟨Nat.lt_succ_self _, ?_⟩
    exact fun pointer member => Nat.lt_succ_of_lt (sound.created pointer member)

theorem retain (sound : Sound sharing) (held : pointer ∈ sharing.holders) :
    ∃ next, system.step sharing (.retain pointer) = some next ∧ Sound next ∧
      next.counters =
        AList.insert pointer (sharing.holders.count pointer + 1) sharing.counters ∧
      next.holders = pointer :: sharing.holders ∧ next.created = sharing.created := by
  have retained : sharing.counters.retain pointer =
      some (AList.insert pointer (sharing.holders.count pointer + 1) sharing.counters) := by
    rw [Counters.retain, sound.counted.lookup_of_mem held, Option.map_some]
  refine ⟨⟨AList.insert pointer (sharing.holders.count pointer + 1) sharing.counters,
    pointer :: sharing.holders, sharing.created⟩, ?_, ⟨?_, ?_⟩, rfl, rfl, rfl⟩
  · simp only [system, if_pos held, retained, Option.map_some]
  · exact sound.counted.insert_cons pointer
  · exact List.forall_mem_cons.mpr ⟨sound.created pointer held, sound.created⟩

theorem release (sound : Sound sharing) (held : pointer ∈ sharing.holders) :
    ∃ next, system.step sharing (.release pointer) = some next ∧ Sound next ∧
      next.counters = (if sharing.holders.count pointer = 1 then
        AList.erase pointer sharing.counters
      else AList.insert pointer (sharing.holders.count pointer - 1) sharing.counters) ∧
      next.holders = sharing.holders.erase pointer ∧ next.created = sharing.created := by
  have found := sound.counted.lookup_of_mem held
  have split := sound.counted.perm (List.perm_cons_erase held)
  obtain ⟨counters, released, counted⟩ := split.release
  refine ⟨⟨counters, sharing.holders.erase pointer, sharing.created⟩, ?_, ⟨counted, ?_⟩, ?_,
    rfl, rfl⟩
  · simp only [system, if_pos held, released, Option.map_some]
  · exact fun other member => sound.created other (List.mem_of_mem_erase member)
  · rw [Counters.release, found, Option.map_some] at released
    exact (Option.some.inj released).symm

end Sound

end Sharing

end Ownership
