import AsyncNats.Sync.Table

/-! # Objects that hold a pointer

A wrapper object holds at most one raw pointer. A table of such objects, the
operations that change who holds what, and how each of them changes the list of
all held pointers (up to its order, with a repetition for each holder).
-/

namespace Ownership

open Sync

universe u

abbrev ObjectId := Nat

abbrev Pointer := Nat

/-- An object of some class that holds a pointer, or null. -/
structure Wrapper (Class : Type u) where
  kind : Class
  raw : Option Pointer
  deriving DecidableEq, Repr

/-- The objects of a program. -/
abbrev Wrappers (Class : Type u) := Table ObjectId (Wrapper Class)

namespace Wrappers

variable {Class : Type u}

/-- The held pointers, once for each holder. -/
def holders (objects : Wrappers Class) : List Pointer :=
  Table.gather (fun wrapper => wrapper.raw.toList) objects

/-- The pointer an object holds. -/
def raw (objects : Wrappers Class) (object : ObjectId) : Option Pointer :=
  (objects.lookup object).bind Wrapper.raw

/-- `target` gets what `source` is, and `source` holds nothing any more. -/
def move (objects : Wrappers Class) (source target : ObjectId) : Wrappers Class :=
  match objects.lookup source with
  | some wrapper =>
      AList.insert source { wrapper with raw := none } (AList.insert target wrapper objects)
  | none => objects

theorem raw_of_lookup {objects : Wrappers Class} {object : ObjectId} {wrapper : Wrapper Class}
    (found : objects.lookup object = some wrapper) : raw objects object = wrapper.raw := by
  rw [raw, found, Option.bind_some]

/-- What is where after a move. -/
theorem lookup_of_move {objects : Wrappers Class} {source target other : ObjectId}
    {wrapper row : Wrapper Class} (found : objects.lookup source = some wrapper)
    (there : (move objects source target).lookup other = some row) :
    (other = source ∧ row = { wrapper with raw := none }) ∨
      (other ≠ source ∧ other = target ∧ row = wrapper) ∨
      (other ≠ source ∧ other ≠ target ∧ objects.lookup other = some row) := by
  simp only [move, found] at there
  rcases Table.lookup_of_insert there with same | ⟨notSource, there⟩
  · exact .inl same
  · rcases Table.lookup_of_insert there with ⟨same, moved⟩ | ⟨notTarget, old⟩
    · exact .inr (.inl ⟨notSource, same, moved⟩)
    · exact .inr (.inr ⟨notSource, notTarget, old⟩)

@[simp] theorem holders_empty : holders (∅ : Wrappers Class) = [] := rfl

theorem holders_insert (objects : Wrappers Class) (object : ObjectId) (wrapper : Wrapper Class) :
    holders (AList.insert object wrapper objects) =
      wrapper.raw.toList ++ holders (AList.erase object objects) :=
  Table.gather_insert _ objects object wrapper

theorem mem_holders {objects : Wrappers Class} {object : ObjectId} {wrapper : Wrapper Class}
    (found : objects.lookup object = some wrapper) :
    ∀ pointer ∈ wrapper.raw, pointer ∈ holders objects :=
  fun _ held => (Table.mem_gather _).mpr ⟨object, wrapper, found, Option.mem_toList.mpr held⟩

/-- One object's pointer apart from those of the others. -/
theorem holders_perm (objects : Wrappers Class) (object : ObjectId) :
    (holders objects).Perm
      ((raw objects object).toList ++ holders (AList.erase object objects)) := by
  unfold raw
  cases found : objects.lookup object with
  | some wrapper => exact Table.gather_perm_of_lookup _ found
  | none => rw [Table.erase_of_lookup_none found]; exact .refl _

theorem holders_insert_new {objects : Wrappers Class} {object : ObjectId}
    (fresh : objects.lookup object = none) (wrapper : Wrapper Class) :
    holders (AList.insert object wrapper objects) = wrapper.raw.toList ++ holders objects :=
  Table.gather_insert_of_lookup_none _ fresh wrapper

/-- Overwriting an object loses the pointer it held. -/
theorem holders_insert_perm (objects : Wrappers Class) (object : ObjectId)
    (wrapper : Wrapper Class) :
    ((raw objects object).toList ++ holders (AList.insert object wrapper objects)).Perm
      (wrapper.raw.toList ++ holders objects) := by
  rw [holders_insert]
  refine (List.perm_append_comm_assoc _ _ _).trans ?_
  exact (holders_perm objects object).symm.append_left _

/-- Moving between two objects loses the pointer that the target held, and no other. -/
theorem holders_move {objects : Wrappers Class} {source target : ObjectId}
    {wrapper : Wrapper Class} (found : objects.lookup source = some wrapper)
    (distinct : source ≠ target) :
    ((raw objects target).toList ++ holders (move objects source target)).Perm
      (holders objects) := by
  have moved : move objects source target = AList.insert source { wrapper with raw := none }
      (AList.insert target wrapper objects) := by simp only [move, found]
  have kept : raw (AList.insert target wrapper objects) source = wrapper.raw := by
    exact raw_of_lookup ((AList.lookup_insert_ne distinct).trans found)
  have placed := holders_insert_perm objects target wrapper
  have emptied :=
    holders_insert_perm (AList.insert target wrapper objects) source { wrapper with raw := none }
  rw [kept, Option.toList_none, List.nil_append, ← moved] at emptied
  refine (List.perm_append_left_iff wrapper.raw.toList).mp ?_
  refine (List.perm_append_comm_assoc _ _ _).trans ?_
  exact (emptied.append_left _).trans placed

/-- Moving to a new object keeps the held pointers. -/
theorem holders_move_new {objects : Wrappers Class} {source target : ObjectId}
    {wrapper : Wrapper Class} (found : objects.lookup source = some wrapper)
    (fresh : objects.lookup target = none) :
    (holders (move objects source target)).Perm (holders objects) := by
  have distinct : source ≠ target := by
    rintro rfl
    rw [fresh] at found
    cases found
  have moved := holders_move found distinct
  rw [raw, fresh] at moved
  exact moved

end Wrappers

end Ownership
