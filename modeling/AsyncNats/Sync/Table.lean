import Mathlib.Data.List.AList
import Mathlib.Data.List.Perm.Basic

/-! # Keyed tables and what their rows hold

A table is Mathlib's `AList` with one type of rows. `gather` lists what all rows
hold together, with repetitions, so that a resource held by several rows is
counted once for each. Replacing or removing a row changes it by what that row
holds, up to the order.
-/

namespace Sync

universe u v w

/-- A finite table of rows `α` under distinct keys. -/
abbrev Table (Key : Type u) (α : Type v) := AList fun _ : Key => α

namespace Table

variable {Key : Type u} [DecidableEq Key] {α : Type v} {β : Type w}

theorem lookup_of_erase {table : Table Key α} {key other : Key} {row : α}
    (found : (table.erase key).lookup other = some row) :
    other ≠ key ∧ table.lookup other = some row := by
  have distinct : other ≠ key := by
    rintro rfl
    rw [AList.lookup_erase] at found
    cases found
  exact ⟨distinct, AList.lookup_erase_ne distinct ▸ found⟩

theorem lookup_of_insert {table : Table Key α} {key other : Key} {row added : α}
    (found : (table.insert key added).lookup other = some row) :
    (other = key ∧ row = added) ∨ (other ≠ key ∧ table.lookup other = some row) := by
  by_cases same : other = key
  · subst same
    rw [AList.lookup_insert] at found
    exact Or.inl ⟨rfl, (Option.some.inj found).symm⟩
  · exact Or.inr ⟨same, AList.lookup_insert_ne same ▸ found⟩

/-- The added key has a row, and so has every key that had one. -/
theorem exists_lookup_insert {table : Table Key α} {key other : Key}
    (found : other ≠ key → ∃ row, table.lookup other = some row) (added : α) :
    ∃ row, (table.insert key added).lookup other = some row := by
  by_cases same : other = key
  · exact ⟨added, by rw [same, AList.lookup_insert]⟩
  · rw [AList.lookup_insert_ne same]
    exact found same

/-- A property of all rows that the added row has too. -/
theorem forall_insert {property : Key → α → Prop} {table : Table Key α} {key : Key} {added : α}
    (rows : ∀ other row, table.lookup other = some row → property other row)
    (new : property key added) :
    ∀ other row, (table.insert key added).lookup other = some row → property other row := by
  intro other row found
  rcases lookup_of_insert found with ⟨rfl, rfl⟩ | ⟨_, found⟩
  · exact new
  · exact rows other row found

theorem forall_erase {property : Key → α → Prop} {table : Table Key α} {key : Key}
    (rows : ∀ other row, table.lookup other = some row → property other row) :
    ∀ other row, (table.erase key).lookup other = some row → property other row :=
  fun other row found => rows other row (lookup_of_erase found).2

/-- Keys stay below the next one when a row is added under it. -/
theorem numbered_insert {table : Table Nat α} {fresh : Nat}
    (numbered : ∀ key row, table.lookup key = some row → key < fresh) (added : α) :
    ∀ key row, (table.insert fresh added).lookup key = some row → key < fresh + 1 :=
  forall_insert (fun key row found => Nat.lt_succ_of_lt (numbered key row found))
    (Nat.lt_succ_self _)

/-- Everything the rows hold, row by row. -/
def gather (holds : α → List β) (table : Table Key α) : List β :=
  table.entries.flatMap fun entry => holds entry.2

variable (holds : α → List β)

omit [DecidableEq Key] in
@[simp] theorem gather_empty : gather holds (∅ : Table Key α) = [] := rfl

theorem gather_insert (table : Table Key α) (key : Key) (row : α) :
    gather holds (table.insert key row) = holds row ++ gather holds (table.erase key) := by
  unfold gather
  rw [AList.entries_insert, List.flatMap_cons]
  rfl

theorem erase_of_lookup_none {table : Table Key α} {key : Key}
    (absent : table.lookup key = none) : table.erase key = table := by
  apply AList.ext
  exact List.kerase_of_notMem_keys (AList.lookup_eq_none.mp absent)

/-- A new row adds what it holds. -/
theorem gather_insert_of_lookup_none {table : Table Key α} {key : Key}
    (absent : table.lookup key = none) (row : α) :
    gather holds (table.insert key row) = holds row ++ gather holds table := by
  rw [gather_insert, erase_of_lookup_none absent]

/-- Taking one row apart from the rest. -/
theorem gather_perm_of_lookup {table : Table Key α} {key : Key} {row : α}
    (found : table.lookup key = some row) :
    (gather holds table).Perm (holds row ++ gather holds (table.erase key)) := by
  have member : key ∈ table.entries.keys :=
    AList.lookup_isSome.mp (Option.isSome_iff_exists.mpr ⟨row, found⟩)
  obtain ⟨value, front, back, absent, split, erased⟩ := List.exists_of_kerase member
  have same : value = row := by
    have located : table.entries.dlookup key = some row := found
    rw [split, List.dlookup_append, List.dlookup_eq_none.mpr absent,
      List.dlookup_cons_eq] at located
    exact Option.some.inj located
  subst same
  have rest : (table.erase key).entries = front ++ back := erased
  unfold gather
  rw [rest, split, List.flatMap_append, List.flatMap_cons, List.flatMap_append]
  exact (List.perm_append_comm_assoc ..)

/-- What one row holds is among what the table holds. -/
theorem mem_gather {table : Table Key α} {item : β} :
    item ∈ gather holds table ↔ ∃ key row, table.lookup key = some row ∧ item ∈ holds row := by
  simp only [gather, List.mem_flatMap]
  constructor
  · rintro ⟨⟨key, row⟩, member, held⟩
    exact ⟨key, row, List.mem_dlookup table.nodupKeys member, held⟩
  · rintro ⟨key, row, found, held⟩
    exact ⟨⟨key, row⟩, List.of_mem_dlookup found, held⟩

/-- What the row of a key holds, if it has one. -/
def holdsAt (table : Table Key α) (key : Key) : List β := (table.lookup key).elim [] holds

theorem holdsAt_of_lookup {table : Table Key α} {key : Key} {row : α}
    (found : table.lookup key = some row) : holdsAt holds table key = holds row := by
  rw [holdsAt, found, Option.elim_some]

theorem holdsAt_of_lookup_none {table : Table Key α} {key : Key}
    (absent : table.lookup key = none) : holdsAt holds table key = [] := by
  rw [holdsAt, absent, Option.elim_none]

section Count

variable [DecidableEq β] (table : Table Key α) (key : Key) (item : β)

omit [DecidableEq β] in
/-- What one key holds apart from the rest. -/
theorem gather_perm : (gather holds table).Perm
    (holdsAt holds table key ++ gather holds (table.erase key)) := by
  cases found : table.lookup key with
  | some row =>
      rw [holdsAt_of_lookup holds found]
      exact gather_perm_of_lookup holds found
  | none =>
      rw [holdsAt_of_lookup_none holds found, erase_of_lookup_none found]
      exact .refl _

/-- Removing a row takes what it holds out of the count. -/
theorem count_gather_erase : (gather holds (table.erase key)).count item +
    (holdsAt holds table key).count item = (gather holds table).count item := by
  rw [(gather_perm holds table key).count_eq item, List.count_append, Nat.add_comm]

/-- Replacing a row replaces what it holds in the count. -/
theorem count_gather_insert (row : α) : (gather holds (table.insert key row)).count item +
    (holdsAt holds table key).count item =
      (holds row).count item + (gather holds table).count item := by
  rw [gather_insert, List.count_append, Nat.add_assoc, count_gather_erase]

/-- Replacing two rows at once. -/
theorem count_gather_insert_insert {other : Key} (distinct : other ≠ key) (row added : α) :
    (gather holds ((table.insert key row).insert other added)).count item +
        ((holdsAt holds table other).count item + (holdsAt holds table key).count item) =
      (holds added).count item + (holds row).count item + (gather holds table).count item := by
  have first := count_gather_insert holds table key item row
  have second := count_gather_insert holds (table.insert key row) other item added
  have kept : holdsAt holds (table.insert key row) other = holdsAt holds table other := by
    rw [holdsAt, holdsAt, AList.lookup_insert_ne distinct]
  rw [kept] at second
  omega

end Count

end Table

end Sync
