import AsyncNats.Ownership.Wrappers
import Mathlib.Data.List.Count

/-! # The handles that cross a boundary

A ledger lists what happens to handles between a program and a library: references to
objects of the library come out, handles are lent to a function, given away for good, or
deleted. A handle may be null. `Kept` says of a ledger that a list of holders stands for the
references that are out, and that no handle went in after the last reference was back.
-/

namespace Ownership

/-- What happens to one handle. -/
inductive Entry where
  | made (pointer : Pointer)
  | lent (handle : Option Pointer)
  | given (handle : Option Pointer)
  | deleted (handle : Option Pointer)
  deriving DecidableEq, Repr

/-- The handle that goes in, if one does. -/
def Entry.handle : Entry → Option (Option Pointer)
  | .made _ => none
  | .lent handle | .given handle | .deleted handle => some handle

abbrev Ledger := List Entry

namespace Ledger

/-- The number of references to an object that came out. -/
def made (ledger : Ledger) (pointer : Pointer) : Nat := ledger.count (.made pointer)

def given (ledger : Ledger) (pointer : Pointer) : Nat := ledger.count (.given (some pointer))

def deleted (ledger : Ledger) (pointer : Pointer) : Nat := ledger.count (.deleted (some pointer))

theorem made_concat_self (ledger : Ledger) (pointer : Pointer) :
    made (ledger ++ [.made pointer]) pointer = ledger.made pointer + 1 := by
  rw [made, List.count_append, List.count_singleton_self, made]

theorem made_concat_of_ne {ledger : Ledger} {entry : Entry} {pointer : Pointer}
    (distinct : entry ≠ .made pointer) :
    made (ledger ++ [entry]) pointer = ledger.made pointer := by
  rw [made, List.count_append, List.count_cons_of_ne distinct, List.count_nil, Nat.add_zero, made]

/-- Some reference to the object is out. -/
def Live (ledger : Ledger) (pointer : Pointer) : Prop :=
  ledger.given pointer + ledger.deleted pointer < ledger.made pointer

/-- No handle went in when no reference was out any more. -/
def Clean (ledger : Ledger) : Prop :=
  ∀ before entry after, ledger = before ++ entry :: after →
    ∀ pointer, entry.handle = some (some pointer) → Live before pointer

/-- No null went in. -/
def NoNull (ledger : Ledger) : Prop := ∀ entry ∈ ledger, entry.handle ≠ some none

instance decidableNoNull (ledger : Ledger) : Decidable ledger.NoNull :=
  inferInstanceAs (Decidable (∀ entry ∈ ledger, entry.handle ≠ some none))

theorem clean_nil : Clean [] := fun before entry after split => by
  cases before <;> cases split

/-- A clean ledger goes on with an entry whose handle is live. -/
theorem Clean.concat {ledger : Ledger} {last : Entry} (clean : ledger.Clean)
    (live : ∀ pointer, last.handle = some (some pointer) → Live ledger pointer) :
    Clean (ledger ++ [last]) := by
  intro before entry after split
  rcases List.eq_nil_or_concat after with rfl | ⟨more, final, rfl⟩
  · obtain ⟨rfl, same⟩ := List.append_inj' split rfl
    cases same
    exact live
  · rw [List.concat_eq_append, ← List.cons_append, ← List.append_assoc] at split
    obtain ⟨rfl, _⟩ := List.append_inj' split rfl
    exact clean before entry more rfl

theorem noNull_concat {ledger : Ledger} {entry : Entry} :
    NoNull (ledger ++ [entry]) ↔ NoNull ledger ∧ entry.handle ≠ some none := by
  simp only [NoNull, List.forall_mem_append, List.forall_mem_singleton]

end Ledger

/-- The holders stand for the references that are out, and the ledger is clean. -/
structure Kept (holders : List Pointer) (ledger : Ledger) : Prop where
  balanced : ∀ pointer, holders.count pointer + (ledger.given pointer + ledger.deleted pointer) =
    ledger.made pointer
  clean : ledger.Clean

namespace Kept

variable {holders other : List Pointer} {ledger : Ledger} {pointer : Pointer}
  {handle : Option Pointer}

theorem nil : Kept [] [] where
  balanced := fun _ => rfl
  clean := Ledger.clean_nil

theorem perm (kept : Kept holders ledger) (same : holders.Perm other) : Kept other ledger where
  balanced := fun pointer => same.count_eq pointer ▸ kept.balanced pointer
  clean := kept.clean

theorem live (kept : Kept holders ledger) (held : pointer ∈ holders) : ledger.Live pointer := by
  have balanced := kept.balanced pointer
  have positive := List.count_pos_iff.mpr held
  unfold Ledger.Live
  omega

/-- Another reference comes out, to an old or a new object. -/
theorem make (kept : Kept holders ledger) (pointer : Pointer) :
    Kept (pointer :: holders) (ledger ++ [.made pointer]) where
  balanced := fun other => by
    have balanced := kept.balanced other
    simp only [Ledger.given, Ledger.deleted, Ledger.made, List.count_append, List.count_cons,
      List.count_nil, beq_iff_eq, reduceCtorEq, ↓reduceIte, Entry.made.injEq] at balanced ⊢
    omega
  clean := kept.clean.concat fun _ goes => by cases goes

/-- A handle goes in and nothing changes hands. -/
theorem lend (kept : Kept holders ledger) (held : ∀ pointer ∈ handle, pointer ∈ holders) :
    Kept holders (ledger ++ [.lent handle]) where
  balanced := fun other => by
    have balanced := kept.balanced other
    simp only [Ledger.given, Ledger.deleted, Ledger.made, List.count_append, List.count_cons,
      List.count_nil, beq_iff_eq, reduceCtorEq, ↓reduceIte] at balanced ⊢
    omega
  clean := kept.clean.concat fun pointer goes => by
    cases goes
    exact kept.live (held pointer rfl)

/-- A holder gives its reference away. -/
theorem give (kept : Kept (handle.toList ++ holders) ledger) :
    Kept holders (ledger ++ [.given handle]) where
  balanced := fun other => by
    have balanced := kept.balanced other
    cases handle <;>
      simp only [Ledger.given, Ledger.deleted, Ledger.made, List.count_append, List.count_cons,
        List.count_nil, beq_iff_eq, reduceCtorEq, ↓reduceIte, Option.toList_none,
        Option.toList_some, Entry.given.injEq, Option.some.injEq] at balanced ⊢ <;>
      omega
  clean := kept.clean.concat fun pointer goes => by
    cases goes
    exact kept.live List.mem_cons_self

/-- A holder deletes what it holds. -/
theorem delete (kept : Kept (handle.toList ++ holders) ledger) :
    Kept holders (ledger ++ [.deleted handle]) where
  balanced := fun other => by
    have balanced := kept.balanced other
    cases handle <;>
      simp only [Ledger.given, Ledger.deleted, Ledger.made, List.count_append, List.count_cons,
        List.count_nil, beq_iff_eq, reduceCtorEq, ↓reduceIte, Option.toList_none,
        Option.toList_some, Entry.deleted.injEq, Option.some.injEq] at balanced ⊢ <;>
      omega
  clean := kept.clean.concat fun pointer goes => by
    cases goes
    exact kept.live List.mem_cons_self

/-- When nobody holds anything, every reference that came out has gone back. -/
theorem settled (kept : Kept [] ledger) (pointer : Pointer) :
    ledger.given pointer + ledger.deleted pointer = ledger.made pointer := by
  rw [← kept.balanced pointer, List.count_nil, Nat.zero_add]

end Kept

end Ownership
