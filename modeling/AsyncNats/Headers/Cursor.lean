import AsyncNats.Headers.View
import AsyncNats.Transition.System
import Mathlib.Logic.Function.Iterate

/-! # The cursor of a view

A `HeaderVectorView::Iterator` moves in single steps and in bulk over the positions from `0` to
the size of its view, in arithmetic modulo `2 ^ 64`. The single steps stop at both ends, and
`operator+` does not leave the range even if its guard wraps around. `operator+` does not go
to the end itself, and the guard of `operator-` is the wrong way round: it lets through the
distances that are too long.
-/

namespace AsyncNats.Headers.HeaderVectorView

open Transition

namespace Iterator

/-- `operator+`. -/
def plus (cursor : Iterator) (size : UInt64) : Iterator :=
  if (cursor.pos + size.toNat) % 2 ^ 64 < cursor.size then
    { cursor with pos := (cursor.pos + size.toNat) % 2 ^ 64 }
  else cursor

/-- `operator--`. -/
def decrement (cursor : Iterator) : Iterator :=
  if cursor.pos ≠ 0 then { cursor with pos := cursor.pos - 1 } else cursor

/-- `operator-`. -/
def minus (cursor : Iterator) (size : UInt64) : Iterator :=
  if cursor.pos ≤ size.toNat then
    { cursor with pos := (cursor.pos + (2 ^ 64 - size.toNat)) % 2 ^ 64 }
  else cursor

/-- `operator==`. -/
def eq (cursor o : Iterator) : Bool := cursor.pos == o.pos

end Iterator

/-- A call that moves a cursor. -/
inductive Move where
  | increment
  | plus (size : UInt64)
  | decrement
  | minus (size : UInt64)
  deriving DecidableEq

def Iterator.move (cursor : Iterator) : Move → Iterator
  | .increment => cursor.increment
  | .plus size => cursor.plus size
  | .decrement => cursor.decrement
  | .minus size => cursor.minus size

/-- All sequences of moves of a cursor. -/
def moves (cursor : Iterator) : System Iterator Move where
  init := cursor
  step := fun cursor move => some (cursor.move move)

/-- Every sequence of moves can be made. -/
theorem moves_run (start cursor : Iterator) (calls : List Move) :
    (moves start).runFrom cursor calls = some (calls.foldl Iterator.move cursor) := by
  induction calls generalizing cursor with
  | nil => rfl
  | cons call rest ih =>
      exact (System.runFrom_cons_eq_some (moves start)).mpr ⟨cursor.move call, rfl, ih _⟩

/-- The cursor belongs to the view and stands inside or at its end. -/
structure Iterator.Within (shown : HeaderVectorView) (cursor : Iterator) : Prop where
  size : cursor.size = shown.size
  pos : cursor.pos ≤ shown.size

/-- A `-` moves no further back than to the beginning, or so far that it comes out in the range
again. -/
def MovesInside (cursor : Iterator) : Move → Prop
  | .minus size => size.toNat ≤ cursor.pos ∨ cursor.pos + 2 ^ 64 ≤ cursor.size + size.toNat
  | .increment | .plus _ | .decrement => True

section Ranges

variable {shown : HeaderVectorView} {cursor : Iterator}

theorem Iterator.minus_of_lt {size : UInt64} (beyond : cursor.pos < size.toNat) :
    cursor.minus size = { cursor with pos := cursor.pos + 2 ^ 64 - size.toNat } := by
  have bound := size.toNat_lt
  have wrapped : (cursor.pos + (2 ^ 64 - size.toNat)) % 2 ^ 64 =
      cursor.pos + 2 ^ 64 - size.toNat := by omega
  rw [Iterator.minus, if_pos (Nat.le_of_lt beyond), wrapped]

theorem Iterator.minus_of_eq {size : UInt64} (same : size.toNat = cursor.pos) :
    cursor.minus size = { cursor with pos := 0 } := by
  have bound := size.toNat_lt
  have wrapped : (cursor.pos + (2 ^ 64 - size.toNat)) % 2 ^ 64 = 0 := by omega
  rw [Iterator.minus, if_pos (Nat.le_of_eq same.symm), wrapped]

theorem Iterator.minus_of_gt {size : UInt64} (before : size.toNat < cursor.pos) :
    cursor.minus size = cursor := if_neg (Nat.not_le.mpr before)

/-- A `-` ends in the range exactly when it moves inside. -/
theorem Iterator.Within.minus_iff (within : cursor.Within shown) (size : UInt64) :
    (cursor.minus size).Within shown ↔ MovesInside cursor (.minus size) := by
  have extent := within.size
  have inside := within.pos
  unfold MovesInside
  rcases Nat.lt_trichotomy size.toNat cursor.pos with before | same | beyond
  · rw [Iterator.minus_of_gt before]
    exact iff_of_true within (.inl (Nat.le_of_lt before))
  · rw [Iterator.minus_of_eq same]
    exact iff_of_true ⟨extent, Nat.zero_le _⟩ (.inl (Nat.le_of_eq same))
  · rw [Iterator.minus_of_lt beyond]
    constructor
    · intro after
      have pos : cursor.pos + 2 ^ 64 - size.toNat ≤ shown.size := after.pos
      omega
    · intro wraps
      refine ⟨extent, ?_⟩
      change cursor.pos + 2 ^ 64 - size.toNat ≤ shown.size
      omega

theorem Iterator.Within.increment (within : cursor.Within shown) (fits : shown.size < 2 ^ 64) :
    cursor.increment.Within shown := by
  have extent := within.size
  unfold Iterator.increment
  split
  · next below =>
      refine ⟨extent, ?_⟩
      change (cursor.pos + 1) % 2 ^ 64 ≤ shown.size
      omega
  · exact within

/-- The sum that the guard compares is the position that the cursor gets. -/
theorem Iterator.Within.plus (within : cursor.Within shown) (size : UInt64) :
    (cursor.plus size).Within shown := by
  have extent := within.size
  unfold Iterator.plus
  split
  · next below => exact ⟨extent, Nat.le_of_lt (extent ▸ below)⟩
  · exact within

theorem Iterator.Within.decrement (within : cursor.Within shown) :
    cursor.decrement.Within shown := by
  unfold Iterator.decrement
  split
  · exact ⟨within.size, Nat.le_trans (Nat.sub_le _ _) within.pos⟩
  · exact within

/-- A move ends in the range exactly when it moves inside. -/
theorem Iterator.Within.move_iff (within : cursor.Within shown) (fits : shown.size < 2 ^ 64)
    (call : Move) : (cursor.move call).Within shown ↔ MovesInside cursor call := by
  cases call with
  | increment => exact iff_of_true (within.increment fits) trivial
  | plus size => exact iff_of_true (within.plus size) trivial
  | decrement => exact iff_of_true within.decrement trivial
  | minus size => exact within.minus_iff size

/-- A move changes the position only. -/
theorem Iterator.move_eq (cursor : Iterator) (call : Move) :
    cursor.move call = { cursor with pos := (cursor.move call).pos } := by
  cases call <;>
    simp only [Iterator.move, Iterator.increment, Iterator.plus, Iterator.decrement,
      Iterator.minus] <;>
    split <;> rfl

theorem Iterator.move_size (cursor : Iterator) (call : Move) :
    (cursor.move call).size = cursor.size := by
  rw [cursor.move_eq call]

theorem Iterator.move_it (cursor : Iterator) (call : Move) :
    (cursor.move call).it = cursor.it := by
  rw [cursor.move_eq call]

theorem iterBegin_within (shown : HeaderVectorView) : shown.iterBegin.Within shown :=
  ⟨rfl, Nat.zero_le _⟩

theorem iterEnd_within (shown : HeaderVectorView) : shown.iterEnd.Within shown :=
  ⟨rfl, Nat.le_refl _⟩

/-- All along a sequence of moves the position is in the range of the view exactly when no `-`
moves out of it. -/
theorem inRange_iff_movesInside (shown : HeaderVectorView) (fits : shown.size < 2 ^ 64)
    {start : Iterator} (given : start = shown.iterBegin ∨ start = shown.iterEnd)
    (calls : List Move) :
    (moves start).Always (fun cursor => 0 ≤ cursor.pos ∧ cursor.pos ≤ shown.size) start calls ↔
      (moves start).Meets MovesInside start calls := by
  have within : start.Within shown := by
    rcases given with rfl | rfl
    · exact iterBegin_within shown
    · exact iterEnd_within shown
  refine System.always_iff_meets (M := moves start) (Iterator.Within shown)
    (fun cursor within => ⟨Nat.zero_le _, within.pos⟩) ?_ ?_ within (moves_run start start calls)
  · intro cursor call next within inside taken
    cases taken
    exact (within.move_iff fits call).mpr inside
  · intro cursor call next within outside taken range
    cases taken
    exact outside ((within.move_iff fits call).mp
      ⟨(cursor.move_size call).trans within.size, range.2⟩)

/-- One step back from the beginning wraps around. -/
theorem not_inRange_of_minus :
    ¬ ∀ shown : HeaderVectorView, shown.size < 2 ^ 64 → ∀ calls : List Move,
      (moves shown.iterBegin).Always (fun cursor => 0 ≤ cursor.pos ∧ cursor.pos ≤ shown.size)
        shown.iterBegin calls := by
  intro always
  have last := (always ⟨true, some 0, 1⟩ (by decide) [.minus 1]).last (moves_run _ _ _)
  exact absurd last.2 (by decide)

/-- To the end and back, beyond the end, and around the whole range of numbers. -/
theorem inRange_iff_movesInside_of_three :
    (moves ⟨some 0, 0, 3⟩).Always (fun cursor => 0 ≤ cursor.pos ∧ cursor.pos ≤ 3) ⟨some 0, 0, 3⟩
        [.plus 2, .increment, .increment, .minus 3, .plus 1, .minus (-1)] ↔
      (moves ⟨some 0, 0, 3⟩).Meets MovesInside ⟨some 0, 0, 3⟩
        [.plus 2, .increment, .increment, .minus 3, .plus 1, .minus (-1)] :=
  inRange_iff_movesInside ⟨true, some 0, 3⟩ (by decide) (.inl rfl) _

end Ranges

/-! Moves in bulk against single steps. -/

section Bulk

variable {shown : HeaderVectorView} {cursor : Iterator}

theorem Iterator.iterate_increment (fits : cursor.size < 2 ^ 64) (count : Nat)
    (inside : cursor.pos + count ≤ cursor.size) :
    Iterator.increment^[count] cursor = { cursor with pos := cursor.pos + count } := by
  induction count with
  | zero => rfl
  | succ count ih =>
      have below : cursor.pos + count < cursor.size := by omega
      have small : (cursor.pos + count + 1) % 2 ^ 64 = cursor.pos + (count + 1) := by omega
      rw [Function.iterate_succ_apply', ih (Nat.le_of_lt below), Iterator.increment,
        if_pos below]
      simp only [small]

theorem Iterator.iterate_decrement (count : Nat) (inside : count ≤ cursor.pos) :
    Iterator.decrement^[count] cursor = { cursor with pos := cursor.pos - count } := by
  induction count with
  | zero => rfl
  | succ count ih =>
      have positive : cursor.pos - count ≠ 0 := by omega
      rw [Function.iterate_succ_apply', ih (Nat.le_of_lt inside), Iterator.decrement,
        if_pos positive]
      simp only [Nat.sub_sub]

/-- A move in bulk that stays in the range is as many single steps, and a move back undoes a move
forth. -/
structure BulkAgrees (cursor : Iterator) (size : UInt64) : Prop where
  forth : cursor.pos + size.toNat ≤ cursor.size →
    cursor.plus size = Iterator.increment^[size.toNat] cursor
  back : size.toNat ≤ cursor.pos → cursor.minus size = Iterator.decrement^[size.toNat] cursor
  undone : cursor.pos + size.toNat ≤ cursor.size → (cursor.plus size).minus size = cursor

theorem Iterator.plus_of_lt {size : UInt64} (fits : cursor.size < 2 ^ 64)
    (inside : cursor.pos + size.toNat < cursor.size) :
    cursor.plus size = { cursor with pos := cursor.pos + size.toNat } := by
  have small : (cursor.pos + size.toNat) % 2 ^ 64 = cursor.pos + size.toNat := by omega
  rw [Iterator.plus, small, if_pos inside]

/-- The end is not reached. -/
theorem Iterator.plus_of_eq {size : UInt64} (fits : cursor.size < 2 ^ 64)
    (same : cursor.pos + size.toNat = cursor.size) : cursor.plus size = cursor := by
  have small : (cursor.pos + size.toNat) % 2 ^ 64 = cursor.size := by omega
  rw [Iterator.plus, small, if_neg (Nat.lt_irrefl _)]

/-- A cursor is the one it was when it is at the same position. -/
theorem Iterator.with_pos_eq_iff {pos : Nat} :
    { cursor with pos } = cursor ↔ pos = cursor.pos := by
  constructor
  · intro same
    exact congrArg Iterator.pos same
  · rintro rfl
    rfl

theorem Iterator.plus_eq_iterate_iff {size : UInt64} (fits : cursor.size < 2 ^ 64)
    (inside : cursor.pos + size.toNat ≤ cursor.size) :
    cursor.plus size = Iterator.increment^[size.toNat] cursor ↔
      size.toNat = 0 ∨ cursor.pos + size.toNat < cursor.size := by
  rw [Iterator.iterate_increment fits _ inside]
  rcases Nat.lt_or_eq_of_le inside with below | same
  · exact iff_of_true (Iterator.plus_of_lt fits below) (.inr below)
  · rw [Iterator.plus_of_eq fits same]
    refine (eq_comm.trans with_pos_eq_iff).trans ?_
    omega

theorem Iterator.minus_eq_iterate_iff {size : UInt64} (inside : size.toNat ≤ cursor.pos) :
    cursor.minus size = Iterator.decrement^[size.toNat] cursor ↔
      size.toNat = 0 ∨ size.toNat = cursor.pos := by
  rw [Iterator.iterate_decrement _ inside]
  rcases Nat.lt_or_eq_of_le inside with before | same
  · rw [Iterator.minus_of_gt before]
    refine (eq_comm.trans with_pos_eq_iff).trans ?_
    omega
  · refine iff_of_true ?_ (.inr same)
    rw [Iterator.minus_of_eq same, same, Nat.sub_self]

theorem Iterator.minus_plus_iff {size : UInt64} (fits : cursor.size < 2 ^ 64)
    (inside : cursor.pos + size.toNat ≤ cursor.size) :
    (cursor.plus size).minus size = cursor ↔ size.toNat = 0 ∨
      (cursor.pos = 0 ∧ cursor.pos + size.toNat < cursor.size) ∨
      (size.toNat < cursor.pos ∧ cursor.pos + size.toNat = cursor.size) := by
  have bound := size.toNat_lt
  rcases Nat.lt_or_eq_of_le inside with below | same
  · rw [Iterator.plus_of_lt fits below]
    rcases Nat.eq_zero_or_pos cursor.pos with zero | positive
    · have there : size.toNat = cursor.pos + size.toNat := by omega
      rw [Iterator.minus_of_eq there]
      exact with_pos_eq_iff.trans (iff_of_true zero.symm (.inr (.inl ⟨zero, below⟩)))
    · have beyond : size.toNat < cursor.pos + size.toNat := by omega
      rw [Iterator.minus_of_gt beyond]
      refine with_pos_eq_iff.trans ?_
      omega
  · rw [Iterator.plus_of_eq fits same]
    rcases Nat.lt_trichotomy size.toNat cursor.pos with before | half | beyond
    · rw [Iterator.minus_of_gt before]
      exact iff_of_true rfl (.inr (.inr ⟨before, same⟩))
    · rw [Iterator.minus_of_eq half]
      refine with_pos_eq_iff.trans ?_
      omega
    · rw [Iterator.minus_of_lt beyond]
      refine with_pos_eq_iff.trans ?_
      omega

/-- Where the moves in bulk do what single steps do: over no distance, from the beginning to
before the end, or where a move forth would leave the range and a move back goes to the
beginning or would leave it. -/
theorem Iterator.bulkAgrees_iff (fits : cursor.size < 2 ^ 64) (size : UInt64) :
    BulkAgrees cursor size ↔ size.toNat = 0 ∨ (cursor.pos = 0 ∧ size.toNat < cursor.size) ∨
      (cursor.pos ≤ size.toNat ∧ cursor.size < cursor.pos + size.toNat) := by
  constructor
  · intro agrees
    have forth := fun inside => (plus_eq_iterate_iff fits inside).mp (agrees.forth inside)
    have back := fun inside => (minus_eq_iterate_iff inside).mp (agrees.back inside)
    have undone := fun inside => (minus_plus_iff fits inside).mp (agrees.undone inside)
    omega
  · intro apart
    exact
      { forth := fun inside => (plus_eq_iterate_iff fits inside).mpr (by omega)
        back := fun inside => (minus_eq_iterate_iff inside).mpr (by omega)
        undone := fun inside => (minus_plus_iff fits inside).mpr (by omega) }

/-- For a view of any size, where the moves in bulk agree with single steps, and that only the
cursor of an empty view comes from the beginning to the end. -/
theorem bulkAgrees_iff_of_view (shown : HeaderVectorView) (fits : shown.size < 2 ^ 64) :
    (∀ pos ≤ shown.size, ∀ size : UInt64, BulkAgrees ⟨shown.it, pos, shown.size⟩ size ↔
      size.toNat = 0 ∨ (pos = 0 ∧ size.toNat < shown.size) ∨
        (pos ≤ size.toNat ∧ shown.size < pos + size.toNat)) ∧
    ((shown.iterBegin.plus (.ofNat shown.size)).eq shown.iterEnd = true ↔ shown.size = 0) ∧
    (shown.iterEnd.minus (.ofNat shown.size)).eq shown.iterBegin = true := by
  have distance : (UInt64.ofNat shown.size).toNat = shown.size :=
    UInt64.toNat_ofNat_of_lt' fits
  refine ⟨fun pos inside size => Iterator.bulkAgrees_iff fits size, ?_, ?_⟩
  · have same : shown.iterBegin.pos + (UInt64.ofNat shown.size).toNat = shown.iterBegin.size := by
      rw [distance]
      exact Nat.zero_add _
    rw [Iterator.plus_of_eq fits same, Iterator.eq, beq_iff_eq]
    exact eq_comm
  · have same : (UInt64.ofNat shown.size).toNat = shown.iterEnd.pos := distance
    rw [Iterator.minus_of_eq same]
    rfl

/-- The only value of a header is not passed over in bulk. -/
theorem not_bulkAgrees_of_plus :
    ¬ ∀ shown : HeaderVectorView, shown.size < 2 ^ 64 → ∀ pos ≤ shown.size, ∀ size : UInt64,
      BulkAgrees ⟨shown.it, pos, shown.size⟩ size := by
  intro agrees
  have forth := (agrees ⟨true, some 0, 1⟩ (by decide) 0 (Nat.zero_le _) 1).forth (by decide)
  exact absurd forth (by decide)

theorem bulkAgrees_iff_of_view_of_three :
    (∀ pos ≤ 3, ∀ size : UInt64, BulkAgrees ⟨some 0, pos, 3⟩ size ↔
      size.toNat = 0 ∨ (pos = 0 ∧ size.toNat < 3) ∨
        (pos ≤ size.toNat ∧ 3 < pos + size.toNat)) ∧
    ((Iterator.plus ⟨some 0, 0, 3⟩ (.ofNat 3)).eq ⟨some 0, 3, 3⟩ = true ↔ 3 = 0) ∧
    (Iterator.minus ⟨some 0, 3, 3⟩ (.ofNat 3)).eq ⟨some 0, 0, 3⟩ = true :=
  bulkAgrees_iff_of_view ⟨true, some 0, 3⟩ (by decide)

end Bulk

end AsyncNats.Headers.HeaderVectorView
