import Mathlib.Algebra.Group.Nat.Defs
import Mathlib.Data.List.Perm.Basic
import Mathlib.Data.List.Range

/-! # Counting semaphores with owned permits

A permit is a number, the position of its acquisition among all acquisitions, so
that one permit can be told from another. Only `available` is the semaphore's
own state; `issued` and `released` are its history. `Balanced` is the ledger: it
relates the counter to the permits that somebody still holds.
-/

namespace Sync

/-- The identity of one acquired permit. -/
abbrev Permit := Nat

structure Semaphore where
  available : Nat
  issued : Nat
  released : List Permit
  deriving DecidableEq, Repr

namespace Semaphore

/-- The largest number of permits a semaphore can be made with on a 64-bit
target, `usize::MAX >> 3`. -/
def maxPermits : Nat := (2 ^ 64 - 1) / 2 ^ 3

/-- A new semaphore. Making one with too many permits panics. -/
def new (permits : Nat) : Option Semaphore :=
  if permits ≤ maxPermits then some ⟨permits, 0, []⟩ else none

/-- Take one permit, if there is one. -/
def tryAcquireOwned (semaphore : Semaphore) : Option (Permit × Semaphore) :=
  if 0 < semaphore.available then
    some (semaphore.issued,
      { semaphore with available := semaphore.available - 1, issued := semaphore.issued + 1 })
  else none

/-- Dropping a permit gives it back. -/
def release (semaphore : Semaphore) (permit : Permit) : Semaphore :=
  { semaphore with
    available := semaphore.available + 1, released := semaphore.released ++ [permit] }

/-- Dropping a permit that may be absent. -/
def releaseOption (semaphore : Semaphore) : Option Permit → Semaphore
  | none => semaphore
  | some permit => semaphore.release permit

/-- The ledger of a semaphore of `capacity` permits when exactly the permits in
`held` are held: none is missing, and every permit ever issued is either held or
was released once. -/
structure Balanced (capacity : Nat) (semaphore : Semaphore) (held : List Permit) : Prop where
  conserved : semaphore.available + held.length = capacity
  accounted : (semaphore.released ++ held).Perm (List.range semaphore.issued)

namespace Balanced

variable {capacity : Nat} {semaphore next : Semaphore} {held other : List Permit}
  {permit : Permit}

theorem new (created : Semaphore.new capacity = some semaphore) :
    Balanced capacity semaphore [] := by
  unfold Semaphore.new at created
  split at created
  · cases created
    exact ⟨rfl, .refl _⟩
  · cases created

/-- The order in which the held permits are listed does not matter. -/
theorem perm (balanced : Balanced capacity semaphore held) (same : held.Perm other) :
    Balanced capacity semaphore other :=
  ⟨same.length_eq ▸ balanced.conserved, (same.append_left _).symm.trans balanced.accounted⟩

theorem tryAcquireOwned (balanced : Balanced capacity semaphore held)
    (acquired : semaphore.tryAcquireOwned = some (permit, next)) :
    Balanced capacity next (permit :: held) := by
  unfold Semaphore.tryAcquireOwned at acquired
  split at acquired
  next positive =>
    cases acquired
    constructor
    · have conserved := balanced.conserved
      simp only [List.length_cons]
      omega
    · simp only [List.range_succ]
      refine (List.perm_append_comm.trans ?_).trans (balanced.accounted.append_right _)
      rw [List.cons_append]
      refine .trans ?_ List.perm_append_comm
      exact List.Perm.cons _ List.perm_append_comm
  next => cases acquired

theorem release (balanced : Balanced capacity semaphore (permit :: held)) :
    Balanced capacity (semaphore.release permit) held := by
  constructor
  · have conserved := balanced.conserved
    simp only [List.length_cons] at conserved
    simp only [Semaphore.release]
    omega
  · have accounted := balanced.accounted
    simpa only [Semaphore.release, List.append_assoc, List.singleton_append] using accounted

theorem releaseOption {dropped : Option Permit}
    (balanced : Balanced capacity semaphore (dropped.toList ++ held)) :
    Balanced capacity (semaphore.releaseOption dropped) held := by
  cases dropped with
  | none => exact balanced
  | some permit => exact balanced.release

/-- No permit is released twice, and a held permit was not released. -/
theorem nodup (balanced : Balanced capacity semaphore held) :
    (semaphore.released ++ held).Nodup :=
  balanced.accounted.nodup_iff.mpr List.nodup_range

/-- There is no permit to acquire exactly when all of them are held. -/
theorem tryAcquireOwned_eq_none (balanced : Balanced capacity semaphore held) :
    semaphore.tryAcquireOwned = none ↔ held.length = capacity := by
  have conserved := balanced.conserved
  unfold Semaphore.tryAcquireOwned
  split
  next positive => simp only [reduceCtorEq, false_iff]; omega
  next absent => simp only [true_iff]; omega

end Balanced

@[simp] theorem release_released (semaphore : Semaphore) (permit : Permit) :
    (semaphore.release permit).released = semaphore.released ++ [permit] := rfl

theorem releaseOption_released (semaphore : Semaphore) (dropped : Option Permit) :
    (semaphore.releaseOption dropped).released = semaphore.released ++ dropped.toList := by
  cases dropped with
  | none => exact (List.append_nil _).symm
  | some permit => rfl

theorem tryAcquireOwned_released {semaphore next : Semaphore} {permit : Permit}
    (acquired : semaphore.tryAcquireOwned = some (permit, next)) :
    next.released = semaphore.released := by
  unfold tryAcquireOwned at acquired
  split at acquired <;> cases acquired
  rfl

end Semaphore

end Sync
