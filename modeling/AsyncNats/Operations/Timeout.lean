import AsyncNats.Operations.Basic
import Mathlib.Algebra.Group.Int.Defs

/-! # The timeout of a request

`RequestBuilder::timeout` gets a signed number of nanoseconds, rounds it toward zero to
milliseconds and casts the count to an unsigned one; Rust makes a `Duration` of it. The cast
wraps around, so a duration that rounds to a negative count gives a wait of half a billion
years, and every other one a wait that is less than a millisecond too short.
-/

namespace AsyncNats

/-- The timeout of a request in nanoseconds. -/
def Request.wait (request : Request) : Option Nat :=
  request.timeout.map (· * 1000000)

end AsyncNats

namespace AsyncNats.Operations

/-- The count of `std::chrono::duration_cast<std::chrono::milliseconds>` for a
`steady_clock::duration`, whose unit is the nanosecond. -/
def toMilliseconds (duration : Int64) : Int64 := duration / 1000000

/-- `core::time::Duration`. -/
structure Duration where
  secs : UInt64
  nanos : Nat
  subsecond : nanos < 1000000000

namespace Duration

def fromMillis (millis : UInt64) : Duration where
  secs := millis / 1000
  nanos := millis.toNat % 1000 * 1000000
  subsecond := by
    have := Nat.mod_lt millis.toNat (y := 1000) (by decide)
    omega

def asMillis (duration : Duration) : Nat :=
  duration.secs.toNat * 1000 + duration.nanos / 1000000

@[simp] theorem asMillis_fromMillis (millis : UInt64) :
    (fromMillis millis).asMillis = millis.toNat := by
  simp only [asMillis, fromMillis, UInt64.toNat_div, UInt64.reduceToNat]
  omega

end Duration

/-- `async_nats_request_timeout`. -/
def requestTimeout (request : Request) (timeout : UInt64) : Request :=
  { request with timeout := some (Duration.fromMillis timeout).asMillis }

/-- `RequestBuilder::timeout`, on the request that the builder holds. -/
def RequestBuilder.timeout (request : Request) (duration : Int64) : Request :=
  requestTimeout request (toMilliseconds duration).toUInt64

/-- A wait is at most the duration, or zero for a negative one, and less than a millisecond
below it. -/
structure Near (duration : Int64) (wait : Nat) : Prop where
  atMost : (wait : Int) ≤ max duration.toInt 0
  within : max duration.toInt 0 < wait + 1000000

/-- The waits of two durations are near them and in their order. -/
structure Converts (request : Request) (shorter longer : Int64) (first second : Nat) : Prop where
  storesFirst : (RequestBuilder.timeout request shorter).wait = some first
  storesSecond : (RequestBuilder.timeout request longer).wait = some second
  monotone : shorter ≤ longer → first ≤ second
  nearFirst : Near shorter first
  nearSecond : Near longer second

/-- The milliseconds that are stored for a duration. -/
def stored (duration : Int64) : Nat := (toMilliseconds duration).toUInt64.toNat

/-- The cast to `uint64_t` wraps a negative count around. -/
theorem toNat_toUInt64 (count : Int64) : (count.toUInt64.toNat : Int) = count.toInt % 2 ^ 64 := by
  have bits := BitVec.toNat_ofInt (n := 64) count.toInt
  rw [← Int64.toInt_toBitVec, BitVec.ofInt_toInt, Int64.toNat_toBitVec,
    Int64.toInt_toBitVec] at bits
  omega

theorem toInt_toMilliseconds (duration : Int64) :
    (toMilliseconds duration).toInt = duration.toInt.tdiv 1000000 := by
  have divided := Int64.toInt_div_of_ne_right duration 1000000 (by decide +kernel)
  have million : Int64.toInt 1000000 = 1000000 := by decide +kernel
  rwa [million] at divided

/-- A duration that is not negative is rounded down, one that is less than a millisecond below
zero becomes zero, and every smaller one wraps around. -/
theorem stored_cases (duration : Int64) :
    (0 ≤ duration.toInt ∧ (stored duration : Int) = duration.toInt / 1000000) ∨
      (duration.toInt < 0 ∧ -1000000 < duration.toInt ∧ stored duration = 0) ∨
      (duration.toInt ≤ -1000000 ∧
        (stored duration : Int) = 2 ^ 64 - -duration.toInt / 1000000) := by
  have cast := toNat_toUInt64 (toMilliseconds duration)
  rw [toInt_toMilliseconds, ← stored] at cast
  have above := duration.toInt_lt
  have below := duration.le_toInt
  by_cases negative : duration.toInt < 0
  · have floor : (-duration.toInt).tdiv 1000000 = -duration.toInt / 1000000 :=
      Int.tdiv_eq_ediv_of_nonneg (by omega)
    rw [Int.neg_tdiv] at floor
    omega
  · rw [Int.tdiv_eq_ediv_of_nonneg (by omega)] at cast
    omega

namespace RequestBuilder

theorem timeout_timeout (request : Request) (duration : Int64) :
    (timeout request duration).timeout = some (stored duration) := by
  rw [timeout, requestTimeout, Duration.asMillis_fromMillis, stored]

theorem wait_timeout (request : Request) (duration : Int64) :
    (timeout request duration).wait = some (stored duration * 1000000) := by
  rw [Request.wait, timeout_timeout, Option.map_some]

end RequestBuilder

/-- A stored timeout is near its duration unless it wrapped around. -/
theorem near_stored_iff (duration : Int64) :
    Near duration (stored duration * 1000000) ↔ -1000000 < duration.toInt := by
  have cases := stored_cases duration
  have below := duration.le_toInt
  constructor
  · intro near
    have atMost := near.atMost
    omega
  · intro inside
    exact ⟨by omega, by omega⟩

/-- Without wrapping around, the stored timeouts are in the order of the durations. -/
theorem stored_mono {shorter longer : Int64} (order : shorter ≤ longer)
    (inside : -1000000 < shorter.toInt) : stored shorter ≤ stored longer := by
  rw [Int64.le_iff_toInt_le] at order
  have first := stored_cases shorter
  have second := stored_cases longer
  omega

/-- Every deadline that passed a millisecond ago gives a longer wait than one that did not
pass. -/
theorem passed_waits_longer {passed ahead : Int64} (before : passed.toInt ≤ -1000000)
    (after : 0 ≤ ahead.toInt) : stored ahead < stored passed := by
  have wrapped := stored_cases passed
  have kept := stored_cases ahead
  have below := passed.le_toInt
  have above := ahead.toInt_lt
  omega

/-- Two durations are converted as their order and their size say if and only if both are
above minus one millisecond. -/
theorem converts_iff_gt (request : Request) (shorter longer : Int64) :
    (∃ first second, Converts request shorter longer first second) ↔
      -1000000 < shorter.toInt ∧ -1000000 < longer.toInt := by
  constructor
  · rintro ⟨first, second, converts⟩
    have storesFirst := converts.storesFirst
    have storesSecond := converts.storesSecond
    rw [RequestBuilder.wait_timeout, Option.some_inj] at storesFirst storesSecond
    subst storesFirst storesSecond
    exact ⟨(near_stored_iff shorter).mp converts.nearFirst,
      (near_stored_iff longer).mp converts.nearSecond⟩
  · rintro ⟨insideFirst, insideSecond⟩
    refine ⟨stored shorter * 1000000, stored longer * 1000000, ?_⟩
    constructor
    · exact RequestBuilder.wait_timeout request shorter
    · exact RequestBuilder.wait_timeout request longer
    · intro order
      exact Nat.mul_le_mul_right _ (stored_mono order insideFirst)
    · exact (near_stored_iff shorter).mpr insideFirst
    · exact (near_stored_iff longer).mpr insideSecond

/-- A deadline that passed a millisecond ago gives a longer wait than an hour. -/
theorem not_converts_of_passed :
    ¬ ∃ first second, Converts ⟨none, none, none⟩ (-1000000) 3600000000000 first second := by
  rintro ⟨first, second, converts⟩
  have storesFirst := converts.storesFirst
  have storesSecond := converts.storesSecond
  rw [RequestBuilder.wait_timeout, Option.some_inj] at storesFirst storesSecond
  have order := converts.monotone (by decide +kernel)
  have before : (-1000000 : Int64).toInt ≤ -1000000 := by decide +kernel
  have after : 0 ≤ (3600000000000 : Int64).toInt := by decide +kernel
  have longer := passed_waits_longer before after
  omega

end AsyncNats.Operations
