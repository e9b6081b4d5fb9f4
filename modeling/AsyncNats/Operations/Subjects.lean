import AsyncNats.Api.Buffers
import AsyncNats.Api.Utf8
import AsyncNats.Operations.Basic

/-! # Subjects in their two encodings

A subject crosses the boundary as a C string, which ends at its first NUL, or as an address
and a length. A string that Rust hands out is a C string, and the C++ side looks at it as such
or as a `string_view`, whose length it counts. Whatever the way, a text without a NUL arrives
as it was sent.
-/

namespace AsyncNats.Operations

/-- The memory that both sides see. An address is an offset into it. -/
abbrev Memory := Bytes

/-- The bytes before the first NUL, where `none` says that there is no NUL. -/
def untilNul : Bytes → Option Bytes
  | [] => none
  | byte :: rest => if byte = 0 then some [] else (untilNul rest).map (byte :: ·)

/-- `CStr::from_ptr`, where `none` is undefined behaviour. -/
def cStr (memory : Memory) (ptr : Option Address) : Option Bytes :=
  ptr.bind fun data => untilNul (memory.drop data)

/-- `strlen`. -/
def strlen (memory : Memory) (ptr : Option Address) : Option Nat :=
  (cStr memory ptr).map List.length

/-- `LossyConvert` for `*const c_char`. -/
def lossyConvertPtr (memory : Memory) (ptr : Option Address) : Option RustString :=
  (cStr memory ptr).map fromUtf8Lossy

/-- `AsyncNatsSlice`, and a `string_view`. -/
abbrev Slice := AsyncNats.Slice Address

/-- `slice::from_raw_parts`, where `none` is undefined behaviour. -/
def Slice.fromRawParts (memory : Memory) (slice : Slice) : Option Bytes :=
  slice.data.bind fun data =>
    if slice.size ≤ (memory.drop data).length then some ((memory.drop data).take slice.size)
    else none

/-- `LossyConvert` for `AsyncNatsSlice`. -/
def Slice.lossyConvert (memory : Memory) (slice : Slice) : Option RustString :=
  (slice.fromRawParts memory).map fromUtf8Lossy

/-- `OwnedString`. -/
structure OwnedString where
  s : Option Address
  deriving DecidableEq, Repr

namespace OwnedString

/-- `operator AsyncNatsAsyncString`. -/
def asyncString (owned : OwnedString) : Option Address := owned.s

/-- `operator std::string_view`, which counts the length. -/
def stringView (memory : Memory) (owned : OwnedString) : Option Slice :=
  (strlen memory owned.s).map fun size => ⟨owned.s, size⟩

end OwnedString

/-- `string_to_owned_string`: the address of a new C string, where `none` is a panic. -/
def stringToOwnedString (memory : Memory) (s : RustString) : Option (Address × Memory) :=
  (cstringNew (Utf8.encode s)).map fun text => (memory.length, memory ++ (text.1 ++ [0]))

/-- The memory has `bytes` at an address. -/
def Holds (memory : Memory) (data : Address) (bytes : Bytes) : Prop :=
  bytes <+: memory.drop data

instance decidableHolds (memory : Memory) (data : Address) (bytes : Bytes) :
    Decidable (Holds memory data bytes) :=
  inferInstanceAs (Decidable (bytes <+: memory.drop data))

/-- The block at an address has not been changed since. -/
def Untouched (before after : Memory) (data : Address) (size : Nat) : Prop :=
  (after.drop data).take size = (before.drop data).take size

variable {memory before after : Memory} {data : Address} {bytes : Bytes}

theorem untilNul_append (free : 0 ∉ bytes) (rest : Bytes) :
    untilNul (bytes ++ 0 :: rest) = some bytes := by
  induction bytes with
  | nil => rfl
  | cons byte bytes ih =>
      rw [List.mem_cons, not_or] at free
      rw [List.cons_append, untilNul, if_neg (Ne.symm free.1), ih free.2, Option.map_some]

/-- The scan stops at the terminator. -/
theorem cStr_of_holds (free : 0 ∉ bytes) (holds : Holds memory data (bytes ++ [0])) :
    cStr memory (some data) = some bytes := by
  obtain ⟨rest, split⟩ := holds
  rw [cStr, Option.bind_some, ← split, List.append_assoc, List.singleton_append,
    untilNul_append free]

theorem strlen_of_holds (free : 0 ∉ bytes) (holds : Holds memory data (bytes ++ [0])) :
    strlen memory (some data) = some bytes.length := by
  rw [strlen, cStr_of_holds free holds, Option.map_some]

theorem fromRawParts_of_holds (holds : Holds memory data bytes) :
    Slice.fromRawParts memory ⟨some data, bytes.length⟩ = some bytes := by
  rw [Slice.fromRawParts, Option.bind_some, if_pos holds.length_le,
    ← List.prefix_iff_eq_take.mp holds]

/-- The C strings of the operations are those in memory. -/
theorem lossyConvertPtr_of_holds {text : CString} (holds : Holds memory data (text.1 ++ [0])) :
    lossyConvertPtr memory (some data) = some (AsyncNats.lossyConvert text) := by
  rw [lossyConvertPtr, cStr_of_holds text.2 holds, Option.map_some, AsyncNats.lossyConvert]

/-- A slice in memory converts as the buffer with its bytes. -/
theorem lossyConvert_of_holds {buffer : Buffer} (address : buffer.data = some data)
    (holds : Holds memory data buffer.bytes) :
    Slice.lossyConvert memory ⟨some data, buffer.bytes.length⟩ = buffer.lossyConvert := by
  have defined : buffer.data ≠ none := address ▸ Option.some_ne_none data
  rw [Slice.lossyConvert, fromRawParts_of_holds holds, Buffer.lossyConvert,
    Buffer.fromRawParts_of_address defined]

theorem Holds.weaken {more : Bytes} (holds : Holds memory data (bytes ++ more)) :
    Holds memory data bytes :=
  (List.prefix_append bytes more).trans holds

theorem Holds.of_untouched (holds : Holds before data bytes)
    (same : Untouched before after data bytes.length) : Holds after data bytes := by
  rw [Holds, List.prefix_iff_eq_take, same]
  exact List.prefix_iff_eq_take.mp holds

/-- A string without a NUL becomes a C string of its bytes. -/
theorem stringToOwnedString_eq {s : RustString} (free : '\x00' ∉ s) (memory : Memory) :
    stringToOwnedString memory s =
      some (memory.length, memory ++ (Utf8.encode s ++ [0])) := by
  rw [stringToOwnedString, cstringNew, dif_pos (Utf8.zero_notMem_encode free), Option.map_some]

theorem holds_append (memory bytes : Bytes) : Holds (memory ++ bytes) memory.length bytes := by
  have rest : (memory ++ bytes).drop memory.length = bytes := List.drop_left
  exact ⟨[], by rw [List.append_nil, rest]⟩

/-- A text in memory is converted to the same string as a C string and as a slice. -/
theorem conversions_agree {other : Address} (free : 0 ∉ bytes)
    (terminated : Holds memory data (bytes ++ [0])) (holds : Holds memory other bytes) :
    lossyConvertPtr memory (some data) = some (fromUtf8Lossy bytes) ∧
      Slice.lossyConvert memory ⟨some other, bytes.length⟩ = some (fromUtf8Lossy bytes) := by
  constructor
  · rw [lossyConvertPtr, cStr_of_holds free terminated, Option.map_some]
  · rw [Slice.lossyConvert, fromRawParts_of_holds holds, Option.map_some]

/-- Both views of an owned string convert to the string it was made of. -/
theorem views_agree {s : RustString} (free : '\x00' ∉ s)
    (holds : Holds memory data (Utf8.encode s ++ [0])) :
    lossyConvertPtr memory (OwnedString.asyncString ⟨some data⟩) = some s ∧
      ((OwnedString.stringView memory ⟨some data⟩).bind (Slice.lossyConvert memory)) = some s := by
  have noZero := Utf8.zero_notMem_encode free
  have ⟨pointer, slice⟩ := conversions_agree noZero holds holds.weaken
  rw [fromUtf8Lossy_encode] at pointer slice
  refine ⟨pointer, ?_⟩
  rw [OwnedString.stringView, strlen_of_holds noZero holds, Option.map_some, Option.bind_some,
    slice]

/-- A text without a NUL is converted to the same string in both encodings, and a string without
one comes back from either view of its owned string for as long as that is not changed. -/
theorem subjects_survive :
    (∀ bytes : Bytes, 0 ∉ bytes → ∀ (memory : Memory) (data other : Address),
      Holds memory data (bytes ++ [0]) → Holds memory other bytes →
        lossyConvertPtr memory (some data) = some (fromUtf8Lossy bytes) ∧
          Slice.lossyConvert memory ⟨some other, bytes.length⟩ = some (fromUtf8Lossy bytes)) ∧
    ∀ s : RustString, '\x00' ∉ s → ∀ memory : Memory, ∃ data before,
      stringToOwnedString memory s = some (data, before) ∧
        ∀ after, Untouched before after data (Utf8.encode s ++ [0]).length →
          lossyConvertPtr after (OwnedString.asyncString ⟨some data⟩) = some s ∧
            (OwnedString.stringView after ⟨some data⟩).bind (Slice.lossyConvert after) =
              some s := by
  constructor
  · intro bytes free memory data other terminated holds
    exact conversions_agree free terminated holds
  · intro s free memory
    refine ⟨_, _, stringToOwnedString_eq free memory, fun after same => ?_⟩
    exact views_agree free ((holds_append memory _).of_untouched same)

/-- A euro sign without its last byte and an `a`, as a C string and again behind it. -/
def cutEuro : Memory := [0xE2, 0x82, 0x61, 0, 0xE2, 0x82, 0x61]

/-- A whole euro sign is handed out, and what is around it changes. -/
def handedOut : Memory := [9, 0, 0xE2, 0x82, 0xAC, 0x61, 0, 7]

theorem subjects_survive_of_euro :
    (lossyConvertPtr cutEuro (some 0) = some ['\uFFFD', 'a'] ∧
      Slice.lossyConvert cutEuro ⟨some 4, 3⟩ = some ['\uFFFD', 'a']) ∧
    ∃ before, stringToOwnedString [1, 0] ['€', 'a'] = some (2, before) ∧
      Untouched before handedOut 2 5 ∧
      lossyConvertPtr handedOut (OwnedString.asyncString ⟨some 2⟩) = some ['€', 'a'] ∧
        (OwnedString.stringView handedOut ⟨some 2⟩).bind (Slice.lossyConvert handedOut) =
          some ['€', 'a'] := by
  constructor
  · have lossy : fromUtf8Lossy [0xE2, 0x82, 0x61] = ['\uFFFD', 'a'] := by decide
    rw [← lossy]
    exact subjects_survive.1 [0xE2, 0x82, 0x61] (by decide) cutEuro 0 4 (by decide) (by decide)
  · obtain ⟨data, before, made, survives⟩ := subjects_survive.2 ['€', 'a'] (by decide) [1, 0]
    obtain ⟨rfl, rfl⟩ := Prod.mk.inj (Option.some.inj made)
    have untouched : Untouched [1, 0, 0xE2, 0x82, 0xAC, 0x61, 0] handedOut 2 5 := by rfl
    exact ⟨_, made, untouched, survives handedOut untouched⟩

end AsyncNats.Operations
