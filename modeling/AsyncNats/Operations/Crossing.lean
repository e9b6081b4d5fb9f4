import AsyncNats.Api.Lossy
import AsyncNats.Operations.Subjects

/-! # Texts that are not well formed

A program may pass any bytes as a text. They are read without an error, and what was read comes
back as a C string unless it has a NUL, on which `string_to_owned_string` panics. A text that
came as a C string has none.
-/

namespace AsyncNats.Operations

variable {memory : Memory} {bytes : Bytes}

/-- What is found before a NUL has none. -/
theorem zero_notMem_of_untilNul {all : Bytes} (found : untilNul all = some bytes) : 0 ∉ bytes := by
  induction all generalizing bytes with
  | nil => cases found
  | cons byte rest ih =>
      rw [untilNul] at found
      split_ifs at found with zero
      · cases found
        exact List.not_mem_nil
      · obtain ⟨more, before, rfl⟩ := Option.map_eq_some_iff.mp found
        rw [List.mem_cons, not_or]
        exact ⟨Ne.symm zero, ih before⟩

theorem zero_notMem_of_cStr {ptr : Option Address} (found : cStr memory ptr = some bytes) :
    0 ∉ bytes := by
  obtain ⟨data, rfl, before⟩ := Option.bind_eq_some_iff.mp found
  exact zero_notMem_of_untilNul before

/-- Making a C string panics on a NUL and nothing else. -/
theorem stringToOwnedString_eq_none_iff {s : RustString} :
    stringToOwnedString memory s = none ↔ '\x00' ∈ s := by
  constructor
  · intro panics
    by_contra free
    cases panics.symm.trans (stringToOwnedString_eq free memory)
  · intro member
    have zero : 0 ∈ Utf8.encode s :=
      List.mem_flatMap.mpr ⟨_, member, Utf8.Reads.zero_mem_utf8EncodeChar.mpr rfl⟩
    rw [stringToOwnedString, cstringNew, dif_neg (not_not_intro zero), Option.map_none]

/-- What becomes of some bytes that are read as a text, and handed out as one. -/
structure Crosses (memory : Memory) (bytes : Bytes) (s : RustString) : Prop where
  reads : Utf8.Reads bytes s
  same : Utf8.encode s = bytes ↔ Utf8.Valid bytes
  longer : bytes.length ≤ (Utf8.encode s).length
  shorter : (Utf8.encode s).length ≤ 3 * bytes.length
  panics : stringToOwnedString memory s = none ↔ 0 ∈ bytes
  again : ∀ data before, stringToOwnedString memory s = some (data, before) →
    ∀ after, Untouched before after data (Utf8.encode s ++ [0]).length →
      lossyConvertPtr after (OwnedString.asyncString ⟨some data⟩) = some s ∧
        (OwnedString.stringView after ⟨some data⟩).bind (Slice.lossyConvert after) = some s

theorem crosses (memory : Memory) (bytes : Bytes) : Crosses memory bytes (fromUtf8Lossy bytes) where
  reads := fromUtf8Lossy_reads bytes
  same := Utf8.valid_iff.symm
  longer := (fromUtf8Lossy_reads bytes).length_le_encode
  shorter := (fromUtf8Lossy_reads bytes).length_encode_le
  panics := stringToOwnedString_eq_none_iff.trans (fromUtf8Lossy_reads bytes).zero_mem
  again := by
    intro data before made after same
    have free : '\x00' ∉ fromUtf8Lossy bytes := by
      intro member
      cases made.symm.trans (stringToOwnedString_eq_none_iff.mpr member)
    cases made.symm.trans (stringToOwnedString_eq free memory)
    exact views_agree free ((holds_append memory _).of_untouched same)

/-- Any bytes are read as a text, a character for each well-formed sequence and a mark for each
other one. What was read comes back as it was read, except that a NUL, which only a slice can
have, is a panic. -/
theorem texts_cross (memory : Memory) :
    (∀ slice bytes, Slice.fromRawParts memory slice = some bytes →
      ∃ s, Slice.lossyConvert memory slice = some s ∧ Crosses memory bytes s) ∧
    ∀ ptr bytes, cStr memory ptr = some bytes →
      ∃ s, lossyConvertPtr memory ptr = some s ∧ Crosses memory bytes s ∧
        stringToOwnedString memory s ≠ none := by
  constructor
  · intro slice bytes found
    refine ⟨fromUtf8Lossy bytes, ?_, crosses memory bytes⟩
    rw [Slice.lossyConvert, found, Option.map_some]
  · intro ptr bytes found
    refine ⟨fromUtf8Lossy bytes, ?_, crosses memory bytes, fun panics => ?_⟩
    · rw [lossyConvertPtr, found, Option.map_some]
    · exact zero_notMem_of_cStr found ((crosses memory bytes).panics.mp panics)

/-- A euro sign that lacks its last byte, before an `a`. -/
theorem texts_cross_of_cut :
    (∃ s, Slice.lossyConvert [0xE2, 0x82, 0x61, 0] ⟨some 0, 4⟩ = some s ∧
      Crosses [0xE2, 0x82, 0x61, 0] [0xE2, 0x82, 0x61, 0] s) ∧
    ∃ s, lossyConvertPtr [0xE2, 0x82, 0x61, 0] (some 0) = some s ∧
      Crosses [0xE2, 0x82, 0x61, 0] [0xE2, 0x82, 0x61] s ∧
      stringToOwnedString [0xE2, 0x82, 0x61, 0] s ≠ none :=
  ⟨(texts_cross _).1 ⟨some 0, 4⟩ _ rfl, (texts_cross _).2 (some 0) _ rfl⟩

end AsyncNats.Operations
