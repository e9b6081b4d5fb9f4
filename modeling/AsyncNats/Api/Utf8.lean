import AsyncNats.Api.Text

/-! # Strings and their bytes

The bytes of a Rust `String` are the UTF-8 encodings of its characters, one after the other.
Decoding reads the same characters back, so a string can be recovered from its bytes, and
bytes are well formed if and only if decoding and encoding them changes nothing.
-/

namespace AsyncNats

namespace Utf8

/-- The bytes of a Rust `String`. -/
def encode (text : RustString) : Bytes := text.flatMap String.utf8EncodeChar

/-- Well-formed UTF-8. -/
def Valid (bytes : Bytes) : Prop := ∃ text, encode text = bytes

section Bytes

variable {lead byte : UInt8}

theorem isContinuation_iff :
    isContinuation byte = true ↔ 0x80 ≤ byte.toNat ∧ byte.toNat ≤ 0xBF := by
  simp only [isContinuation, Bool.and_eq_true, decide_eq_true_eq, UInt8.le_iff_toNat_le,
    UInt8.reduceToNat]

/-- The lead bytes of the sequences of each length, as numbers. -/
theorem charWidth_eq (lead : UInt8) : charWidth lead =
    if lead.toNat < 0x80 then 1
    else if 0xC2 ≤ lead.toNat ∧ lead.toNat ≤ 0xDF then 2
    else if 0xE0 ≤ lead.toNat ∧ lead.toNat ≤ 0xEF then 3
    else if 0xF0 ≤ lead.toNat ∧ lead.toNat ≤ 0xF4 then 4
    else 0 := by
  simp only [charWidth, Bool.and_eq_true, decide_eq_true_eq, UInt8.le_iff_toNat_le,
    UInt8.lt_iff_toNat_lt, UInt8.reduceToNat]

theorem maySecond_iff : maySecond lead byte = true ↔
    (if lead.toNat = 0xE0 then 0xA0 else if lead.toNat = 0xF0 then 0x90 else 0x80) ≤ byte.toNat ∧
      byte.toNat ≤
        if lead.toNat = 0xED then 0x9F else if lead.toNat = 0xF4 then 0x8F else 0xBF := by
  simp only [maySecond, ← UInt8.toNat_inj, UInt8.reduceToNat]
  split_ifs <;> simp only [isContinuation, Bool.and_eq_true, decide_eq_true_eq,
    UInt8.le_iff_toNat_le, UInt8.reduceToNat] <;> omega

theorem charWidth_one (ascii : lead.toNat < 0x80) : charWidth lead = 1 := by
  rw [charWidth_eq, if_pos ascii]

theorem charWidth_two (least : 0xC2 ≤ lead.toNat) (most : lead.toNat ≤ 0xDF) :
    charWidth lead = 2 := by
  rw [charWidth_eq, if_neg (by omega), if_pos ⟨least, most⟩]

theorem charWidth_three (least : 0xE0 ≤ lead.toNat) (most : lead.toNat ≤ 0xEF) :
    charWidth lead = 3 := by
  rw [charWidth_eq, if_neg (by omega), if_neg (by omega), if_pos ⟨least, most⟩]

theorem charWidth_four (least : 0xF0 ≤ lead.toNat) (most : lead.toNat ≤ 0xF4) :
    charWidth lead = 4 := by
  rw [charWidth_eq, if_neg (by omega), if_neg (by omega), if_neg (by omega), if_pos ⟨least, most⟩]

theorem next_one {rest : Bytes} (width : charWidth lead = 1) :
    next lead rest = (some (Char.ofNat lead.toNat), rest) := by
  simp only [next, width]

theorem next_more {rest : Bytes} {more : Nat} (width : charWidth lead = more + 2)
    (may : maySecond lead byte = true) : next lead (byte :: rest) =
      continuations more (lead.toNat % 2 ^ (5 - more) * 64 + byte.toNat % 64) rest := by
  simp only [next, width, may, if_true]

theorem continuations_cons {count code : Nat} {rest : Bytes} (more : isContinuation byte = true) :
    continuations (count + 1) code (byte :: rest) =
      continuations count (code * 64 + byte.toNat % 64) rest := by
  rw [continuations, if_pos more]

end Bytes

section Sequences

variable {code : Nat} (rest : Bytes)

theorem toNat_ofNat (small : code < 0x100) : (UInt8.ofNat code).toNat = code := by
  rw [UInt8.toNat_ofNat', Nat.mod_eq_of_lt small]

theorem isContinuation_ofNat : isContinuation (UInt8.ofNat (code % 0x40 + 0x80)) = true := by
  rw [isContinuation_iff, toNat_ofNat (by omega)]
  omega

theorem next_ascii (high : code ≤ 0x7F) :
    next (UInt8.ofNat code) rest = (some (Char.ofNat code), rest) := by
  have lead := toNat_ofNat (show code < 0x100 by omega)
  rw [next_one (charWidth_one (by omega)), lead]

theorem next_pair (low : 0x7F < code) (high : code ≤ 0x7FF) :
    next (UInt8.ofNat (code / 64 % 0x20 + 0xC0)) (UInt8.ofNat (code % 0x40 + 0x80) :: rest) =
      (some (Char.ofNat code), rest) := by
  have lead := toNat_ofNat (show code / 64 % 0x20 + 0xC0 < 0x100 by omega)
  have second := toNat_ofNat (show code % 0x40 + 0x80 < 0x100 by omega)
  have may : maySecond (UInt8.ofNat (code / 64 % 0x20 + 0xC0))
      (UInt8.ofNat (code % 0x40 + 0x80)) = true := by
    rw [maySecond_iff, lead, second]
    split_ifs <;> omega
  rw [next_more (charWidth_two (by omega) (by omega)) may, lead, second, continuations]
  have joined :
      (code / 64 % 0x20 + 0xC0) % 2 ^ (5 - 0) * 64 + (code % 0x40 + 0x80) % 64 = code := by
    omega
  rw [joined]

/-- The lead bytes `E0` and `ED` stand before fewer second bytes: the first excludes codes that
two bytes can hold, the second the surrogates. -/
theorem next_triple (low : 0x7FF < code) (high : code ≤ 0xFFFF)
    (scalar : code < 0xD800 ∨ 0xDFFF < code) :
    next (UInt8.ofNat (code / 4096 % 0x10 + 0xE0))
        (UInt8.ofNat (code / 64 % 0x40 + 0x80) :: UInt8.ofNat (code % 0x40 + 0x80) :: rest) =
      (some (Char.ofNat code), rest) := by
  have lead := toNat_ofNat (show code / 4096 % 0x10 + 0xE0 < 0x100 by omega)
  have second := toNat_ofNat (show code / 64 % 0x40 + 0x80 < 0x100 by omega)
  have third := toNat_ofNat (show code % 0x40 + 0x80 < 0x100 by omega)
  have may : maySecond (UInt8.ofNat (code / 4096 % 0x10 + 0xE0))
      (UInt8.ofNat (code / 64 % 0x40 + 0x80)) = true := by
    rw [maySecond_iff, lead, second]
    split_ifs <;> omega
  rw [next_more (charWidth_three (by omega) (by omega)) may, lead, second,
    continuations_cons isContinuation_ofNat, third, continuations]
  have joined : ((code / 4096 % 0x10 + 0xE0) % 2 ^ (5 - 1) * 64 +
      (code / 64 % 0x40 + 0x80) % 64) * 64 +
      (code % 0x40 + 0x80) % 64 = code := by omega
  rw [joined]

/-- The lead bytes `F0` and `F4` stand before fewer second bytes: the first excludes codes that
three bytes can hold, the second those above `U+10FFFF`. -/
theorem next_quadruple (low : 0xFFFF < code) (high : code < 0x110000) :
    next (UInt8.ofNat (code / 262144 % 0x08 + 0xF0))
        (UInt8.ofNat (code / 4096 % 0x40 + 0x80) :: UInt8.ofNat (code / 64 % 0x40 + 0x80) ::
          UInt8.ofNat (code % 0x40 + 0x80) :: rest) =
      (some (Char.ofNat code), rest) := by
  have lead := toNat_ofNat (show code / 262144 % 0x08 + 0xF0 < 0x100 by omega)
  have second := toNat_ofNat (show code / 4096 % 0x40 + 0x80 < 0x100 by omega)
  have third := toNat_ofNat (show code / 64 % 0x40 + 0x80 < 0x100 by omega)
  have fourth := toNat_ofNat (show code % 0x40 + 0x80 < 0x100 by omega)
  have may : maySecond (UInt8.ofNat (code / 262144 % 0x08 + 0xF0))
      (UInt8.ofNat (code / 4096 % 0x40 + 0x80)) = true := by
    rw [maySecond_iff, lead, second]
    split_ifs <;> omega
  rw [next_more (charWidth_four (by omega) (by omega)) may, lead, second,
    continuations_cons isContinuation_ofNat, third, continuations_cons isContinuation_ofNat, fourth,
    continuations]
  have joined : (((code / 262144 % 0x08 + 0xF0) % 2 ^ (5 - 2) * 64 +
      (code / 4096 % 0x40 + 0x80) % 64) * 64 + (code / 64 % 0x40 + 0x80) % 64) * 64 +
      (code % 0x40 + 0x80) % 64 = code := by omega
  rw [joined]

end Sequences

/-- Reading the bytes of a character gives the character and leaves what follows them. -/
theorem next_utf8EncodeChar (character : Char) (rest : Bytes) :
    ∃ lead more, String.utf8EncodeChar character = lead :: more ∧
      next lead (more ++ rest) = (some character, rest) := by
  -- no surrogates, and nothing above `U+10FFFF`
  have scalar : character.val.toNat < 0xD800 ∨
    0xDFFF < character.val.toNat ∧ character.val.toNat < 0x110000 := character.valid
  have back : Char.ofNat character.val.toNat = character := Char.ofNat_toNat character
  unfold String.utf8EncodeChar
  generalize character.val.toNat = code at scalar back
  subst back
  dsimp only
  split_ifs with one two three
  · exact ⟨_, _, rfl, next_ascii rest one⟩
  · exact ⟨_, _, rfl, next_pair rest (by omega) two⟩
  · exact ⟨_, _, rfl, next_triple rest (by omega) three (by omega)⟩
  · exact ⟨_, _, rfl, next_quadruple rest (by omega) (by omega)⟩

/-- Decoding reads a string back when there is fuel for each of its characters. -/
theorem decode_encode {text : RustString} {fuel : Nat} (enough : text.length ≤ fuel) :
    decode fuel (encode text) = text := by
  induction text generalizing fuel with
  | nil => cases fuel <;> rfl
  | cons character text ih =>
      obtain ⟨fuel, rfl⟩ : ∃ more, fuel = more + 1 :=
        Nat.exists_eq_succ_of_ne_zero (by rw [List.length_cons] at enough; omega)
      obtain ⟨lead, more, bytes, read⟩ := next_utf8EncodeChar character (encode text)
      have split : encode (character :: text) = lead :: (more ++ encode text) := by
        rw [encode, List.flatMap_cons, bytes, List.cons_append, encode]
      rw [split, decode, read]
      exact congrArg (character :: ·) (ih (Nat.le_of_succ_le_succ enough))

/-- Only the character NUL has a NUL among its bytes. -/
theorem zero_notMem_utf8EncodeChar {character : Char} (distinct : character ≠ '\x00') :
    0 ∉ String.utf8EncodeChar character := by
  have positive : character.val.toNat ≠ 0 := by
    intro zero
    rw [← Char.ofNat_toNat character, Char.toNat, zero] at distinct
    exact distinct rfl
  unfold String.utf8EncodeChar
  generalize character.val.toNat = code at positive
  dsimp only
  split_ifs <;>
    simp only [List.mem_cons, List.not_mem_nil, or_false, not_or, ← UInt8.toNat_inj,
      UInt8.toNat_ofNat', UInt8.toNat_zero] <;>
    omega

theorem zero_notMem_encode {text : RustString} (free : '\x00' ∉ text) : 0 ∉ encode text := by
  intro member
  obtain ⟨character, inside, zero⟩ := List.mem_flatMap.mp member
  exact zero_notMem_utf8EncodeChar (fun same => free (same ▸ inside)) zero

theorem length_le_length_encode (text : RustString) : text.length ≤ (encode text).length := by
  induction text with
  | nil => exact Nat.le_refl 0
  | cons character text ih =>
      have positive := List.length_pos_iff.mpr (String.utf8EncodeChar_ne_nil (c := character))
      rw [encode, List.flatMap_cons, List.length_append, List.length_cons, ← encode]
      omega

end Utf8

/-- `from_utf8_lossy` is the identity on the bytes of a string. -/
@[simp] theorem fromUtf8Lossy_encode (text : RustString) :
    fromUtf8Lossy (Utf8.encode text) = text :=
  Utf8.decode_encode (Utf8.length_le_length_encode text)

namespace Utf8

theorem valid_iff {bytes : Bytes} : Valid bytes ↔ encode (fromUtf8Lossy bytes) = bytes := by
  constructor
  · rintro ⟨text, rfl⟩
    rw [fromUtf8Lossy_encode]
  · exact fun same => ⟨_, same⟩

instance decidableValid (bytes : Bytes) : Decidable (Valid bytes) :=
  decidable_of_iff _ valid_iff.symm

end Utf8

end AsyncNats
