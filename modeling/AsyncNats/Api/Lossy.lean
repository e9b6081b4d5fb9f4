import AsyncNats.Api.Utf8

/-! # Strings from any bytes

What decoding reads as a character are the bytes of that character. So the bytes fall apart into
characters and ill-formed sequences, and each of the latter, which have up to three bytes and no
NUL, becomes one replacement character.
-/

namespace AsyncNats.Utf8

variable {code : Nat}

theorem val_ofNat (scalar : code < 0xD800 ∨ 0xDFFF < code ∧ code < 0x110000) :
    (Char.ofNat code).val.toNat = code := by
  rw [Char.ofNat, dif_pos scalar]
  rfl

theorem utf8EncodeChar_one (high : code ≤ 0x7F) :
    String.utf8EncodeChar (Char.ofNat code) = [UInt8.ofNat code] := by
  unfold String.utf8EncodeChar
  rw [val_ofNat (by omega)]
  exact if_pos high

theorem utf8EncodeChar_two (low : 0x7F < code) (high : code ≤ 0x7FF) :
    String.utf8EncodeChar (Char.ofNat code) =
      [UInt8.ofNat (code / 64 % 0x20 + 0xC0), UInt8.ofNat (code % 0x40 + 0x80)] := by
  unfold String.utf8EncodeChar
  rw [val_ofNat (by omega)]
  exact (if_neg (by omega)).trans (if_pos high)

theorem utf8EncodeChar_three (low : 0x7FF < code) (high : code ≤ 0xFFFF)
    (scalar : code < 0xD800 ∨ 0xDFFF < code) :
    String.utf8EncodeChar (Char.ofNat code) =
      [UInt8.ofNat (code / 4096 % 0x10 + 0xE0), UInt8.ofNat (code / 64 % 0x40 + 0x80),
        UInt8.ofNat (code % 0x40 + 0x80)] := by
  unfold String.utf8EncodeChar
  rw [val_ofNat (by omega)]
  exact (if_neg (by omega)).trans ((if_neg (by omega)).trans (if_pos high))

theorem utf8EncodeChar_four (low : 0xFFFF < code) (high : code < 0x110000) :
    String.utf8EncodeChar (Char.ofNat code) =
      [UInt8.ofNat (code / 262144 % 0x08 + 0xF0), UInt8.ofNat (code / 4096 % 0x40 + 0x80),
        UInt8.ofNat (code / 64 % 0x40 + 0x80), UInt8.ofNat (code % 0x40 + 0x80)] := by
  unfold String.utf8EncodeChar
  rw [val_ofNat (by omega)]
  exact (if_neg (by omega)).trans ((if_neg (by omega)).trans (if_neg (by omega)))

section Sound

variable {lead byte third fourth : UInt8} {count : Nat} {character : Char} {rest left : Bytes}

theorem ofNat_eq (byte : UInt8) (same : code = byte.toNat) : UInt8.ofNat code = byte := by
  rw [same, UInt8.ofNat_toNat]

/-- Continuation bytes are taken as many as were announced. -/
theorem continuations_sound (read : continuations count code rest = (some character, left)) :
    ∃ bytes : Bytes, rest = bytes ++ left ∧ bytes.length = count ∧
      (∀ byte ∈ bytes, isContinuation byte = true) ∧
      character = Char.ofNat (bytes.foldl (fun code byte => code * 64 + byte.toNat % 64) code) := by
  induction count generalizing code rest with
  | zero =>
      cases read
      exact ⟨[], rfl, rfl, fun _ member => (List.not_mem_nil member).elim, rfl⟩
  | succ count ih =>
      cases rest with
      | nil => cases read
      | cons byte rest =>
          rw [continuations] at read
          split_ifs at read with more
          · obtain ⟨bytes, rfl, length, all, joined⟩ := ih read
            exact ⟨byte :: bytes, rfl, congrArg (· + 1) length,
              List.forall_mem_cons.mpr ⟨more, all⟩, joined⟩
          · cases read

theorem bounds_of_width {more : Nat} (width : charWidth lead = more + 2) :
    more = 0 ∧ 0xC2 ≤ lead.toNat ∧ lead.toNat ≤ 0xDF ∨
      more = 1 ∧ 0xE0 ≤ lead.toNat ∧ lead.toNat ≤ 0xEF ∨
      more = 2 ∧ 0xF0 ≤ lead.toNat ∧ lead.toNat ≤ 0xF4 := by
  rw [charWidth_eq] at width
  split_ifs at width <;> omega

theorem pair_sound (least : 0xC2 ≤ lead.toNat) (most : lead.toNat ≤ 0xDF)
    (may : maySecond lead byte = true) :
    String.utf8EncodeChar (Char.ofNat (lead.toNat % 2 ^ 5 * 64 + byte.toNat % 64)) =
      [lead, byte] := by
  rw [maySecond_iff] at may
  rw [if_neg (by omega), if_neg (by omega), if_neg (by omega), if_neg (by omega)] at may
  rw [utf8EncodeChar_two (by omega) (by omega), ofNat_eq lead (by omega), ofNat_eq byte (by omega)]

theorem triple_sound (least : 0xE0 ≤ lead.toNat) (most : lead.toNat ≤ 0xEF)
    (may : maySecond lead byte = true) (last : isContinuation third = true) :
    String.utf8EncodeChar (Char.ofNat ((lead.toNat % 2 ^ 4 * 64 + byte.toNat % 64) * 64 +
      third.toNat % 64)) = [lead, byte, third] := by
  rw [maySecond_iff] at may
  rw [isContinuation_iff] at last
  have low : 0x80 ≤ byte.toNat ∧ byte.toNat ≤ 0xBF ∧ (lead.toNat = 0xE0 → 0xA0 ≤ byte.toNat) ∧
      (lead.toNat = 0xED → byte.toNat ≤ 0x9F) := by
    split_ifs at may <;> omega
  rw [utf8EncodeChar_three (by omega) (by omega) (by omega), ofNat_eq lead (by omega),
    ofNat_eq byte (by omega), ofNat_eq third (by omega)]

theorem quadruple_sound (least : 0xF0 ≤ lead.toNat) (most : lead.toNat ≤ 0xF4)
    (may : maySecond lead byte = true) (more : isContinuation third = true)
    (last : isContinuation fourth = true) :
    String.utf8EncodeChar (Char.ofNat (((lead.toNat % 2 ^ 3 * 64 + byte.toNat % 64) * 64 +
      third.toNat % 64) * 64 + fourth.toNat % 64)) = [lead, byte, third, fourth] := by
  rw [maySecond_iff] at may
  rw [isContinuation_iff] at more last
  have low : 0x80 ≤ byte.toNat ∧ byte.toNat ≤ 0xBF ∧ (lead.toNat = 0xF0 → 0x90 ≤ byte.toNat) ∧
      (lead.toNat = 0xF4 → byte.toNat ≤ 0x8F) := by
    split_ifs at may <;> omega
  rw [utf8EncodeChar_four (by omega) (by omega), ofNat_eq lead (by omega),
    ofNat_eq byte (by omega), ofNat_eq third (by omega), ofNat_eq fourth (by omega)]

/-- What is read as a character are its bytes. -/
theorem next_sound (read : next lead rest = (some character, left)) :
    lead :: rest = String.utf8EncodeChar character ++ left := by
  cases width : charWidth lead with
  | zero =>
      simp only [next, width] at read
      cases read
  | succ width_ =>
      cases width_ with
      | zero =>
          rw [next_one width] at read
          cases read
          have ascii : lead.toNat ≤ 0x7F := by
            rw [charWidth_eq] at width
            split_ifs at width with low <;> omega
          rw [utf8EncodeChar_one ascii, UInt8.ofNat_toNat]
          rfl
      | succ more =>
          cases rest with
          | nil =>
              simp only [next, width] at read
              cases read
          | cons byte rest =>
              by_cases may : maySecond lead byte = true
              · rw [next_more width may] at read
                obtain ⟨bytes, rfl, length, all, rfl⟩ := continuations_sound read
                rcases bounds_of_width width with ⟨rfl, least, most⟩ | ⟨rfl, least, most⟩ |
                  ⟨rfl, least, most⟩
                · obtain rfl := List.length_eq_zero_iff.mp length
                  rw [List.foldl_nil, pair_sound least most may]
                  rfl
                · obtain ⟨third, rfl⟩ := List.length_eq_one_iff.mp length
                  rw [List.forall_mem_singleton] at all
                  rw [List.foldl_cons, List.foldl_nil, triple_sound least most may all]
                  rfl
                · obtain ⟨third, fourth, rfl⟩ := List.length_eq_two.mp length
                  rw [List.forall_mem_cons, List.forall_mem_singleton] at all
                  rw [List.foldl_cons, List.foldl_cons, List.foldl_nil,
                    quadruple_sound least most may all.1 all.2]
                  rfl
              · simp only [next, width, may, Bool.false_eq_true, if_false] at read
                cases read

theorem isContinuation_of_maySecond (may : maySecond lead byte = true) :
    isContinuation byte = true := by
  rw [maySecond_iff] at may
  rw [isContinuation_iff]
  split_ifs at may <;> omega

theorem continuations_skips (read : continuations count code rest = (none, left)) :
    ∃ bytes : Bytes, rest = bytes ++ left ∧ bytes.length < count ∧
      ∀ byte ∈ bytes, isContinuation byte = true := by
  induction count generalizing code rest with
  | zero => cases read
  | succ count ih =>
      cases rest with
      | nil =>
          cases read
          exact ⟨[], rfl, Nat.succ_pos count, fun _ member => (List.not_mem_nil member).elim⟩
      | cons byte rest =>
          rw [continuations] at read
          split_ifs at read with more
          · obtain ⟨bytes, rfl, length, all⟩ := ih read
            exact ⟨byte :: bytes, rfl, Nat.succ_lt_succ length,
              List.forall_mem_cons.mpr ⟨more, all⟩⟩
          · cases read
            exact ⟨[], rfl, Nat.succ_pos count, fun _ member => (List.not_mem_nil member).elim⟩

/-- Besides a lead byte, only continuation bytes are skipped, and at most two. -/
theorem next_skips (read : next lead rest = (none, left)) :
    0x80 ≤ lead.toNat ∧ ∃ bytes : Bytes, rest = bytes ++ left ∧ bytes.length ≤ 2 ∧
      ∀ byte ∈ bytes, isContinuation byte = true := by
  constructor
  · by_contra ascii
    rw [next_one (charWidth_one (by omega))] at read
    cases read
  · have nothing : ∃ bytes : Bytes, left = bytes ++ left ∧ bytes.length ≤ 2 ∧
        ∀ byte ∈ bytes, isContinuation byte = true :=
      ⟨[], rfl, Nat.zero_le 2, fun _ member => (List.not_mem_nil member).elim⟩
    unfold next at read
    split at read
    · cases read
      exact nothing
    · cases read
    · cases read
      exact nothing
    · next more byte rest width =>
        split_ifs at read with may
        · obtain ⟨bytes, rfl, length, all⟩ := continuations_skips read
          refine ⟨byte :: bytes, rfl, ?_, List.forall_mem_cons.mpr
            ⟨isContinuation_of_maySecond may, all⟩⟩
          rw [List.length_cons]
          have bounds := bounds_of_width width
          omega
        · cases read
          exact nothing

end Sound

/-- The text that some bytes are read as. -/
inductive Reads : Bytes → RustString → Prop where
  | nil : Reads [] []
  | character (character : Char) {rest : Bytes} {text : RustString} (reads : Reads rest text) :
      Reads (String.utf8EncodeChar character ++ rest) (character :: text)
  | replaced {lead : UInt8} {more rest : Bytes} {text : RustString} (high : 0x80 ≤ lead.toNat)
      (short : more.length ≤ 2) (continuing : ∀ byte ∈ more, isContinuation byte = true)
      (illFormed : ∀ character left,
        lead :: (more ++ rest) ≠ String.utf8EncodeChar character ++ left)
      (reads : Reads rest text) : Reads (lead :: (more ++ rest)) (replacement :: text)

theorem decode_reads {fuel : Nat} {bytes : Bytes} (enough : bytes.length ≤ fuel) :
    Reads bytes (decode fuel bytes) := by
  induction fuel generalizing bytes with
  | zero =>
      obtain rfl := List.length_eq_zero_iff.mp (Nat.le_zero.mp enough)
      exact .nil
  | succ fuel ih =>
      cases bytes with
      | nil => exact .nil
      | cons lead rest =>
          rw [List.length_cons] at enough
          rw [decode]
          cases read : next lead rest with
          | mk character left =>
              cases character with
              | some character =>
                  have sound := next_sound read
                  have shorter := congrArg List.length sound
                  have positive := List.length_pos_iff.mpr
                    (String.utf8EncodeChar_ne_nil (c := character))
                  rw [List.length_append, List.length_cons] at shorter
                  rw [sound]
                  exact .character character (ih (by omega))
              | none =>
                  obtain ⟨high, more, rfl, short, continuing⟩ := next_skips read
                  rw [List.length_append] at enough
                  refine .replaced high short continuing (fun character tail same => ?_)
                    (ih (by omega))
                  obtain ⟨first, others, bytes, reading⟩ := next_utf8EncodeChar character tail
                  rw [bytes] at same
                  obtain ⟨rfl, rest⟩ := List.cons.inj same
                  rw [rest] at read
                  cases read.symm.trans reading

end AsyncNats.Utf8

namespace AsyncNats

open Utf8

theorem fromUtf8Lossy_reads (bytes : Bytes) : Reads bytes (fromUtf8Lossy bytes) :=
  decode_reads (Nat.le_refl _)

namespace Utf8.Reads

variable {bytes : Bytes} {text : RustString}

theorem zero_mem_utf8EncodeChar {character : Char} :
    0 ∈ String.utf8EncodeChar character ↔ '\x00' = character := by
  constructor
  · intro member
    by_contra distinct
    exact zero_notMem_utf8EncodeChar (Ne.symm distinct) member
  · rintro rfl
    exact List.mem_singleton_self 0

/-- A text has a NUL exactly if its bytes have one. -/
theorem zero_mem (reads : Reads bytes text) : '\x00' ∈ text ↔ 0 ∈ bytes := by
  induction reads with
  | nil => exact iff_of_false List.not_mem_nil List.not_mem_nil
  | character character _ ih =>
      rw [List.mem_cons, List.mem_append, zero_mem_utf8EncodeChar, ih]
  | @replaced lead more rest text high short continuing _ _ ih =>
      have lead_ : 0 ≠ lead := by
        rintro rfl
        exact absurd high (by decide)
      have more_ : 0 ∉ more := fun member => absurd (continuing 0 member) (by decide)
      have mark : '\x00' ≠ replacement := by decide
      rw [List.mem_cons, List.mem_cons, List.mem_append, ih, or_iff_right mark,
        or_iff_right lead_, or_iff_right more_]

/-- A text has no fewer bytes than it was read from: the mark has as many as it can replace. -/
theorem length_le_encode (reads : Reads bytes text) : bytes.length ≤ (encode text).length := by
  induction reads with
  | nil => exact Nat.le_refl 0
  | @character character rest text _ ih =>
      rw [encode, List.flatMap_cons, List.length_append, List.length_append, ← encode]
      omega
  | @replaced lead more rest text _ short _ _ _ ih =>
      have three : (String.utf8EncodeChar replacement).length = 3 := by decide
      rw [encode, List.flatMap_cons, List.length_append, three, List.length_cons,
        List.length_append, ← encode]
      omega

/-- A text has at most three times as many bytes as it was read from. -/
theorem length_encode_le (reads : Reads bytes text) :
    (encode text).length ≤ 3 * bytes.length := by
  induction reads with
  | nil => exact Nat.le_refl 0
  | @character character rest text _ ih =>
      rw [encode, List.flatMap_cons, List.length_append, List.length_append, ← encode]
      omega
  | @replaced lead more rest text _ _ _ _ _ ih =>
      have three : (String.utf8EncodeChar replacement).length = 3 := by decide
      rw [encode, List.flatMap_cons, List.length_append, three, List.length_cons,
        List.length_append, ← encode]
      omega

end Utf8.Reads

end AsyncNats
