import AsyncNats.Api.Buffers
import AsyncNats.Api.Utf8
import AsyncNats.Headers.View

/-! # Looking up arbitrary bytes

`HeadersView::get_header` gets a `string_view`, which may have any bytes. It tests that there
are some, the Rust side makes a `str` of them without a look at their encoding, and only then
the parser of header names reads them. Making a `str` of bytes that are not UTF-8 is undefined
behaviour; it happens to every message that has headers.
-/

namespace AsyncNats

/-- A Rust `str`: bytes that are UTF-8. -/
abbrev Str := { bytes : Bytes // Utf8.Valid bytes }

/-- `str::from_utf8_unchecked`, where `none` is undefined behaviour. -/
def fromUtf8Unchecked (data : Bytes) : Option Str :=
  if valid : Utf8.Valid data then some ⟨data, valid⟩ else none

/-- `AsyncNatsSlice::as_str`, on the outside whether it is defined. -/
def Buffer.asStr (buffer : Buffer) : Option (Option Str) :=
  buffer.asSlice.bind fun
    | none => some none
    | some data => (fromUtf8Unchecked data).map some

/-- A slice with an address becomes a `str` exactly if its bytes are UTF-8. -/
theorem Buffer.asStr_of_address {buffer : Buffer} (address : buffer.data ≠ none) :
    buffer.asStr = (fromUtf8Unchecked buffer.bytes).map some := by
  rw [asStr, asSlice, if_neg address, fromRawParts_of_address address, Option.map_some,
    Option.bind_some]

namespace Headers

variable {Name : Type} [DecidableEq Name]

/-- `async_nats_message_get_header` with the slice it gets. `none` is undefined behaviour. -/
def Heap.getHeaderSlice (names : HeaderNames Name) (heap : Heap Name)
    (headers : Option (HeaderMap Name)) (header : Buffer) :
    Option (Except Failure (Option Pointer × Heap Name)) :=
  match headers with
  | none => some (.ok (none, heap))
  | some map => header.asStr.map fun str =>
      Heap.getHeader names heap (some map) (str.map Subtype.val)

namespace HeadersView

/-- `get_header` with the `string_view` it gets. `none` is undefined behaviour. -/
def getHeaderView (names : HeaderNames Name) (heap : Heap Name)
    (headers : Option (HeaderMap Name)) (header : Buffer) :
    Option (Except Failure (Option HeaderVectorView × Heap Name)) :=
  if header.bytes.isEmpty then some (.ok (none, heap))
  else
    (heap.getHeaderSlice names headers header).map fun called => do
      let (res, heap) ← called
      match res with
      | none => return (none, heap)
      | some it =>
        let view ← HeaderVectorView.new heap (some it) true
        return (some view, heap)

/-- A lookup is defined whatever the bytes are, and returns nothing for bytes that are not
UTF-8 and for a text that is no header name. -/
structure SoundLookup (names : HeaderNames Name) (heap : Heap Name)
    (headers : Option (HeaderMap Name)) (header : Buffer) : Prop where
  defined : getHeaderView names heap headers header ≠ none
  malformed : ¬ Utf8.Valid header.bytes →
    getHeaderView names heap headers header = some (.ok (none, heap))
  illegal : names.fromStr header.bytes = none →
    getHeaderView names heap headers header = some (.ok (none, heap))

variable {names : HeaderNames Name} {heap : Heap Name} {headers : Option (HeaderMap Name)}
  {header : Buffer}

/-- Bytes have an address. -/
theorem address_of_bytes (bytes : header.bytes.isEmpty = false) : header.data ≠ none := by
  intro null
  rw [header.empty null] at bytes
  cases bytes

theorem getHeaderView_of_absent (header : Buffer) :
    getHeaderView names heap none header = some (.ok (none, heap)) := by
  unfold getHeaderView
  split <;> rfl

/-- On UTF-8 the lookup is the one by text. -/
theorem getHeaderView_of_valid (valid : Utf8.Valid header.bytes) :
    getHeaderView names heap headers header = some (getHeader names heap headers header.bytes) := by
  unfold getHeaderView getHeader
  split
  · rfl
  next bytes =>
    have address := address_of_bytes (Bool.eq_false_iff.mpr bytes)
    cases headers with
    | none => rfl
    | some map =>
        rw [Heap.getHeaderSlice, Buffer.asStr_of_address address, fromUtf8Unchecked, dif_pos valid]
        rfl

/-- On other bytes it is undefined if the message has headers. -/
theorem getHeaderView_of_malformed {map : HeaderMap Name} (malformed : ¬ Utf8.Valid header.bytes) :
    getHeaderView names heap (some map) header = none := by
  have bytes : header.bytes.isEmpty = false := by
    cases split : header.bytes with
    | nil => exact absurd ⟨[], split.symm⟩ malformed
    | cons => rfl
  rw [getHeaderView, bytes, if_neg Bool.false_ne_true, Heap.getHeaderSlice,
    Buffer.asStr_of_address (address_of_bytes bytes), fromUtf8Unchecked, dif_neg malformed]
  rfl

/-- The lookup by text returns nothing for what is no header name. -/
theorem getHeader_of_illegal {text : Bytes} (illegal : names.fromStr text = none) :
    getHeader names heap headers text = .ok (none, heap) := by
  unfold getHeader
  split
  · rfl
  · cases headers with
    | none => rfl
    | some map =>
        rw [Heap.getHeader, illegal]
        rfl

/-- The lookup of a `string_view` is sound if and only if the message has no headers or the
bytes are UTF-8. -/
theorem soundLookup_iff_valid (names : HeaderNames Name) (heap : Heap Name)
    (headers : Option (HeaderMap Name)) (header : Buffer) :
    SoundLookup names heap headers header ↔ headers = none ∨ Utf8.Valid header.bytes := by
  constructor
  · intro sound
    by_contra neither
    rw [not_or] at neither
    obtain ⟨map, rfl⟩ := Option.ne_none_iff_exists'.mp neither.1
    exact sound.defined (getHeaderView_of_malformed neither.2)
  · rintro (rfl | valid)
    · have absent : getHeaderView names heap none header = some (.ok (none, heap)) :=
        getHeaderView_of_absent header
      exact ⟨absent ▸ Option.some_ne_none _, fun _ => absent, fun _ => absent⟩
    · have same : getHeaderView names heap headers header =
          some (getHeader names heap headers header.bytes) := getHeaderView_of_valid valid
      refine ⟨same ▸ Option.some_ne_none _, fun malformed => absurd valid malformed, ?_⟩
      intro illegal
      rw [same, getHeader_of_illegal illegal]

/-- A message with a header is asked for the byte `FF`. -/
theorem not_soundLookup_of_byte :
    ¬ SoundLookup HeaderNames.visible []
      (some (AList.insert [65] ⟨[[66]], by decide⟩ ∅)) ⟨some 0, [0xFF], by decide⟩ := by
  intro sound
  exact sound.defined (getHeaderView_of_malformed (by decide))

end HeadersView

end Headers

end AsyncNats
