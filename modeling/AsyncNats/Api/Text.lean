import Mathlib.Algebra.Group.Nat.Defs
import Mathlib.Data.List.Basic

/-! # Bytes and strings at the API boundary

A Rust `String` is the list of its characters, a C string the bytes before its
terminating NUL. Strings cross the boundary through `lossy_convert`, which is
`String::from_utf8_lossy`: every maximal ill-formed sequence of bytes becomes one
replacement character. Payloads are copied through a reusable `BytesMut`.
-/

namespace AsyncNats

abbrev Bytes := List UInt8

abbrev RustString := List Char

/-- The bytes of a C string, without its terminator. -/
abbrev CString := { bytes : Bytes // 0 ∉ bytes }

/-- `*const c_char`: a null pointer or a C string. -/
abbrev BorrowedString := Option CString

namespace Utf8

/-- `U+FFFD`. -/
def replacement : Char := Char.ofNat 0xFFFD

def isContinuation (byte : UInt8) : Bool := 0x80 ≤ byte && byte ≤ 0xBF

/-- The bytes that may follow `lead` in a well-formed sequence. The narrower
ranges exclude overlong forms, surrogates and values above `U+10FFFF`. -/
def maySecond (lead byte : UInt8) : Bool :=
  if lead = 0xE0 then 0xA0 ≤ byte && byte ≤ 0xBF
  else if lead = 0xED then 0x80 ≤ byte && byte ≤ 0x9F
  else if lead = 0xF0 then 0x90 ≤ byte && byte ≤ 0xBF
  else if lead = 0xF4 then 0x80 ≤ byte && byte ≤ 0x8F
  else isContinuation byte

/-- The length a lead byte announces; `0` for a byte that starts nothing. -/
def charWidth (lead : UInt8) : Nat :=
  if lead < 0x80 then 1
  else if 0xC2 ≤ lead && lead ≤ 0xDF then 2
  else if 0xE0 ≤ lead && lead ≤ 0xEF then 3
  else if 0xF0 ≤ lead && lead ≤ 0xF4 then 4
  else 0

/-- Read `count` continuation bytes onto `code`. The first byte that is none is
left in the input. -/
def continuations : Nat → Nat → Bytes → Option Char × Bytes
  | 0, code, rest => (some (Char.ofNat code), rest)
  | _ + 1, _, [] => (none, [])
  | count + 1, code, byte :: rest =>
    if isContinuation byte then continuations count (code * 64 + byte.toNat % 64) rest
    else (none, byte :: rest)

/-- Read one character, or skip one maximal ill-formed sequence. -/
def next (lead : UInt8) (rest : Bytes) : Option Char × Bytes :=
  match charWidth lead, rest with
  | 0, _ => (none, rest)
  | 1, _ => (some (Char.ofNat lead.toNat), rest)
  | _ + 2, [] => (none, [])
  | more + 2, byte :: rest =>
    if maySecond lead byte then
      continuations more (lead.toNat % 2 ^ (5 - more) * 64 + byte.toNat % 64) rest
    else (none, byte :: rest)

/-- Decode at most `fuel` characters. -/
def decode : Nat → Bytes → RustString
  | 0, _ => []
  | _ + 1, [] => []
  | fuel + 1, lead :: rest =>
    let (character, rest) := next lead rest
    character.getD replacement :: decode fuel rest

end Utf8

/-- `String::from_utf8_lossy`. Every character takes at least one byte, so the
number of bytes is enough fuel. -/
def fromUtf8Lossy (bytes : Bytes) : RustString :=
  Utf8.decode bytes.length bytes

/-- `LossyConvert` for a C string that is not null. -/
def lossyConvert (text : CString) : RustString :=
  fromUtf8Lossy text.1

example : fromUtf8Lossy [0x61, 0xC3, 0xA9, 0xE2, 0x82, 0x62, 0xED, 0xA0] =
    ['a', 'é', Utf8.replacement, 'b', Utf8.replacement, Utf8.replacement] := by decide

/-- Copying a payload through a reusable `BytesMut`: `extend_from_slice`, then
`split_to(data.len())` and `freeze`. The result is the frozen part and what is
left in the buffer. -/
def copyThrough (buffer data : Bytes) : Bytes × Bytes :=
  let extended := buffer ++ data
  (extended.take data.length, extended.drop data.length)

/-- Through an empty buffer the copy is the payload, and the buffer is empty
again. -/
@[simp] theorem copyThrough_nil (data : Bytes) : copyThrough [] data = (data, []) := by
  simp only [copyThrough, List.nil_append, List.take_length, List.drop_length]

end AsyncNats
