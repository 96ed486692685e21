/-!
# UTF-8

Reading text from bytes, and saying where bytes stop being text.

## Main definitions

* `Utf8.decode` — the characters of a byte sequence, or the offset of the first sequence that is not
  a character.
* `Utf8.encode` — the bytes of a text.

## Implementation notes

Decoding accepts exactly the shortest encodings of scalar values: overlong forms, surrogates and
values past the last code point are errors at the offset of their first byte.
-/

namespace LiveSketch
namespace Utf8

/-- The payload of a continuation byte. -/
def continuation (b : UInt8) : Option Nat :=
  if 0x80 ≤ b ∧ b < 0xC0 then some (b.toNat - 0x80) else none

/-- A character of a given value, provided it needs as many bytes as it was written with. -/
def scalar (least value : Nat) : Option Char :=
  if least ≤ value ∧ (value < 0xD800 ∨ (0xDFFF < value ∧ value < 0x110000)) then
    some (Char.ofNat value)
  else none

/-- The character at the start of a byte sequence, and the bytes after it. -/
def next : List UInt8 → Option (Char × List UInt8)
  | [] => none
  | b :: rest =>
    if b < 0x80 then some (Char.ofNat b.toNat, rest)
    else if b < 0xC0 then none
    else if b < 0xE0 then
      match rest with
      | b1 :: rest => do
        let n1 ← continuation b1
        let c ← scalar 0x80 ((b.toNat - 0xC0) * 64 + n1)
        pure (c, rest)
      | _ => none
    else if b < 0xF0 then
      match rest with
      | b1 :: b2 :: rest => do
        let n1 ← continuation b1
        let n2 ← continuation b2
        let c ← scalar 0x800 (((b.toNat - 0xE0) * 64 + n1) * 64 + n2)
        pure (c, rest)
      | _ => none
    else if b < 0xF8 then
      match rest with
      | b1 :: b2 :: b3 :: rest => do
        let n1 ← continuation b1
        let n2 ← continuation b2
        let n3 ← continuation b3
        let c ← scalar 0x10000 ((((b.toNat - 0xF0) * 64 + n1) * 64 + n2) * 64 + n3)
        pure (c, rest)
      | _ => none
    else none

/-- Decodes with a bound on the number of characters; `offset` is where `bytes` starts. -/
def decodeWithin : Nat → Nat → List UInt8 → Except Nat (List Char)
  | _, _, [] => .ok []
  | 0, offset, _ => .error offset
  | fuel + 1, offset, bytes =>
    match next bytes with
    | none => .error offset
    | some (c, rest) =>
      match decodeWithin fuel (offset + (bytes.length - rest.length)) rest with
      | .ok cs => .ok (c :: cs)
      | .error e => .error e

/-- The characters of a byte sequence, or the offset of the first sequence that is not one. There
are at most as many characters as bytes. -/
def decode (bytes : List UInt8) : Except Nat String :=
  (decodeWithin bytes.length 0 bytes).map String.ofList

/-- The bytes of a text. -/
def encode (text : String) : List UInt8 := text.toUTF8.toList

end Utf8

end LiveSketch
