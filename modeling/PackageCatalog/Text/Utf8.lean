import PackageCatalog.Text.Basic

/-!
# UTF-8

Encoding of texts and strict decoding of bytes: shortest forms only, no surrogates, nothing
above U+10FFFF.  A byte order mark is an ordinary character.

## Main definitions

* `Utf8.encodeChar`, `Utf8.encode` - the octets of a character and of a text.
* `Utf8.decodeOne` - the first character of an octet sequence and what follows it.
* `Utf8.decode` - the text of an octet sequence, if it is well formed.
* `Utf8.order` - comparison of texts by their octets.
-/

namespace PackageCatalog.Utf8

/-- The octets of a character. -/
def encodeChar (c : Char) : Bytes :=
  let n := c.toNat
  if n < 0x80 then [UInt8.ofNat n]
  else if n < 0x800 then [UInt8.ofNat (0xC0 + n / 64), UInt8.ofNat (0x80 + n % 64)]
  else if n < 0x10000 then
    [UInt8.ofNat (0xE0 + n / 4096), UInt8.ofNat (0x80 + n / 64 % 64), UInt8.ofNat (0x80 + n % 64)]
  else
    [UInt8.ofNat (0xF0 + n / 262144), UInt8.ofNat (0x80 + n / 4096 % 64),
      UInt8.ofNat (0x80 + n / 64 % 64), UInt8.ofNat (0x80 + n % 64)]

/-- The octets of a text. -/
def encode (t : Text) : Bytes := t.flatMap encodeChar

/-- The six bits that a continuation octet carries. -/
def continuation? (b : UInt8) : Option Nat :=
  if 0x80 ≤ b.toNat ∧ b.toNat < 0xC0 then some (b.toNat - 0x80) else none

/-- The character of a code point that is at least `least` and is a scalar value. -/
def scalar? (least n : Nat) : Option Char :=
  if least ≤ n ∧ n.isValidChar then some (Char.ofNat n) else none

/-- The first character of an octet sequence and the octets after it. -/
def decodeOne : Bytes → Option (Char × Bytes)
  | [] => none
  | a :: rest =>
    let lead := a.toNat
    if lead < 0x80 then some (Char.ofNat lead, rest)
    else if lead < 0xC2 then none
    else if lead < 0xE0 then
      match rest with
      | b :: rest => do
        let x ← continuation? b
        let c ← scalar? 0x80 ((lead - 0xC0) * 64 + x)
        some (c, rest)
      | _ => none
    else if lead < 0xF0 then
      match rest with
      | b :: b' :: rest => do
        let x ← continuation? b
        let y ← continuation? b'
        let c ← scalar? 0x800 ((lead - 0xE0) * 4096 + x * 64 + y)
        some (c, rest)
      | _ => none
    else if lead < 0xF5 then
      match rest with
      | b :: b' :: b'' :: rest => do
        let x ← continuation? b
        let y ← continuation? b'
        let z ← continuation? b''
        let c ← scalar? 0x10000 ((lead - 0xF0) * 262144 + x * 4096 + y * 64 + z)
        some (c, rest)
      | _ => none
    else none

/-- Decoding of at most `fuel` characters in front of those already read, latest first. -/
def decodeOnto : Nat → Bytes → Text → Option Text
  | _, [], done => some done.reverse
  | 0, _ :: _, _ => none
  | fuel + 1, b :: bs, done =>
    match decodeOne (b :: bs) with
    | some (c, rest) => decodeOnto fuel rest (c :: done)
    | none => none

/-- The text of a well-formed octet sequence.  Each character takes at least one octet, so the
number of octets is fuel enough. -/
def decode (bs : Bytes) : Option Text := decodeOnto bs.length bs []

/-- Comparison of texts by their octets. -/
def order (s t : Text) : Ordering := Text.compareCodes UInt8.toNat (encode s) (encode t)

end PackageCatalog.Utf8
