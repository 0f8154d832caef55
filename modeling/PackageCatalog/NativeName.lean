import PackageCatalog.Text.Utf8

/-!
# Native file names

The system stores a file name as octets, which need not be UTF-8.  A `NativeName` is the text
form in which such a name travels through the program without loss: a sequence of code points
in which an octet that decodes to nothing stands as the surrogate U+DC80 to U+DCFF that carries
it.

## Main definitions

* `NameUnit`, `NativeName` - code points, surrogates included, and sequences of them.
* `NativeName.ofBytes` - the name that stands for given octets; it always exists.
* `NativeName.toBytes?` - the octets of a name, if it holds no surrogate of another kind.
* `NativeName.ofText` - a text taken as a name.
* `NativeName.masked` - the text of a name with its surrogates replaced.
-/

namespace PackageCatalog

/-- One code point of a native name. -/
inductive NameUnit
  /-- A Unicode scalar value. -/
  | char (c : Char)
  /-- The surrogate U+D800 + `s`. -/
  | surrogate (s : Fin 0x800)
  deriving DecidableEq, Repr

namespace NameUnit

/-- The code point. -/
def code : NameUnit → Nat
  | char c => c.toNat
  | surrogate s => 0xD800 + s.val

/-- The surrogate that carries an octet that is not part of any character. -/
def escape (b : UInt8) : NameUnit := surrogate (Fin.ofNat 0x800 (0x400 + b.toNat))

/-- The octets a unit stands for: UTF-8 for a character, the carried octet for an escape. -/
def toBytes? : NameUnit → Option Bytes
  | char c => some (Utf8.encodeChar c)
  | surrogate s => if 0x480 ≤ s.val ∧ s.val < 0x500 then some [UInt8.ofNat (s.val - 0x400)] else none

instance : Inhabited NameUnit := ⟨char 'A'⟩

end NameUnit

/-- A file name as the program holds it. -/
abbrev NativeName := List NameUnit

namespace NativeName

/-- A text taken as a name. -/
def ofText (t : Text) : NativeName := t.map .char

/-- The text of a name with a given character in the place of every surrogate. -/
def masked (mask : Char) (n : NativeName) : Text :=
  n.map (fun u => match u with
    | .char c => c
    | .surrogate _ => mask)

/-- The text of a name that holds no surrogate. -/
def toText? : NativeName → Option Text
  | [] => some []
  | .char c :: rest => (toText? rest).map (c :: ·)
  | .surrogate _ :: _ => none

/-- The name of an octet sequence, read with `fuel` steps. -/
def ofBytesWith : Nat → Bytes → NativeName
  | _, [] => []
  | 0, bs => bs.map .escape
  | fuel + 1, b :: bs =>
    match Utf8.decodeOne (b :: bs) with
    | some (c, rest) => .char c :: ofBytesWith fuel rest
    | none => .escape b :: ofBytesWith fuel bs

/-- The name that stands for an octet sequence: its characters where it is UTF-8, and an escape
for every octet that belongs to no character. -/
def ofBytes (bs : Bytes) : NativeName := ofBytesWith bs.length bs

/-- The octets a name stands for; none when it holds a surrogate that carries no octet. -/
def toBytes? : NativeName → Option Bytes
  | [] => some []
  | u :: rest => do
    let front ← u.toBytes?
    let back ← toBytes? rest
    some (front ++ back)

end NativeName

end PackageCatalog
