import PackageCatalog.Text.Utf8
import PackageCatalog.Text.KanaRows

/-!
# Charsets

Strict decoders for the encodings that a guess may name, and the names they go by.

## Main definitions

* `Charset` - the encodings.
* `Charset.ofName?` - the encoding of a name, spelled in any of the usual ways.
* `Charset.decode` - the text of octets in an encoding, if all of them belong to it.
-/

namespace PackageCatalog

/-- The order of the octets of a wide unit. -/
inductive ByteOrder
  | little
  | big
  deriving DecidableEq, Repr

/-- An encoding of text as octets. -/
inductive Charset
  | ascii
  | latin1
  | windows1252
  /-- UTF-8; with `mark` a byte order mark at the start is dropped. -/
  | utf8 (mark : Bool)
  /-- UTF-16 in a fixed order, or in the order that its mark tells. -/
  | utf16 (order : Option ByteOrder)
  /-- UTF-32 in a fixed order, or in the order that its mark tells. -/
  | utf32 (order : Option ByteOrder)
  | shiftJis
  | eucJp
  deriving DecidableEq, Repr

namespace Charset

/-! ### Names -/

/-- A name in lower case, with one underscore for every run of characters that are neither
letters, digits nor dots, and none at its ends. -/
def foldName (name : Text) : Text :=
  let isPart := fun c => ('a' ≤ c && c ≤ 'z') || ('A' ≤ c && c ≤ 'Z') || Text.isDigit c || c == '.'
  let marked := name.map (fun c => if isPart c then Text.asciiLower c else '_')
  Text.joined '_' ((Text.pieces '_' marked).filter (!List.isEmpty ·))

/-- The folded names of each encoding. -/
def names : List (Charset × List String) := [
  (.ascii, ["ascii", "us_ascii", "646", "us", "ansi_x3.4_1968", "ansi_x3.4_1986",
    "ansi_x3_4_1968", "cp367", "csascii", "ibm367", "iso646_us", "iso_646.irv_1991", "iso_ir_6"]),
  (.latin1, ["iso_8859_1", "latin_1", "latin1", "latin", "l1", "iso8859_1", "8859", "iso8859",
    "cp819", "csisolatin1", "ibm819", "iso_8859_1_1987", "iso_ir_100"]),
  (.windows1252, ["windows_1252", "cp1252", "1252"]),
  (.utf8 false, ["utf_8", "utf8", "u8", "utf", "cp65001", "utf8_ucs2", "utf8_ucs4"]),
  (.utf8 true, ["utf_8_sig"]),
  (.utf16 none, ["utf_16", "utf16", "u16"]),
  (.utf16 (some .little), ["utf_16_le", "utf_16le", "unicodelittleunmarked"]),
  (.utf16 (some .big), ["utf_16_be", "utf_16be", "unicodebigunmarked"]),
  (.utf32 none, ["utf_32", "utf32", "u32"]),
  (.utf32 (some .little), ["utf_32_le", "utf_32le"]),
  (.utf32 (some .big), ["utf_32_be", "utf_32be"]),
  (.shiftJis, ["shift_jis", "csshiftjis", "s_jis", "shiftjis", "sjis", "x_mac_japanese"]),
  (.eucJp, ["euc_jp", "eucjp", "u_jis", "ujis"])]

/-- The encoding that a name stands for. -/
def ofName? (name : Text) : Option Charset :=
  (names.find? (fun entry => entry.2.any (·.toList == foldName name))).map Prod.fst

/-! ### Single octets -/

/-- The characters of octets 80 to 9F in Windows-1252; zero marks an octet without one. -/
def windows1252High : List Nat := [
  0x20AC, 0, 0x201A, 0x192, 0x201E, 0x2026, 0x2020, 0x2021, 0x2C6, 0x2030, 0x160, 0x2039, 0x152,
  0, 0x17D, 0, 0, 0x2018, 0x2019, 0x201C, 0x201D, 0x2022, 0x2013, 0x2014, 0x2DC, 0x2122, 0x161,
  0x203A, 0x153, 0, 0x17E, 0x178]

/-- The character of an octet in Windows-1252. -/
def windows1252Char (b : UInt8) : Option Char :=
  let n := b.toNat
  if n < 0x80 ∨ 0xA0 ≤ n then some (Char.ofNat n)
  else match windows1252High[n - 0x80]? with
    | some (code + 1) => some (Char.ofNat (code + 1))
    | _ => none

/-- The text of octets that each stand for one character, in front of `done`. -/
def decodeEach (char? : UInt8 → Option Char) : Bytes → Text → Option Text
  | [], done => some done.reverse
  | b :: bs, done =>
    match char? b with
    | some c => decodeEach char? bs (c :: done)
    | none => none

/-! ### Wide units -/

/-- The number written by two octets. -/
def unit16 : ByteOrder → UInt8 → UInt8 → Nat
  | .little, a, b => a.toNat + 256 * b.toNat
  | .big, a, b => 256 * a.toNat + b.toNat

/-- The text of octets in UTF-16 of a given order. -/
def decode16 (order : ByteOrder) : Bytes → Text → Option Text
  | [], done => some done.reverse
  | a :: b :: rest, done =>
    let high := unit16 order a b
    if high < 0xD800 ∨ 0xE000 ≤ high then decode16 order rest (Char.ofNat high :: done)
    else if high < 0xDC00 then
      match rest with
      | c :: d :: rest =>
        let low := unit16 order c d
        if 0xDC00 ≤ low ∧ low < 0xE000 then
          decode16 order rest
            (Char.ofNat (0x10000 + (high - 0xD800) * 0x400 + (low - 0xDC00)) :: done)
        else none
      | _ => none
    else none
  | [_], _ => none

/-- The text of octets in UTF-32 of a given order. -/
def decode32 (order : ByteOrder) : Bytes → Text → Option Text
  | [], done => some done.reverse
  | a :: b :: c :: d :: rest, done =>
    let n := match order with
      | .little => unit16 .little a b + 65536 * unit16 .little c d
      | .big => 65536 * unit16 .big a b + unit16 .big c d
    if n.isValidChar then decode32 order rest (Char.ofNat n :: done) else none
  | _, _ => none

/-- The order that a mark at the start of UTF-16 tells, and what follows; little without one. -/
def mark16 : Bytes → ByteOrder × Bytes
  | 0xFF :: 0xFE :: rest => (.little, rest)
  | 0xFE :: 0xFF :: rest => (.big, rest)
  | bs => (.little, bs)

/-- The order that a mark at the start of UTF-32 tells, and what follows; little without one. -/
def mark32 : Bytes → ByteOrder × Bytes
  | 0xFF :: 0xFE :: 0x00 :: 0x00 :: rest => (.little, rest)
  | 0x00 :: 0x00 :: 0xFE :: 0xFF :: rest => (.big, rest)
  | bs => (.little, bs)

/-! ### The Japanese grid -/

/-- The character in a cell of the grid; rows and cells count from one. -/
def gridChar (row cell : Nat) : Option Char :=
  match gridRows[row - 1]? with
  | some text =>
    match text.toList[cell - 1]? with
    | some c => if c = ' ' then none else some c
    | none => none
  | none => none

/-- The half-width katakana of an octet from A1 to DF. -/
def halfKana (b : UInt8) : Option Char :=
  if 0xA1 ≤ b.toNat ∧ b.toNat < 0xE0 then some (Char.ofNat (0xFF61 + (b.toNat - 0xA1))) else none

/-- The character of two octets in Shift_JIS: a lead octet holds two rows. -/
def shiftJisPair (a b : UInt8) : Option Char :=
  let lead := a.toNat
  let trail := b.toNat
  if (0x81 ≤ lead ∧ lead < 0xA0 ∨ 0xE0 ≤ lead ∧ lead < 0xF0) ∧
      0x40 ≤ trail ∧ trail ≠ 0x7F ∧ trail < 0xFD then
    let pair := if lead < 0xA0 then lead - 0x81 else lead - 0xC1
    if 0x9F ≤ trail then gridChar (2 * pair + 2) (trail - 0x9E)
    else gridChar (2 * pair + 1) (trail - 0x3F - (if 0x80 ≤ trail then 1 else 0))
  else none

/-- The text of octets in Shift_JIS, in front of `done`. -/
def decodeShiftJis : Bytes → Text → Option Text
  | [], done => some done.reverse
  | [a], done =>
    if a.toNat < 0x80 then some (Char.ofNat a.toNat :: done).reverse
    else (halfKana a).map (fun c => (c :: done).reverse)
  | a :: b :: rest, done =>
    if a.toNat < 0x80 then decodeShiftJis (b :: rest) (Char.ofNat a.toNat :: done)
    else match halfKana a with
      | some c => decodeShiftJis (b :: rest) (c :: done)
      | none =>
        match shiftJisPair a b with
        | some c => decodeShiftJis rest (c :: done)
        | none => none

/-- The character of two octets in EUC-JP. -/
def eucPair (a b : UInt8) : Option Char :=
  if a = 0x8E then halfKana b
  else if 0xA1 ≤ a.toNat ∧ 0xA1 ≤ b.toNat ∧ b.toNat < 0xFF then
    gridChar (a.toNat - 0xA0) (b.toNat - 0xA0)
  else none

/-- The text of octets in EUC-JP, in front of `done`. -/
def decodeEuc : Bytes → Text → Option Text
  | [], done => some done.reverse
  | [a], done => if a.toNat < 0x80 then some (Char.ofNat a.toNat :: done).reverse else none
  | a :: b :: rest, done =>
    if a.toNat < 0x80 then decodeEuc (b :: rest) (Char.ofNat a.toNat :: done)
    else match eucPair a b with
      | some c => decodeEuc rest (c :: done)
      | none => none

/-! ### Decoding -/

/-- The text of octets in an encoding, if all of them belong to it. -/
def decode : Charset → Bytes → Option Text
  | .ascii, bs => decodeEach (fun b => if b.toNat < 0x80 then some (Char.ofNat b.toNat) else none) bs []
  | .latin1, bs => decodeEach (fun b => some (Char.ofNat b.toNat)) bs []
  | .windows1252, bs => decodeEach windows1252Char bs []
  | .utf8 false, bs => Utf8.decode bs
  | .utf8 true, 0xEF :: 0xBB :: 0xBF :: bs => Utf8.decode bs
  | .utf8 true, bs => Utf8.decode bs
  | .utf16 (some order), bs => decode16 order bs []
  | .utf16 none, bs => decode16 (mark16 bs).1 (mark16 bs).2 []
  | .utf32 (some order), bs => decode32 order bs []
  | .utf32 none, bs => decode32 (mark32 bs).1 (mark32 bs).2 []
  | .shiftJis, bs => decodeShiftJis bs []
  | .eucJp, bs => decodeEuc bs []

end Charset

end PackageCatalog
