import PackageCatalog.Text.Utf8
import PackageCatalog.Yaml.Fault

/-!
# Texts read in pieces

A document is read in pieces of a fixed number of characters, and each piece out of blocks of
octets.  A fault in a piece is only noticed when the piece is needed, so that what stands in the
text before it may be refused first.  All line breaks of the system become line feeds.

## Main definitions

* `Yaml.Blocks` - what is left of a file, and the characters that were decoded ahead.
* `Yaml.Blocks.piece` - the next piece.
* `Yaml.Source` - the text up to the first faulty piece.
* `Yaml.Source.ofBytes` - the source of a file.
-/

namespace PackageCatalog.Yaml

/-! ### Characters -/

/-- Whether a character may stand in a document. -/
def isAllowed (c : Char) : Bool :=
  let n := c.toNat
  n == 0x09 || n == 0x0A || n == 0x0D || (0x20 ≤ n && n ≤ 0x7E) || n == 0x85 ||
    (0xA0 ≤ n && n ≤ 0xFFFD) || 0x10000 ≤ n

/-- A text in which every carriage return, with a line feed after it or without, is a line
feed. -/
def withLineFeeds : Text → Text
  | [] => []
  | '\r' :: '\n' :: t => '\n' :: withLineFeeds t
  | c :: t => (if c = '\r' then '\n' else c) :: withLineFeeds t

/-! ### Blocks -/

/-- A file that is being read. -/
structure Blocks where
  /-- The octets that were not read yet. -/
  rest : Bytes
  /-- The octets at the end of the last block that start a character. -/
  started : Bytes := []
  /-- Whether the last block ended with a carriage return, which is kept back. -/
  carriage : Bool := false
  /-- The characters that were decoded but not used. -/
  ahead : Text := []
  /-- The numbers of octets and characters of the last block. -/
  ratio : Nat × Nat := (0, 0)

namespace Blocks

/-- The least number of octets of a block. -/
def size : Nat := 8192

/-- Whether octets may be the start of a single character. -/
def isStart (bs : Bytes) : Bool :=
  match bs with
  | [] => false
  | lead :: more =>
    let length := if lead < 0xC2 then 0 else if lead < 0xE0 then 2 else if lead < 0xF0 then 3
      else if lead < 0xF5 then 4 else 0
    decide (bs.length < length) && more.all (fun b => (Utf8.continuation? b).isSome)

/-- The text of a block, and the octets at its end that are only the start of a character; the
last block has none. -/
def decode? (final : Bool) (bs : Bytes) : Option (Text × Bytes) :=
  let tails := if final then [0] else [0, 1, 2, 3]
  tails.findSome? (fun n =>
    let tail := bs.drop (bs.length - n)
    if n = 0 || isStart tail then (Utf8.decode (bs.take (bs.length - n))).map (·, tail) else none)

/-- The file after one more block, which holds at least `wanted` characters if the last one is
typical; and whether the file has ended. -/
def next (b : Blocks) (wanted : Nat) : Except Fault (Blocks × Bool) :=
  let length := if b.ratio.2 = 0 then wanted else max wanted (wanted * b.ratio.1 / b.ratio.2)
  let block := b.rest.take (max size length)
  let final := block.isEmpty
  match decode? final (b.started ++ block) with
  | none => .error .undecodable
  | some (t, started) =>
    let t := if b.carriage && (final || !t.isEmpty) then '\r' :: t else t
    let held := !final && t.getLast? == some '\r'
    let carriage := held || (b.carriage && t.isEmpty)
    let fresh := withLineFeeds (if held then t.dropLast else t)
    .ok ({ rest := b.rest.drop block.length, started, carriage, ahead := b.ahead ++ fresh,
           ratio := (block.length, fresh.length) }, final && fresh.isEmpty)

/-- The number of characters of a piece. -/
def pieceLength : Nat := 4096

/-- The next piece of a file; it is shorter only at the end. -/
def piece : Nat → Blocks → Except Fault (Text × Blocks)
  | 0, b => .ok (b.ahead.take pieceLength, { b with ahead := b.ahead.drop pieceLength })
  | fuel + 1, b =>
    let ready := { b with ahead := b.ahead.drop pieceLength }
    let wanted := pieceLength - (b.ahead.take pieceLength).length
    if wanted = 0 then .ok (b.ahead.take pieceLength, ready)
    else match b.next wanted with
      | .error e => .error e
      | .ok (b, ended) => if ended then .ok (b.ahead, { b with ahead := [] }) else piece fuel b

end Blocks

/-! ### Sources -/

/-- A text, and why it breaks off if it does. -/
structure Source where
  text : Text
  broken : Option Fault := none
  deriving DecidableEq, Repr

namespace Source

/-- The pieces of a file from a place on, behind the text `done` (latest piece first). -/
def ofPieces : Nat → Blocks → List Text → Source
  | 0, _, done => ⟨done.reverse.flatten, none⟩
  | fuel + 1, b, done =>
    match b.piece (b.rest.length + 2) with
    | .error e => ⟨done.reverse.flatten, some e⟩
    | .ok (t, b) =>
      if t.isEmpty then ⟨done.reverse.flatten, none⟩
      else if t.all isAllowed then ofPieces fuel b (t :: done)
      else ⟨done.reverse.flatten, some .malformed⟩

/-- The source of a file.  Its first two pieces are read together. -/
def ofBytes (bs : Bytes) : Source :=
  let b : Blocks := { rest := bs }
  match b.piece (bs.length + 2) with
  | .error e => ⟨[], some e⟩
  | .ok (first, b) =>
    match b.piece (bs.length + 2) with
    | .error e => ⟨[], some e⟩
    | .ok (second, b) =>
      let t := first ++ second
      if t.all isAllowed then ofPieces (bs.length + 2) b [t] else ⟨[], some .malformed⟩

end Source

end PackageCatalog.Yaml
