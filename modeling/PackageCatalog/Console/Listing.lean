import PackageCatalog.Console.Figures
import PackageCatalog.Console.Grid
import PackageCatalog.Excerpt

/-!
# Listings

What the console shows of documents.

## Main definitions

* `Json.quoted`, `jsonListing` - documents as a JSON array.
* `Steering.removed`, `shortListing` - short paths, without what would steer a terminal.
* `Contents.shownFields`, `Document.shownRow` - the values of a document between brackets.
* `sizeListing` - a table of sizes, dates and short paths.
-/

namespace PackageCatalog

/-! ### JSON -/

namespace Json

/-- A character of a JSON string. -/
def character (c : Char) : Text :=
  match c with
  | '"' => ['\\', '"']
  | '\\' => ['\\', '\\']
  | '\n' => ['\\', 'n']
  | '\r' => ['\\', 'r']
  | '\t' => ['\\', 't']
  | '\x08' => ['\\', 'b']
  | '\x0c' => ['\\', 'f']
  | c => if c.toNat < 0x20 then '\\' :: 'u' :: Text.hex 4 c.toNat else [c]

/-- A text as a JSON string. -/
def quoted (t : Text) : Text := '"' :: (t.flatMap character ++ ['"'])

/-- A number as JSON. -/
def number : Double → Text
  | .infinite negative => (if negative then ['-'] else []) ++ "Infinity".toList
  | d => d.text

/-- The value of a field as JSON. -/
def cell : Cell → Text
  | .number d => number d
  | .text t => quoted t

/-- Lines with a comma after each but the last. -/
def commaLines (items : List Text) : Text :=
  (items.intersperse ",\n".toList).flatten ++ ['\n']

end Json

/-- The fields of a document that a JSON listing has. -/
def listedFields : List Field := [.package, .restpath, .path, .suffix, .timestamp]

/-- A document as an indented JSON object. -/
def Document.json (d : Document) : Text :=
  let entry := fun f : Field =>
    "    ".toList ++ Json.quoted f.name.toList ++ ": ".toList ++ Json.cell (d.get f)
  "  \x7b\n".toList ++ Json.commaLines (listedFields.map entry) ++ "  \x7d".toList

/-- Documents as an indented JSON array. -/
def jsonListing (ds : List Document) : Text :=
  "[\n".toList ++ Json.commaLines (ds.map Document.json) ++ "]\n".toList

/-! ### Short paths -/

namespace Steering

/-- Whether a character may stand among the parameters of a sequence. -/
def isParameter (c : Char) : Bool := c == ';' || c == '?' || Text.isDigit c

/-- What follows the sequence that a text starts with: an escape, an opening bracket, parameters,
and a letter. -/
def after? : Text → Option Text
  | '\x1b' :: '[' :: t =>
    match t.dropWhile isParameter with
    | c :: rest => if c.isAlpha then some rest else none
    | [] => none
  | _ => none

/-- A sequence takes something away. -/
theorem length_lt_of_after? {t rest : Text} (h : after? t = some rest) : rest.length < t.length := by
  unfold after? at h
  split at h
  · next u =>
    have := (List.dropWhile_suffix isParameter (l := u)).length_le
    split at h <;> simp_all
    omega
  · simp at h

/-- A text without the sequences that would steer a terminal. -/
def removed (t : Text) : Text :=
  match _h : after? t with
  | some rest => removed rest
  | none =>
    match t with
    | [] => []
    | c :: t => c :: removed t
termination_by t.length
decreasing_by
  · exact length_lt_of_after? ‹_›
  · simp

end Steering

/-- The short paths of documents, a line each. -/
def shortListing (ds : List Document) : Text :=
  ds.flatMap (fun d => Steering.removed d.shortpath ++ ['\n'])

/-! ### Rows -/

/-- The value of a field, with quotes around a text. -/
def Cell.shown : Cell → Text
  | number d => d.text
  | text t => Quoted.ofText t

/-- The value of a field without quotes. -/
def Cell.plain : Cell → Text
  | number d => d.text
  | text t => t

/-- The values of all fields with commas between them. -/
def Contents.shownFields (c : Contents) : Text :=
  ((Field.all.map (fun f => (c.get f).shown)).intersperse ", ".toList).flatten

/-- The number of characters of a content that a row shows. -/
def rowExcerpt : Nat := 60

/-- The row of a document, with only the beginning of its content. -/
def Document.shownRow (d : Document) : Text :=
  let short := { d.toContents with content := d.content.take rowExcerpt }
  '[' :: (short.shownFields ++ [']'])

/-! ### Sizes and dates -/

/-- The date in a time stamp. -/
def Cell.clock : Cell → Except Failure Text
  | number d => (clockText d).mapError .clock
  | text _ => .error .incomparable

/-- A table of sizes, dates and short paths. -/
def sizeListing (ds : List Document) : Except Failure Grid := do
  let rows ← ds.mapM (fun d => do
    let size ← sizeText (Utf8.encode d.content).length
    let clock ← d.timestamp.clock
    return (size, clock))
  return { columns := [
    { header := "Size", cells := rows.map Prod.fst, align := .right },
    { header := "Date", cells := rows.map Prod.snd },
    { header := "Path", cells := ds.map (fun d => d.shortpath) }] }

/-- Documents by package and path below it. -/
def inOrder (ds : List Document) : List Document :=
  sortBy (fun a b =>
    (Text.codeOrder a.package b.package).then (Text.codeOrder a.restpath b.restpath)) ds

end PackageCatalog
