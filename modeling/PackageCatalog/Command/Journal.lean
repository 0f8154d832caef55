import PackageCatalog.Console.Listing

/-!
# The journal

What the program notes of its work, for those who want to follow it.

## Main definitions

* `Severity` - how important a note is.
* `Notice`, `Notice.line` - a note and its line in the journal.
* `keptNotices`, `journalLines` - which notes are kept, and the lines in which they are found.
* `IndexRun.notices` - the notes of an indexing run.
-/

namespace PackageCatalog

/-- How important a note is. -/
inductive Severity
  | debug
  | info
  deriving DecidableEq, Repr

/-- The rank of a severity. -/
def Severity.rank : Severity → Nat
  | debug => 10
  | info => 20

/-- The name of a severity. -/
def Severity.name : Severity → String
  | debug => "DEBUG"
  | info => "INFO"

/-- A note. -/
inductive Notice
  /-- A file looks binary and is left out. -/
  | binary (rest : NativeName)
  /-- Octets were read by an encoding that was guessed. -/
  | decoded (label : NativeName) (encoding : Text)
  | new (path : Text)
  | updated (path : Text)
  | removed (path : Text)
  /-- A package has been indexed. -/
  | indexed (package : Text) (tally : Tally)
  /-- A document has been looked at. -/
  | shown (contents : Contents)

namespace Notice

/-- How important a note is. -/
def severity : Notice → Severity
  | removed _ => .info
  | indexed _ _ => .info
  | _ => .debug

/-- The part of the program that makes a note. -/
def origin : Notice → String
  | binary _ => "pkgindex.index.crawler"
  | decoded _ _ => "pkgindex.utils.encoding"
  | indexed _ _ => "pkgindex.index.crawler"
  | _ => "pkgindex.database.document_table"

/-- A native name, with an escape for every unit that is no character. -/
def nameShown (n : NativeName) : Text :=
  n.flatMap (fun u => match u with
    | .char c => [c]
    | .surrogate s => Quoted.escaped (0xD800 + s.val))

/-- A tally between braces. -/
def tallyShown (t : Tally) : Text :=
  let entry := fun e : Text × Nat => Quoted.ofText e.1 ++ ": ".toList ++ Text.ofNat e.2
  '\x7b' :: (((t.map entry).intersperse ", ".toList).flatten ++ ['\x7d'])

/-- The text of a note. -/
def message : Notice → Text
  | binary rest => "Skipping binary file ".toList ++ nameShown rest
  | decoded label encoding =>
    "Decoded ".toList ++ nameShown label ++ " as ".toList ++ encoding
  | new path => "New file ".toList ++ path
  | updated path => "Updated ".toList ++ path
  | removed path => "Removed ".toList ++ path
  | indexed package tally =>
    "Indexed package ".toList ++ package ++ ": ".toList ++ tallyShown tally
  | shown c => '(' :: (c.shownFields ++ [')'])

/-- The line of a note. -/
def line (n : Notice) : Text :=
  n.severity.name.toList ++ ':' :: n.origin.toList ++ ':' :: n.message

end Notice

/-! ### Which notes are kept -/

/-- The notes of at least a rank. -/
def keptNotices (threshold : Nat) (ns : List Notice) : List Notice :=
  ns.filter (fun n => threshold ≤ n.severity.rank)

/-- Whether a line begins as that of a note: with the name of a severity, and that of the program
as its origin. -/
def isNoteLine (t : Text) : Bool :=
  match t.dropWhile Char.isUpper with
  | ':' :: origin => Text.startsWith origin "pkgindex".toList && t.head? != some ':'
  | _ => false

/-- The lines of the journal that tell of notes.  A name may hold a line break; what follows it
counts only if it looks like a note of its own. -/
def journalLines (ns : List Notice) : List Text :=
  (ns.flatMap (fun n => Text.lines n.line)).filter isNoteLine

/-! ### Indexing -/

/-- The note that the octets of a name or content were decoded. -/
def decodedNotices (detect : Detector) (raw : Bytes) (label : NativeName) : List Notice :=
  match guessedEncoding? detect raw, canonical detect raw label with
  | some encoding, .ok _ => [.decoded label encoding]
  | _, _ => []

/-- The note that a name was decoded. -/
def nameNotices (detect : Detector) (name : NativeName) : List Notice :=
  match name.toBytes? with
  | some raw => decodedNotices detect raw name
  | none => []

/-- The note that a content was decoded. -/
def contentNotices (detect : Detector) (tree : FileTree) (name : NativeName) : List Notice :=
  match tree.read name with
  | .ok raw => decodedNotices detect raw name
  | .error _ => []

/-- The notes that end the adding of a file. -/
def resultNotices (detect : Detector) (tree : FileTree) (filename : NativeName)
    (result : AddResult) : List Notice :=
  let path := (keyOf detect filename).toOption.getD []
  match result with
  | .new => contentNotices detect tree filename ++ [.new path]
  | .updated => contentNotices detect tree filename ++ [.updated path]
  | .unchanged => []

/-- The notes of adding a file; without an outcome it failed. -/
def addNotices (detect : Detector) (tree : FileTree) (p : PackageConfig) (rest : NativeName)
    (result : Option AddResult) : List Notice :=
  let filename := absoluteName (Path.join (NativeName.ofText p.path) rest)
  nameNotices detect filename ++ nameNotices detect rest ++
    match result with
    | some result => resultNotices detect tree filename result
    | none => []

/-- The notes on files that a scan meets, in its order, up to the one whose adding failed. -/
def sightingNotices (detect : Detector) (tree : FileTree) (p : PackageConfig) :
    List Sighting → List (NativeName × AddResult) → List Notice
  | [], _ => []
  | .binaryFile rest :: more, results =>
    .binary rest :: sightingNotices detect tree p more results
  | .textFile rest :: _, [] => addNotices detect tree p rest none
  | .textFile rest :: more, (_, result) :: results =>
    addNotices detect tree p rest (some result) ++ sightingNotices detect tree p more results

/-- The notes of an indexing run. -/
def IndexRun.notices (r : IndexRun) (detect : Detector) (tree : FileTree) (p : PackageConfig) :
    List Notice :=
  sightingNotices detect tree p (p.crawler.sightings tree).1 r.results ++
    r.swept.map (fun d => .removed d.path) ++
    match r.failure with
    | none => [.indexed p.name r.tally]
    | some _ => []

end PackageCatalog
