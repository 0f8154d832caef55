import PackageCatalog.Failure

/-!
# Scanning a package

A scan finds the files of a package: what a glob selects below the root, without the directories
of version control and tools, without what the ignore patterns match, and without binary files.

## Main definitions

* `Crawler` - a root with a glob and ignore patterns.
* `Crawler.isIgnored` - whether a path is matched by an ignore pattern.
* `Sighting`, `Crawler.sightings` - the files that a scan meets, text and binary.
* `Crawler.scan` - the files that it yields.
-/

namespace PackageCatalog

/-- The names of directories that are never entered in the catalogue. -/
def skippedNames : List NativeName :=
  [".git", ".svn", ".hg", "CVS", "__pycache__", "node_modules"].map
    (fun s => NativeName.ofText s.toList)

/-- The number of octets at the start of a file that are searched for a NUL. -/
def sniffLength : Nat := 8192

/-- Whether octets look binary: a NUL is near their start. -/
def looksBinary (bytes : Bytes) : Bool := (bytes.take sniffLength).contains 0

/-- Whether the file of a name looks binary. -/
def isBinary (tree : FileTree) (name : NativeName) : Except FileError Bool :=
  match tree.read name with
  | .ok bytes => .ok (looksBinary bytes)
  | .error e => .error e

/-- What to look for, and where. -/
structure Crawler where
  root : NativeName
  glob : Text := "**/*".toList
  ignore : List Text := []
  deriving DecidableEq, Repr

/-- A file that a scan meets. -/
inductive Sighting
  | textFile (rest : NativeName)
  | binaryFile (rest : NativeName)
  deriving DecidableEq, Repr

namespace Crawler

/-- Whether a path below the root, or its last name, is matched by an ignore pattern. -/
def isIgnored (c : Crawler) (rest : NativeName) : Bool :=
  c.ignore.any (fun p => Wildcard.accepts p rest || Wildcard.accepts p (Path.baseName rest))

/-- Whether a path is left out before it is looked at. -/
def leavesOut (c : Crawler) (path : Glob.RestPath) : Bool :=
  path.any (fun part => skippedNames.contains part) || c.isIgnored (Path.ofSegments path)

/-- What a selected path adds to a scan. -/
def sight (c : Crawler) (tree : FileTree) (path : Glob.RestPath) :
    Except FileError (List Sighting) :=
  if c.leavesOut path then .ok []
  else
    let name := Glob.nameBelow (Path.tidy c.root) path
    let rest := Path.ofSegments path
    match tree.testEntry name FileTree.isFileEntry with
    | .error e => .error e
    | .ok false => .ok []
    | .ok true =>
      match isBinary tree name with
      | .error e => .error e
      | .ok true => .ok [.binaryFile rest]
      | .ok false => .ok [.textFile rest]

/-- The sightings of selected paths in order, and what stops them early. -/
def sightAll (c : Crawler) (tree : FileTree) :
    List Glob.RestPath → List Sighting × Option Failure
  | [] => ([], none)
  | path :: more =>
    match c.sight tree path with
    | .error e => ([], some (.file e))
    | .ok found =>
      let (rest, failure) := sightAll c tree more
      (found ++ rest, failure)

/-- The files that a scan meets, in order, and what stops it early.  A root that is no directory
has none. -/
def sightings (c : Crawler) (tree : FileTree) : List Sighting × Option Failure :=
  let root := Path.tidy c.root
  match tree.testEntry root FileTree.isDirectoryEntry with
  | .error e => ([], some (.file e))
  | .ok false => ([], none)
  | .ok true =>
    match Glob.parse c.glob with
    | .error e => ([], some (.glob e))
    | .ok g =>
      match g.select tree root with
      | .error e => ([], some (.file e))
      | .ok paths => c.sightAll tree paths

/-- The path of a text file. -/
def Sighting.text? : Sighting → Option NativeName
  | .textFile rest => some rest
  | .binaryFile _ => none

/-- The paths that a scan yields, in order, and what stops it early. -/
def scan (c : Crawler) (tree : FileTree) : List NativeName × Option Failure :=
  let (met, failure) := c.sightings tree
  (met.filterMap Sighting.text?, failure)

end Crawler

end PackageCatalog
