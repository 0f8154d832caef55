import PackageCatalog.Crawl.Scan
import PackageCatalog.Query.Options
import PackageCatalog.Store.Table

/-!
# The catalogue

The operations on the table of documents that know about files: adding a file, searching by
short path and by filters, and removing what is no longer there.

## Main definitions

* `Candidate`, `Candidate.prepare`, `Candidate.settle` - the two halves of adding a file: what is
  learned before the transaction, and what is done in it.
* `Table.add` - adding or refreshing a file.
* `Table.findShort`, `Table.below`, `Table.search` - looking documents up.
* `Table.removeMatching`, `Table.cleanup`, `Table.cleanupPackage` - removal.
* `Table.indexPackage` - a scan with its adds and the cleanup that follows.
-/

namespace PackageCatalog

/-- The outcome of adding a file. -/
inductive AddResult
  | new
  | updated
  | unchanged
  deriving DecidableEq, Repr

/-- The name of an outcome. -/
def AddResult.name : AddResult → String
  | new => "newfile"
  | updated => "update"
  | unchanged => "unchanged"

/-- The time of change that the system reports for an entry. -/
def Entry.stamp : Entry → Double
  | .file _ changed => .ofNanoseconds changed
  | .directory changed => .ofNanoseconds changed
  | .link _ => .ofNanoseconds recentTime

/-- What is known of a file before its document is looked up. -/
structure Candidate where
  /-- The absolute native name, by which the file is read. -/
  filename : NativeName
  path : Text
  package : Text
  restpath : Text
  suffix : Text
  stamp : Double
  deriving DecidableEq, Repr

namespace Candidate

/-- The native name of a package: the given one, or the last part of its directory. -/
def packageName (directory : NativeName) (name : Option NativeName) : NativeName :=
  match name with
  | some (u :: n) => u :: n
  | _ => Path.baseName (Path.collapse directory)

/-- The names of a file become text, and the system is asked for its time of change. -/
def prepare (detect : Detector) (tree : FileTree) (directory rest : NativeName)
    (name : Option NativeName) : Except Failure Candidate := do
  let filename := absoluteName (Path.join directory rest)
  let path ← (keyOf detect filename).mapError ReadError.toFailure
  let package ← (nameText detect (packageName directory name)).mapError ReadError.toFailure
  let restpath ← (nameText detect rest).mapError ReadError.toFailure
  let entry ← (tree.stat filename).mapError Failure.file
  return ⟨filename, path, package, restpath, Path.suffix path, entry.stamp⟩

/-- The values that a candidate gives to its document. -/
def values (c : Candidate) (content : Text) : List (Field × Datum) :=
  [(.package, .text c.package), (.restpath, .text c.restpath), (.content, .text content),
    (.timestamp, .real c.stamp), (.suffix, .text c.suffix)]

/-- The document of a candidate is made, or brought up to date when the file is strictly newer.
The content is read only when it is needed. -/
def settle (c : Candidate) (detect : Detector) (tree : FileTree) (s : Store) :
    Except Failure (Store × AddResult) :=
  match s.get? c.path with
  | none =>
    match readContent detect tree c.filename with
    | .error e => .error e.toFailure
    | .ok content =>
      match s.insert (c.values content ++ [(.path, .text c.path)]) with
      | .error e => .error (.store e)
      | .ok s => .ok (s, .new)
  | some d =>
    match d.timestamp with
    | .text _ => .error .incomparable
    | .number old =>
      if Double.lt old c.stamp then
        match readContent detect tree c.filename with
        | .error e => .error e.toFailure
        | .ok content =>
          match s.update c.path (c.values content) with
          | .error e => .error (.store e)
          | .ok s => .ok (s, .updated)
      else .ok (s, .unchanged)

end Candidate

/-- A short path cut into package and rest; it must have a package. -/
def divideShort (s : Option Text) : Except Failure (Text × Option Text) :=
  match s with
  | none => .error (.badShortpath none)
  | some s =>
    let (package, rest) := Path.splitShort s
    if package.isEmpty then .error (.badShortpath (some s)) else .ok (package, rest)

/-- Whether a path is known to lead nowhere; any other failure to look at it is an error. -/
def isGone (tree : FileTree) (path : Text) : Except Failure Bool :=
  match tree.stat (NativeName.ofText path) with
  | .ok _ => .ok false
  | .error (.system .noEntry _) => .ok true
  | .error (.system .notDirectory _) => .ok true
  | .error e => .error (.file e)

/-- The course of a cleanup: the table after it, the documents that were reported and those that
were removed, and what stopped it early. -/
structure Sweep where
  table : Table
  reported : List Document
  removed : List Document
  failure : Option Failure

/-- How many times each outcome occurred, in the order of first occurrence. -/
abbrev Tally := List (Text × Nat)

/-- A tally with one more of a kind. -/
def Tally.add (kind : Text) : Tally → Tally
  | [] => [(kind, 1)]
  | (k, n) :: rest => if k == kind then (k, n + 1) :: rest else (k, n) :: Tally.add kind rest

/-- The number of a kind in a tally. -/
def Tally.get (t : Tally) (kind : Text) : Nat :=
  ((t.find? (fun e => e.1 == kind)).map Prod.snd).getD 0

/-- The course of an indexing run: the table after it, the files with their outcomes, the tally,
the documents removed at the end, and what stopped it early. -/
structure IndexRun where
  table : Table
  results : List (NativeName × AddResult)
  tally : Tally
  swept : List Document
  failure : Option Failure

/-- A registered package. -/
structure PackageConfig where
  name : Text
  path : Text
  globPattern : Text := "**/*".toList
  ignore : List Text := []
  deriving DecidableEq, Repr

/-- The crawler of a package. -/
def PackageConfig.crawler (p : PackageConfig) : Crawler :=
  ⟨NativeName.ofText p.path, p.globPattern, p.ignore⟩

namespace Table

/-- A file is added, or refreshed if it changed.  A failure leaves the table as it was. -/
def add (t : Table) (detect : Detector) (tree : FileTree) (directory rest : NativeName)
    (name : Option NativeName) : Except Failure (Table × AddResult) :=
  match Candidate.prepare detect tree directory rest name with
  | .error e => .error e
  | .ok c =>
    match t.startTransaction with
    | .error e => .error (.store e)
    | .ok opened =>
      match c.settle detect tree opened.store with
      | .error e => .error e
      | .ok (store, result) => .ok ({ opened with store, saved := none }, result)

/-- The document whose package and rest are those of a short path. -/
def findShort (t : Table) (s : Option Text) : Except Failure (Option Document) :=
  match divideShort s with
  | .error e => .error e
  | .ok (package, rest) =>
    match t.select (.all [.equals .package package, .equals .restpath (rest.getD [])]) [] 0
        (some 1) with
    | .error e => .error (.store e)
    | .ok ds => .ok ds.head?

/-- The documents at or below a short path: all of them without one, those of its package, and of
those the ones whose rest contains the rest of the short path. -/
def below (t : Table) (s : Option Text) : Except Failure (List Document) :=
  let ask := fun p => (t.select p [] 0 none).mapError Failure.store
  match s with
  | none => ask .everything
  | some [] => ask .everything
  | some s =>
    match divideShort (some s) with
    | .error e => .error e
    | .ok (package, none) => ask (.equals .package package)
    | .ok (package, some []) => ask (.equals .package package)
    | .ok (package, some rest) =>
      ask (.all [.equals .package package, .token .restpath rest])

/-- The documents that pass the filters, by package and path below it. -/
def search (t : Table) (o : SearchOptions) : Except Failure (List Document) :=
  (t.select o.compile lexicalOrder o.offset (o.limit.map Int.ofNat)).mapError Failure.store

/-- The document of a path is removed. -/
def remove (t : Table) (path : Text) : Except Failure Table :=
  (t.delete path).mapError Failure.store

/-- Documents are removed one after the other. -/
def removeEach (t : Table) : List Document → Except Failure Table
  | [] => .ok t
  | d :: ds =>
    match t.remove d.path with
    | .error e => .error e
    | .ok t => removeEach t ds

/-- Every document whose path contains a fragment is removed; they are returned in the order of a
search. -/
def removeMatching (t : Table) (fragment : Text) : Except Failure (Table × List Document) :=
  match t.search { paths := [fragment] } with
  | .error e => .error e
  | .ok ds =>
    match t.removeEach ds with
    | .error e => .error e
    | .ok t => .ok (t, ds)

/-- Every document is removed. -/
def removeAll (t : Table) : Except Failure (Table × Nat) := t.deleteAll.mapError Failure.store

/-- The documents whose file is gone are removed one after the other. -/
def sweep (tree : FileTree) : Table → List Document → Sweep
  | t, [] => ⟨t, [], [], none⟩
  | t, d :: ds =>
    match isGone tree d.path with
    | .error e => ⟨t, [], [], some e⟩
    | .ok false => sweep tree t ds
    | .ok true =>
      match t.remove d.path with
      | .error e => ⟨t, [d], [], some e⟩
      | .ok t =>
        let rest := sweep tree t ds
        { rest with reported := d :: rest.reported, removed := d :: rest.removed }

/-- The documents whose file is gone are removed, in the order of their numbers. -/
def cleanup (t : Table) (tree : FileTree) : Sweep :=
  match t.documents with
  | .error e => ⟨t, [], [], some (.store e)⟩
  | .ok ds => sweep tree t ds

/-- The documents of a package, in the order of their paths below it. -/
def packageDocuments (t : Table) (package : Text) : Except StoreError (List Document) :=
  t.select (.equals .package package) [⟨.restpath, false⟩] 0 none

/-- The documents of one package whose file is gone are removed. -/
def cleanupPackage (t : Table) (tree : FileTree) (package : Text) : Sweep :=
  match t.packageDocuments package with
  | .error e => ⟨t, [], [], some (.store e)⟩
  | .ok ds => sweep tree t ds

/-- The number of documents of each package. -/
def packageCounts (t : Table) : Except Failure (List (Cell × Nat)) :=
  (t.countBy Field.package.name.toList).mapError Failure.store

/-- Files of a package are added one after the other. -/
def addEach (detect : Detector) (tree : FileTree) (p : PackageConfig) :
    Table → List NativeName → Table × List (NativeName × AddResult) × Option Failure
  | t, [] => (t, [], none)
  | t, rest :: more =>
    match t.add detect tree (NativeName.ofText p.path) rest (some (NativeName.ofText p.name)) with
    | .error e => (t, [], some e)
    | .ok (t, result) =>
      let (t, results, failure) := addEach detect tree p t more
      (t, (rest, result) :: results, failure)

/-- Every file of a package is added, and then the documents of the package whose file is gone
are removed. -/
def indexPackage (t : Table) (detect : Detector) (tree : FileTree) (p : PackageConfig) :
    IndexRun :=
  let (found, stopped) := p.crawler.scan tree
  let (t, results, failure) := addEach detect tree p t found
  let tally := results.foldl (fun (tally : Tally) r => tally.add r.2.name.toList) []
  match failure.or stopped with
  | some e => ⟨t, results, tally, [], some e⟩
  | none =>
    let s := t.cleanupPackage tree p.name
    match s.failure with
    | some e => ⟨s.table, results, tally, s.removed, some e⟩
    | none =>
      ⟨s.table, results, tally ++ [("removed".toList, s.removed.length)], s.removed, none⟩

end Table

end PackageCatalog
