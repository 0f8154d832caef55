import PackageCatalog.Path
import PackageCatalog.Text.Quoted

/-!
# File trees

An in-memory tree of files, directories and symbolic links, with the rules by which the system
resolves a path in it and the errors it gives.

## Main definitions

* `Entry`, `FileTree` - what stands at a path, and the entries of a tree by their real path.
* `FileTree.resolve` - the real path and entry that a name leads to.
* `FileTree.stat`, `FileTree.read`, `FileTree.write`, `FileTree.makeDirectory`, ... - the
  system's operations.
* `FileError` - why an operation is refused, and `FileError.message`, how that is told.
-/

namespace PackageCatalog

/-- The causes for which the system refuses a path. -/
inductive Errno
  | noEntry
  | alreadyThere
  | notDirectory
  | isDirectory
  | nameTooLong
  | tooManyLinks
  deriving DecidableEq, Repr

namespace Errno

/-- The system's number of a cause. -/
def number : Errno → Nat
  | noEntry => 2
  | alreadyThere => 17
  | notDirectory => 20
  | isDirectory => 21
  | nameTooLong => 36
  | tooManyLinks => 40

/-- The system's words for a cause. -/
def words : Errno → String
  | noEntry => "No such file or directory"
  | alreadyThere => "File exists"
  | notDirectory => "Not a directory"
  | isDirectory => "Is a directory"
  | nameTooLong => "File name too long"
  | tooManyLinks => "Too many levels of symbolic links"

end Errno

/-- Why an operation on a named file fails. -/
inductive FileError
  /-- The system refuses the path. -/
  | system (errno : Errno) (name : NativeName)
  /-- The name holds a NUL, so it is never given to the system. -/
  | embeddedNul
  /-- The name holds a surrogate that carries no octet. -/
  | unencodable
  deriving DecidableEq, Repr

/-- The text of a file error. -/
def FileError.message : FileError → Text
  | system errno name =>
    "[Errno ".toList ++ Text.ofNat errno.number ++ "] ".toList ++ errno.words.toList ++
      ": ".toList ++ Quoted.ofName name
  | embeddedNul => "embedded null byte".toList
  | unencodable => "surrogates not allowed".toList

/-- What a file holds. -/
inductive Body
  /-- Plain octets. -/
  | octets (content : Bytes)
  /-- The database of that number. -/
  | database (number : Nat)
  deriving DecidableEq, Repr

/-- The octets that every database file begins with. -/
def databaseHeader : Bytes := Utf8.encode "SQLite format 3\x00".toList

/-- The octets of a file, for a reader who looks at its beginning. -/
def Body.bytes : Body → Bytes
  | octets content => content
  | database _ => databaseHeader

/-- What stands at a real path. -/
inductive Entry
  /-- A regular file, with its time of change in nanoseconds. -/
  | file (body : Body) (changed : Int)
  /-- A directory, with its time of change. -/
  | directory (changed : Int)
  /-- A symbolic link. -/
  | link (target : Bytes)
  deriving DecidableEq, Repr

/-- The time of change of a directory whose entries have changed. -/
def recentTime : Int := 1750000000000000000

/-- A real path: the names from the root on, none of them a link. -/
abbrev RealPath := List Bytes

/-- The entries of a tree by their real path.  The root is always a directory. -/
structure FileTree where
  entries : List (RealPath × Entry)
  deriving DecidableEq, Repr

/-- Where a path leads. -/
inductive Spot
  /-- To an entry. -/
  | present (path : RealPath) (entry : Entry)
  /-- To a free place in an existing directory. -/
  | absent (path : RealPath)
  deriving DecidableEq, Repr

namespace FileTree

/-- The entry at a real path. -/
def entry? (tree : FileTree) (path : RealPath) : Option Entry :=
  if path.isEmpty then some (.directory recentTime)
  else (tree.entries.find? (fun e => e.1 == path)).map Prod.snd

/-- The entry after something in it has come or gone. -/
def refreshed : Entry → Entry
  | .directory _ => .directory recentTime
  | entry => entry

/-- The tree with the directory of a real path marked as changed. -/
def refresh (tree : FileTree) (path : RealPath) : FileTree :=
  ⟨tree.entries.map (fun e => if e.1 == path.dropLast then (e.1, refreshed e.2) else e)⟩

/-- The tree with an entry put at a real path. -/
def put (tree : FileTree) (path : RealPath) (entry : Entry) : FileTree :=
  if tree.entries.any (fun e => e.1 == path) then
    ⟨tree.entries.map (fun e => if e.1 == path then (path, entry) else e)⟩
  else ⟨(tree.refresh path).entries ++ [(path, entry)]⟩

/-- The tree without a real path and all that is below it. -/
def erase (tree : FileTree) (path : RealPath) : FileTree :=
  ⟨(tree.refresh path).entries.filter (fun e => !Text.startsWith e.1 path)⟩

/-- The names in a directory, with their entries. -/
def children (tree : FileTree) (path : RealPath) : List (Bytes × Entry) :=
  tree.entries.filterMap (fun e =>
    match e.1.getLast? with
    | some name => if e.1.dropLast == path then some (name, e.2) else none
    | none => none)

/-! ### Resolution -/

/-- The most octets of a name and of a path. -/
def nameLimit : Nat := 255

/-- The least number of octets with which a path is too long. -/
def pathLimit : Nat := 4096

/-- The number of links that one resolution may follow. -/
def linkLimit : Nat := 40

/-- Resolution of the names `todo` from the directory `dir` on, where `again` resolves what is
left after a link and is absent when no more links may be followed. -/
def follow (tree : FileTree) (last : Bool)
    (again : Option (RealPath → List Bytes → Except Errno Spot)) :
    RealPath → List Bytes → Except Errno Spot
  | dir, [] => .ok (.present dir ((tree.entry? dir).getD (.directory recentTime)))
  | dir, name :: rest =>
    if Path.isIdle name then follow tree last again dir rest
    else if Path.isParent name then follow tree last again dir.dropLast rest
    else if nameLimit < name.length then .error .nameTooLong
    else
      let here := dir ++ [name]
      match tree.entry? here with
      | none => if rest.isEmpty then .ok (.absent here) else .error .noEntry
      | some (.directory _) => follow tree last again here rest
      | some (.file body changed) =>
        if rest.isEmpty then .ok (.present here (.file body changed)) else .error .notDirectory
      | some (.link target) =>
        if rest.isEmpty && !last then .ok (.present here (.link target))
        else match again with
          | none => .error .tooManyLinks
          | some go => go (if Path.isAbsolute target then [] else dir) (Path.segments target ++ rest)

/-- Resolution that may follow a given number of links. -/
def followLinks (tree : FileTree) (last : Bool) : Nat → RealPath → List Bytes → Except Errno Spot
  | 0 => follow tree last none
  | n + 1 => follow tree last (some (followLinks tree last n))

/-- The directory in which relative paths start. -/
def workingDirectory : RealPath := [Utf8.encode "tmp".toList, Utf8.encode "pkgx".toList]

/-- Where a path of octets leads; `last` says whether a link at its end is followed. -/
def resolve (tree : FileTree) (last : Bool) (path : Bytes) : Except Errno Spot :=
  if path.isEmpty then .error .noEntry
  else if pathLimit ≤ path.length then .error .nameTooLong
  else
    followLinks tree last linkLimit (if Path.isAbsolute path then [] else workingDirectory)
      (Path.segments path)

/-- The octets of a name, if it can be given to the system. -/
def octets (name : NativeName) : Except FileError Bytes :=
  match name.toBytes? with
  | none => .error .unencodable
  | some bytes => if bytes.contains 0 then .error .embeddedNul else .ok bytes

/-- Where a name leads. -/
def locate (tree : FileTree) (last : Bool) (name : NativeName) : Except FileError Spot :=
  match octets name with
  | .error e => .error e
  | .ok bytes =>
    match tree.resolve last bytes with
    | .error errno => .error (.system errno name)
    | .ok spot => .ok spot

/-! ### Questions -/

/-- The entry that a name leads to, links followed. -/
def stat (tree : FileTree) (name : NativeName) : Except FileError Entry :=
  match tree.locate true name with
  | .error e => .error e
  | .ok (.present _ entry) => .ok entry
  | .ok (.absent _) => .error (.system .noEntry name)

/-- Whether a name leads to an entry; every failure counts as no. -/
def holds (tree : FileTree) (name : NativeName) : Bool := (tree.stat name).toBool

/-- Whether a file error only says that a path does not lead anywhere. -/
def isAbsence : FileError → Bool
  | .system errno _ => errno == .noEntry || errno == .notDirectory || errno == .tooManyLinks
  | .embeddedNul => true
  | .unencodable => true

/-- The answer of a test on the entry that a name leads to: no when the name leads nowhere, an
error when it cannot be looked at. -/
def testEntry (tree : FileTree) (name : NativeName) (test : Entry → Bool) : Except FileError Bool :=
  match tree.stat name with
  | .ok entry => .ok (test entry)
  | .error e => if isAbsence e then .ok false else .error e

/-- Whether an entry is a directory. -/
def isDirectoryEntry : Entry → Bool
  | .directory _ => true
  | _ => false

/-- Whether an entry is a regular file. -/
def isFileEntry : Entry → Bool
  | .file _ _ => true
  | _ => false

/-- The octets of the file that a name leads to. -/
def read (tree : FileTree) (name : NativeName) : Except FileError Bytes :=
  match tree.stat name with
  | .error e => .error e
  | .ok (.file body _) => .ok body.bytes
  | .ok _ => .error (.system .isDirectory name)

/-! ### Changes -/

/-- The tree with a file at the place that a name leads to. -/
def write (tree : FileTree) (name : NativeName) (body : Body) (changed : Int) :
    Except FileError FileTree :=
  match tree.locate true name with
  | .error e => .error e
  | .ok (.present _ (.directory _)) => .error (.system .isDirectory name)
  | .ok (.present path _) => .ok (tree.put path (.file body changed))
  | .ok (.absent path) => .ok (tree.put path (.file body changed))

/-- The tree with an entry at a place that must be free. -/
def create (tree : FileTree) (name : NativeName) (entry : Entry) : Except FileError FileTree :=
  match tree.locate false name with
  | .error e => .error e
  | .ok (.present _ _) => .error (.system .alreadyThere name)
  | .ok (.absent path) => .ok (tree.put path entry)

/-- The tree with a new directory. -/
def makeDirectory (tree : FileTree) (name : NativeName) : Except FileError FileTree :=
  tree.create name (.directory recentTime)

/-- Whether a file error says that something is there already. -/
def isAlreadyThere : FileError → Bool
  | .system .alreadyThere _ => true
  | _ => false

/-- The tree with a directory in which all missing ones above are made first, to a depth of
`depth`.  What is there already may only be a directory. -/
def makeDirectoriesWith : Nat → FileTree → NativeName → Except FileError FileTree
  | depth, tree, name => do
    let head := Path.directory (Path.directory (name ++ [.char '/']))
    let tree ← match depth with
      | 0 => pure tree
      | depth + 1 =>
        if head.isEmpty || tree.holds head then pure tree
        else match makeDirectoriesWith depth tree head with
          | .ok tree => pure tree
          | .error e => if isAlreadyThere e then pure tree else throw e
    match tree.makeDirectory name with
    | .ok tree => return tree
    | .error (.system errno path) =>
      match tree.stat name with
      | .ok (.directory _) => return tree
      | _ => throw (.system errno path)
    | .error e => throw e

/-- The tree with a directory and all missing ones above it. -/
def makeDirectories (tree : FileTree) (name : NativeName) : Except FileError FileTree :=
  makeDirectoriesWith name.length tree name

/-- The tree with a directory at a tidy path; when the one above is missing it is made first. -/
def makeParentsWith : Nat → FileTree → NativeName → Except FileError FileTree
  | depth, tree, name =>
    let accept := fun (tree : FileTree) (e : FileError) =>
      match e with
      | .system _ _ =>
        match tree.testEntry name isDirectoryEntry with
        | .ok true => Except.ok tree
        | .ok false => .error e
        | .error e => .error e
      | e => .error e
    match tree.makeDirectory name with
    | .ok tree => .ok tree
    | .error (.system .noEntry path) =>
      let parent := Path.tidy (Path.directory name)
      match depth with
      | 0 => .error (.system .noEntry path)
      | depth + 1 =>
        if parent == name then .error (.system .noEntry path)
        else match makeParentsWith depth tree parent with
          | .error e => .error e
          | .ok tree =>
            match tree.makeDirectory name with
            | .ok tree => .ok tree
            | .error e => accept tree e
    | .error e => accept tree e

/-- The tree with a directory at a tidy path and all missing ones above it. -/
def makeParents (tree : FileTree) (name : NativeName) : Except FileError FileTree :=
  makeParentsWith name.length tree name

/-- The tree without the file, link or whole directory at a name. -/
def remove (tree : FileTree) (name : NativeName) : Except FileError FileTree :=
  match tree.locate false name with
  | .error e => .error e
  | .ok (.present path _) => .ok (tree.erase path)
  | .ok (.absent _) => .error (.system .noEntry name)

/-- The tree with the time of change of a file or directory set. -/
def touch (tree : FileTree) (name : NativeName) (changed : Int) : Except FileError FileTree :=
  match tree.locate true name with
  | .error e => .error e
  | .ok (.present path (.file body _)) => .ok (tree.put path (.file body changed))
  | .ok (.present path (.directory _)) => .ok (tree.put path (.directory changed))
  | .ok (.present _ _) => .ok tree
  | .ok (.absent _) => .error (.system .noEntry name)

/-- A tree that holds nothing but the working directory. -/
def empty : FileTree :=
  ⟨[(workingDirectory.take 1, .directory recentTime), (workingDirectory, .directory recentTime)]⟩

/-- The name of the working directory. -/
def workingName : NativeName := NativeName.ofText "/tmp/pkgx".toList

end FileTree

end PackageCatalog
