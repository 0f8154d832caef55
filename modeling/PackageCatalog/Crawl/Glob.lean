import PackageCatalog.Crawl.Wildcard
import PackageCatalog.FileTree
import PackageCatalog.Order

/-!
# Globs

A glob selects the entries below a directory.  Its components are looked up one after the other:
`**` is the directory and every real directory below it, a component with a wildcard is matched
against the names of a directory, and any other is looked up as it stands.

## Main definitions

* `Glob.Component`, `Glob`, `Glob.parse` - globs, and the errors of those that are none.
* `Glob.select` - the selected entries, as paths below the root.
-/

namespace PackageCatalog

/-- Why a text is no glob. -/
inductive GlobError
  | empty
  | absolute
  /-- A `**` that is not a whole component. -/
  | partialDoubleStar
  /-- No component at all. -/
  | noComponent
  /-- No component before a trailing slash. -/
  | onlySlash
  deriving DecidableEq, Repr

/-- The text of a glob error. -/
def GlobError.message : GlobError → String
  | empty => "Unacceptable pattern: ''"
  | absolute => "Non-relative patterns are unsupported"
  | partialDoubleStar => "Invalid pattern: '**' can only be an entire path component"
  | noComponent => "tuple index out of range"
  | onlySlash => "'_TerminatingSelector' object has no attribute 'select_from'"

namespace Glob

/-- A component of a glob. -/
inductive Component
  /-- The directory itself and every real directory below it. -/
  | anywhere
  /-- The names that match a pattern. -/
  | wild (pattern : Text)
  /-- That name. -/
  | named (name : Text)
  deriving DecidableEq, Repr

end Glob

/-- A glob: its components, and whether only directories are selected. -/
structure Glob where
  components : List Glob.Component
  directoriesOnly : Bool
  deriving DecidableEq, Repr

namespace Glob

/-- A component of a glob read from its text. -/
def Component.parse (t : Text) : Except GlobError Component :=
  if t == ['*', '*'] then .ok .anywhere
  else if Text.contains t ['*', '*'] then .error .partialDoubleStar
  else if t.any (fun c => c == '*' || c == '?' || c == '[') then .ok (.wild t)
  else .ok (.named t)

/-- Components read from left to right. -/
def parseAll : List Text → Except GlobError (List Component)
  | [] => .ok []
  | t :: ts =>
    match Component.parse t with
    | .error e => .error e
    | .ok c =>
      match parseAll ts with
      | .error e => .error e
      | .ok cs => .ok (c :: cs)

/-- A glob read from its text. -/
def parse (t : Text) : Except GlobError Glob :=
  if t.isEmpty then .error .empty
  else if Path.isAbsolute t then .error .absolute
  else
    let slash := t.getLast? == some '/'
    match Path.parts t with
    | [] => .error (if slash then .onlySlash else .noComponent)
    | parts =>
      match parseAll parts with
      | .error e => .error e
      | .ok components => .ok ⟨components, slash⟩

/-! ### Selection -/

/-- A path below a root: its components. -/
abbrev RestPath := List NativeName

/-- The name of a path below a root. -/
def nameBelow (root : NativeName) (rest : RestPath) : NativeName :=
  Path.tidy (Path.join root (Path.ofSegments rest))

/-- The names in the directory that a name leads to, each with its entry; none when it leads to
no directory. -/
def listing (tree : FileTree) (name : NativeName) : Except FileError (List (Bytes × Entry)) :=
  match tree.locate true name with
  | .error e => .error e
  | .ok (.present path (.directory _)) => .ok (tree.children path)
  | .ok _ => .ok []

/-- The name of an entry as it is met in the listing of a directory. -/
def entryName (root : NativeName) (rest : RestPath) (name : NativeName) : NativeName :=
  Path.join (nameBelow root rest) name

/-- Whether a listed entry is a directory, links followed.  Only a link has to be looked at. -/
def childIsDirectory (tree : FileTree) (root : NativeName) (rest : RestPath)
    (child : Bytes × Entry) : Except FileError Bool :=
  match child.2 with
  | .link _ =>
    tree.testEntry (entryName root rest (NativeName.ofBytes child.1)) FileTree.isDirectoryEntry
  | entry => .ok (FileTree.isDirectoryEntry entry)

/-- A directory and the real directories below it, to a depth of `depth`, in the order of a walk.
A directory that cannot be listed, or an entry that cannot be looked at, stops the walk at its
place. -/
def directoriesWith (tree : FileTree) (root : NativeName) :
    Nat → RestPath → List (Except FileError RestPath)
  | 0, rest => [.ok rest]
  | depth + 1, rest =>
    .ok rest :: match listing tree (nameBelow root rest) with
      | .error e => [.error e]
      | .ok children => children.flatMap (fun child =>
        match childIsDirectory tree root rest child, child.2 with
        | .error e, _ => [.error e]
        | .ok _, .directory _ =>
          directoriesWith tree root depth (rest ++ [NativeName.ofBytes child.1])
        | .ok _, _ => [])

/-- A directory and all real directories below it. -/
def directoriesBelow (tree : FileTree) (root : NativeName) (rest : RestPath) :
    List (Except FileError RestPath) :=
  directoriesWith tree root (tree.entries.length + 1) rest

/-- The results of `f` for all elements, one after the other, up to the first error. -/
def collect {α β ε : Type} (f : α → Except ε (List β)) : List α → Except ε (List β)
  | [] => .ok []
  | a :: as =>
    match f a with
    | .error e => .error e
    | .ok bs =>
      match collect f as with
      | .error e => .error e
      | .ok more => .ok (bs ++ more)

/-- The paths that components select, from the directory `rest` on. -/
def selectFrom (tree : FileTree) (root : NativeName) (directoriesOnly : Bool) :
    List Component → RestPath → Except FileError (List RestPath)
  | [], rest => .ok [rest]
  | component :: more, rest =>
    let mustBeDirectory := directoriesOnly || !more.isEmpty
    match component with
    | .named name =>
      let path := rest ++ [NativeName.ofText name]
      let test := fun e => !mustBeDirectory || FileTree.isDirectoryEntry e
      match tree.testEntry (nameBelow root path) test with
      | .error e => .error e
      | .ok true => selectFrom tree root directoriesOnly more path
      | .ok false => .ok []
    | .wild pattern =>
      match listing tree (nameBelow root rest) with
      | .error e => .error e
      | .ok children =>
        collect (fun child =>
          let name := NativeName.ofBytes child.1
          let path := rest ++ [name]
          match if mustBeDirectory then childIsDirectory tree root rest child else .ok true with
          | .error e => .error e
          | .ok false => .ok []
          | .ok true =>
            if Wildcard.accepts pattern name then selectFrom tree root directoriesOnly more path
            else .ok [])
          children
    | .anywhere =>
      collect (fun found =>
        match found with
        | .error e => .error e
        | .ok path => selectFrom tree root directoriesOnly more path)
        (directoriesBelow tree root rest)

/-- Comparison of paths component by component, by code point. -/
def restOrder : RestPath → RestPath → Ordering :=
  lexicographic (Text.compareCodes NameUnit.code)

/-- A sorted list without repetitions. -/
def dedupe : List RestPath → List RestPath
  | [] => []
  | [a] => [a]
  | a :: b :: l => if a == b then dedupe (b :: l) else a :: dedupe (b :: l)

/-- The paths below a root that a glob selects, in order and each once. -/
def select (g : Glob) (tree : FileTree) (root : NativeName) : Except FileError (List RestPath) :=
  match selectFrom tree root g.directoriesOnly g.components [] with
  | .error e => .error e
  | .ok paths => .ok (dedupe (sortBy restOrder paths))

end Glob

end PackageCatalog
