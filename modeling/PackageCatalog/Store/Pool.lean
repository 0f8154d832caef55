import PackageCatalog.Failure
import PackageCatalog.Store.Table

/-!
# Databases and their connections

A database is a store that is made final transaction by transaction.  Any number of connections
may be open on it: each sees the store as it was last made final, only the one in a transaction
sees its own changes, and no other may write until that transaction ends.

## Main definitions

* `Database`, `Pool` - a database, and all databases with the connections to them.
* `Pool.table`, `Pool.keep` - the table that a connection sees, and what remains of it after an
  operation.
* `Pool.openPrivate`, `Pool.openFile`, `Pool.close` - making and ending connections.
-/

namespace PackageCatalog

/-- A database. -/
structure Database where
  /-- The store as it was last made final. -/
  committed : Store := {}
  /-- The connection that is in a transaction, with the store as it sees it. -/
  pending : Option (Nat × Store) := none
  deriving DecidableEq, Repr

/-- The databases, by their numbers, and the connections made so far, by theirs. -/
structure Pool where
  databases : List Database := []
  /-- The names of databases in memory that connections share, with their numbers, latest
  first. -/
  sharedNames : List (Bytes × Nat) := []
  /-- The number of the database that each connection is on; none when it is closed. -/
  connections : List (Option Nat) := []
  deriving DecidableEq, Repr

/-- The view that a connection has of a database. -/
def Database.view (d : Database) (connection : Nat) : Table :=
  match d.pending with
  | none => { store := d.committed }
  | some (writer, store) =>
    if writer = connection then { store, saved := some d.committed }
    else { store := d.committed, access := .busy }

/-- The database after an operation of a connection has left it with a table. -/
def Database.settle (d : Database) (connection : Nat) (t : Table) : Database :=
  match t.access with
  | .ready =>
    match t.saved with
    | none => { committed := t.store }
    | some saved => { committed := saved, pending := some (connection, t.store) }
  | _ => d

/-- The database without the transaction of a connection. -/
def Database.abandon (d : Database) (connection : Nat) : Database :=
  match d.pending with
  | none => d
  | some (writer, _) => if writer = connection then { committed := d.committed } else d

namespace Pool

/-- The number of the database that a connection is on. -/
def database? (p : Pool) (connection : Nat) : Option Nat := (p.connections[connection]?).join

/-- The table that a connection sees. -/
def table (p : Pool) (connection : Nat) : Table :=
  match p.database? connection with
  | none => { access := .closed }
  | some n => ((p.databases[n]?).getD {}).view connection

/-- One database changed. -/
def change (p : Pool) (n : Nat) (f : Database → Database) : Pool :=
  { p with databases := p.databases.modify n f }

/-- The pool after an operation of a connection has left it with a table. -/
def keep (p : Pool) (connection : Nat) (t : Table) : Pool :=
  match p.database? connection with
  | none => p
  | some n => p.change n (·.settle connection t)

/-- The pool with one more connection, on a database; its number comes with it. -/
def connect (p : Pool) (n : Nat) : Pool × Nat :=
  ({ p with connections := p.connections ++ [some n] }, p.connections.length)

/-- The pool with one more database; its number comes with it. -/
def create (p : Pool) : Pool × Nat :=
  ({ p with databases := p.databases ++ [{}] }, p.databases.length)

/-- A connection to a database of its own. -/
def openPrivate (p : Pool) : Pool × Nat :=
  let (p, n) := p.create
  p.connect n

/-- A connection to the database in memory that has a name.  It lasts as long as a connection is
on it; after that the name stands for a new one. -/
def openShared (p : Pool) (name : Bytes) : Pool × Nat :=
  let alive := fun n => p.connections.contains (some n)
  match p.sharedNames.find? (fun e => e.1 == name && alive e.2) with
  | some (_, n) => p.connect n
  | none =>
    let (p, n) := p.create
    { p with sharedNames := (name, n) :: p.sharedNames }.connect n

/-- A connection ended; its transaction is undone. -/
def close (p : Pool) (connection : Nat) : Pool :=
  match p.database? connection with
  | none => p
  | some n =>
    let p := p.change n (·.abandon connection)
    { p with connections := p.connections.set connection none }

/-! ### Opening by name -/

/-- The name by which a database in memory is asked for. -/
def memoryName : Text := ":memory:".toList

/-- The most octets of the path of a database file. -/
def pathLimit : Nat := 504

/-- The number of the database in a file, opened as asked.  An empty file, or a missing one if it
may be made, becomes a new database.  Opening prepares the tables, so that it fails when nothing
may be written. -/
def databaseAt (p : Pool) (tree : FileTree) (name : NativeName) (how : Opening) :
    Except Failure (FileTree × Pool × Nat) :=
  match FileTree.octets name with
  | .error e => .error (.file e)
  | .ok bytes =>
    if pathLimit < bytes.length then .error (.store .cannotOpen)
    else
      let sealed := how.mode = .readOnly || how.frozen
      let fresh := fun path changed =>
        if sealed then .error (.store .readOnly)
        else
          let (p, n) := p.create
          Except.ok (tree.put path (.file (.database n) changed), p, n)
      match tree.resolve true bytes with
      | .error _ => .error (.store .cannotOpen)
      | .ok (.absent path) =>
        if how.mode = .create then fresh path 0 else .error (.store .cannotOpen)
      | .ok (.present path (.file (.octets []) changed)) => fresh path changed
      | .ok (.present _ (.file (.octets _) _)) => .error (.store .notADatabase)
      | .ok (.present _ (.file (.database n) _)) =>
        if sealed then .error (.store .readOnly)
        else if ((p.databases[n]?).bind Database.pending).isSome then .error (.store .locked)
        else .ok (tree, p, n)
      | .ok (.present _ _) => .error (.store .cannotOpen)

/-- A connection to the database at a path of octets, opened as asked.  The empty path stands for
a database of its own, and so does the name of the memory unless it is shared. -/
def connectAt (p : Pool) (tree : FileTree) (path : Bytes) (how : Opening) :
    FileTree × Pool × Except Failure Nat :=
  let done := fun r : Pool × Nat => (tree, r.1, Except.ok r.2)
  if path.isEmpty || how.mode = .memory || path == Utf8.encode memoryName then
    if how.mode = .readOnly then (tree, p, .error (.store .readOnly))
    else if how.shared && !path.isEmpty then done (p.openShared path)
    else done p.openPrivate
  else
    let file := Path.absolute FileTree.workingName (NativeName.ofBytes path)
    match p.databaseAt tree file how with
    | .error e => (tree, p, .error e)
    | .ok (tree, p, n) =>
      let (p, c) := p.connect n
      (tree, p, .ok c)

/-- A connection to the database of a name, which is a path or an address.  The directories above
the name, taken as a path, are made first and stay even when the rest fails. -/
def openFile (p : Pool) (tree : FileTree) (name : Text) :
    FileTree × Pool × Except Failure Nat :=
  if name == memoryName then p.connectAt tree (Utf8.encode name) {}
  else
    let path := Path.absolute FileTree.workingName (NativeName.ofText name)
    match tree.makeDirectories (Path.directory path) with
    | .error e => (tree, p, .error (.file e))
    | .ok tree =>
      if name.any (· == '\x00') then (tree, p, .error (.file .embeddedNul))
      else
        match Address.read? name with
        | none => p.connectAt tree (Utf8.encode name) {}
        | some address =>
          match address.bind (fun a => a.opening.map (fun how => (a.path, how))) with
          | .error e => (tree, p, .error (.store (.badAddress e)))
          | .ok (path, how) => p.connectAt tree path how

end Pool

end PackageCatalog
