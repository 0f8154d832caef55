import PackageCatalog.Store.Select

/-!
# Tables

A table is what one connection sees of a database: the store, whether the connection is in a
transaction, and whether it may write.

## Main definitions

* `Access`, `Table` - the view of a connection.
* `Table.insert`, `Table.update`, `Table.delete`, `Table.deleteAll` - changes by field names.
* `Table.select`, `Table.get?`, `Table.size`, `Table.countBy` - questions.
* `Table.startTransaction`, `Table.commit`, `Table.rollback`, `Table.close` - transactions and their end.
-/

namespace PackageCatalog

/-- What a connection may do. -/
inductive Access
  | ready
  /-- Another connection is in a transaction: reading is allowed. -/
  | busy
  | closed
  deriving DecidableEq, Repr

/-- The view of a connection. -/
structure Table where
  store : Store := {}
  /-- The store before the transaction that is open, if one is. -/
  saved : Option Store := none
  access : Access := .ready
  deriving DecidableEq, Repr

namespace Table

/-- The store, for reading. -/
def view (t : Table) : Except StoreError Store :=
  match t.access with
  | .closed => .error .closed
  | _ => .ok t.store

/-- A change: `prepare` checks it before the store is asked, `run` carries it out. -/
def execute {α : Type} (t : Table) (prepare : Except StoreError Unit)
    (run : Store → Except StoreError (Store × α)) : Except StoreError (Table × α) :=
  match t.access with
  | .closed => .error .closed
  | access =>
    match prepare with
    | .error e => .error e
    | .ok () =>
      if access = .busy then .error .locked
      else
        match run t.store with
        | .error e => .error e
        | .ok (store, a) => .ok ({ t with store }, a)

/-- Named values as values of fields. -/
def fieldsOf : List (Text × Datum) → Except StoreError (List (Field × Datum))
  | [] => .ok []
  | (name, d) :: rest =>
    match Field.ofName? name with
    | none => .error (.query (.unknownField name))
    | some f =>
      match fieldsOf rest with
      | .error e => .error e
      | .ok values => .ok ((f, d) :: values)

/-- Named values with the path among them; it keeps its place when it is there already. -/
def withPath (path : Text) (values : List (Text × Datum)) : List (Text × Datum) :=
  let name := Field.path.name.toList
  if values.any (fun v => v.1 == name) then
    values.map (fun v => if v.1 == name then (name, .text path) else v)
  else values ++ [(name, .text path)]

/-- A new document under a path. -/
def insert (t : Table) (path : Text) (values : List (Text × Datum)) : Except StoreError Table :=
  match fieldsOf (withPath path values) with
  | .error e => .error e
  | .ok fields =>
    match t.execute (bindAll 0 (fields.map Prod.snd))
        (fun s => (s.insert fields).map (fun s => (s, ()))) with
    | .error e => .error e
    | .ok (t, ()) => .ok t

/-- The document of a path with new values. -/
def update (t : Table) (path : Text) (values : List (Text × Datum)) : Except StoreError Table :=
  match fieldsOf values with
  | .error e => .error e
  | .ok fields =>
    let prepare :=
      if fields.isEmpty then .error .noAssignments else bindAll 0 (fields.map Prod.snd)
    match t.execute prepare (fun s => (s.update path fields).map (fun s => (s, ()))) with
    | .error e => .error e
    | .ok (t, ()) => .ok t

/-- The table without the document of a path. -/
def delete (t : Table) (path : Text) : Except StoreError Table :=
  match t.execute (.ok ()) (fun s => (s.delete path).map (fun s => (s, ()))) with
  | .error e => .error e
  | .ok (t, ()) => .ok t

/-- The table without any document, and how many there were. -/
def deleteAll (t : Table) : Except StoreError (Table × Nat) :=
  t.execute (.ok ()) (fun s => .ok s.deleteAll)

/-- The document of a path. -/
def get? (t : Table) (path : Text) : Except StoreError (Option Document) :=
  t.view.map (·.get? path)

/-- All documents in the order of their numbers. -/
def documents (t : Table) : Except StoreError (List Document) := t.view.map Store.documents

/-- The number of documents. -/
def size (t : Table) : Except StoreError Nat := t.view.map (·.documents.length)

/-- Sort keys given by names. -/
def sortKeys : List (Text × Text) → Except StoreError (List SortKey)
  | [] => .ok []
  | (field, order) :: rest =>
    match SortKey.ofNames field order with
    | .error e => .error (.query e)
    | .ok k =>
      match sortKeys rest with
      | .error e => .error e
      | .ok ks => .ok (k :: ks)

/-- The documents that satisfy a predicate, sorted and windowed. -/
def select (t : Table) (p : Predicate) (sort : List SortKey) (offset : Int) (limit : Option Int) :
    Except StoreError (List Document) :=
  match Sql.render p with
  | .error e => .error (.query e)
  | .ok _ =>
    match t.view with
    | .error e => .error e
    | .ok s => s.select p sort offset limit

/-- A selection with sort keys given by names; they are read after the predicate. -/
def selectBy (t : Table) (p : Predicate) (sort : List (Text × Text)) (offset : Int)
    (limit : Option Int) : Except StoreError (List Document) :=
  match Sql.render p with
  | .error e => .error (.query e)
  | .ok _ =>
    match sortKeys sort with
    | .error e => .error e
    | .ok keys => t.select p keys offset limit

/-- The values of a field given by name, each with the number of documents that have it. -/
def countBy (t : Table) (field : Text) : Except StoreError (List (Cell × Nat)) :=
  match Field.ofName? field with
  | none => .error (.query (.unknownField field))
  | some f => t.view.map (·.countBy f)

/-! ### Transactions -/

/-- The table in a new transaction. -/
def startTransaction (t : Table) : Except StoreError Table :=
  match t.access with
  | .closed => .error .closed
  | .busy => .error .locked
  | .ready => if t.saved.isSome then .error .nested else .ok { t with saved := some t.store }

/-- The table with its transaction made final. -/
def commit (t : Table) : Except StoreError Table :=
  match t.access with
  | .closed => .error .closed
  | _ => .ok { t with saved := none }

/-- The table as it was before its transaction. -/
def rollback (t : Table) : Except StoreError Table :=
  match t.access with
  | .closed => .error .closed
  | _ => .ok { t with store := t.saved.getD t.store, saved := none }

/-- The closed table; an open transaction is undone. -/
def close (t : Table) : Table :=
  { store := t.saved.getD t.store, saved := none, access := .closed }

end Table

end PackageCatalog
