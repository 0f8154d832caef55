import PackageCatalog.Document
import PackageCatalog.Datum
import PackageCatalog.Number.Paired
import PackageCatalog.Query.Sql
import PackageCatalog.Store.Address

/-!
# The store

The store holds two tables: the documents, and an index of their text fields under the same
numbers.  Every change of the first is carried over to the second by a rule of its own, so that
substring terms, which read the index alone, see the documents as they are.

## Main definitions

* `IndexRow`, `Store` - the two tables and the last number that was given.
* `StoreError` - why a change or a query is refused.
* `Store.insert`, `Store.update`, `Store.delete`, `Store.deleteAll` - the changes.
* `columnText`, `columnNumber` - the stored form of a value in a column.
-/

namespace PackageCatalog

/-- The text fields of a document as the index holds them. -/
structure IndexRow where
  id : Nat
  path : Text
  package : Text
  restpath : Text
  content : Text
  suffix : Text
  deriving DecidableEq, Repr

/-- The index row that belongs to a document. -/
def Document.indexRow (d : Document) : IndexRow :=
  ⟨d.id, d.path, d.package, d.restpath, d.content, d.suffix⟩

/-- The text of a field; the index has none of the time stamp. -/
def IndexRow.get (r : IndexRow) : Field → Text
  | .path => r.path
  | .package => r.package
  | .restpath => r.restpath
  | .content => r.content
  | .timestamp => []
  | .suffix => r.suffix

/-- The documents and their index, both in ascending order of their numbers, with the last
number that was given. -/
structure Store where
  documents : List Document := []
  index : List IndexRow := []
  lastId : Nat := 0
  deriving DecidableEq, Repr

/-- Why an operation on the store is refused. -/
inductive StoreError
  /-- The query or a field name is refused before the store is asked. -/
  | query (e : QueryError)
  /-- The value at a position cannot be stored. -/
  | unsupported (position : Nat)
  /-- An integer does not fit 64 bits. -/
  | tooLarge
  /-- A text holds a surrogate. -/
  | brokenText
  /-- A field has no value. -/
  | noValue (field : Field)
  /-- Another document has the path. -/
  | pathTaken
  /-- An update without assignments. -/
  | noAssignments
  /-- Too many joined terms. -/
  | tooDeep
  /-- The pattern of a substring term is too long. -/
  | patternTooLong
  /-- No document has the path. -/
  | notFound (path : Text)
  | closed
  /-- A transaction is begun inside another. -/
  | nested
  /-- Another connection is writing. -/
  | locked
  | cannotOpen
  | notADatabase
  /-- The database was opened for reading alone. -/
  | readOnly
  /-- The address of the database is refused. -/
  | badAddress (fault : AddressFault)

/-- The text of a store error. -/
def StoreError.message : StoreError → Text
  | query e => e.message
  | unsupported position =>
    "Error binding parameter ".toList ++ Text.ofNat position ++
      " - probably unsupported type.".toList
  | tooLarge => "Python int too large to convert to SQLite INTEGER".toList
  | brokenText => "surrogates not allowed".toList
  | noValue field => "NOT NULL constraint failed: documents.".toList ++ field.name.toList
  | pathTaken => "UNIQUE constraint failed: documents.path".toList
  | noAssignments => "near \"WHERE\": syntax error".toList
  | tooDeep => "Expression tree is too large (maximum depth 1000)".toList
  | patternTooLong => "LIKE or GLOB pattern too complex".toList
  | notFound path => "Document not found: ".toList ++ path
  | closed => "Cannot operate on a closed database.".toList
  | nested => "cannot start a transaction within a transaction".toList
  | locked => "database is locked".toList
  | cannotOpen => "unable to open database file".toList
  | notADatabase => "file is not a database".toList
  | readOnly => "attempt to write a readonly database".toList
  | badAddress fault => fault.message

/-! ### Values in columns -/

/-- Whether an integer fits 64 bits. -/
def fitsWord (n : Int) : Bool := decide (-9223372036854775808 ≤ n ∧ n ≤ 9223372036854775807)

/-- A value at a position, if it can be handed to the store at all. -/
def bindable (position : Nat) : Datum → Except StoreError Unit
  | .integer n => if fitsWord n then .ok () else .error .tooLarge
  | .brokenText _ => .error .brokenText
  | .list _ => .error (.unsupported position)
  | .set _ => .error (.unsupported position)
  | .record _ => .error (.unsupported position)
  | .moment => .error (.unsupported position)
  | _ => .ok ()

/-- All values of a list, counted from a position. -/
def bindAll : Nat → List Datum → Except StoreError Unit
  | _, [] => .ok ()
  | n, d :: ds =>
    match bindable n d with
    | .ok () => bindAll (n + 1) ds
    | .error e => .error e

/-- A value in a text column: numbers become their text. -/
def columnText : Datum → Option Text
  | .bool b => some (if b then ['1'] else ['0'])
  | .integer n => some (Text.ofInt n)
  | .real d => some d.columnText
  | .text t => some t
  | _ => none

/-- Whether a character is passed over around a numeral. -/
def isNumeralSpace (c : Char) : Bool := c == ' ' || ('\t' ≤ c && c ≤ '\r')

/-- The numeral that a text is, blanks around it aside. -/
def numeralOf? (t : Text) : Option Decimal.Numeral := Decimal.read? (Text.trimBy isNumeralSpace t)

/-- A value in the time stamp column: integers and numerals become numbers. -/
def columnNumber : Datum → Option Cell
  | .bool b => some (.number (.ofInt (if b then 1 else 0)))
  | .integer n => some (.number (.ofInt n))
  | .real d => some (.number d)
  | .text t =>
    match numeralOf? t with
    | some n => some (.number (if n.isInteger && fitsWord n.toInt then .ofInt n.toInt else n.stored))
    | none => some (.text t)
  | _ => none

/-! ### Changes -/

namespace Store

/-- A row put into the index in the order of numbers. -/
def insertIndex (r : IndexRow) : List IndexRow → List IndexRow
  | [] => [r]
  | s :: rows => if r.id < s.id then r :: s :: rows else s :: insertIndex r rows

/-- The rule that follows an insertion: the new document is indexed. -/
def afterInsert (s : Store) (d : Document) : Store :=
  { s with index := insertIndex d.indexRow s.index }

/-- The rule that follows a deletion: the index row of that number goes. -/
def afterDelete (s : Store) (old : Document) : Store :=
  { s with index := s.index.filter (fun r => r.id != old.id) }

/-- The rule that follows an update: the index row of the old number goes, and the document as it
is now is indexed. -/
def afterUpdate (s : Store) (old new : Document) : Store :=
  (s.afterDelete old).afterInsert new

/-- The document of a path. -/
def get? (s : Store) (path : Text) : Option Document := s.documents.find? (fun d => d.path == path)

/-- The value assigned to a field. -/
def assigned? (f : Field) (values : List (Field × Datum)) : Option Datum :=
  (values.find? (fun v => v.1 == f)).map Prod.snd

/-- The stored text of a field that must have a value. -/
def textFor (f : Field) (d : Datum) : Except StoreError Text :=
  match columnText d with
  | some t => .ok t
  | none => .error (.noValue f)

/-- The stored time stamp, which must have a value. -/
def stampFor (d : Datum) : Except StoreError Cell :=
  match columnNumber d with
  | some c => .ok c
  | none => .error (.noValue .timestamp)

/-- The fields of a new row.  A missing suffix is empty; any other missing field has no value. -/
def newContents (values : List (Field × Datum)) : Except StoreError Contents := do
  let value := fun f => (assigned? f values).getD .null
  let path ← textFor .path (value .path)
  let package ← textFor .package (value .package)
  let restpath ← textFor .restpath (value .restpath)
  let content ← textFor .content (value .content)
  let timestamp ← stampFor (value .timestamp)
  let suffix ← textFor .suffix ((assigned? .suffix values).getD (.text []))
  return ⟨path, package, restpath, content, timestamp, suffix⟩

/-- The fields of a row after assignments. -/
def changedContents (old : Contents) (values : List (Field × Datum)) :
    Except StoreError Contents := do
  let text := fun f (old : Text) =>
    match assigned? f values with
    | some d => textFor f d
    | none => .ok old
  let path ← text .path old.path
  let package ← text .package old.package
  let restpath ← text .restpath old.restpath
  let content ← text .content old.content
  let timestamp ← match assigned? .timestamp values with
    | some d => stampFor d
    | none => .ok old.timestamp
  let suffix ← text .suffix old.suffix
  return ⟨path, package, restpath, content, timestamp, suffix⟩

/-- A new row, under the number after the last one. -/
def insert (s : Store) (values : List (Field × Datum)) : Except StoreError Store :=
  match newContents values with
  | .error e => .error e
  | .ok c =>
    if (s.get? c.path).isSome then .error .pathTaken
    else
      let d : Document := { c with id := s.lastId + 1 }
      .ok ({ s with documents := s.documents ++ [d], lastId := s.lastId + 1 }.afterInsert d)

/-- The row of a path with assignments. -/
def update (s : Store) (path : Text) (values : List (Field × Datum)) : Except StoreError Store :=
  match s.get? path with
  | none => .error (.notFound path)
  | some old =>
    match changedContents old.toContents values with
    | .error e => .error e
    | .ok c =>
      if s.documents.any (fun d => d.id != old.id && d.path == c.path) then .error .pathTaken
      else
        let new : Document := { c with id := old.id }
        let documents := s.documents.map (fun d => if d.id == old.id then new else d)
        .ok ({ s with documents := documents }.afterUpdate old new)

/-- The store without the row of a path. -/
def delete (s : Store) (path : Text) : Except StoreError Store :=
  match s.get? path with
  | none => .error (.notFound path)
  | some old =>
    let documents := s.documents.filter (fun d => d.id != old.id)
    .ok ({ s with documents := documents }.afterDelete old)

/-- The store without any row, and how many there were.  The rule for deletions follows for each
of them. -/
def deleteAll (s : Store) : Store × Nat :=
  (s.documents.foldl afterDelete { s with documents := [] }, s.documents.length)

end Store

end PackageCatalog
