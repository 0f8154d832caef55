import PackageCatalog.Query.Sql

/-!
# Sort keys

## Main definitions

* `SortKey`, `SortKey.ofNames` - a field with a direction, and the one that two names stand for.
* `SortKey.compare` - comparison of documents by keys in turn.
-/

namespace PackageCatalog

/-- A sort key: a field, and whether its order is reversed. -/
structure SortKey where
  field : Field
  descending : Bool
  deriving DecidableEq, Repr

/-- The order of answers of a search: by package, then by path below it. -/
def lexicalOrder : List SortKey := [⟨.package, false⟩, ⟨.restpath, false⟩]

/-- Comparison of documents by sort keys in turn. -/
def SortKey.compare : List SortKey → Document → Document → Ordering
  | [], _, _ => .eq
  | k :: ks, a, b =>
    let o := Cell.order (a.get k.field) (b.get k.field)
    (if k.descending then o.swap else o).then (SortKey.compare ks a b)

/-- A sort key given by names. -/
def SortKey.ofNames (field order : Text) : Except QueryError SortKey :=
  if order == "ascending".toList || order == "descending".toList then
    match Field.ofName? field with
    | some f => .ok ⟨f, order == "descending".toList⟩
    | none => .error (.unknownField field)
  else .error (.unknownOrder order)

end PackageCatalog
