import PackageCatalog.Query.Clause
import PackageCatalog.Store.Estimate
import PackageCatalog.Store.SortKey

/-!
# Ways to the rows

The documents can be read by number, along an index over the package and the path below it, or
along one over the path, and a clause that fixes such a field leads to a part of an index.  The
rows of the text index can be read by number, or looked up by the substrings that clauses ask for.
On both sides a disjunction can be taken alternative by alternative, if each has a way of its own.

Every way has an estimate of what it costs and of the rows that it meets, as if there were
a million documents.

## Main definitions

* `FieldIndex`, `Reading`, `Way` - an index over fields, what is read, and that with its estimates.
* `Way.ofDocuments`, `Way.ofIndex` - the ways to the documents and to the rows of the text index.
* `Way.keep` - the ways that are worth keeping when there is one more.
-/

namespace PackageCatalog

/-- An index over fields of the documents. -/
inductive FieldIndex
  | byPackage
  | byPath
  deriving DecidableEq, Repr

namespace FieldIndex

/-- The fields that order an index, most significant first. -/
def fields : FieldIndex → List Field
  | byPackage => [.package, .restpath]
  | byPath => [.path]

/-- The rows expected for one value of the first field, and of each further one. -/
def expected : FieldIndex → List Int
  | byPackage => [33, 32]
  | byPath => [0]

/-- What reading an entry of an index costs. -/
def breadth : FieldIndex → Int
  | byPackage => 13
  | byPath => 11

end FieldIndex

/-- What is read. -/
inductive Reading
  /-- Everything, by number. -/
  | all
  /-- All documents along an index. -/
  | along (index : FieldIndex)
  /-- The part of an index with one of some values of its first fields, given how many values of
  each. -/
  | search (index : FieldIndex) (values : List Nat)
  /-- The row with the number of one that is known. -/
  | byNumber
  /-- The rows of the text index that hold some substrings. -/
  | lookups
  /-- The rows for the alternatives of a clause, one alternative after the other, given the other
  clauses beside it. -/
  | alternatives (clause : Predicate) (others : List Predicate)

/-- A way to rows, with its estimates. -/
structure Way where
  reading : Reading
  /-- Whether a row of the other side has to be known. -/
  needsOther : Bool := false
  cost : Int
  rows : Int
  /-- The index whose order may be worth something. -/
  ordering : Option FieldIndex := none

/-- The clauses that are known to hold of a row, innermost first: those of an alternative stand
before those around its disjunction. -/
abbrev Scope := List (List Predicate)

namespace Way

/-! ### Which ways are kept -/

/-- Whether a way is at least as good as another for every purpose. -/
def covers (a b : Way) : Bool :=
  a.ordering == b.ordering && (!a.needsOther || b.needsOther) && a.cost ≤ b.cost && a.rows ≤ b.rows

/-- Ways with one more, without those that another covers.  It takes the place of the first one
that it covers. -/
def keep (ways : List Way) (w : Way) : List Way :=
  if ways.any (fun v => v.covers w) then ways
  else
    let (before, after) := ways.span (fun v => !w.covers v)
    before ++ w :: after.filter (fun v => !w.covers v)

/-- The index that a way goes along, and how many of its fields have chosen values. -/
def place? (w : Way) : Option (FieldIndex × Nat) :=
  match w.reading with
  | .along index => some (index, 0)
  | .search index values => some (index, values.length)
  | _ => none

/-- A way beside another on the same index: the one with more chosen values is taken to be at
least as good. -/
def besides (w v : Way) : Way :=
  match w.place?, v.place? with
  | some (i, m), some (j, n) =>
    if i != j then w
    else if n < m && !(w.cost < v.cost && w.rows < v.rows) then
      { w with cost := min v.cost w.cost, rows := min (v.rows - 1) w.rows }
    else if m < n && !(v.cost < w.cost && v.rows < w.rows) then
      { w with cost := max v.cost w.cost, rows := max (v.rows + 1) w.rows }
    else w
  | _, _ => w

/-- A way as it stands among others. -/
def among (ways : List Way) (w : Way) : Way := ways.foldl besides w

/-- Whether a way by itself is better than another: cheaper, or as cheap and to fewer rows. -/
def isBetter (a b : Way) : Bool :=
  let (x, y) := (Estimate.sum a.cost 0, Estimate.sum b.cost 0)
  x < y || (x == y && a.rows < b.rows)

/-- The best of several ways, of equal ones the first. -/
def best? : List Way → Option Way
  | [] => none
  | w :: ways => some (ways.foldl (fun a b => if b.isBetter a then b else a) w)

/-! ### Ways to the documents -/

/-- The estimate of the number of all documents. -/
def tableRows : Int := 200

/-- What reading a row costs. -/
def rowCost : Int := 16

/-- What one value out of many leaves of the rows. -/
def oneValue : Int := 20

/-- The clauses that are tested when they are not used to find rows: the place of each, and whether
it fixes a field.  A clause that reads the text index can be tested only when its row is known. -/
def testable (own : List Predicate) (needsOther : Bool) : List (Nat × Bool) :=
  own.zipIdx.filterMap (fun c =>
    if c.1.hasExact && (needsOther || !c.1.needsIndex) then some (c.2, c.1.exactField?.isSome)
    else none)

/-- The rows that remain when clauses have been tested that a way does not use. -/
def remaining (testable : List (Nat × Bool)) (used : List Nat) (rows : Int) : Int :=
  let tested := testable.filter (fun c => !used.contains c.1)
  min (rows - tested.length) (if tested.any (·.2) then tableRows - oneValue else tableRows)

/-- A choice among values of a field: its place among the innermost clauses, if it is one of
them, and the number of values. -/
structure Choice where
  place : Option Nat
  values : Nat

/-- The choices among values of a field that clauses make, single values first. -/
def choicesAmong (f : Field) (clauses : List Predicate) : List (Nat × Nat) :=
  let found := clauses.zipIdx.filterMap (fun c => (c.1.choices? f).map (fun n => (c.2, n)))
  found.filter (fun c => c.2 == 1) ++ (found.filter (fun c => c.2 != 1)).reverse

/-- The choices among values of a field in a scope. -/
def choices (f : Field) : Scope → List Choice
  | [] => []
  | own :: outer =>
    (choicesAmong f own).map (fun c => ⟨some c.1, c.2⟩) ++
      outer.flatMap (fun clauses => (choicesAmong f clauses).map (fun c => ⟨none, c.2⟩))

/-- The way to the part of an index that choices lead to. -/
def search (testable : List (Nat × Bool)) (index : FieldIndex) (ordering : Option FieldIndex)
    (chosen : List Choice) : Way :=
  let rows := index.expected.getD (chosen.length - 1) 0
  let walk := Estimate.sum (Estimate.steps tableRows) (rows + index.breadth)
  let values := (chosen.map (fun c => Estimate.ofNat c.values)).foldr (· + ·) 0
  { reading := .search index (chosen.map (·.values))
    cost := Estimate.sum walk (rows + rowCost) + values
    rows := remaining testable (chosen.filterMap (·.place)) (rows + values)
    ordering }

/-- The ways to a part of an index. -/
def searches (scope : Scope) (index : FieldIndex) (ordering : Option FieldIndex) : List Way :=
  let way := search (testable (scope.headD []) false) index ordering
  match index with
  | .byPackage =>
    let below := choices .restpath scope
    (choices .package scope).flatMap (fun a => way [a] :: below.map (fun b => way [a, b]))
  | .byPath => (choices .path scope).map (fun a => way [a])

/-- What a clause that can be told from an index alone spares of reading documents. -/
def spared (c : Predicate) : Int := if c.exactField?.isSome then oneValue else 1

/-- What clauses spare of reading documents along an index.  The first one that needs a document
ends it; without one, all that follows from the clauses counts too. -/
def sparedAlong (index : FieldIndex) (joined : Bool) (clauses : List Predicate) : Int :=
  let told := clauses.takeWhile (fun c => c.readsOnly index.fields)
  let first := (told.map spared).foldr (· + ·) 0
  if told.length < clauses.length then first
  else
    let lookups := clauses.countP (fun c => c.isLookup)
    let choices := clauses.countP (fun c =>
      Field.all.any (fun f => (c.choices? f).any (fun n => 1 < n)))
    first + (if joined then 2 * oneValue + lookups else 0) + choices

/-- The way along all of an index. -/
def whole (clauses : List Predicate) (joined : Bool) (index : FieldIndex) : Way :=
  let fetch := tableRows + rowCost - sparedAlong index joined clauses
  { reading := .along index
    cost := Estimate.sum (tableRows + index.breadth) fetch
    rows := remaining (testable clauses false) [] tableRows
    ordering := some index }

/-- The better of an entry and one that comes later: of equal ones the later, with the fewer
rows. -/
def cheaper (found : Option (Int × Int)) (entry : Int × Int) : Option (Int × Int) :=
  match found with
  | none => some entry
  | some (cost, rows) =>
    if entry.1 ≤ cost then some (entry.1, min rows entry.2) else some (cost, rows)

/-- The cost and rows of all alternatives of a clause together, given those of each. -/
def together (branch : Predicate → Option (Int × Int)) : List Predicate → Option (Int × Int)
  | [] => none
  | [q] => branch q
  | q :: r :: rest =>
    match branch q, together branch (r :: rest) with
    | some a, some b => some (Estimate.sum a.1 b.1, Estimate.sum a.2 b.2)
    | _, _ => none

/-- The cost and rows of a clause taken alternative by alternative, if `offers` finds in each of
them what a way on the side needs. -/
def byAlternatives (offers : Predicate → Bool) (branch : Predicate → Option (Int × Int))
    (clause : Predicate) : Option (Int × Int) :=
  let alternatives := clause.disjuncts
  if alternatives.length < 2 || !alternatives.all (fun q => q.conjuncts.any offers) then none
  else (together branch alternatives.reverse).map (fun t => (t.1 + 1, t.2))

/-- Ways together with those by the alternatives of clauses.  What a single alternative takes
depends on the ways so far and on how deep it may be taken apart itself. -/
def withAlternatives (offers : Predicate → Bool) (clauses : List Predicate)
    (branch : List Way → Nat → Predicate → Option (Int × Int)) (ways : List Way) : List Way :=
  clauses.zipIdx.foldl (fun ways c =>
    match byAlternatives offers (branch ways (c.1.height + 1)) c.1 with
    | some (cost, rows) =>
      keep ways { reading := .alternatives c.1 (clauses.eraseIdx c.2), cost, rows }
    | none => ways) ways

/-- Whether a clause is a choice among values of a field. -/
def choosesField (c : Predicate) : Bool := Field.all.any (fun f => (c.choices? f).isSome)

/-- The cost and rows of the best way to the documents in a scope, beside ways that are there
already.  Disjunctions are taken apart as deep as they are nested. -/
def documentBranch (ways : List Way) : Nat → Scope → Option (Int × Int)
  | 0, _ => none
  | depth + 1, scope =>
    let direct := (searches scope .byPackage none ++ searches scope .byPath none).map (fun w =>
      let w := w.among ways
      (w.cost, w.rows))
    let nested := (scope.headD []).filterMap (byAlternatives choosesField (fun q =>
      documentBranch ways depth (q.conjuncts :: scope)))
    (direct ++ nested).foldl cheaper none

/-- The ways to the documents that satisfy clauses.  With `joined` a row of the text index can be
known. -/
def ofDocuments (clauses : List Predicate) (joined : Bool) (keys : List SortKey) : List Way :=
  let scope := [clauses]
  let add := fun ways w => keep ways (among ways w)
  let indexed := fun index : FieldIndex =>
    let helps := keys.any (fun k => index.fields.contains k.field)
    (if helps then [whole clauses joined index] else []) ++
      searches scope index (if helps then some index else none)
  let numbered : Way :=
    { reading := .byNumber
      needsOther := true
      cost := Estimate.sum (Estimate.steps tableRows) rowCost
      rows := remaining (testable clauses true) [] 0 }
  let plain : List Way :=
    { reading := .all, cost := tableRows + rowCost, rows := remaining (testable clauses false) [] tableRows } ::
      ((if joined then [numbered] else []) ++ indexed .byPackage ++ indexed .byPath)
  withAlternatives choosesField clauses
    (fun ways depth q => documentBranch ways depth (q.conjuncts :: scope)) (plain.foldl add [])

/-! ### Ways to the rows of the text index -/

/-- The number of substrings that clauses ask for and that can be looked up. -/
def lookupCount (scope : Scope) : Nat :=
  (scope.map (fun clauses => clauses.countP (fun c => c.isLookup))).foldr (· + ·) 0

/-- What looking up one substring costs; each further one takes two fifths of it. -/
def lookupCost (count : Nat) : Nat := 10000 * Nat.pow 2 (count - 1) / Nat.pow 5 (count - 1)

/-- The way by all substrings that can be looked up, or over everything when there are none. -/
def byLookups (count : Nat) : Way :=
  if count = 0 then
    { reading := .all, cost := Estimate.ofNat 3000000, rows := Estimate.ofNat 750000 }
  else
    { reading := .lookups
      cost := Estimate.ofNat (lookupCost count)
      rows := Estimate.ofNat (lookupCost count / 4) }

/-- The way to the row with the number of a document. -/
def toNumber (count : Nat) : Way :=
  { reading := .byNumber
    needsOther := true
    cost := Estimate.ofNat (if count = 0 then 25 else 1000)
    rows := 0 }

/-- The cost and rows of the best way to the rows of the text index in a scope.  One that is no
dearer than the way to a single row is taken to meet no more rows than that. -/
def indexBranch : Nat → Scope → Option (Int × Int)
  | 0, _ => none
  | depth + 1, scope =>
    let count := lookupCount scope
    let w := byLookups count
    let direct := (w.cost, if w.cost ≤ (toNumber count).cost then min 0 w.rows else w.rows)
    let nested := (scope.headD []).filterMap (byAlternatives (·.isLookup) (fun q =>
      indexBranch depth (q.conjuncts :: scope)))
    nested.foldl cheaper (some direct)

/-- The ways to the rows of the text index that satisfy clauses.  With `joined` a document can be
known. -/
def ofIndex (clauses : List Predicate) (joined : Bool) : List Way :=
  let count := lookupCount [clauses]
  let plain := (if joined then [toNumber count] else []) ++ [byLookups count]
  withAlternatives (·.isLookup) clauses
    (fun _ depth q => indexBranch depth [q.conjuncts, clauses]) (plain.foldl keep [])

end Way

end PackageCatalog
