import PackageCatalog.Store.Route

/-!
# Plans

A plan says along which routes a query goes over the rows: over the documents alone, or over
documents and text index, one within the other.  Of all the ways within each other those are taken
whose estimated cost is least.  An order that is asked for counts: where the outer way does not
follow it, the cost of sorting is added.

The order of the outer way is what answers without sort keys come in, and what is left between
answers whose keys are equal.

## Main definitions

* `Stage`, `Stage.follows` - a way on a side, and how many sort keys its order begins with.
* `Course`, `Course.best?` - ways within each other with their estimates.
* `Plan`, `Plan.ofQuery` - the routes and the order of a query.
-/

namespace PackageCatalog

/-! ### Stages -/

/-- A way on a side. -/
structure Stage where
  side : Side
  way : Way

namespace Stage

/-- How many sort keys an order begins with that goes by some fields, in one direction, while
others are fixed; and the direction, as far as it is settled.  A path belongs to one document, so
that nothing after it matters. -/
def follow (fixed : List Field) : List Field → Option Bool → List SortKey → Nat × Option Bool
  | _, direction, [] => (0, direction)
  | fields, direction, k :: keys =>
    if fixed.contains k.field then
      let (n, d) := follow fixed fields direction keys
      (n + 1, d)
    else
      match fields with
      | [] => (0, direction)
      | f :: fields =>
        if f != k.field || direction.any (· != k.descending) then (0, direction)
        else if f == .path then (keys.length + 1, some k.descending)
        else
          let (n, d) := follow fixed fields (some k.descending) keys
          (n + 1, d)

/-- The fields that a search has chosen values of, with how many. -/
def chosen (index : FieldIndex) (values : List Nat) : List (Field × Nat) := index.fields.zip values

/-- How many sort keys the order of a stage begins with, given fields that are fixed, and in which
direction it has to be gone.  The text index and alternatives have no order. -/
def follows (fixed : List Field) (keys : List SortKey) (s : Stage) : Nat × Option Bool :=
  match s.side, s.way.reading with
  | .documents, .all => follow fixed [] none keys
  | .documents, .along index => follow fixed index.fields none keys
  | .documents, .search .byPath [1] => (keys.length, none)
  | .documents, .search index values =>
    let single := (chosen index values).filterMap (fun c => if c.2 == 1 then some c.1 else none)
    follow fixed (index.fields.filter (fun f => !single.contains f)) none keys
  | _, _ => (0, none)

/-- The direction in which all sort keys together ask a search to be gone, if its order follows
them for each choice of the values it searches. -/
def directionWithin (fixed : List Field) (keys : List SortKey) (s : Stage) : Option Bool :=
  match s.side, s.way.reading with
  | .documents, .search index values =>
    let settled := (chosen index values).map (·.1)
    let rest := index.fields.filter (fun f => !settled.contains f)
    let (n, direction) := follow (fixed ++ settled) rest none keys
    if n == keys.length then direction else none
  | _, _ => none

/-- Whether a stage leads to a part of the documents by the values of fields. -/
def isSearch (s : Stage) : Bool :=
  match s.side, s.way.reading with
  | .documents, .search _ _ => true
  | _, _ => false

/-- Whether a stage stays when another way searches the documents. -/
def staysBesideSearch (s : Stage) : Bool :=
  match s.way.reading with
  | .byNumber => true
  | _ => s.isSearch

end Stage

/-! ### Courses -/

/-- Ways within each other, the outer first, with their estimates. -/
structure Course where
  outer : Stage
  inner : Option Stage
  /-- What sorting the answers costs, if they have to be. -/
  sorting : Option Int
  /-- The cost with sorting. -/
  cost : Int
  /-- The cost without sorting; it counts a little less where nothing is sorted. -/
  unsorted : Int
  rows : Int

namespace Course

/-- A course by its stages, its cost without sorting and its rows. -/
def ofCost (outer : Stage) (inner : Option Stage) (sorting : Option Int) (cost rows : Int) : Course :=
  match sorting with
  | some s => { outer, inner, sorting, cost := Estimate.sum cost s + 3, unsorted := cost, rows }
  | none => { outer, inner, sorting, cost, unsorted := cost - 2, rows }

/-- The course of one stage. -/
def start (sorting : Stage → Option Int) (s : Stage) : Course :=
  ofCost s none (sorting s) (Estimate.sum s.way.cost 0) s.way.rows

/-- A course with a stage within it, which is gone through for each of its rows. -/
def within (c : Course) (s : Stage) : Course :=
  ofCost c.outer (some s) c.sorting (Estimate.sum (s.way.cost + c.rows) c.unsorted)
    (c.rows + s.way.rows)

/-- Whether a course is better than another. -/
def isBetter (a b : Course) : Bool :=
  a.cost < b.cost ||
    (a.cost == b.cost && (a.rows < b.rows || (a.rows == b.rows && a.unsorted < b.unsorted)))

/-- The best of several courses, of equal ones the first. -/
def best? : List Course → Option Course
  | [] => none
  | c :: courses => some (courses.foldl (fun a b => if b.isBetter a then b else a) c)

/-- The best course over documents and, if there are any, over ways to the text index.  On each
side only the best outer way is pursued. -/
def choose? (documents index : List Stage) (sorting : Stage → Option Int) : Option Course :=
  let begun := fun stages : List Stage =>
    (best? ((stages.filter (fun s => !s.way.needsOther)).map (start sorting))).toList
  if index.isEmpty then best? (begun documents)
  else
    best? ((begun documents).flatMap (fun c => index.map c.within) ++
      (begun index).flatMap (fun c => documents.map c.within))

/-- What sorting rows costs when their order begins with some of the sort keys.  Given a limit,
no more rows than that are kept while sorting. -/
def sortCost (rows : Int) (keys settled : Nat) (limit : Option Nat) : Int :=
  let share := if settled = 0 then 0 else Estimate.ofNat ((keys - settled) * 100 / keys) - 66
  match limit with
  | none => rows + 10 + share + Estimate.steps rows
  | some n =>
    let care := if settled = 0 then 10 else 16
    rows + 10 + share + care + Estimate.steps (min (Estimate.ofNat n) rows)

/-- The course of a query.  It is chosen without regard to sorting first, which tells how many rows
there will be to sort. -/
def ofClauses? (clauses : List Predicate) (joined : Bool) (fixed : List Field)
    (keys : List SortKey) (limit : Option Nat) : Option Course :=
  let documents := (Side.documents.ways clauses joined keys).map (Stage.mk .documents)
  let index := if joined then (Side.index.ways clauses joined keys).map (Stage.mk .index) else []
  match choose? documents index (fun _ => none) with
  | none => none
  | some c =>
    if keys.isEmpty then some c
    else
      let rows := if c.rows < 0 then 1 else c.rows + 1
      let sorting := fun s : Stage =>
        let settled := (s.follows fixed keys).1
        if settled < keys.length then some (sortCost rows keys.length settled limit) else none
      let documents :=
        if c.outer.isSearch then documents.filter Stage.staysBesideSearch else documents
      choose? documents index sorting

end Course

/-! ### Plans -/

/-- How a query goes over the rows. -/
structure Plan where
  outer : Route
  /-- The routes that are gone for each row met on the outer one. -/
  inner : List Route
  /-- Whether the outer route is gone backwards. -/
  backwards : Bool
  /-- The sort keys that the rows come in the order of. -/
  settled : List SortKey
  /-- Whether that is all that are asked for. -/
  inOrder : Bool

namespace Plan

/-- The plan that meets no row. -/
def idle : Plan :=
  { outer := Route.nowhere, inner := [], backwards := false, settled := [], inOrder := true }

/-- How deep disjunctions beside each other are taken apart within each other. -/
def depth : Nat := 8

/-- The route along the way of a stage, on which some clauses are tried. -/
def routeOf (tries : Predicate → Bool) (clauses : List Predicate) (s : Stage) : Route :=
  Route.ofWay (Route.toRows s.side depth) s.side tries clauses s.way

/-- The plan of a query along a course.  What the outer side cannot tell is tried on the inner
one. -/
def ofCourse (clauses : List Predicate) (fixed : List Field) (keys : List SortKey) (c : Course) :
    Plan :=
  let side := c.outer.side
  let (n, direction) := c.outer.follows fixed keys
  let direction :=
    if n = 0 && c.inner.isNone then c.outer.directionWithin fixed keys else direction
  { outer := routeOf side.tells clauses c.outer
    inner := c.inner.toList.map (routeOf (fun p => !side.tells p) clauses)
    backwards := direction == some true
    settled := keys.take n
    inOrder := n = keys.length }

/-- A limit that a plan reckons with: a positive one of at most 31 bits. -/
def limitOf (limit : Option Int) : Option Nat :=
  (limit.filter (fun n => 0 < n && n < 2147483648)).map Int.toNat

/-- The plan of a query. -/
def ofQuery (p : Predicate) (keys : List SortKey) (limit : Option Int) : Plan :=
  let clauses := p.pruned.conjuncts
  let fixed := clauses.filterMap Predicate.exactField?
  if Route.areHopeless clauses then idle
  else
    match Course.ofClauses? clauses p.needsIndex fixed keys (limitOf limit) with
    | some c => ofCourse clauses fixed keys c
    | none => idle

end Plan

end PackageCatalog
