import PackageCatalog.Store.Plan

/-!
# Queries on the store

Which documents answer a query is the truth of its predicate, and their order that of the sort
keys.  The plan settles the rest: the order of answers whose keys are equal, and whether a pattern
that cannot be tried is reached before there are enough answers.

## Main definitions

* `Store.select` - the documents that satisfy a predicate, sorted and windowed.
* `Plan.fault?` - the error that going over rows ends in.
* `Store.countBy` - how many documents have each value of a field.
-/

namespace PackageCatalog

namespace Plan

/-- What happens on routes within each other to a row that is met on the outer ones. -/
def walkWithin : List Route → Meeting → List Meeting
  | _, .error e => [.error e]
  | [], .ok row => [.ok row]
  | route :: routes, .ok row => (route.walk [row]).flatMap (walkWithin routes)

/-- What happens when rows are gone through by a plan. -/
def walk (plan : Plan) (rows : List Row) : List Meeting :=
  let outer := plan.outer.walk rows
  (if plan.backwards then outer.reverse else outer).flatMap (walkWithin plan.inner)

/-- Rows in the order in which they are met; those that are not met come last. -/
def arrange (meetings : List Meeting) (rows : List Row) : List Row :=
  let met := meetings.filterMap (fun m => m.toOption.map (·.1.id))
  let placed := rows.map (fun row => (met.idxOf row.1.id, row))
  (sortBy (fun a b => compare a.1 b.1) placed).map (·.2)

/-- The error that a query ends in, given how many answers are needed and have been found, and the
last of them.  Answers in order are enough as soon as they are as many as needed.  When only some
of the sort keys are settled, all that are equal by those have to be seen. -/
def fault? (plan : Plan) (needed : Option Nat) : Nat → Option Document → List Meeting →
    Option StoreError
  | _, _, [] => none
  | found, last, meeting :: rest =>
    let enough := needed.any (· ≤ found)
    if plan.inOrder && enough then none
    else
      match meeting with
      | .error e => some e
      | .ok row =>
        if enough && last.any (fun d => SortKey.compare plan.settled d row.1 != .eq) then none
        else fault? plan needed (found + 1) (some row.1) rest

end Plan

/-- A window of a list; a negative offset is zero and a negative limit none. -/
def window {α : Type} (offset : Int) (limit : Option Int) (l : List α) : List α :=
  let rest := l.drop offset.toNat
  match limit with
  | none => rest
  | some n => if n < 0 then rest else rest.take n.toNat

/-- The number of rows that a window reaches; none when it has no end. -/
def reach (offset : Int) (limit : Option Int) : Option Nat :=
  match limit with
  | none => none
  | some n => if n < 0 then none else some (offset.toNat + n.toNat)

namespace Store

/-- The rows that a query goes over: documents, each with the index row of its number.  Without a
substring term the index is not read. -/
def rows (s : Store) (p : Predicate) : List Row :=
  if p.needsIndex then
    s.documents.flatMap (fun d => (s.index.filter (fun r => r.id == d.id)).map (fun r => (d, r)))
  else s.documents.map (fun d => (d, d.indexRow))

/-- The documents that satisfy a predicate, in the order of the keys and, among equal ones, in the
order of the plan. -/
def select (s : Store) (p : Predicate) (sort : List SortKey) (offset : Int) (limit : Option Int) :
    Except StoreError (List Document) :=
  if !Sql.fits p then .error .tooDeep
  else if !(limit.all fitsWord) || !fitsWord offset then .error .tooLarge
  else if limit == some 0 then .ok []
  else
    let plan := Plan.ofQuery p sort limit
    let rows := s.rows p
    let meetings := plan.walk rows
    match plan.fault? (reach offset limit) 0 none meetings with
    | some e => .error e
    | none =>
      let found := (Plan.arrange meetings rows).filter (fun row => p.holds row)
      .ok (window offset limit (sortBy (SortKey.compare sort) (found.map (·.1))))

/-- Equal neighbours counted together. -/
def countRuns : List Cell → List (Cell × Nat)
  | [] => []
  | c :: cs =>
    match countRuns cs with
    | [] => [(c, 1)]
    | (d, n) :: rest => if Cell.order c d == .eq then (d, n + 1) :: rest else (c, 1) :: (d, n) :: rest

/-- The values of a field in ascending order, each with the number of documents that have it. -/
def countBy (s : Store) (f : Field) : List (Cell × Nat) :=
  countRuns (sortBy Cell.order (s.documents.map (fun d => d.get f)))

end Store

end PackageCatalog
