import PackageCatalog.Order
import PackageCatalog.Store.Truth
import PackageCatalog.Store.Way

/-!
# Routes

A route is a way with what is done on it: in which order it goes through the rows, and which
clauses it tries.  A disjunction that is taken alternative by alternative has a route for each of
them.  All of these are gone to their ends, but a row is met once only.

A route tells the order of rows and the errors that come of trying clauses.  It never decides which
rows satisfy a predicate.

## Main definitions

* `Side`, `Side.ways` - the documents or the text index, and the ways there.
* `Route`, `Route.ofWay` - the route along a way.
* `Meeting`, `Route.walk` - what happens on a route through rows.
-/

namespace PackageCatalog

/-! ### Sides -/

/-- One of the two tables of the store. -/
inductive Side
  | documents
  | index
  deriving DecidableEq, Repr

namespace Side

/-- The ways to the rows of a side that satisfy clauses.  With `joined` a row of the other side
can be known. -/
def ways (side : Side) (clauses : List Predicate) (joined : Bool) (keys : List SortKey) : List Way :=
  match side with
  | documents => Way.ofDocuments clauses joined keys
  | index => Way.ofIndex clauses joined

/-- Whether a clause can be told on a side alone. -/
def tells (side : Side) (c : Predicate) : Bool :=
  match side with
  | documents => !c.needsIndex
  | index => !c.hasExact

/-- The clauses that a side looks up by itself. -/
def lookups (side : Side) (clauses : List Predicate) : List Predicate :=
  match side with
  | documents => []
  | index => clauses.filter Predicate.isLookup

end Side

/-! ### Routes -/

/-- What happens on a route: a row is met, or trying a clause is an error. -/
abbrev Meeting := Except StoreError Row

/-- A course through rows. -/
inductive Route
  /-- In the order of some fields and of numbers after them.  Some clauses are looked up, others
  are tried on the rows found. -/
  | along (fields : List Field) (lookups tests : List Predicate)
  /-- Along several routes one after the other.  Further clauses are tried on the rows met. -/
  | branches (parts : List Route) (tests : List Predicate)

namespace Route

/-- The route that meets no row. -/
def nowhere : Route := along [] [] [.any []]

/-- Comparison of documents by fields and then by number. -/
def compareAlong (fields : List Field) (a b : Document) : Ordering :=
  (SortKey.compare (fields.map (⟨·, false⟩)) a b).then (compare a.id b.id)

/-- What comes of trying clauses on a row. -/
def meet (tests : List Predicate) (row : Row) : List Meeting :=
  match Predicate.attemptAll row tests with
  | .ok true => [.ok row]
  | .ok false => []
  | .error e => [.error e]

/-- What comes of trying clauses on rows that were met before. -/
def meetAgain (tests : List Predicate) : Meeting → List Meeting
  | .ok row => meet tests row
  | .error e => [.error e]

/-- Meetings without those of rows that were met before. -/
def firstMeetings : List Nat → List Meeting → List Meeting
  | _, [] => []
  | seen, .error e :: rest => .error e :: firstMeetings seen rest
  | seen, .ok row :: rest =>
    if seen.contains row.1.id then firstMeetings seen rest
    else .ok row :: firstMeetings (row.1.id :: seen) rest

mutual

/-- The meetings on a route through rows. -/
def walk : Route → List Row → List Meeting
  | along fields lookups tests, rows =>
    (sortBy (fun a b => compareAlong fields a.1 b.1)
      (rows.filter (fun row => lookups.all (Predicate.reaches row)))).flatMap (meet tests)
  | branches parts tests, rows => (firstMeetings [] (walkAll parts rows)).flatMap (meetAgain tests)

/-- The meetings on several routes through the same rows, one after the other. -/
def walkAll : List Route → List Row → List Meeting
  | [], _ => []
  | part :: parts, rows => walk part rows ++ walkAll parts rows

end

/-! ### From ways to routes -/

/-- Whether a clause that stands beside a disjunction is carried into its alternatives. -/
def isCarried (c : Predicate) : Bool := c.exactField?.isSome || 2 ≤ c.disjuncts.length

/-- The clauses that are tried on a route.  Nothing is tried whose value is settled from the
start. -/
def testsOf (tries : Predicate → Bool) (clauses : List Predicate) : List Predicate :=
  (clauses.filter tries).map Predicate.settled

/-- The route along a way, given how one alternative of a clause is gone through and which clauses
are tried.  A clause that is taken alternative by alternative is tried again as a whole. -/
def ofWay (inside : List Predicate → Route) (side : Side) (tries : Predicate → Bool)
    (clauses : List Predicate) (w : Way) : Route :=
  let tests := testsOf tries clauses
  match w.reading with
  | .along index | .search index _ => along index.fields [] tests
  | .all | .byNumber | .lookups => along [] (side.lookups clauses) tests
  | .alternatives clause others =>
    branches (clause.disjuncts.map (fun q => inside (q.conjuncts ++ others.filter isCarried))) tests

/-- Whether clauses cannot hold together, whatever the row. -/
def areHopeless (clauses : List Predicate) : Bool :=
  clauses.any (fun c => c.settled.isNothing)

/-- The route to the rows of one side that satisfy clauses, disjunctions beside each other being
taken apart within each other to a depth. -/
def toRows (side : Side) : Nat → List Predicate → Route
  | 0, clauses => along [] (side.lookups clauses) (testsOf side.tells clauses)
  | depth + 1, clauses =>
    if areHopeless clauses then nowhere
    else
      match Way.best? (side.ways clauses false []) with
      | some w => ofWay (toRows side depth) side side.tells clauses w
      | none => nowhere

end Route

end PackageCatalog
