import PackageCatalog.Query.Predicate
import PackageCatalog.Query.Like

/-!
# Conditions in SQL

A predicate written as a condition with parameter marks, and the parameters in order.  Substring
terms read the text index under the alias `f`, exact terms the document table under `d`.

## Main definitions

* `QueryError` - why a predicate, field or order is refused.
* `Sql.render` - the condition and parameters of a predicate.
* `Sql.depth` - the depth of the expression, checked against the limit.
-/

namespace PackageCatalog

/-- Why a query cannot be written. -/
inductive QueryError
  /-- No such field, or none that is allowed in that place. -/
  | unknownField (name : Text)
  /-- No such sort order. -/
  | unknownOrder (name : Text)
  /-- Something that is no predicate. -/
  | notPredicate (value : Datum)

/-- The text of a query error. -/
def QueryError.message : QueryError → Text
  | unknownField name => "Unknown document field '".toList ++ name ++ ['\'']
  | unknownOrder name => "Unknown sort order '".toList ++ name ++ ['\'']
  | notPredicate value => "Not a predicate: ".toList ++ value.shown

namespace Sql

/-- A condition and the parameters for its marks, in order. -/
structure Condition where
  sql : Text
  parameters : List Text
  deriving DecidableEq, Repr

/-- The condition of a term. -/
def renderTerm (field value : Text) (whole : Bool) : Except QueryError Condition :=
  if whole then
    match Field.ofName? field with
    | some f => .ok ⟨"d.".toList ++ f.name.toList ++ " = ?".toList, [value]⟩
    | none => .error (.unknownField field)
  else
    match Field.textOfName? field with
    | some f =>
      .ok ⟨"f.".toList ++ f.name.toList ++ " LIKE ?".toList ++
        (if Like.hasSpecial value then " ESCAPE '\\'".toList else []), [Like.pattern value]⟩
    | none => .error (.unknownField field)

/-- Conditions in parentheses with a word between them. -/
def joinSql (word : Text) : List Condition → Text
  | [] => []
  | [c] => '(' :: (c.sql ++ [')'])
  | c :: d :: rest => '(' :: (c.sql ++ ')' :: (word ++ joinSql word (d :: rest)))

/-- Conditions joined by a word; `empty` stands for none. -/
def combine (word empty : Text) (cs : List Condition) : Condition :=
  if cs.isEmpty then ⟨empty, []⟩ else ⟨joinSql word cs, cs.flatMap Condition.parameters⟩

mutual

/-- The condition of a predicate.  An empty conjunction is `1` and an empty disjunction `0`. -/
def render : Predicate → Except QueryError Condition
  | .term field value whole => renderTerm field value whole
  | .all children => (renderAll children).map (combine " AND ".toList ['1'])
  | .any children => (renderAll children).map (combine " OR ".toList ['0'])
  | .other value => .error (.notPredicate value)

/-- The conditions of several predicates, from left to right. -/
def renderAll : List Predicate → Except QueryError (List Condition)
  | [] => .ok []
  | p :: ps =>
    match render p with
    | .error e => .error e
    | .ok c =>
      match renderAll ps with
      | .error e => .error e
      | .ok cs => .ok (c :: cs)

end

/-! ### Depth -/

/-- The greatest depth of an expression. -/
def depthLimit : Nat := 1000

/-- The depth of an expression, whether it is the constant `0`, and whether it calls the
pattern matcher. -/
structure Depth where
  levels : Nat
  isFalse : Bool
  matchesPattern : Bool

/-- The depth of a term: a field of a table, compared or matched. -/
def Depth.ofTerm (whole : Bool) : Depth := ⟨3, false, !whole⟩

/-- The depth of a pair joined by a word; none when it is too great.  A conjunction with the
constant `0` is that constant, unless the matcher is called somewhere in it. -/
def Depth.join (folds : Bool) (a b : Depth) : Option Depth :=
  let calls := a.matchesPattern || b.matchesPattern
  if folds && (a.isFalse || b.isFalse) && !calls then some ⟨1, true, false⟩
  else
    let levels := max a.levels b.levels + 1
    if depthLimit < levels then none else some ⟨levels, false, calls⟩

mutual

/-- The depth of the condition of a predicate; none when it is too great. -/
def depth : Predicate → Option Depth
  | .term _ _ whole => some (.ofTerm whole)
  | .all [] => some ⟨1, false, false⟩
  | .any [] => some ⟨1, true, false⟩
  | .all (p :: ps) => (depth p).bind (fun d => depthOnto true d ps)
  | .any (p :: ps) => (depth p).bind (fun d => depthOnto false d ps)
  | .other _ => some (.ofTerm true)

/-- The depth of conditions joined to one that stands before them. -/
def depthOnto (folds : Bool) (d : Depth) : List Predicate → Option Depth
  | [] => some d
  | p :: ps => (depth p).bind (fun e => (d.join folds e).bind (fun d => depthOnto folds d ps))

end

/-- Whether the condition of a predicate fits the limit, with the joining condition that it
needs when it reads the text index. -/
def fits (p : Predicate) : Bool :=
  match depth p with
  | none => false
  | some d =>
    if p.needsIndex then ((Depth.join false d (.ofTerm true)).isSome) else true

end Sql

end PackageCatalog
