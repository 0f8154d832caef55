import PackageCatalog.Query.Predicate
import PackageCatalog.Query.Like

/-!
# Clauses

A predicate taken apart: the clauses that must all hold, the alternatives of which one must hold,
and what is settled about it without looking at any document.

## Main definitions

* `Predicate.conjuncts`, `Predicate.disjuncts` - nested conjunctions and disjunctions in a row.
* `Predicate.pruned` - a predicate without clauses that cannot matter.
* `Predicate.settled` - a predicate without parts whose value no document can change.
* `Predicate.hasExact` - whether a predicate has a term that compares a whole field.
-/

namespace PackageCatalog.Predicate

mutual

/-- The clauses that must all hold, from left to right.  An empty conjunction is one clause, which
always holds. -/
def conjuncts : Predicate → List Predicate
  | all (p :: ps) => conjuncts p ++ conjunctsOf ps
  | any [p] => conjuncts p
  | p => [p]

/-- The clauses of several predicates, from left to right. -/
def conjunctsOf : List Predicate → List Predicate
  | [] => []
  | p :: ps => conjuncts p ++ conjunctsOf ps

end

mutual

/-- The alternatives of which one must hold, from left to right.  An empty disjunction is one
alternative, which never holds. -/
def disjuncts : Predicate → List Predicate
  | any (p :: ps) => disjuncts p ++ disjunctsOf ps
  | all [p] => disjuncts p
  | p => [p]

/-- The alternatives of several predicates, from left to right. -/
def disjunctsOf : List Predicate → List Predicate
  | [] => []
  | p :: ps => disjuncts p ++ disjunctsOf ps

end

/-- Whether a predicate is the empty disjunction, which never holds. -/
def isNothing : Predicate → Bool
  | any [] => true
  | _ => false

/-- The clauses of a conjunction behind those in `done`.  The empty disjunction swallows its
neighbours, except that it leaves substring terms alone. -/
def prunedOnto (done : List Predicate) : List Predicate → List Predicate
  | [] => done
  | p :: ps =>
    let never := (done.length == 1 && done.all isNothing) || p.isNothing
    if never && !someNeedsIndex done && !p.needsIndex then prunedOnto [any []] ps
    else prunedOnto (done ++ [p]) ps

/-- A conjunction of clauses; one alone stands for itself. -/
def ofClauses : List Predicate → Predicate
  | [p] => p
  | ps => all ps

/-- A disjunction of alternatives; one alone stands for itself. -/
def ofAlternatives : List Predicate → Predicate
  | [p] => p
  | ps => any ps

mutual

/-- The predicate without clauses that cannot matter. -/
def pruned : Predicate → Predicate
  | all [] => all []
  | all (p :: ps) => ofClauses (prunedOnto [pruned p] (prunedAll ps))
  | any ps => ofAlternatives (prunedAll ps)
  | p => p

/-- Several predicates without clauses that cannot matter. -/
def prunedAll : List Predicate → List Predicate
  | [] => []
  | p :: ps => pruned p :: prunedAll ps

end

/-- Whether a predicate is the empty conjunction, which always holds. -/
def isEverything : Predicate → Bool
  | all [] => true
  | _ => false

mutual

/-- The predicate with every part that is settled from the start replaced by an empty one. -/
def settled : Predicate → Predicate
  | all children =>
    let parts := settledParts children
    if parts.any isNothing then any [] else all (parts.filter (fun p => !p.isEverything))
  | any children =>
    let parts := settledParts children
    if parts.any isEverything then all [] else any (parts.filter (fun p => !p.isNothing))
  | p => p

/-- Several predicates with every settled part replaced. -/
def settledParts : List Predicate → List Predicate
  | [] => []
  | p :: ps => settled p :: settledParts ps

end

mutual

/-- Whether a tree has a term that compares a whole field. -/
def hasExact : Predicate → Bool
  | term _ _ whole => whole
  | all children => someHasExact children
  | any children => someHasExact children
  | other _ => false

/-- Whether one of several trees has such a term. -/
def someHasExact : List Predicate → Bool
  | [] => false
  | p :: ps => hasExact p || someHasExact ps

end

mutual

/-- Whether the terms of a tree that compare a whole field do so for some fields only. -/
def readsOnly (fields : List Field) : Predicate → Bool
  | term field _ whole => !whole || fields.any (fun f => Field.ofName? field == some f)
  | all children => allReadOnly fields children
  | any children => allReadOnly fields children
  | other _ => true

/-- Whether such terms of several trees do so for some fields only. -/
def allReadOnly (fields : List Field) : List Predicate → Bool
  | [] => true
  | p :: ps => readsOnly fields p && allReadOnly fields ps

end

mutual

/-- How deep a tree is nested. -/
def height : Predicate → Nat
  | all children => heightOf children + 1
  | any children => heightOf children + 1
  | _ => 1

/-- How deep several trees are nested. -/
def heightOf : List Predicate → Nat
  | [] => 0
  | p :: ps => max (height p) (heightOf ps)

end

/-- The field that a predicate fixes to one value. -/
def exactField? : Predicate → Option Field
  | term field _ true => Field.ofName? field
  | _ => none

/-- How many values of a field a predicate allows, when it is a choice among values of that
field. -/
def choices? (f : Field) (p : Predicate) : Option Nat :=
  if p.disjuncts.all (fun q => q.exactField? == some f) then some p.disjuncts.length else none

/-- Whether a predicate is a substring term that the text index can look up: its value has no
character with a meaning in patterns. -/
def isLookup : Predicate → Bool
  | term _ value whole => !whole && !Like.hasSpecial value
  | _ => false

end PackageCatalog.Predicate
