import PackageCatalog.Query.Clause
import PackageCatalog.Store.Basic

/-!
# The truth of predicates

Exact terms are read off the document, substring terms off its index row.  That is all that there
is to the truth of a predicate.  To try one takes more care: a pattern that is too long is an
error, but only when it is tried.

## Main definitions

* `Row` - a document with an index row.
* `Predicate.holds` - whether a predicate is true of a row.
* `Predicate.isTriable` - whether no pattern of a predicate is too long.
* `Predicate.attempt` - the truth of a predicate, found by trying its terms from left to right.
* `Predicate.reaches` - whether a look-up in the text index finds a row at all.
-/

namespace PackageCatalog

/-- A document with an index row. -/
abbrev Row := Document × IndexRow

/-- Whether an exact term holds.  A time stamp that is a number is compared by value with a
numeral. -/
def exactHolds (f : Field) (value : Text) (d : Document) : Bool :=
  match d.get f with
  | .text t => t == value && (f.isText || (numeralOf? value).isNone)
  | .number x =>
    match numeralOf? value with
    | none => false
    | some n =>
      if n.isInteger && fitsWord n.toInt then x.isInt n.toInt else Double.order x n.stored == .eq

/-- Whether a substring term holds, by the matcher on its pattern. -/
def tokenHolds (f : Field) (value : Text) (r : IndexRow) : Bool :=
  Like.accepts (Like.escapeOf value) (Like.pattern value) (r.get f)

/-- Whether a term holds.  A name that is no field never gets here. -/
def termHolds (field value : Text) (whole : Bool) (row : Row) : Bool :=
  match Field.ofName? field with
  | none => false
  | some f => if whole then exactHolds f value row.1 else tokenHolds f value row.2

/-- Whether the pattern of a substring term is longer than can be tried. -/
def tooLong (value : Text) : Bool := Like.patternLimit < (Utf8.encode (Like.pattern value)).length

namespace Predicate

mutual

/-- Whether a predicate is true of a row. -/
def holds (row : Row) : Predicate → Bool
  | .term field value whole => termHolds field value whole row
  | .all children => allHold row children
  | .any children => anyHolds row children
  | .other _ => false

/-- Whether all of several predicates are true. -/
def allHold (row : Row) : List Predicate → Bool
  | [] => true
  | p :: ps => holds row p && allHold row ps

/-- Whether one of several predicates is true. -/
def anyHolds (row : Row) : List Predicate → Bool
  | [] => false
  | p :: ps => holds row p || anyHolds row ps

end

mutual

/-- Whether every pattern of a predicate can be tried. -/
def isTriable : Predicate → Bool
  | .term _ value whole => whole || !tooLong value
  | .all children => areTriable children
  | .any children => areTriable children
  | .other _ => true

/-- Whether every pattern of several predicates can be tried. -/
def areTriable : List Predicate → Bool
  | [] => true
  | p :: ps => isTriable p && areTriable ps

end

mutual

/-- Tries a predicate on a row, its parts from left to right as long as they matter. -/
def attempt (row : Row) : Predicate → Except StoreError Bool
  | .term field value whole =>
    if !whole && tooLong value then .error .patternTooLong else .ok (termHolds field value whole row)
  | .all children => attemptAll row children
  | .any children => attemptAny row children
  | .other _ => .ok false

/-- Tries several predicates until one is false. -/
def attemptAll (row : Row) : List Predicate → Except StoreError Bool
  | [] => .ok true
  | p :: ps =>
    match attempt row p with
    | .error e => .error e
    | .ok true => attemptAll row ps
    | .ok false => .ok false

/-- Tries several predicates until one is true. -/
def attemptAny (row : Row) : List Predicate → Except StoreError Bool
  | [] => .ok false
  | p :: ps =>
    match attempt row p with
    | .error e => .error e
    | .ok true => .ok true
    | .ok false => attemptAny row ps

end

/-- Whether the text index finds a row when it looks up a substring term.  It knows the unescaped
parts of a text that have three characters or more. -/
def reaches (row : Row) : Predicate → Bool
  | .term field value false =>
    match Field.textOfName? field with
    | some f =>
      Like.hasSpecial value || value.length < 3 || value.any (· == '\x00') ||
        Text.contains ((row.2.get f).map Text.asciiLower) (value.map Text.asciiLower)
    | none => true
  | _ => true

end Predicate

end PackageCatalog
