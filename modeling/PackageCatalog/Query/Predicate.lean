import PackageCatalog.Datum
import PackageCatalog.Document

/-!
# Predicates

A query is a tree of terms, each a test of one field, combined by conjunction and disjunction.
`SearchOptions` are the filters of a search; `SearchOptions.compile` turns them into one tree.

## Main definitions

* `Predicate` - the trees, with anything else that stands in the place of one.
* `SearchOptions`, `SearchOptions.compile` - filters and their predicate.
* `Predicate.needsIndex` - whether a tree has a term that looks for a part of a text.
-/

namespace PackageCatalog

/-- A condition on documents. -/
inductive Predicate
  /-- The field contains the value, or is it when the match is of the whole. -/
  | term (field : Text) (value : Text) (whole : Bool)
  /-- All of the children hold. -/
  | all (children : List Predicate)
  /-- At least one of the children holds. -/
  | any (children : List Predicate)
  /-- Something that is no condition. -/
  | other (value : Datum)
  deriving Inhabited

namespace Predicate

/-- The predicate that every document satisfies. -/
def everything : Predicate := all []

/-- The field is the value. -/
def equals (field : Field) (value : Text) : Predicate := term field.name.toList value true

/-- The field contains the value. -/
def token (field : Field) (value : Text) : Predicate := term field.name.toList value false

/-- The field contains one of the values. -/
def anyOf (field : Field) (values : List Text) : Predicate := any (values.map (token field))

/-- One of the fields contains the value. -/
def anyField (fields : List Field) (value : Text) : Predicate :=
  any (fields.map (fun f => token f value))

mutual

/-- Whether a tree has a term that looks for a part of a text. -/
def needsIndex : Predicate → Bool
  | term _ _ whole => !whole
  | all children => someNeedsIndex children
  | any children => someNeedsIndex children
  | other _ => false

/-- Whether one of several trees has such a term. -/
def someNeedsIndex : List Predicate → Bool
  | [] => false
  | p :: ps => needsIndex p || someNeedsIndex ps

end

end Predicate

/-- The filters of a search, with the window of its answers. -/
structure SearchOptions where
  /-- Every one occurs in the content. -/
  patterns : List Text := []
  /-- Every one occurs in the content, the path below the package or the package. -/
  keywords : List Text := []
  /-- One of them, if there are any, occurs in the package. -/
  packages : List Text := []
  /-- Every one occurs in the path. -/
  paths : List Text := []
  /-- Every one occurs in the path below the package. -/
  restpaths : List Text := []
  /-- One of them, if there are any, occurs in the suffix. -/
  suffixes : List Text := []
  /-- The number of answers to skip. -/
  offset : Nat := 0
  /-- The greatest number of answers, if there is one. -/
  limit : Option Nat := none
  deriving DecidableEq, Repr

/-- The predicate of the filters: one clause for every pattern, keyword, path and restpath, and
one for all packages and for all suffixes. -/
def SearchOptions.compile (o : SearchOptions) : Predicate :=
  .all (o.patterns.map (.token .content) ++
    o.keywords.map (.anyField [.content, .restpath, .package]) ++
    (if o.packages.isEmpty then [] else [.anyOf .package o.packages]) ++
    o.paths.map (.token .path) ++
    o.restpaths.map (.token .restpath) ++
    (if o.suffixes.isEmpty then [] else [.anyOf .suffix o.suffixes]))

end PackageCatalog
