import PackageCatalog.Query.Predicate
import PackageCatalog.Validation

/-!
# Reading search options

## Main definitions

* `SearchOptions.ofRecord` - the options of a record, or the complaints about it.
* `SearchOptions.toRecord` - the record of options.
-/

namespace PackageCatalog.SearchOptions

/-- The names of the options. -/
def names : List String :=
  ["patterns", "keywords", "packages", "paths", "restpaths", "suffixes", "offset", "limit"]

/-- Complaints about keys that are no options, in the order of the record. -/
def unknownKeys (entries : List (Text × Datum)) : Checked Unit :=
  let unknown := entries.filter (fun e => !names.any (fun n => n.toList == e.1))
  if unknown.isEmpty then .ok ()
  else .error (unknown.map (fun e => ⟨[.key e.1], .unknownKey⟩))

/-- The options of a record. -/
def ofRecord (entries : List (Text × Datum)) : Checked SearchOptions :=
  let texts := fun name => Checked.fieldOr [] (Checked.list Checked.text) name entries
  let offset := Checked.fieldOr 0 Checked.natural "offset" entries
  let limit := Checked.fieldOr none Checked.naturalOrNull "limit" entries
  match ((((((((texts "patterns").both (texts "keywords")).both (texts "packages")).both
      (texts "paths")).both (texts "restpaths")).both (texts "suffixes")).both offset).both
      limit).both (unknownKeys entries) with
  | .ok ((((((((patterns, keywords), packages), paths), restpaths), suffixes), offset), limit), _) =>
    .ok { patterns, keywords, packages, paths, restpaths, suffixes, offset, limit }
  | .error e => .error e

/-- The record of options. -/
def toRecord (o : SearchOptions) : List (Text × Datum) :=
  let texts := fun ts : List Text => Datum.list (ts.map Datum.text)
  [("patterns".toList, texts o.patterns), ("keywords".toList, texts o.keywords),
    ("packages".toList, texts o.packages), ("paths".toList, texts o.paths),
    ("restpaths".toList, texts o.restpaths), ("suffixes".toList, texts o.suffixes),
    ("offset".toList, .integer o.offset),
    ("limit".toList, match o.limit with
      | some n => .integer n
      | none => .null)]

/-- The options of a record laid over given options: its keys replace theirs. -/
def override (base : SearchOptions) (entries : List (Text × Datum)) : Checked SearchOptions :=
  ofRecord (base.toRecord ++ entries)

end PackageCatalog.SearchOptions
