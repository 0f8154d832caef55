import PackageCatalog.Number.Decimal
import PackageCatalog.Path

/-!
# Documents

A document is one file of a package tree as the catalogue keeps it.

## Main definitions

* `Cell` - a stored value: a number or a text; numbers come before texts.
* `Field` - the fields of a document, and `Field.ofName?`, the field of a name.
* `Contents`, `Document` - the fields of a document, and those with its number.
* `Contents.shortpath` - `package/restpath`.
-/

namespace PackageCatalog

/-- A stored value. -/
inductive Cell
  | number (d : Double)
  | text (t : Text)
  deriving DecidableEq, Repr

/-- Comparison of stored values: numbers before texts, numbers by value, texts by the octets of
their encoding. -/
def Cell.order : Cell → Cell → Ordering
  | number a, number b => Double.order a b
  | number _, text _ => .lt
  | text _, number _ => .gt
  | text s, text t => Utf8.order s t

/-- A field of a document. -/
inductive Field
  | path
  | package
  | restpath
  | content
  | timestamp
  | suffix
  deriving DecidableEq, Repr

namespace Field

/-- The fields, in the order in which a row holds them. -/
def all : List Field := [path, package, restpath, content, timestamp, suffix]

/-- The name of a field. -/
def name : Field → String
  | path => "path"
  | package => "package"
  | restpath => "restpath"
  | content => "content"
  | timestamp => "timestamp"
  | suffix => "suffix"

/-- Whether the text index carries a field. -/
def isText : Field → Bool
  | timestamp => false
  | _ => true

/-- The field of a name. -/
def ofName? (t : Text) : Option Field := all.find? (fun f => f.name.toList == t)

/-- The text field of a name. -/
def textOfName? (t : Text) : Option Field := (ofName? t).filter isText

end Field

/-- The fields of a document. -/
structure Contents where
  path : Text
  package : Text
  restpath : Text
  content : Text
  timestamp : Cell
  suffix : Text
  deriving DecidableEq, Repr

namespace Contents

/-- The package and the path below it; only the package when nothing is below it. -/
def shortpath (c : Contents) : Text :=
  if c.restpath.isEmpty then c.package else c.package ++ '/' :: c.restpath

/-- The value of a field. -/
def get (c : Contents) : Field → Cell
  | .path => .text c.path
  | .package => .text c.package
  | .restpath => .text c.restpath
  | .content => .text c.content
  | .timestamp => c.timestamp
  | .suffix => .text c.suffix

end Contents

/-- A stored document: its fields and the number it is stored under. -/
structure Document extends Contents where
  id : Nat
  deriving DecidableEq, Repr

end PackageCatalog
