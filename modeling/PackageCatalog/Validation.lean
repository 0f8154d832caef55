import PackageCatalog.Datum
import PackageCatalog.Number.Numeral

/-!
# Validation

Reading typed values out of untyped data.  All complaints about a value are collected, each with
the place it is about.

## Main definitions

* `Flaw`, `Complaint` - what is wrong, and where.
* `Checked` - a value, or all complaints about it.
* `Checked.text`, `Checked.list`, `Checked.natural` - readers of single values.
* `Checked.field`, `Checked.fieldOr` - readers of the fields of a record.
-/

namespace PackageCatalog

/-- What is wrong with a value. -/
inductive Flaw
  | missing
  | notText
  | brokenText
  | notList
  /-- Not a record of the given kind. -/
  | notRecord (kind : String)
  | unknownKey
  | fraction
  | infinite
  | tooLarge
  | unreadable
  | notInteger
  | negative
  deriving DecidableEq, Repr

namespace Flaw

/-- The code of a flaw in answers. -/
def code : Flaw → String
  | missing => "missing"
  | notText => "string_type"
  | brokenText => "string_unicode"
  | notList => "list_type"
  | notRecord _ => "model_type"
  | unknownKey => "extra_forbidden"
  | fraction => "int_from_float"
  | infinite => "finite_number"
  | tooLarge => "int_parsing_size"
  | unreadable => "int_parsing"
  | notInteger => "int_type"
  | negative => "greater_than_equal"

/-- The words for a flaw. -/
def words : Flaw → String
  | missing => "Field required"
  | notText => "Input should be a valid string"
  | brokenText =>
    "Input should be a valid string, unable to parse raw data as a unicode string"
  | notList => "Input should be a valid list"
  | notRecord kind => "Input should be a valid dictionary or instance of " ++ kind
  | unknownKey => "Extra inputs are not permitted"
  | fraction => "Input should be a valid integer, got a number with a fractional part"
  | infinite => "Input should be a finite number"
  | tooLarge => "Unable to parse input string as an integer, exceeded maximum size"
  | unreadable => "Input should be a valid integer, unable to parse string as an integer"
  | notInteger => "Input should be a valid integer"
  | negative => "Input should be greater than or equal to 0"

end Flaw

/-- One step on the way to a place in a value. -/
inductive Step
  | key (name : Text)
  | index (n : Nat)
  deriving DecidableEq, Repr

/-- A flaw and the place it is at. -/
structure Complaint where
  place : List Step
  flaw : Flaw
  deriving DecidableEq, Repr

/-- A value, or the complaints about it. -/
abbrev Checked (α : Type) := Except (List Complaint) α

namespace Checked

variable {α β : Type}

/-- Complaints moved below a further step. -/
def within (step : Step) : Checked α → Checked α
  | .ok a => .ok a
  | .error cs => .error (cs.map (fun c => { c with place := step :: c.place }))

/-- Two values, or the complaints about both. -/
def both : Checked α → Checked β → Checked (α × β)
  | .ok a, .ok b => .ok (a, b)
  | .ok _, .error e => .error e
  | .error e, .ok _ => .error e
  | .error e, .error f => .error (e ++ f)

/-- One complaint about the value itself. -/
def flawed (flaw : Flaw) : Checked α := .error [⟨[], flaw⟩]

/-- All values of a list, or all complaints. -/
def each (read : Datum → Checked α) : Nat → List Datum → Checked (List α)
  | _, [] => .ok []
  | n, d :: ds =>
    match both ((read d).within (.index n)) (each read (n + 1) ds) with
    | .ok (a, as) => .ok (a :: as)
    | .error e => .error e

/-- A text.  Octets count as one when they are UTF-8. -/
def text : Datum → Checked Text
  | .text t => .ok t
  | .brokenText _ => flawed .brokenText
  | .octets b =>
    match Utf8.decode b with
    | some t => .ok t
    | none => flawed .brokenText
  | _ => flawed .notText

/-- A list, each item read by `read`. -/
def list (read : Datum → Checked α) : Datum → Checked (List α)
  | .list items => each read 0 items
  | .set items => each read 0 items
  | _ => flawed .notList

/-- The value of a key that must be there. -/
def field (read : Datum → Checked α) (name : String) (entries : List (Text × Datum)) :
    Checked α :=
  match Datum.lookup? name.toList entries with
  | some d => (read d).within (.key name.toList)
  | none => .error [⟨[.key name.toList], .missing⟩]

/-- The value of a key, or a default when it is not there. -/
def fieldOr (default : α) (read : Datum → Checked α) (name : String)
    (entries : List (Text × Datum)) : Checked α :=
  match Datum.lookup? name.toList entries with
  | some d => (read d).within (.key name.toList)
  | none => .ok default

/-! ### Integers -/

/-- An integer that must not be negative. -/
def nonNegative (n : Int) : Checked Nat := if n < 0 then flawed .negative else .ok n.toNat

/-- A natural number.  Truth values count as one and zero, and numbers without a fraction and
numerals in texts count as integers. -/
def natural : Datum → Checked Nat
  | .bool b => .ok (if b then 1 else 0)
  | .integer n => nonNegative n
  | .real d =>
    match d with
    | .infinite _ => flawed .infinite
    | .finite _ =>
      if !d.isWhole then flawed .fraction
      else if d.floor ≤ -9223372036854775808 ∨ 9223372036854775808 ≤ d.floor then flawed .tooLarge
      else nonNegative d.floor
  | .text t =>
    match Numeral.read t with
    | .ok n => nonNegative n
    | .error .notInteger => flawed .unreadable
    | .error .tooLong => flawed .tooLarge
  | _ => flawed .notInteger

/-- A natural number, or nothing. -/
def naturalOrNull : Datum → Checked (Option Nat)
  | .null => .ok none
  | d =>
    match natural d with
    | .ok n => .ok (some n)
    | .error e => .error e

end Checked

end PackageCatalog
