import PackageCatalog.Text.Lines

/-!
# Integers in any script

Reading an integer from a text, with the decimal digits of every script, blanks around it, the
mark of its base and single underscores between digits.

## Main definitions

* `Integer.decimalDigit?` - the value of a decimal digit.
* `Integer.plain` - a text with ASCII digits only.
* `Integer.read` - the integer that a text is in a base.
-/

namespace PackageCatalog.Integer

/-- The code points of the digit zero in each script; the other nine digits follow it. -/
def zeros : List Nat :=
  [0x0030, 0x0660, 0x06F0, 0x07C0, 0x0966, 0x09E6, 0x0A66, 0x0AE6, 0x0B66, 0x0BE6, 0x0C66,
    0x0CE6, 0x0D66, 0x0DE6, 0x0E50, 0x0ED0, 0x0F20, 0x1040, 0x1090, 0x17E0, 0x1810, 0x1946,
    0x19D0, 0x1A80, 0x1A90, 0x1B50, 0x1BB0, 0x1C40, 0x1C50, 0xA620, 0xA8D0, 0xA900, 0xA9D0,
    0xA9F0, 0xAA50, 0xABF0, 0xFF10, 0x104A0, 0x10D30, 0x11066, 0x110F0, 0x11136, 0x111D0,
    0x112F0, 0x11450, 0x114D0, 0x11650, 0x116C0, 0x11730, 0x118E0, 0x11950, 0x11C50, 0x11D50,
    0x11DA0, 0x16A60, 0x16AC0, 0x16B50, 0x1D7CE, 0x1D7D8, 0x1D7E2, 0x1D7EC, 0x1D7F6, 0x1E140,
    0x1E2F0, 0x1E950, 0x1FBF0]

/-- The value of a decimal digit. -/
def decimalDigit? (c : Char) : Option Nat :=
  (zeros.find? (fun z => z ≤ c.toNat && c.toNat < z + 10)).map (c.toNat - ·)

/-- A text with the digits of every script as ASCII digits and every blank beyond ASCII as a
space. -/
def plain (t : Text) : Text :=
  t.map (fun c =>
    if c.toNat < 0x7F then c
    else if Text.isBlank c then ' '
    else match decimalDigit? c with
      | some d => Char.ofNat (48 + d)
      | none => c)

/-- The value of a digit in a base up to sixteen. -/
def digit? (base : Nat) (c : Char) : Option Nat :=
  let value :=
    if 'a' ≤ c ∧ c ≤ 'f' then some (c.toNat - 87)
    else if 'A' ≤ c ∧ c ≤ 'F' then some (c.toNat - 55)
    else Text.digitValue? c
  value.filter (fun d => decide (d < base))

/-- Blanks that are passed over around a number in ASCII. -/
def isSpace (c : Char) : Bool := c == ' ' || ('\t' ≤ c && c ≤ '\r')

/-- Why a text is no integer. -/
inductive Refusal
  | notInteger
  /-- More decimal digits than are read. -/
  | tooManyDigits (count : Nat)
  deriving DecidableEq, Repr

/-- The most decimal digits of an integer. -/
def digitLimit : Nat := 4300

/-- The letter that may stand between a zero and the digits of a base. -/
def baseLetter? (base : Nat) : Option Char :=
  match base with
  | 2 => some 'b'
  | 8 => some 'o'
  | 16 => some 'x'
  | _ => none

/-- A text without the mark of its base, and without an underscore after the mark. -/
def dropMark (base : Nat) : Text → Text
  | '0' :: c :: t =>
    if baseLetter? base = some (Text.asciiLower c) then
      match t with
      | '_' :: t => t
      | t => t
    else '0' :: c :: t
  | t => t

/-- The values of the digits at the start of a text behind `done` (latest first), and the rest.
An underscore stands only between two digits; `fresh` says that none may come next. -/
def digitsOnto (base : Nat) : Bool → List Nat → Text → Option (List Nat × Text)
  | fresh, done, [] => if fresh then none else some (done.reverse, [])
  | fresh, done, c :: t =>
    if c = '_' then (if fresh then none else digitsOnto base true done t)
    else match digit? base c with
      | some d => digitsOnto base false (d :: done) t
      | none => if fresh then none else some (done.reverse, c :: t)

/-- The integer that a text is in a base.  Only decimal integers are limited in length, and that
limit comes before what stands after the digits. -/
def read (base : Nat) (t : Text) : Except Refusal Int :=
  let (negative, t) := Text.spanSign ((plain t).dropWhile isSpace)
  match digitsOnto base true [] (dropMark base t) with
  | none => .error .notInteger
  | some (ds, rest) =>
    if base = 10 ∧ digitLimit < ds.length then .error (.tooManyDigits ds.length)
    else if !rest.all isSpace then .error .notInteger
    else
      let n := ds.foldl (fun n d => n * base + d) 0
      .ok (if negative then -(n : Int) else n)

end PackageCatalog.Integer
