import PackageCatalog.Text.Basic

/-!
# Double precision

Every finite double is a whole multiple of the smallest positive one, 2 to the power -1074.  A
number is therefore held as an integer count of that unit, so that order and equality are those
of the integers and rounding is the only thing left to define.

## Main definitions

* `Double` - a finite number as a count of units, or an infinity.
* `roundQuotient` - a quotient rounded to the nearest integer, a half to the even one.
* `Double.ofRatio`, `Double.ofInt` - the nearest double to a fraction and to an integer.
* `Double.ofNanoseconds` - a time stamp in seconds as the file system reports it.
* `Double.ofDecimal` - the nearest double to a decimal numeral.
-/

namespace PackageCatalog

/-- A number in double precision. -/
inductive Double
  /-- `units` times 2 to the power -1074. -/
  | finite (units : Int)
  /-- An infinity. -/
  | infinite (negative : Bool)
  deriving DecidableEq, Repr

/-- `n / d` rounded to the nearest natural number, a half to the even one. -/
def roundQuotient (n d : Nat) : Nat :=
  let q := n / d
  let r := n % d
  if 2 * r < d then q else if d < 2 * r then q + 1 else q + q % 2

namespace Double

/-- The number of binary places of the unit. -/
def places : Nat := 1074

/-- The nearest number to `n / d` with 53 significant bits, in units; none when it is too large
for a double. -/
def unitsOfRatio? (n d : Nat) : Option Nat :=
  let scaled := n <<< places
  let spare := (scaled / d).log2 - 52
  let units := roundQuotient scaled (d <<< spare) <<< spare
  if units < 1 <<< (1024 + places) then some units else none

/-- The nearest double to `n / d`. -/
def ofRatio (n : Int) (d : Nat) : Double :=
  match unitsOfRatio? n.natAbs d with
  | some units => finite (if n < 0 then -units else units)
  | none => infinite (n < 0)

/-- The nearest double to an integer. -/
def ofInt (n : Int) : Double := ofRatio n 1

/-- `n` times 2 to the power `-shift`, in units, rounded to a double; none when it is too large for
one. -/
def roundUnits? (shift : Nat) (n : Int) : Option Int :=
  let spare := max shift (n.natAbs.log2 - 52)
  let u := roundQuotient n.natAbs (1 <<< spare) <<< (spare - shift)
  if u < 1 <<< (1024 + places) then some (if n < 0 then -u else u) else none

/-- The rounded number, or the infinity of its sign. -/
def roundUnits (shift : Nat) (n : Int) : Double :=
  match roundUnits? shift n with
  | some u => finite u
  | none => infinite (n < 0)

/-- The sum of two finite numbers given in units, rounded. -/
def addUnits (a b : Int) : Double := roundUnits 0 (a + b)

/-- The product of two finite numbers given in units, rounded. -/
def mulUnits (a b : Int) : Double := roundUnits places (a * b)

/-- The units of a finite number; an infinity has none. -/
def units : Double → Int
  | finite u => u
  | infinite _ => 0

/-- A count of nanoseconds in seconds: the whole seconds plus the remaining nanoseconds times the
double nearest to a billionth. -/
def ofNanoseconds (ns : Int) : Double :=
  let seconds := ofInt (ns.fdiv 1000000000)
  let rest := mulUnits (ofRatio 1 1000000000).units (ofInt (ns.fmod 1000000000)).units
  addUnits seconds.units rest.units

/-- Whether one number is less than another. -/
def lt : Double → Double → Bool
  | finite a, finite b => a < b
  | infinite negative, finite _ => negative
  | finite _, infinite negative => !negative
  | infinite a, infinite b => a && !b

/-- Comparison of two numbers. -/
def order (a b : Double) : Ordering :=
  if lt a b then .lt else if lt b a then .gt else .eq

/-- Whether a number equals an integer exactly. -/
def isInt (a : Double) (n : Int) : Bool :=
  match a with
  | finite u => u == n * (1 <<< places : Nat)
  | infinite _ => false

/-- Whether a number has no fractional part. -/
def isWhole : Double → Bool
  | finite u => u % (1 <<< places : Nat) == 0
  | infinite _ => false

/-- The integer part of a number, towards the lower one. -/
def floor : Double → Int
  | finite u => u.fdiv (1 <<< places : Nat)
  | infinite _ => 0

/-- The nearest double to `digits` times ten to the power `exponent`.  Numerals far outside the
range are settled by their number of digits alone. -/
def ofDecimal (negative : Bool) (digits : Nat) (exponent : Int) : Double :=
  let size := (Nat.toDigits 10 digits).length + exponent
  if digits = 0 ∨ size < -400 then finite 0
  else if 400 < size then infinite negative
  else
    let n : Int := if negative then -digits else digits
    if 0 ≤ exponent then ofRatio (n * Nat.pow 10 exponent.toNat) 1
    else ofRatio n (Nat.pow 10 (-exponent).toNat)

end Double

end PackageCatalog
