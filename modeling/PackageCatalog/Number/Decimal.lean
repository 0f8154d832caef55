import PackageCatalog.Number.Double

/-!
# Decimal numerals

Writing a double in decimal, with the fewest digits that read back or with one decimal place; and
reading a decimal numeral.

## Main definitions

* `Decimal` - a count of digits with a power of ten.
* `Decimal.shortest` - the fewest digits that read back as the same double.
* `NumeralStyle`, `Decimal.write` - how a numeral is laid out.
* `Double.text` - a number with the fewest digits that read back.
* `Double.onePlace` - one decimal place, a half going to the even digit.
* `Decimal.read?` - the numeral that a text is.
-/

namespace PackageCatalog

/-- The number `digits` times ten to the power `exponent`. -/
structure Decimal where
  digits : Nat
  exponent : Int
  deriving DecidableEq, Repr

namespace Decimal

/-- The power of ten of the first significant digit of `units`, which is positive. -/
def leadingExponent (units : Nat) : Int :=
  let shifted := units * Nat.pow 10 330 / (1 <<< Double.places)
  ((Nat.toDigits 10 shifted).length : Int) - 331

/-- `units`, times four, as a multiple of ten to the power `exponent`, as numerator and
denominator. -/
def onGrid (exponent : Int) (units4 : Nat) : Nat × Nat :=
  let unit := 4 <<< Double.places
  if 0 ≤ exponent then (units4, unit * Nat.pow 10 exponent.toNat)
  else (units4 * Nat.pow 10 (-exponent).toNat, unit)

/-- The candidate with `count` significant digits that reads back as `units`, if there is one:
of the two neighbours on the grid the one that lies between the midpoints to the next doubles,
and the nearer one if both do. -/
def candidate? (units count : Nat) : Option Decimal :=
  let spare := units.log2 - 52
  let gap := 1 <<< spare
  let closed := (units >>> spare) % 2 == 0
  let lowGap := if units == 1 <<< (52 + spare) && 0 < spare then gap else 2 * gap
  let exponent := leadingExponent units - count + 1
  let value := onGrid exponent (4 * units)
  let low := onGrid exponent (4 * units - lowGap)
  let high := onGrid exponent (4 * units + 2 * gap)
  let d := value.2
  let below := value.1 / d
  let within := fun c =>
    if closed then decide (low.1 ≤ c * d) && decide (c * d ≤ high.1)
    else decide (low.1 < c * d) && decide (c * d < high.1)
  let rest := 2 * (value.1 % d)
  let upper := d < rest || (rest == d && below % 2 == 1)
  let choice :=
    match within below, within (below + 1) with
    | true, true => some (if upper then below + 1 else below)
    | true, false => some below
    | false, true => some (below + 1)
    | false, false => none
  choice.map (fun c => ⟨c, exponent⟩)

/-- The shortest numeral that reads back as `units`, which is positive; seventeen digits always
do. -/
def shortest (units : Nat) : Decimal :=
  ((List.range 17).findSome? (fun k => candidate? units (k + 1))).getD ⟨0, 0⟩

end Decimal

/-- How a numeral is laid out. -/
structure NumeralStyle where
  /-- The least power of ten of the first digit that is written positionally. -/
  leastPositional : Int
  /-- The greatest such power. -/
  greatestPositional : Int
  /-- Whether a lone first digit before an exponent is followed by `.0`. -/
  pointBeforeExponent : Bool

namespace Decimal

/-- The power of ten after an `e`, with its sign and at least two digits. -/
def writeExponent (e : Int) : Text :=
  let digits := Text.ofNat e.natAbs
  'e' :: (if e < 0 then '-' else '+') :: (if digits.length < 2 then '0' :: digits else digits)

/-- A numeral in a given layout.  Trailing zeros of the digits are not written, and a positional
numeral has at least one digit after its point. -/
def write (style : NumeralStyle) (d : Decimal) : Text :=
  let all := Text.ofNat d.digits
  let kept := (all.reverse.dropWhile (· == '0')).reverse
  let digits := if kept.isEmpty then ['0'] else kept
  let lead := d.exponent + all.length - 1
  if style.leastPositional ≤ lead ∧ lead ≤ style.greatestPositional then
    if lead < 0 then '0' :: '.' :: (List.replicate (-lead - 1).toNat '0' ++ digits)
    else
      let whole := lead.toNat + 1
      let front := digits.take whole ++ List.replicate (whole - digits.length) '0'
      let back := digits.drop whole
      front ++ '.' :: (if back.isEmpty then ['0'] else back)
  else
    let back := digits.tail
    let point := if back.isEmpty then (if style.pointBeforeExponent then ['.', '0'] else [])
      else '.' :: back
    digits.take 1 ++ point ++ writeExponent lead

end Decimal

namespace Double

/-- The layout of answers: positional from 0.0001 to below ten to the sixteenth. -/
def answerStyle : NumeralStyle := ⟨-4, 15, false⟩

/-- The layout of a number kept in a text column: positional below ten to the fifteenth, and
with a point in every case. -/
def columnStyle : NumeralStyle := ⟨-4, 14, true⟩

/-- A number in decimal, by its digits and layout. -/
def written (digits : Nat → Decimal) (style : NumeralStyle) (infinity : Text) : Double → Text
  | infinite negative => if negative then '-' :: infinity else infinity
  | finite u =>
    let magnitude := if u = 0 then Decimal.write style ⟨0, 0⟩
      else Decimal.write style (digits u.natAbs)
    if u < 0 then '-' :: magnitude else magnitude

/-- A number with the fewest digits that read back. -/
def text : Double → Text := written Decimal.shortest answerStyle ['i', 'n', 'f']

/-- `units` of a positive number with one decimal place, a half going to the even digit. -/
def onePlace (units : Nat) : Text :=
  let tenths := roundQuotient (units * 10) (1 <<< places)
  Text.ofNat (tenths / 10) ++ '.' :: Text.ofNat (tenths % 10)

end Double

namespace Decimal

/-- The decimal digits at the start of a text, and the rest. -/
def spanDigits (t : Text) : Text × Text := (t.takeWhile Text.isDigit, t.dropWhile Text.isDigit)

/-- The exponent that a text is: empty, or an `e` with an optional sign and digits. -/
def readExponent? : Text → Option Int
  | [] => some 0
  | c :: t =>
    if c = 'e' ∨ c = 'E' then
      let (negative, t) := Text.spanSign t
      let (digits, rest) := spanDigits t
      if digits.isEmpty || !rest.isEmpty then none
      else
        let n : Int := Text.digitsValue digits
        some (if negative then -n else n)
    else none

/-- A numeral: its sign, its digits and its power of ten, and whether it is a plain integer. -/
structure Numeral where
  negative : Bool
  value : Decimal
  isInteger : Bool

/-- The numeral that a text is: an optional sign, digits with at most one point and at least one
digit, and an optional exponent. -/
def read? (t : Text) : Option Numeral :=
  let (negative, t) := Text.spanSign t
  let (whole, t) := spanDigits t
  let (fraction, t, pointed) := match t with
    | '.' :: t => ((spanDigits t).1, (spanDigits t).2, true)
    | t => ([], t, false)
  if whole.isEmpty && fraction.isEmpty then none
  else
    (readExponent? t).map (fun e =>
      ⟨negative, ⟨Text.digitsValue (whole ++ fraction), e - fraction.length⟩,
        !pointed && t.isEmpty⟩)

/-- The double nearest to a numeral. -/
def Numeral.toDouble (n : Numeral) : Double :=
  Double.ofDecimal n.negative n.value.digits n.value.exponent

/-- The integer that a numeral without point and exponent writes. -/
def Numeral.toInt (n : Numeral) : Int :=
  if n.negative then -n.value.digits else n.value.digits

end Decimal

end PackageCatalog
