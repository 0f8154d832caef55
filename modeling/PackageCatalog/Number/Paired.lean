import PackageCatalog.Number.Decimal

/-!
# Scaling by powers of ten

The store converts between numbers and numerals with pairs of doubles: a value is the sum of two,
and a step multiplies it by a power of ten that is itself given as such a sum.  A pair carries
about a hundred bits, so that the last digit can differ from the one that exact arithmetic gives.

## Main definitions

* `Paired`, `Paired.times` - pairs of doubles, and their product with a factor.
* `Paired.scale` - a pair times a power of ten.
* `Decimal.Numeral.stored` - the double that the store reads from a numeral.
* `Double.columnText` - the numeral that the store writes for a double.
-/

namespace PackageCatalog

/-- A number as the sum of two finite doubles, the second one small, both in units. -/
structure Paired where
  high : Int
  low : Int
  deriving DecidableEq, Repr

namespace Paired

/-- A number without the lower half of its significant bits. -/
def coarse (u : Int) : Int :=
  let spare := u.natAbs.log2 - 52 + 26
  let kept : Nat := (u.natAbs >>> spare) <<< spare
  if u < 0 then -kept else kept

/-- The rounded sum of two numbers. -/
def plus (a b : Int) : Option Int := Double.roundUnits? 0 (a + b)

/-- The rounded product of two numbers. -/
def by_ (a b : Int) : Option Int := Double.roundUnits? Double.places (a * b)

/-- The product of a pair with a factor, which is a pair too; none when it is too large. -/
def times (x y : Paired) : Option Paired := do
  let hx := coarse x.high
  let tx := x.high - hx
  let hy := coarse y.high
  let ty := y.high - hy
  let p ← by_ hx hy
  let q ← plus (← by_ hx ty) (← by_ tx hy)
  let c ← plus p q
  let rest ← plus (← plus (← plus p (-c)) q) (← by_ tx ty)
  let rest ← plus (← plus (← by_ x.high y.low) (← by_ x.low y.high)) rest
  let high ← plus c rest
  let low ← plus (← plus c (-high)) rest
  return ⟨high, low⟩

/-- A pair multiplied by a factor a number of times. -/
def repeated (factor : Paired) : Nat → Paired → Option Paired
  | 0, x => some x
  | n + 1, x => (x.times factor).bind (repeated factor n)

/-- The double nearest to a numeral, in units. -/
def nearest (negative : Bool) (digits : Nat) (exponent : Int) : Int :=
  (Double.ofDecimal negative digits exponent).units

/-- A power of ten as a pair; only the powers 1, 10 and 100 and their opposites are used. -/
def power (e : Int) : Paired :=
  let rest :=
    if e = 100 then nearest true 15902891109759918046 64
    else if e = -100 then nearest true 199918998026028836196 (-137)
    else if e = -10 then nearest true 36432197315497741579 (-46)
    else if e = -1 then nearest true 55511151231257827021 (-37)
    else 0
  ⟨nearest false 1 e, rest⟩

/-- A pair times ten to the power `e`, by hundreds, tens and single powers. -/
def scale (e : Int) (x : Paired) : Option Paired := do
  let sign : Int := if e < 0 then -1 else 1
  let n := e.natAbs
  let x ← repeated (power (sign * 100)) (n / 100) x
  let x ← repeated (power (sign * 10)) (n % 100 / 10) x
  repeated (power sign) (n % 10) x

/-- A pair multiplied by a factor as long as its first part satisfies `p`, and the number of
times. -/
def while_ (p : Int → Bool) (factor : Paired) : Nat → Nat → Paired → Option (Nat × Paired)
  | 0, n, x => some (n, x)
  | fuel + 1, n, x =>
    if p x.high then (x.times factor).bind (while_ p factor fuel (n + 1)) else some (n, x)

end Paired

/-! ### Reading -/

/-- The bound from which on no further digit of a numeral counts. -/
def digitBound : Nat := 1844674407370955160

/-- The digits that count behind the number `n`, and how many do not. -/
def countedDigits : Nat → Text → Nat × Nat
  | n, [] => (n, 0)
  | n, c :: t =>
    if digitBound ≤ n then (n, t.length + 1)
    else countedDigits (n * 10 + (Text.digitValue? c).getD 0) t

/-- A number times ten to the power `e` with as much of the power in the number as fits 64 bits,
or as few zeros at its end as that takes. -/
def balance : Nat → Nat → Int → Nat × Int
  | 0, n, e => (n, e)
  | fuel + 1, n, e =>
    if 0 < e ∧ n < 1844674407370954956 then balance fuel (n * 10) (e - 1)
    else if e < 0 ∧ n % 10 = 0 then balance fuel (n / 10) (e + 1)
    else (n, e)

/-- A number below 2 to the power 64 as a pair.  The largest ones have no second part. -/
def Paired.ofNat (n : Nat) : Paired :=
  let high := (Double.ofInt n).units
  let whole := high / (1 <<< Double.places : Nat)
  if 18446744073709549568 < whole then ⟨high, 0⟩ else ⟨high, (Double.ofInt (n - whole)).units⟩

/-- The double that the store reads from a numeral. -/
def Decimal.Numeral.stored (n : Decimal.Numeral) : Double :=
  let (digits, dropped) := countedDigits 0 (Text.ofNat n.value.digits)
  let exponent := n.value.exponent + dropped
  if digits = 0 ∨ exponent < -400 then .finite 0
  else if 400 < exponent then .infinite n.negative
  else
    let (digits, exponent) := balance exponent.natAbs digits exponent
    let sum := do
      let x ← (Paired.ofNat digits).scale exponent
      Paired.plus x.high x.low
    match sum with
    | some u => .finite (if n.negative then -u else u)
    | none => .infinite n.negative

/-! ### Writing -/

/-- A positive number as an integer of eighteen or nineteen digits times a power of ten. -/
def Paired.decode (units : Nat) : Option Decimal :=
  let above := fun e (u : Int) => decide (Paired.nearest false 9223372036854774784 e < u)
  let below := fun (digits : Nat) e (u : Int) => decide (u < Paired.nearest false digits e)
  let go := fun p e (x : Option (Int × Paired)) => x.bind (fun (s, x) =>
    (Paired.while_ p (Paired.power e) 400 0 x).map (fun (n, x) => (s - e * n, x)))
  let start : Option (Int × Paired) := some (0, ⟨units, 0⟩)
  let scaled :=
    if above 0 units then
      go (above 0) (-1) (go (above 10) (-10) (go (above 100) (-100) start))
    else
      go (below 922337203685477478 0) 1
        (go (below 9223372036854774784 (-11)) 10
          (go (below 9223372036854774784 (-101)) 100 start))
  scaled.map (fun (e, x) =>
    let whole := fun (u : Int) => u.tdiv (1 <<< Double.places : Nat)
    ⟨(whole x.high + whole x.low).toNat, e⟩)

/-- A decimal cut to a number of digits, a half going up. -/
def Decimal.cut (count : Nat) (d : Decimal) : Decimal :=
  let spare := (Text.ofNat d.digits).length - count
  let unit := Nat.pow 10 spare
  ⟨(2 * d.digits + unit) / (2 * unit), d.exponent + spare⟩

/-- The fifteen significant digits that the store writes for a positive number. -/
def storedDigits (units : Nat) : Decimal :=
  ((Paired.decode units).map (Decimal.cut 15)).getD ⟨0, 0⟩

/-- A number as it is kept in a text column. -/
def Double.columnText : Double → Text := written storedDigits columnStyle ['I', 'n', 'f']

end PackageCatalog
