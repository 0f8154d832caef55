import PackageCatalog.Datum
import PackageCatalog.Number.Calendar
import PackageCatalog.Number.Integer
import PackageCatalog.Text.Lower
import PackageCatalog.Yaml.Fault
import PackageCatalog.Yaml.Plain

/-!
# Values of scalars

What a scalar of a kind stands for.  A text that cannot be read as its kind is a fault of its
own, which names the text as far as it was taken apart.

## Main definitions

* `Yaml.Atom` - the values of scalars.
* `Yaml.Atom.ofName` - the value of a text of a kind.
* `Yaml.Atom.same` - whether two values are the same key.
* `Yaml.Atom.toDatum` - the value as untyped data.
-/

namespace PackageCatalog.Yaml

/-- The value of a scalar. -/
inductive Atom
  | null
  | bool (b : Bool)
  | integer (n : Int)
  | real (d : Double)
  /-- What stands for no number; `word` says that it is the mark for it. -/
  | notANumber (word : Bool)
  | moment (m : Moment)
  | octets (b : Bytes)
  | text (n : NativeName)
  deriving DecidableEq, Repr

/-! ### Integers -/

/-- The integer that digits write in a base. -/
def integerIn (base : Nat) (n : NativeName) : Except Fault Int :=
  match Integer.read base (n.masked '?') with
  | .ok i => .ok i
  | .error .notInteger => .error (.notInteger base n)
  | .error (.tooManyDigits count) => .error (.tooManyDigits count)

/-- The integers of several texts, each worth sixty of the next, added to `sum` of that worth. -/
def sixtiethsInteger : Int → List NativeName → Except Fault Int
  | sum, [] => .ok sum
  | sum, n :: ns =>
    match integerIn 10 n with
    | .error e => .error e
    | .ok i => sixtiethsInteger (sum * 60 + i) ns

/-- A text without its underscores. -/
def withoutBars (n : NativeName) : NativeName := n.filter (· != .char '_')

/-- Whether a text starts with a minus sign, and the text without a sign at its start. -/
def spanSign : NativeName → Bool × NativeName
  | .char '-' :: n => (true, n)
  | .char '+' :: n => (false, n)
  | n => (false, n)

/-- An integer, underscores aside: in base two or sixteen behind their marks, in base eight
behind a zero, in base sixty with colons, and else in base ten. -/
def integerOf (n : NativeName) : Except Fault Int :=
  let (negative, n) := spanSign (withoutBars n)
  let magnitude : Except Fault Int :=
    match n with
    | [] => .error .noNumber
    | [.char '0'] => .ok 0
    | .char '0' :: .char 'b' :: n => integerIn 2 n
    | .char '0' :: .char 'x' :: n => integerIn 16 n
    | .char '0' :: n => integerIn 8 (.char '0' :: n)
    | n =>
      if n.contains (.char ':') then sixtiethsInteger 0 (Text.pieces (.char ':') n)
      else integerIn 10 n
  magnitude.map (fun i => if negative then -i else i)

/-! ### Numbers -/

/-- The number that a text is. -/
def numberIn (n : NativeName) : Except Fault Atom :=
  let t := Text.trimBy Integer.isSpace (Integer.plain (n.masked '?'))
  match Decimal.read? t with
  | some d => .ok (.real d.toDouble)
  | none =>
    let (negative, word) := Text.spanSign t
    if word == "inf".toList || word == "infinity".toList then .ok (.real (.infinite negative))
    else if word == "nan".toList then .ok (.notANumber false)
    else .error (.notNumber n)

/-- The numbers of several texts. -/
def numbersIn : List NativeName → Except Fault (List Atom)
  | [] => .ok []
  | n :: ns =>
    match numberIn n with
    | .error e => .error e
    | .ok a =>
      match numbersIn ns with
      | .error e => .error e
      | .ok rest => .ok (a :: rest)

/-- A number with `worth` times another added to it; what is not finite stays so. -/
def addPlaced (sum : Atom) (worth : Double) (a : Atom) : Atom :=
  match sum, worth, a with
  | .real (.finite s), .finite w, .real (.finite u) =>
    match Double.mulUnits u w with
    | .finite p => .real (Double.addUnits s p)
    | d => .real d
  | .real (.finite _), _, a => a
  | sum, _, _ => sum

/-- Numbers from the last place on, where the first one is worth sixty to the power `place`,
added to `sum`.  The worth of each place must itself be a double. -/
def sixtieths : Nat → Atom → List Atom → Except Fault Atom
  | _, sum, [] => .ok sum
  | place, sum, a :: rest =>
    match Double.ofInt ((60 ^ place : Nat) : Int) with
    | .infinite _ => .error .hugePlace
    | worth => sixtieths (place + 1) (addPlaced sum worth a) rest

/-- A text in lower case; a surrogate ends a word. -/
def lowerOnto : Text → NativeName → NativeName
  | done, [] => NativeName.ofText (Text.lower done.reverse)
  | done, .char c :: n => lowerOnto (c :: done) n
  | done, .surrogate s :: n =>
    NativeName.ofText (Text.lower done.reverse) ++ .surrogate s :: lowerOnto [] n

/-- A text in lower case. -/
def lowered (n : NativeName) : NativeName := lowerOnto [] n

/-- The negative of a number. -/
def Atom.negated : Atom → Atom
  | .real (.finite u) => .real (.finite (-u))
  | .real (.infinite negative) => .real (.infinite !negative)
  | a => a

/-- A number, underscores and case aside. -/
def numberOf (n : NativeName) : Except Fault Atom :=
  match lowered (withoutBars n) with
  | [] => .error .noNumber
  | n =>
    let (negative, n) := spanSign n
    let magnitude : Except Fault Atom :=
      if n = NativeName.ofText ".inf".toList then .ok (.real (.infinite false))
      else if n = NativeName.ofText ".nan".toList then .ok (.notANumber true)
      else if n.contains (.char ':') then
        match numbersIn (Text.pieces (.char ':') n) with
        | .error e => .error e
        | .ok places => sixtieths 0 (.real (.finite 0)) places.reverse
      else numberIn n
    magnitude.map (fun a => if negative then a.negated else a)

/-! ### Truth values -/

/-- A truth value, case aside. -/
def truthOf (n : NativeName) : Except Fault Bool :=
  let word := lowered n
  let is := fun (ws : List String) => ws.any (fun w => NativeName.ofText w.toList == word)
  if is ["yes", "true", "on"] then .ok true
  else if is ["no", "false", "off"] then .ok false
  else .error (.notTruth word)

/-! ### Dates -/

/-- The number of days of a month. -/
def monthLength (year month : Nat) : Nat :=
  let leap := year % 4 == 0 && (year % 100 != 0 || year % 400 == 0)
  if month = 2 then (if leap then 29 else 28)
  else if month = 4 ∨ month = 6 ∨ month = 9 ∨ month = 11 then 30 else 31

/-- What is out of its range in a date, if anything is. -/
def Moment.fault? (m : Moment) : Option CalendarFault :=
  let day :=
    if m.year = 0 then some .year
    else if m.month = 0 ∨ 12 < m.month then some .month
    else if m.day = 0 ∨ monthLength m.year m.month < m.day then some .day
    else none
  match m.time with
  | none => day
  | some (hour, minute, second) =>
    let zone := m.zone.bind (fun z =>
      if 1440 ≤ z.natAbs then
        some (CalendarFault.zone ((z * 60).fdiv 86400) ((z * 60).fmod 86400))
      else none)
    let time :=
      if 23 < hour then some .hour
      else if 59 < minute then some .minute
      else if 59 < second then some .second
      else none
    zone.or (day.or time)

/-- A date. -/
def momentOf (n : NativeName) : Except Fault Moment :=
  match n.toText?.bind Moment.read? with
  | none => .error .notMoment
  | some m =>
    match m.fault? with
    | some fault => .error (.calendar fault)
    | none => .ok m

/-- The millionths of a second from the start of the calendar to a date, by universal time when
its zone is known. -/
def Moment.ticks (m : Moment) : Int :=
  let (hour, minute, second) := m.time.getD (0, 0, 0)
  let minutes : Int := (daysBefore m.year m.month m.day * 24 + hour) * 60 + minute
  ((minutes - m.zone.getD 0) * 60 + second) * 1000000 + m.micros

/-- Whether two dates are the same: both with a time of day or both without, both with a zone or
both without, and at the same time. -/
def Moment.same (a b : Moment) : Bool :=
  a.time.isSome == b.time.isSome && a.zone.isSome == b.zone.isSome && a.ticks == b.ticks

/-! ### Octets -/

/-- The six bits of a character of base 64. -/
def sixBits? (c : Char) : Option Nat :=
  if 'A' ≤ c ∧ c ≤ 'Z' then some (c.toNat - 65)
  else if 'a' ≤ c ∧ c ≤ 'z' then some (c.toNat - 71)
  else if '0' ≤ c ∧ c ≤ '9' then some (c.toNat + 4)
  else if c = '+' then some 62
  else if c = '/' then some 63
  else none

/-- The octets of base 64 behind `done` (latest first), with the six-bit groups of the current
quadruple and the padding seen in it.  Other characters are passed over; a complete padding ends
the octets. -/
def octetsOnto : Text → List Nat → Nat → Bytes → Option Bytes
  | [], [], _, done => some done.reverse
  | [], _ :: _, _, _ => none
  | c :: t, group, padding, done =>
    if c = '=' then
      match group with
      | [b, a] =>
        if padding = 1 then some (UInt8.ofNat (a * 4 + b / 16) :: done).reverse
        else octetsOnto t group 1 done
      | [d, b, a] =>
        some (UInt8.ofNat (b % 16 * 16 + d / 4) :: UInt8.ofNat (a * 4 + b / 16) :: done).reverse
      | _ => octetsOnto t group padding done
    else match sixBits? c with
      | none => octetsOnto t group padding done
      | some n =>
        match group with
        | [d, b, a] =>
          octetsOnto t [] 0 (UInt8.ofNat (d % 4 * 64 + n) :: UInt8.ofNat (b % 16 * 16 + d / 4) ::
            UInt8.ofNat (a * 4 + b / 16) :: done)
        | _ => octetsOnto t (n :: group) 0 done

/-- Octets in base 64. -/
def octetsOf (n : NativeName) : Except Fault Bytes :=
  let t := n.masked '\uFFFD'
  if t.all (·.toNat < 0x80) then
    match octetsOnto t [] 0 [] with
    | some octets => .ok octets
    | none => .error .malformed
  else .error .malformed

/-! ### Scalars -/

namespace Atom

/-- The value of a text of a kind.  Kinds of collections and marks have none. -/
def ofName (kind : Kind) (n : NativeName) : Except Fault Atom :=
  match kind with
  | .null => .ok .null
  | .bool => (truthOf n).map .bool
  | .integer => (integerOf n).map .integer
  | .number => numberOf n
  | .moment => (momentOf n).map .moment
  | .binary => (octetsOf n).map .octets
  | .text => .ok (.text n)
  | _ => .error .malformed

/-- The units of a finite number; truth values count as one and zero. -/
def units? : Atom → Option Int
  | bool b => some (if b then 1 <<< Double.places else 0 : Nat)
  | integer n => some (n * (1 <<< Double.places : Nat))
  | real (.finite u) => some u
  | _ => none

/-- Whether two values are the same key: numbers by value whatever their kind, dates by time, and
all else by being equal.  What is no number is the same only as its mark. -/
def same (a b : Atom) : Bool :=
  match a.units?, b.units? with
  | some x, some y => x == y
  | none, none =>
    match a, b with
    | moment m, moment m' => m.same m'
    | notANumber word, notANumber word' => word && word'
    | a, b => a == b
  | _, _ => false

/-- The value as untyped data; what is no number stands as an infinity. -/
def toDatum : Atom → Datum
  | null => .null
  | bool b => .bool b
  | integer n => .integer n
  | real d => .real d
  | notANumber _ => .real (.infinite false)
  | moment _ => .moment
  | octets b => .octets b
  | text n =>
    match n.toText? with
    | some t => .text t
    | none => .brokenText n

end Atom

end PackageCatalog.Yaml
