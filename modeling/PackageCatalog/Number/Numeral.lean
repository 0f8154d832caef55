import PackageCatalog.Number.Integer
import PackageCatalog.Text.Lines

/-!
# Integers in requests

A request may write an integer as a text.  Blanks around it, a plus sign, leading zeros, single
underscores and a fraction of zeros are cleaned away, and what is left must be a plain numeral.
The zeros are passed over from the left without a look at what they belong to: behind a first zero
any number of zeros and underscores goes, and the number starts with the next digit or even with
a minus sign.

## Main definitions

* `Numeral.value?` - the integer that a plain numeral writes.
* `Numeral.clean` - a text without what is cleaned away.
* `Numeral.read` - the integer that a text writes.
-/

namespace PackageCatalog.Numeral

/-- A decimal digit other than zero. -/
def isCounting (c : Char) : Bool := '1' ≤ c && c ≤ '9'

/-- The integer that a plain numeral writes: an optional minus sign, and digits that start with a
zero only when it stands alone. -/
def value? (t : Text) : Option Int :=
  let (negative, digits) := match t with
    | '-' :: t => (true, t)
    | t => (false, t)
  if digits = ['0'] ∨ (digits.head?.any isCounting ∧ digits.all Text.isDigit) then
    let n : Int := Text.digitsValue digits
    some (if negative then -n else n)
  else none

/-- Whether a numeral goes on for more digits than are read, whatever comes after them. -/
def isTooLong (t : Text) : Bool :=
  let digits := match t with
    | '-' :: t => t
    | t => t
  digits.head?.any isCounting &&
    decide (Integer.digitLimit < (digits.takeWhile Text.isDigit).length)

/-- The rest of a text behind a zero that goes on from `last`, with the zeros and underscores at
its start passed over.  The last of them stays where nothing or a point follows. -/
def afterZero (last : Char) : Text → Option Text
  | [] => some [last]
  | c :: t =>
    if c = '0' ∨ c = '_' then afterZero c t
    else if isCounting c || c == '-' then some (c :: t)
    else if c = '.' then some (last :: c :: t)
    else none

/-- A text without leading zeros. -/
def withoutZeros : Text → Option Text
  | [] => none
  | c :: t =>
    if c = '0' then afterZero c t
    else if isCounting c || c == '-' then some (c :: t)
    else none

/-- A text without a fraction of zeros; another fraction is refused. -/
def withoutFraction (t : Text) : Option Text :=
  match t.dropWhile (· != '.') with
  | [] => some t
  | _ :: zeros =>
    if !zeros.isEmpty && zeros.all (· == '0') then some (t.takeWhile (· != '.')) else none

/-- A text without its underscores, if each stands alone and none at an end. -/
def withoutBars (t : Text) : Text :=
  if t.head? == some '_' || t.getLast? == some '_' || Text.contains t ['_', '_'] then t
  else t.filter (· != '_')

/-- White space around a numeral; separators of files and records are none. -/
def isSpace (c : Char) : Bool := Text.isBlank c && !('\x1c' ≤ c && c ≤ '\x1f')

/-- A text without what is cleaned away. -/
def clean (t : Text) : Option Text := do
  let (negative, t) ← match Text.trimBy isSpace t with
    | '+' :: '-' :: _ => none
    | '+' :: t => some (false, t)
    | '-' :: t => some (true, t)
    | t => some (false, t)
  let t ← withoutFraction (← withoutZeros t)
  return (if negative then ['-'] else []) ++ withoutBars t

/-- Why a text is no integer. -/
inductive Refusal
  | notInteger
  | tooLong
  deriving DecidableEq, Repr

/-- The integer that a text writes. -/
def read (t : Text) : Except Refusal Int :=
  if isTooLong t then .error .tooLong
  else match clean t with
    | none => .error .notInteger
    | some t =>
      if isTooLong t then .error .tooLong
      else match value? t with
        | some n => .ok n
        | none => .error .notInteger

end PackageCatalog.Numeral
