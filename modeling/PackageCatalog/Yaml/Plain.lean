import PackageCatalog.NativeName

/-!
# What plain texts stand for

A plain text that looks like a truth value, a number, a date or one of a few marks stands for
that; any other is just a text.

## Main definitions

* `Yaml.Kind` - the kinds of values.
* `Yaml.Moment`, `Yaml.Moment.read?` - a date, with or without a time of day.
* `Yaml.Kind.ofPlain` - the kind that a plain text stands for.
-/

namespace PackageCatalog.Yaml

/-- The kinds of values. -/
inductive Kind
  | null
  | bool
  | integer
  | number
  | moment
  /-- The mark of a key whose values are merged. -/
  | merge
  /-- The mark of a default value. -/
  | default
  /-- A mark that starts other things. -/
  | mark
  | text
  | binary
  | list
  | mapping
  | set
  | ordered
  | pairs
  | unknown
  deriving DecidableEq, Repr

/-- A text without the line feed at its end, if there is one. -/
def dropFinalFeed (t : Text) : Text := if t.getLast? = some '\n' then t.dropLast else t

/-! ### Numbers -/

/-- A text without a sign at its start. -/
def dropSign : Text → Text
  | c :: t => if c = '-' ∨ c = '+' then t else c :: t
  | [] => []

/-- A decimal digit or an underscore. -/
def isDigitOrBar (c : Char) : Bool := Text.isDigit c || c == '_'

/-- A digit, and then digits and underscores. -/
def isDigits : Text → Bool
  | [] => false
  | c :: t => Text.isDigit c && t.all isDigitOrBar

/-- A digit other than zero, and then digits and underscores. -/
def isCounted (t : Text) : Bool := isDigits t && t.head? != some '0'

/-- A number of minutes or seconds: one digit, or two that are below sixty. -/
def isSixtieth : Text → Bool
  | [c] => Text.isDigit c
  | [c, d] => ('0' ≤ c && c ≤ '5') && Text.isDigit d
  | _ => false

/-- An integer in base two, eight, ten, sixteen or sixty. -/
def isInteger (t : Text) : Bool :=
  match dropSign t with
  | '0' :: 'b' :: t => !t.isEmpty && t.all (fun c => c == '0' || c == '1' || c == '_')
  | '0' :: 'x' :: t =>
    !t.isEmpty && t.all (fun c => isDigitOrBar c || ('a' ≤ c && c ≤ 'f') || ('A' ≤ c && c ≤ 'F'))
  | '0' :: t => t.all (fun c => ('0' ≤ c && c ≤ '7') || c == '_')
  | t =>
    match Text.pieces ':' t with
    | first :: rest => isCounted first && rest.all isSixtieth
    | [] => false

/-- An exponent with its sign, or nothing. -/
def isExponent : Text → Bool
  | [] => true
  | e :: s :: t =>
    (e == 'e' || e == 'E') && (s == '-' || s == '+') && !t.isEmpty && t.all Text.isDigit
  | _ => false

/-- Digits and underscores, and then an exponent. -/
def isFraction (t : Text) : Bool := isExponent (t.dropWhile isDigitOrBar)

/-- A number with a point, in base ten or sixty, or a word for what is no number. -/
def isNumber (t : Text) : Bool :=
  let words := [".inf", ".Inf", ".INF"].map String.toList
  match t with
  | '.' :: c :: t =>
    (Text.isDigit c && isFraction t) || words.contains ('.' :: c :: t) ||
      ([".nan", ".NaN", ".NAN"].map String.toList).contains ('.' :: c :: t)
  | t =>
    let t := dropSign t
    let whole := t.takeWhile (· != '.')
    words.contains t ||
      match t.dropWhile (· != '.') with
      | [] => false
      | _ :: fraction =>
        match Text.pieces ':' whole with
        | [first] => isDigits first && isFraction fraction
        | first :: rest =>
          isDigits first && rest.all isSixtieth && fraction.all isDigitOrBar
        | [] => false

/-! ### Dates -/

/-- A date, with or without a time of day. -/
structure Moment where
  year : Nat
  month : Nat
  day : Nat
  /-- Hour, minute and second. -/
  time : Option (Nat × Nat × Nat) := none
  /-- Millionths of a second. -/
  micros : Nat := 0
  /-- The distance from universal time in minutes. -/
  zone : Option Int := none
  deriving DecidableEq, Repr

/-- Between `least` and `most` digits, as many as there are. -/
def readDigits? (least most : Nat) (t : Text) : Option (Nat × Text) :=
  let digits := (t.take most).takeWhile Text.isDigit
  if digits.length < least then none
  else some (Text.digitsValue digits, t.drop digits.length)

/-- A given character. -/
def readChar? (c : Char) : Text → Option Text
  | d :: t => if c = d then some t else none
  | [] => none

/-- A blank of dates. -/
def isDateBlank (c : Char) : Bool := c == ' ' || c == '\t'

/-- A zone at the end of a date: nothing, a letter, or a distance. -/
def readZone? (t : Text) : Option (Option Int) :=
  if t.isEmpty then some none
  else
    match t.dropWhile isDateBlank with
    | ['Z'] => some (some 0)
    | s :: t =>
      if s = '-' ∨ s = '+' then do
        let (hours, t) ← readDigits? 1 2 t
        let (minutes, t) ← match t with
          | [] => some (0, [])
          | c :: t => if c = ':' then readDigits? 2 2 t else none
        if t.isEmpty then
          let n : Int := hours * 60 + minutes
          some (some (if s = '-' then -n else n))
        else none
      else none
    | [] => none

/-- The millionths of a second that the digits after a point write; further digits are cut. -/
def microsOf (digits : Text) : Nat :=
  let digits := digits.take 6
  Text.digitsValue (digits ++ List.replicate (6 - digits.length) '0')

/-- A time of day with its millionths and its zone. -/
def readTime? (t : Text) : Option ((Nat × Nat × Nat) × Nat × Option Int) := do
  let (hour, t) ← readDigits? 1 2 t
  let t ← readChar? ':' t
  let (minute, t) ← readDigits? 2 2 t
  let t ← readChar? ':' t
  let (second, t) ← readDigits? 2 2 t
  let (digits, t) := match t with
    | '.' :: t => (t.takeWhile Text.isDigit, t.dropWhile Text.isDigit)
    | t => ([], t)
  let zone ← readZone? t
  return ((hour, minute, second), microsOf digits, zone)

/-- The date that a text without a line feed at its end writes. -/
def Moment.readWord? (t : Text) : Option Moment := do
  let (year, t) ← readDigits? 4 4 t
  let t ← readChar? '-' t
  let (month, t) ← readDigits? 1 2 t
  let t ← readChar? '-' t
  let (day, t) ← readDigits? 1 2 t
  match t with
  | [] => return { year, month, day }
  | c :: t =>
    if c = 'T' ∨ c = 't' then
      let (time, micros, zone) ← readTime? t
      return { year, month, day, time := some time, micros, zone }
    else if isDateBlank c then
      let (time, micros, zone) ← readTime? (t.dropWhile isDateBlank)
      return { year, month, day, time := some time, micros, zone }
    else none

/-- The date that a text writes, the line feed at its end aside. -/
def Moment.read? (t : Text) : Option Moment := Moment.readWord? (dropFinalFeed t)

/-- Whether a plain text is a date.  One without a time of day has two digits for month and day
each. -/
def isMoment (t : Text) : Bool :=
  match Moment.readWord? t with
  | none => false
  | some m => m.time.isSome || t.length == 10

/-! ### The kind of a plain text -/

/-- The words for truth values. -/
def truthWords : List Text :=
  ["yes", "Yes", "YES", "no", "No", "NO", "true", "True", "TRUE", "false", "False", "FALSE",
    "on", "On", "ON", "off", "Off", "OFF"].map String.toList

/-- The words for nothing. -/
def nullWords : List Text := ["", "~", "null", "Null", "NULL"].map String.toList

/-- The kind of value that a text without a line feed at its end stands for. -/
def Kind.ofWord (t : Text) : Kind :=
  if truthWords.contains t then bool
  else if isNumber t then number
  else if isInteger t then integer
  else if t == "<<".toList then merge
  else if nullWords.contains t then null
  else if isMoment t then moment
  else if t == ['='] then default
  else if t == ['!'] || t == ['&'] || t == ['*'] then mark
  else text

/-- The kind of value that a plain text stands for.  A line feed at its end is passed over, but a
lone line feed is a text. -/
def Kind.ofPlain (t : Text) : Kind := if t = ['\n'] then text else ofWord (dropFinalFeed t)

/-- The kind of value that a scalar without a tag stands for; one with a surrogate is a text. -/
def Kind.ofName (n : NativeName) : Kind := (n.toText?.map ofPlain).getD text

end PackageCatalog.Yaml
