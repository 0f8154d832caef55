import PackageCatalog.Text.Quoted

/-!
# Faults of documents

Why a text is no document, or why one of its scalars has no value.

## Main definitions

* `Yaml.CalendarFault` - a date or time that does not exist.
* `Yaml.Fault`, `Yaml.Fault.message` - the faults, and the text of those that have one.
-/

namespace PackageCatalog.Yaml

/-- A part of a date or time that is out of its range. -/
inductive CalendarFault
  | year
  | month
  | day
  | hour
  | minute
  | second
  /-- A distance of a day or more from universal time, in whole days and seconds. -/
  | zone (days seconds : Int)
  deriving DecidableEq, Repr

/-- The text of such a fault. -/
def CalendarFault.message : CalendarFault → Text
  | year => "year 0 is out of range".toList
  | month => "month must be in 1..12".toList
  | day => "day is out of range for month".toList
  | hour => "hour must be in 0..23".toList
  | minute => "minute must be in 0..59".toList
  | second => "second must be in 0..59".toList
  | zone days seconds =>
    "offset must be a timedelta strictly between -timedelta(hours=24) and ".toList ++
      "timedelta(hours=24), not datetime.timedelta(days=".toList ++ Text.ofInt days ++
      (if seconds = 0 then [] else ", seconds=".toList ++ Text.ofInt seconds) ++ ").".toList

/-- Why a text cannot be read. -/
inductive Fault
  /-- It breaks the rules of the format. -/
  | malformed
  /-- Its octets are not UTF-8. -/
  | undecodable
  /-- An escape for a code point above the last one. -/
  | noCharacter
  /-- An escape for a number that is not even a code point. -/
  | hugeCharacter
  /-- Text in the place of an integer, in a base. -/
  | notInteger (base : Nat) (t : NativeName)
  /-- An integer with too many digits. -/
  | tooManyDigits (count : Nat)
  /-- Text in the place of a number. -/
  | notNumber (t : NativeName)
  /-- A number in base sixty with a place whose worth is no double. -/
  | hugePlace
  /-- Text in the place of a truth value. -/
  | notTruth (t : NativeName)
  /-- Nothing in the place of a number. -/
  | noNumber
  /-- Text in the place of a date. -/
  | notMoment
  /-- Entries in the place of a date. -/
  | noMoment
  | calendar (fault : CalendarFault)
  deriving DecidableEq, Repr

/-- The most characters of a text that is quoted because it is no integer. -/
def quoteLimit : Nat := 200

/-- The text of a fault; a malformed or undecodable document has none. -/
def Fault.message : Fault → Text
  | malformed => []
  | undecodable => []
  | noCharacter => "chr() arg not in range(0x110000)".toList
  | hugeCharacter => "Python int too large to convert to C int".toList
  | notInteger base t =>
    "invalid literal for int() with base ".toList ++ Text.ofNat base ++ ": ".toList ++
      (Quoted.ofName t).take quoteLimit
  | tooManyDigits count =>
    "Exceeds the limit (4300 digits) for integer string conversion: value has ".toList ++
      Text.ofNat count ++
      " digits; use sys.set_int_max_str_digits() to increase the limit".toList
  | notNumber t => "could not convert string to float: ".toList ++ Quoted.ofName t
  | hugePlace => "int too large to convert to float".toList
  | notTruth t => Quoted.ofName t
  | noNumber => "string index out of range".toList
  | notMoment => "'NoneType' object has no attribute 'groupdict'".toList
  | noMoment => "expected string or bytes-like object, got 'list'".toList
  | calendar fault => fault.message

end PackageCatalog.Yaml
