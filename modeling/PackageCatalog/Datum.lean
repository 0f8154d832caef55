import PackageCatalog.Number.Decimal
import PackageCatalog.Text.Quoted

/-!
# Untyped data

The values that come from outside before anything is known of their shape: requests, and the
configuration file.

## Main definitions

* `Datum` - such a value.
* `Datum.shown` - a value as messages show it.
* `Datum.lookup?` - the value of a key of a record.
-/

namespace PackageCatalog

/-- A value of unknown shape. -/
inductive Datum
  | null
  | bool (b : Bool)
  | integer (n : Int)
  | real (d : Double)
  | text (t : Text)
  /-- A text that holds a surrogate. -/
  | brokenText (n : NativeName)
  /-- A text given as octets. -/
  | octets (b : Bytes)
  /-- A date or a time. -/
  | moment
  | list (items : List Datum)
  | set (items : List Datum)
  /-- A record; keys that are not texts are left out. -/
  | record (entries : List (Text × Datum))
  deriving Inhabited

namespace Datum

mutual

/-- A value as messages show it. -/
def shown : Datum → Text
  | null => "None".toList
  | bool b => if b then "True".toList else "False".toList
  | integer n => Text.ofInt n
  | real d => d.text
  | text t => Quoted.ofText t
  | brokenText n => Quoted.ofName n
  | octets _ => "b''".toList
  | moment => "datetime".toList
  | list items => '[' :: (shownItems items ++ [']'])
  | set items => '\x7b' :: (shownItems items ++ ['\x7d'])
  | record entries => '\x7b' :: (shownEntries entries ++ ['\x7d'])

/-- Values with commas between them. -/
def shownItems : List Datum → Text
  | [] => []
  | [d] => shown d
  | d :: e :: rest => shown d ++ ", ".toList ++ shownItems (e :: rest)

/-- Keys and values with commas between them. -/
def shownEntries : List (Text × Datum) → Text
  | [] => []
  | [(k, d)] => Quoted.ofText k ++ ": ".toList ++ shown d
  | (k, d) :: e :: rest => Quoted.ofText k ++ ": ".toList ++ shown d ++ ", ".toList ++
      shownEntries (e :: rest)

end

/-- The value of a key; the last one counts when a key is given twice. -/
def lookup? (key : Text) (entries : List (Text × Datum)) : Option Datum :=
  (entries.reverse.find? (·.1 == key)).map Prod.snd

end Datum

end PackageCatalog
