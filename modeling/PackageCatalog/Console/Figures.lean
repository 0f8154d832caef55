import PackageCatalog.Catalog

/-!
# Figures

The wording of sizes and of the outcome of an indexing run.

## Main definitions

* `sizeText` - a number of bytes in the largest fitting unit.
* `Tally.summary` - a tally as a line of styled text.
-/

namespace PackageCatalog

/-- A positive number of bytes in a unit of `unit` bytes, with one decimal place of the nearest
double to the quotient. -/
def sizeIn (unit : Nat) (name : String) (n : Nat) : Except Failure Text :=
  match Double.unitsOfRatio? n unit with
  | some units => .ok (Double.onePlace units ++ ' ' :: name.toList)
  | none => .error .sizeTooLarge

/-- A number of bytes in bytes, kilobytes or megabytes. -/
def sizeText (n : Int) : Except Failure Text :=
  if n < 1024 then .ok (Text.ofInt n ++ " B".toList)
  else if n < 1024 * 1024 then sizeIn 1024 "KB" n.toNat
  else sizeIn (1024 * 1024) "MB" n.toNat

/-- Text between the marks of a style. -/
def styled (style : String) (t : Text) : Text :=
  '[' :: style.toList ++ ']' :: (t ++ "[/".toList ++ style.toList ++ [']'])

/-- The four figures of an indexing run as a line of styled text. -/
def Tally.summary (t : Tally) : Text :=
  let figure := fun kind : String => Text.ofNat (t.get kind.toList)
  styled "green" (figure "newfile") ++ " new, ".toList ++
    styled "cyan" (figure "update") ++ " updated, ".toList ++
    styled "dim" (figure "unchanged" ++ " unchanged".toList) ++ ", ".toList ++
    styled "yellow" (figure "removed") ++ " removed".toList

end PackageCatalog
