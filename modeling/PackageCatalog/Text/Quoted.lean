import PackageCatalog.NativeName
import PackageCatalog.Text.Unprintable

/-!
# Quoted text

How messages show a text: between quotes, with the quote in use, the backslash and every
unprintable character escaped.

## Main definitions

* `Quoted.ofName`, `Quoted.ofText` - a native name and a text between quotes.
-/

namespace PackageCatalog.Quoted

/-- The quote to use: a double one for a text that holds single quotes and no double ones. -/
def mark (n : NativeName) : Char :=
  if n.contains (.char '\'') && !n.contains (.char '"') then '"' else '\''

/-- A code point as an escape of two, four or eight hexadecimal digits. -/
def escaped (code : Nat) : Text :=
  if code < 0x100 then '\\' :: 'x' :: Text.hex 2 code
  else if code < 0x10000 then '\\' :: 'u' :: Text.hex 4 code
  else '\\' :: 'U' :: Text.hex 8 code

/-- One unit between quotes `q`. -/
def unit (q : Char) : NameUnit → Text
  | .surrogate s => escaped (0xD800 + s.val)
  | .char c =>
    if c = q ∨ c = '\\' then ['\\', c]
    else if c = '\n' then ['\\', 'n']
    else if c = '\r' then ['\\', 'r']
    else if c = '\t' then ['\\', 't']
    else if Text.isPrintable c then [c]
    else escaped c.toNat

/-- A native name between quotes. -/
def ofName (n : NativeName) : Text :=
  mark n :: (n.flatMap (unit (mark n)) ++ [mark n])

/-- A text between quotes. -/
def ofText (t : Text) : Text := ofName (NativeName.ofText t)

end PackageCatalog.Quoted
