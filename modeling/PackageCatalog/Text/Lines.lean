import PackageCatalog.Text.Basic

/-!
# Lines and blanks

## Main definitions

* `Text.lines` - the lines of a text, each without its line break.
* `Text.isBlank`, `Text.trim` - white space, and a text without it at both ends.
-/

namespace PackageCatalog.Text

/-- The characters that end a line. -/
def isLineBreak (c : Char) : Bool :=
  let n := c.toNat
  (0x0A ≤ n && n ≤ 0x0D) || (0x1C ≤ n && n ≤ 0x1E) || n == 0x85 || n == 0x2028 || n == 0x2029

/-- The lines of a text that continues the line `current` (given from its end), behind the lines
`done` (latest first).  A carriage return and a line feed together are one break, and nothing
after the last break is no line. -/
def linesOnto : Text → Text → List Text → List Text
  | [], current, done =>
    if current.isEmpty then done.reverse else (current.reverse :: done).reverse
  | [c], current, done =>
    if isLineBreak c then (current.reverse :: done).reverse
    else ((c :: current).reverse :: done).reverse
  | c :: d :: t, current, done =>
    if c = '\r' ∧ d = '\n' then linesOnto t [] (current.reverse :: done)
    else if isLineBreak c then linesOnto (d :: t) [] (current.reverse :: done)
    else linesOnto (d :: t) (c :: current) done

/-- The lines of a text, without their line breaks. -/
def lines (t : Text) : List Text := linesOnto t [] []

/-- White space. -/
def isBlank (c : Char) : Bool :=
  let n := c.toNat
  (0x09 ≤ n && n ≤ 0x0D) || (0x1C ≤ n && n ≤ 0x20) || n == 0x85 || n == 0xA0 || n == 0x1680 ||
    (0x2000 ≤ n && n ≤ 0x200A) || n == 0x2028 || n == 0x2029 || n == 0x202F || n == 0x205F ||
    n == 0x3000

/-- A text without white space at its two ends. -/
def trim (t : Text) : Text := trimBy isBlank t

end PackageCatalog.Text
