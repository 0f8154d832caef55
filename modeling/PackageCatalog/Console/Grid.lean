import PackageCatalog.Console.Layout
import PackageCatalog.Console.Markup

/-!
# Grids

Tables on the console: every column is as wide as its widest cell, cells have one space on each
side, and a grid may have a title, a line of headers, and a frame.

## Main definitions

* `Column`, `Grid` - the shape and contents of a table.
* `Grid.widths` - the width of each column.
* `Grid.lines`, `Grid.page` - the lines of a table, and its output.
-/

namespace PackageCatalog

/-- A column of a table; its cells are plain text. -/
structure Column where
  header : String
  cells : List Text
  align : Layout.Align := .left
  /-- The width that its cells take at least. -/
  least : Nat := 0
  deriving DecidableEq, Repr

/-- A table. -/
structure Grid where
  columns : List Column
  title : Option String := none
  /-- Whether the headers are shown. -/
  headed : Bool := true
  framed : Bool := false
  deriving DecidableEq, Repr

/-- The characters of a rule across a framed table: at its ends, between columns, and in them. -/
structure Rule where
  left : Char
  between : Char
  right : Char
  across : Char
  deriving DecidableEq, Repr

/-- The rule over a table. -/
def Rule.top : Rule := ⟨'┏', '┳', '┓', '━'⟩

/-- The rule under the headers. -/
def Rule.underHeaders : Rule := ⟨'┡', '╇', '┩', '━'⟩

/-- The rule under a table. -/
def Rule.bottom : Rule := ⟨'└', '┴', '┘', '─'⟩

/-- A rule over columns of given widths. -/
def Rule.line (r : Rule) (widths : List Nat) : Text :=
  r.left :: (Text.joined r.between (widths.map (fun n => List.replicate n r.across)) ++ [r.right])

namespace Column

/-- The columns of the longest line of a cell. -/
def cellWidth (t : Text) : Nat := ((Text.lines t).map Text.width).foldl max 0

/-- The width of a column with the spaces beside its cells. -/
def width (c : Column) (headed : Bool) : Nat :=
  let texts := if headed then c.header.toList :: c.cells else c.cells
  (texts.map cellWidth).foldl max c.least + 2

/-- The lines of a cell in a column of a given width. -/
def cellLines (c : Column) (width : Nat) (t : Text) : List Text :=
  (Layout.linesWithin .ellipsis (width - 2) t).map (fun line =>
    ' ' :: (Layout.align c.align .ellipsis (width - 2) line ++ [' ']))

end Column

namespace Grid

/-- The widths of the columns. -/
def widths (g : Grid) : List Nat := g.columns.map (·.width g.headed)

/-- The width of a table with its frame. -/
def width (g : Grid) : Nat :=
  g.widths.foldr (· + ·) 0 + if g.framed then g.columns.length + 1 else 0

/-- Cells beside each other, with `mark` at the edges and between them when there is a frame. -/
def besides (g : Grid) (mark : Char) (cells : List Text) : Text :=
  if g.framed then mark :: (Text.joined mark cells ++ [mark]) else cells.flatten

/-- The lines of a row: a cell with fewer lines than another is filled up with blank ones. -/
def rowLines (g : Grid) (widths : List Nat) (mark : Char) (cell : Column → Text) : List Text :=
  let parts := (g.columns.zip widths).map (fun c => (c.2, c.1.cellLines c.2 (cell c.1)))
  let height := (parts.map (fun part => part.2.length)).foldl max 1
  (List.range height).map (fun i =>
    g.besides mark (parts.map (fun part => part.2.getD i (List.replicate part.1 ' '))))

/-- The lines of the title, centred over the table. -/
def titleLines (g : Grid) : List Text :=
  match g.title with
  | none => []
  | some title =>
    (Layout.linesWithin .fold g.width title.toList).map (Layout.align .centre .fold g.width)

/-- A rule, when there is a frame. -/
def ruleLines (g : Grid) (r : Rule) : List Text := if g.framed then [r.line g.widths] else []

/-- The lines of the headers. -/
def headLines (g : Grid) : List Text :=
  if g.headed then
    g.rowLines g.widths '┃' (fun c => c.header.toList) ++ g.ruleLines Rule.underHeaders
  else []

/-- The lines of the rows. -/
def bodyLines (g : Grid) : List Text :=
  let height := (g.columns.map (fun c => c.cells.length)).foldl max 0
  let widths := g.widths
  (List.range height).flatMap (fun i => g.rowLines widths '│' (fun c => c.cells.getD i []))

/-- The lines of a table. -/
def lines (g : Grid) : List Text :=
  g.titleLines ++ g.ruleLines Rule.top ++ g.headLines ++ g.bodyLines ++ g.ruleLines Rule.bottom

/-- The output for a table. -/
def page (g : Grid) : Text := g.lines.flatMap (· ++ ['\n'])

/-- Text that is read as styled, as it stands in a cell. -/
def styledCell (gallery : Gallery) (t : Text) : Except Markup.Fault Text :=
  (Markup.display gallery t).map Layout.cleaned

/-- The table with its cells read as styled text, column by column. -/
def styled (g : Grid) (gallery : Gallery) : Except Markup.Fault Grid := do
  let columns ← g.columns.mapM (fun c => do
    let cells ← c.cells.mapM (styledCell gallery)
    return { c with cells })
  return { g with columns }

end Grid

end PackageCatalog
