import PackageCatalog.Text.Lines
import PackageCatalog.Text.Width

/-!
# Layout

How a plain text fills the lines of a console: some controls are dropped, tabs become spaces, and
a line that is too long is broken between its words.

## Main definitions

* `Layout.expandTabs` - a line without tabs.
* `Layout.words`, `Layout.chop`, `Layout.fill` - the pieces at which a line may be broken, and the
  lines made of them.
* `Layout.wrap` - the lines that a line takes.
* `Layout.page` - the output for a text.
-/

namespace PackageCatalog.Layout

/-- The columns of the console. -/
def columns : Nat := 2000

/-- The distance of two tab stops. -/
def tabStop : Nat := 8

/-- Whether a character is dropped from everything that is laid out. -/
def isDropped (c : Char) : Bool :=
  let n := c.toNat
  n == 0x07 || n == 0x08 || (0x0B ≤ n && n ≤ 0x0D)

/-- A text without the characters that are never laid out. -/
def cleaned (t : Text) : Text := t.filter (fun c => !isDropped c)

/-- The parts of a line between its tabs, from a column on.  Every tab becomes a space and as many
more as reach the next tab stop. -/
def expandParts : Nat → List Text → Text
  | _, [] => []
  | _, [part] => part
  | column, part :: q :: parts =>
    let filled := part ++ [' ']
    let stop := (column + Text.width filled + tabStop - 1) / tabStop * tabStop
    let gap := stop - (column + Text.width filled)
    filled ++ List.replicate gap ' ' ++ expandParts stop (q :: parts)

/-- A line without tabs. -/
def expandTabs (t : Text) : Text := expandParts 0 (Text.pieces '\t' t)

/-! ### Breaking lines -/

/-- A character put before words: a blank before a word that starts with none ends a word of its
own. -/
def attach (c : Char) : List Text → List Text
  | (d :: w) :: ws =>
    if Text.isBlank c && !Text.isBlank d then [c] :: (d :: w) :: ws else (c :: d :: w) :: ws
  | _ => [[c]]

/-- The words of a line, each with the blanks after it, and the first with those before it. -/
def words (t : Text) : List Text :=
  match t.foldr attach [] with
  | lead :: w :: ws => if lead.all Text.isBlank then (lead ++ w) :: ws else lead :: w :: ws
  | ws => ws

/-- A text without the blanks at its end. -/
def trimEnd (t : Text) : Text := (t.reverse.dropWhile Text.isBlank).reverse

/-- Clusters put into parts of at most `limit` columns, when the first part starts behind `column`
columns. -/
def chopFrom (limit : Nat) : Nat → List Text.Cluster → List Text
  | _, [] => [[]]
  | column, c :: cs =>
    let next := column + c.width
    if next ≤ limit then
      match chopFrom limit next cs with
      | part :: parts => (c.text ++ part) :: parts
      | [] => [c.text]
    else
      match chopFrom limit c.width cs with
      | part :: parts => [] :: (c.text ++ part) :: parts
      | [] => [[], c.text]

/-- A word cut into parts of at most `limit` columns. -/
def chop (limit : Nat) (w : Text) : List Text := chopFrom limit 0 (Text.clusters w)

/-- What to do with a word that is longer than a line. -/
inductive Overflow
  /-- It is continued on the next lines. -/
  | fold
  /-- It is cut off, and an ellipsis ends the line. -/
  | ellipsis
  deriving DecidableEq, Repr

/-- The line in progress, unless it is empty. -/
def pending (current : Text) : List Text := if current.isEmpty then [] else [current]

/-- Words put into lines; `current` is the line in progress, which takes `column` columns. -/
def fill (mode : Overflow) (limit : Nat) : Text → Nat → List Text → List Text
  | current, _, [] => [current]
  | current, column, w :: ws =>
    let need := Text.width (trimEnd w)
    if column + need ≤ limit then fill mode limit (current ++ w) (column + Text.width w) ws
    else if need ≤ limit ∨ mode = .ellipsis then
      pending current ++ fill mode limit w (Text.width w) ws
    else
      let parts := chop limit w
      let last := parts.getLast?.getD []
      pending current ++ parts.dropLast ++ fill mode limit last (Text.width last) ws

/-- A line without the blanks at its end that stand beyond `limit` characters. -/
def dropExcess (limit : Nat) (t : Text) : Text :=
  let blanks := t.length - (trimEnd t).length
  t.take (t.length - min blanks (t.length - limit))

/-- The beginning of clusters that takes exactly `limit` columns, filled with spaces. -/
def cropClusters : Nat → List Text.Cluster → Text
  | limit, [] => List.replicate limit ' '
  | limit, c :: cs =>
    if c.width ≤ limit then c.text ++ cropClusters (limit - c.width) cs
    else List.replicate limit ' '

/-- The beginning of a line that takes exactly `limit` columns, filled with spaces. -/
def crop (limit : Nat) (t : Text) : Text := cropClusters limit (Text.clusters t)

/-- A line of at most `limit` columns. -/
def truncate (mode : Overflow) (limit : Nat) (t : Text) : Text :=
  if Text.width t ≤ limit then t
  else match mode with
    | .fold => crop limit t
    | .ellipsis => crop (limit - 1) t ++ ['…']

/-- The lines of at most `limit` columns that a line takes. -/
def wrap (mode : Overflow) (limit : Nat) (line : Text) : List Text :=
  (fill mode limit [] 0 (words line)).map (dropExcess limit)

/-- The lines of `limit` columns that a text takes, before they are aligned. -/
def linesWithin (mode : Overflow) (limit : Nat) (t : Text) : List Text :=
  (Text.pieces '\n' t).flatMap (fun line => wrap mode limit (expandTabs line))

/-! ### The console -/

/-- The lines of the console that a text takes. -/
def consoleLines (t : Text) : List Text :=
  (linesWithin .fold columns (cleaned t)).map (truncate .fold columns)

/-- The output for a text without a line break at its end. -/
def row (t : Text) : Text := Text.joined '\n' (consoleLines t)

/-- The output for a text. -/
def page (t : Text) : Text := row t ++ ['\n']

/-! ### Alignment -/

/-- Where a line stands between its margins. -/
inductive Align
  | left
  | right
  | centre
  deriving DecidableEq, Repr

/-- A line filled with spaces to `limit` columns; one that is too long is cut off. -/
def align (a : Align) (mode : Overflow) (limit : Nat) (line : Text) : Text :=
  let line := truncate mode limit (if a = .left then line else trimEnd line)
  let gap := limit - Text.width line
  let before := match a with
    | .left => 0
    | .right => gap
    | .centre => gap / 2
  List.replicate before ' ' ++ line ++ List.replicate (gap - before) ' '

end PackageCatalog.Layout
