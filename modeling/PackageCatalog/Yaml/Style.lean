import PackageCatalog.Yaml.Cursor
import PackageCatalog.Yaml.Plain

/-!
# Writing texts as scalars

A text is written plain when it would be read back as that text, else in single quotes, and in
double quotes when it holds what only an escape can carry.  Lines are folded at spaces once they
are wider than a bound.

## Main definitions

* `Yaml.Style`, `Yaml.Style.ofText` - the spellings, and the one that a text gets.
* `Yaml.writePlain`, `Yaml.writeSingle`, `Yaml.writeDouble` - a text in each spelling.
* `Yaml.writeScalar` - a text in its spelling.
-/

namespace PackageCatalog.Yaml

/-- The spellings of a scalar that are written. -/
inductive Style
  | plain
  | single
  | double
  deriving DecidableEq, Repr

/-- The width after which a line is folded. -/
def lineWidth : Nat := 80

/-! ### Choice -/

/-- Whether a character can be written outside of double quotes. -/
def isPlainChar (c : Char) : Bool :=
  let n := c.toNat
  c == '\n' || (0x20 ≤ n && n ≤ 0x7E) || n == 0x85 ||
    (0xA0 ≤ n && n ≤ 0xFFFD && n != 0xFEFF) || (0x10000 ≤ n && n < 0x10FFFF)

/-- Whether two neighbours satisfy two tests. -/
def hasPair (p q : Char → Bool) : Text → Bool
  | [] => false
  | [_] => false
  | c :: d :: t => (p c && q d) || hasPair p q (d :: t)

/-- A space. -/
def isSpace (c : Char) : Bool := c == ' '

/-- Whether a text starts or ends with a space or a line break. -/
def hasLooseEnd (t : Text) : Bool :=
  let loose := fun c => isSpace c || isBreak c
  (t.head?.any loose) || (t.getLast?.any loose)

/-- Whether what follows the first character of a text would be taken for an indicator. -/
def hasInnerIndicator : Text → Bool
  | [] => false
  | [_] => false
  | c :: d :: t =>
    (d == ':' && atGap t) || (d == '#' && isGap c) || hasInnerIndicator (d :: t)

/-- Whether a text would be taken for something else in the place of a plain one. -/
def hasIndicator (t : Text) : Bool :=
  Text.startsWith t "---".toList || Text.startsWith t "...".toList || hasInnerIndicator t ||
    match t with
    | [] => false
    | c :: rest =>
      "#,[]\x7b\x7d&*!|>'\"%@\x60".toList.any (· == c) ||
        ((c == '?' || c == ':' || c == '-') && atGap rest)

/-- The spelling of a text. -/
def Style.ofText (t : Text) : Style :=
  if !t.all isPlainChar || hasPair isSpace isBreak t || hasPair isBreak isSpace t then double
  else if t.isEmpty || t.any isBreak || hasLooseEnd t || hasIndicator t ||
      Kind.ofPlain t != .text then single
  else plain

/-! ### Folding -/

/-- A line break and the indentation after it. -/
def newLine (indent : Nat) : Text := '\n' :: List.replicate indent ' '

/-- A text without line breaks from a column on.  A single space beyond the width becomes a
line break; `before` is the character before, if there is one. -/
def writePlain (indent : Nat) : Nat → Option Char → Text → Text
  | _, _, [] => []
  | column, before, c :: t =>
    let alone := before.any (fun b => !isSpace b) && t.head?.any (fun d => !isSpace d)
    if isSpace c && alone && lineWidth < column then
      newLine indent ++ writePlain indent indent (some c) t
    else c :: writePlain indent (column + 1) (some c) t

/-- A text from a column on as it stands between single quotes: quotes are doubled, a single
space beyond the width becomes a line break, and a run of line breaks that starts with a line
feed gets one line feed more. -/
def writeSingle (indent : Nat) : Nat → Option Char → Text → Text
  | _, _, [] => []
  | column, before, c :: t =>
    if isSpace c then
      let alone := before.any (fun b => !isSpace b) && t.head?.any (fun d => !isSpace d)
      if alone && lineWidth < column then
        newLine indent ++ writeSingle indent indent (some c) t
      else c :: writeSingle indent (column + 1) (some c) t
    else if isBreak c then
      let extra : Text := if c == '\n' && !before.any isBreak then ['\n'] else []
      let rest := writeSingle indent indent (some c) t
      extra ++ c :: (if t.head?.any isBreak then rest else List.replicate indent ' ' ++ rest)
    else if c = '\'' then '\'' :: '\'' :: writeSingle indent (column + 2) (some c) t
    else c :: writeSingle indent (column + 1) (some c) t

/-! ### Escapes -/

/-- The letter of the escape for a character that has one. -/
def escapeLetter? (c : Char) : Option Char :=
  match c with
  | '\x00' => some '0'
  | '\x07' => some 'a'
  | '\x08' => some 'b'
  | '\t' => some 't'
  | '\n' => some 'n'
  | '\x0b' => some 'v'
  | '\x0c' => some 'f'
  | '\r' => some 'r'
  | '\x1b' => some 'e'
  | '"' => some '"'
  | '\\' => some '\\'
  | '\u0085' => some 'N'
  | '\u2028' => some 'L'
  | '\u2029' => some 'P'
  | _ => none

/-- Whether a character stands for itself between double quotes. -/
def isPrinted (c : Char) : Bool :=
  let n := c.toNat
  ((0x20 ≤ n && n ≤ 0x7E) || (0xA0 ≤ n && n ≤ 0xFFFD)) &&
    !(c == '"' || c == '\\' || isBreak c || c == '\uFEFF')

/-- The escape for a character. -/
def escapeOf (c : Char) : Text :=
  let digits := fun width => (Text.hex width c.toNat).map Text.asciiUpper
  match escapeLetter? c with
  | some letter => ['\\', letter]
  | none =>
    if c.toNat ≤ 0xFF then '\\' :: 'x' :: digits 2
    else if c.toNat ≤ 0xFFFF then '\\' :: 'u' :: digits 4
    else '\\' :: 'U' :: digits 8

/-- A line break inside double quotes, where `next` is the character after it, and the column
after it.  A space there is escaped. -/
def foldDouble (indent : Nat) (next : Option Char) : Text × Nat :=
  if next == some ' ' then ('\\' :: (newLine indent ++ ['\\']), indent + 1)
  else ('\\' :: newLine indent, indent)

/-- A text from a column on as it stands between double quotes.  A line beyond the width is
broken before a space and next to an escape; `first` says that nothing stands before, and
`fresh` that an escape does. -/
def writeDouble (indent : Nat) : Nat → Bool → Bool → Text → Text
  | _, _, _, [] => []
  | column, first, fresh, c :: t =>
    let inner := !first && !t.isEmpty
    if isPrinted c then
      if inner && (isSpace c || fresh) && decide (lineWidth < column) then
        let (fold, column) := foldDouble indent (some c)
        fold ++ c :: writeDouble indent (column + 1) false false t
      else c :: writeDouble indent (column + 1) false false t
    else
      let escape := escapeOf c
      let column := column + escape.length
      if inner && decide (lineWidth + 1 < column) then
        let (fold, column) := foldDouble indent t.head?
        escape ++ fold ++ writeDouble indent column false true t
      else escape ++ writeDouble indent column false true t

/-- A text as a scalar after the first `column` characters of a line, with the space before it.
Lines after the first one are indented. -/
def writeScalar (indent column : Nat) (t : Text) : Text :=
  match Style.ofText t with
  | .plain => ' ' :: writePlain indent (column + 1) none t
  | .single => ' ' :: '\'' :: (writeSingle indent (column + 2) none t ++ ['\''])
  | .double => ' ' :: '"' :: (writeDouble indent (column + 2) true true t ++ ['"'])

end PackageCatalog.Yaml
