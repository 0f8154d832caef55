import PackageCatalog.Yaml.Fault

/-!
# Cursors

A place in a text with its line and column.  The format knows four line breaks; the first two
count as a line feed, the other two stand for themselves.  A text may break off where it cannot be
read any further; what needs more of it then fails for that reason.

## Main definitions

* `Yaml.isBreak`, `Yaml.isGap` - line breaks and white space.
* `Yaml.Cursor` - a place in a text.
* `Yaml.Cursor.step`, `Yaml.Cursor.forward`, `Yaml.Cursor.pass` - moving on.
* `Yaml.Cursor.lineBreak?` - a line break at a place.
* `Yaml.Cursor.fault` - why a text that goes on in the wrong way is refused.
-/

namespace PackageCatalog.Yaml

/-- The characters that end a line. -/
def isBreak (c : Char) : Bool := c == '\n' || c == '\u0085' || c == '\u2028' || c == '\u2029'

/-- Space, tab and line breaks. -/
def isGap (c : Char) : Bool := c == ' ' || c == '\t' || isBreak c

/-- Whether a text ends or goes on with white space. -/
def atGap : Text → Bool
  | [] => true
  | c :: _ => isGap c

/-- Whether a text ends or goes on with a line break. -/
def atLineEnd : Text → Bool
  | [] => true
  | c :: _ => isBreak c

/-- Whether a text ends or goes on with a space or a line break. -/
def atWordEnd : Text → Bool
  | [] => true
  | c :: _ => c == ' ' || isBreak c

/-- Whether a text goes on with one of some characters. -/
def atOneOf (cs : Text) : Text → Bool
  | [] => false
  | c :: _ => cs.any (· == c)

/-- Whether a text goes on with a given character. -/
def atChar (c : Char) (t : Text) : Bool := t.head? == some c

/-- A character of names: an ASCII letter or digit, a hyphen or an underscore. -/
def isNameChar (c : Char) : Bool :=
  Text.isDigit c || ('A' ≤ c && c ≤ 'Z') || ('a' ≤ c && c ≤ 'z') || c == '-' || c == '_'

/-- A place in a text. -/
structure Cursor where
  /-- What follows. -/
  rest : Text
  /-- The number of characters before. -/
  index : Nat := 0
  /-- The number of lines before. -/
  line : Nat := 0
  /-- The number of characters before on the line, byte order marks aside. -/
  column : Nat := 0
  /-- Why nothing is known of the text behind its end, if it breaks off there. -/
  broken : Option Fault := none
  deriving DecidableEq, Repr

namespace Cursor

/-- The place after the next character. -/
def step (c : Cursor) : Cursor :=
  match c.rest with
  | [] => c
  | a :: rest =>
    if isBreak a then ⟨rest, c.index + 1, c.line + 1, 0, c.broken⟩
    else ⟨rest, c.index + 1, c.line, if a = '\uFEFF' then c.column else c.column + 1, c.broken⟩

/-- Why a text that goes on in the wrong way at a place is refused: the text that is needed there
is malformed, or it cannot be read. -/
def fault (c : Cursor) : Fault := if c.rest.isEmpty then c.broken.getD .malformed else .malformed

/-- The reason for which the text breaks off at a place. -/
def broken? (c : Cursor) : Option Fault := if c.rest.isEmpty then c.broken else none

/-- The place after a number of characters. -/
def forward (c : Cursor) : Nat → Cursor
  | 0 => c
  | n + 1 => c.step.forward n

/-- The characters from a place on that satisfy `p`. -/
def taken (c : Cursor) (p : Char → Bool) : Text := c.rest.takeWhile p

/-- The place after the characters that satisfy `p`. -/
def pass (c : Cursor) (p : Char → Bool) : Cursor := c.forward (c.taken p).length

/-- The place after spaces. -/
def passSpaces (c : Cursor) : Cursor := c.pass (· == ' ')

/-- The line break at a place, in its counted form, and the place after it. -/
def lineBreak? (c : Cursor) : Option (Char × Cursor) :=
  match c.rest with
  | [] => none
  | a :: _ =>
    if a = '\n' ∨ a = '\u0085' then some ('\n', c.step)
    else if a = '\u2028' ∨ a = '\u2029' then some (a, c.step)
    else none

/-- The place after a line break, if there is one. -/
def passBreak (c : Cursor) : Cursor :=
  match c.lineBreak? with
  | some (_, c) => c
  | none => c

/-- The place after a comment, if there is one. -/
def passComment (c : Cursor) : Cursor :=
  if atChar '#' c.rest then c.pass (!isBreak ·) else c

/-- Whether a document mark of three given characters stands at a place. -/
def atMark (c : Cursor) (mark : String) : Bool :=
  c.rest.take 3 == mark.toList && atGap (c.rest.drop 3)

/-- Whether any document mark stands at a place. -/
def atAnyMark (c : Cursor) : Bool := c.atMark "---" || c.atMark "..."

end Cursor

end PackageCatalog.Yaml
