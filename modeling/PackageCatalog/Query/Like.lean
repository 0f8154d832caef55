import PackageCatalog.Text.Utf8

/-!
# Pattern matching with wildcards

The matcher behind substring terms: `%` stands for any run of characters, `_` for any one, and a
character after the escape character for itself.  ASCII letters match in either case.

## Main definitions

* `Like.Piece`, `Like.pieces` - a pattern read as a sequence of pieces.
* `Like.acceptsPieces`, `Like.least`, `Like.accepts` - the matcher.
* `Like.escape`, `Like.pattern` - the pattern that looks for a value anywhere in a text.
-/

namespace PackageCatalog.Like

/-- A piece of a pattern. -/
inductive Piece
  /-- Any run of characters. -/
  | run
  /-- Any one character. -/
  | one
  /-- That character, in either case if it is an ASCII letter. -/
  | letter (c : Char)
  deriving DecidableEq, Repr

/-- A pattern read as pieces.  An escape character at the end matches nothing, which `none`
tells. -/
def pieces (escape : Option Char) : Text → Option (List Piece)
  | [] => some []
  | c :: rest =>
    if escape = some c then
      match rest with
      | [] => none
      | d :: rest => (pieces escape rest).map (.letter d :: ·)
    else (pieces escape rest).map
      ((if c = '%' then .run else if c = '_' then .one else .letter c) :: ·)

/-- Whether the rest of a pattern, given as a test, matches one of the endings of a text. -/
def someEnding (test : Text → Bool) : Text → Bool
  | [] => test []
  | c :: t => test (c :: t) || someEnding test t

/-- Whether pieces match a whole text. -/
def acceptsPieces : List Piece → Text → Bool
  | [], t => t.isEmpty
  | .run :: ps, t => ps.isEmpty || someEnding (acceptsPieces ps) t
  | .one :: _, [] => false
  | .one :: ps, _ :: t => acceptsPieces ps t
  | .letter _ :: _, [] => false
  | .letter c :: ps, d :: t => Text.sameLetter c d && acceptsPieces ps t

/-- The fewest characters of a text that pieces match. -/
def least (ps : List Piece) : Nat := ps.countP (· != .run)

/-- Whether a pattern matches a whole text.  Both are read up to their first NUL.  A text that is
too short is not gone over. -/
def accepts (escape : Option Char) (pattern text : Text) : Bool :=
  match pieces escape (Text.upToNul pattern) with
  | some ps =>
    let text := Text.upToNul text
    least ps ≤ text.length && acceptsPieces ps text
  | none => false

/-- Whether a character has a meaning of its own in a pattern. -/
def isSpecial (c : Char) : Bool := c == '%' || c == '_' || c == '\\'

/-- Whether a value has to be escaped. -/
def hasSpecial (value : Text) : Bool := value.any isSpecial

/-- The escape character. -/
def escapeChar : Char := '\\'

/-- A value with an escape character before each special one. -/
def escape (value : Text) : Text :=
  value.flatMap (fun c => if isSpecial c then [escapeChar, c] else [c])

/-- The pattern that looks for a value anywhere in a text. -/
def pattern (value : Text) : Text := '%' :: (escape value ++ ['%'])

/-- The escape character of the pattern for a value: none when the value has no special one. -/
def escapeOf (value : Text) : Option Char := if hasSpecial value then some escapeChar else none

/-- The most octets of a pattern. -/
def patternLimit : Nat := 50000

end PackageCatalog.Like
