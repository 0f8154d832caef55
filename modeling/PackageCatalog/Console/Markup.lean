import PackageCatalog.Console.Emoji

/-!
# Styled text

Messages are written with tags in square brackets that switch a style on and off.  On a console
without colours a tag leaves nothing behind, but it still has to be closed in order.  What stands
between two tags is read for names of pictures.

## Main definitions

* `Markup.Piece`, `Markup.pieces` - a message as plain text and tags.
* `Markup.Fault` - why tags do not fit together.
* `Markup.plain` - the characters of a message without its tags.
* `Markup.display` - the characters that are shown, with pictures in the place of their names.
-/

namespace PackageCatalog.Markup

/-- A part of a message. -/
inductive Piece
  | plain (t : Text)
  /-- What backslashes before a tag stand for. -/
  | literal (t : Text)
  /-- A tag, by its first character and by what stands between the brackets. -/
  | tag (place : Nat) (body : Text)
  deriving DecidableEq, Repr

/-- Why tags do not fit together. -/
inductive Fault
  /-- A tag closes a style that is not open. -/
  | notOpen (tag : Text) (place : Nat)
  /-- A tag closes the latest style, and none is open. -/
  | nothingOpen (place : Nat)
  deriving DecidableEq, Repr

/-- The text of a fault. -/
def Fault.message : Fault → Text
  | notOpen tag place =>
    "closing tag '[".toList ++ tag ++ "]' at position ".toList ++ Text.ofNat place ++
      " doesn't match any open tag".toList
  | nothingOpen place =>
    "closing tag '[/]' at position ".toList ++ Text.ofNat place ++
      " has nothing to close".toList

/-- Whether a character may stand first in a tag. -/
def opensTag (c : Char) : Bool := ('a' ≤ c && c ≤ 'z') || c == '#' || c == '/' || c == '@'

/-- Whether a character is a square bracket. -/
def isBracket (c : Char) : Bool := c == '[' || c == ']'

/-- The body of a tag whose opening bracket has been read. -/
def tagBody? : Text → Option Text
  | [] => none
  | c :: t =>
    if opensTag c then
      let body := t.takeWhile (fun d => !isBracket d)
      if (t.drop body.length).head? = some ']' then some (c :: body) else none
    else none

/-- The body of the tag at the beginning of a text. -/
def tag? : Text → Option Text
  | '[' :: t => tagBody? t
  | _ => none

/-- What backslashes before a tag stand for: half of them, and with an odd one the tag is meant
literally. -/
def escapedTag (place count : Nat) (body : Text) : List Piece :=
  [.literal (List.replicate (count / 2) '\\'),
    if count % 2 = 1 then .literal ('[' :: body ++ [']']) else .tag (place + count) body]

/-- The pieces of a message of at most `fuel` characters.  Behind backslashes a bracket that opens
no tag loses one of them. -/
def piecesWith : Nat → Nat → Text → List Piece
  | 0, _, _ => []
  | _, _, [] => []
  | fuel + 1, place, c :: t =>
    let slashes := (c :: t).takeWhile (· == '\\')
    let count := slashes.length
    let rest := (c :: t).drop count
    match tag? rest with
    | some body =>
      let after := body.length + 2
      escapedTag place count body ++
        piecesWith fuel (place + count + after) (rest.drop after)
    | none =>
      if count = 0 then .plain [c] :: piecesWith fuel (place + 1) t
      else
        let kept := if rest.head? = some '[' then count - 1 else count
        .plain (List.replicate kept '\\' ++ rest.take 1) ::
          piecesWith fuel (place + count + 1) (rest.drop 1)

/-- The pieces of a message. -/
def pieces (t : Text) : List Piece := piecesWith t.length 0 t

/-- The name of the style that a tag switches on. -/
def styleName (t : Text) : Text := Text.lower (Text.trim t)

/-- The characters of pieces, without tags, while the styles `opened` are on, latest first. -/
def shown : List Text → List Piece → Except Fault Text
  | _, [] => .ok []
  | opened, .plain t :: rest => (shown opened rest).map (t ++ ·)
  | opened, .literal t :: rest => (shown opened rest).map (t ++ ·)
  | opened, .tag place body :: rest =>
    match body.takeWhile (· != '=') with
    | '/' :: name =>
      if Text.trim name = [] then
        match opened with
        | [] => .error (.nothingOpen place)
        | _ :: opened => shown opened rest
      else if opened.contains (styleName name) then shown (opened.erase (styleName name)) rest
      else .error (.notOpen body place)
    | name => shown (styleName name :: opened) rest

/-- The characters of a message without its tags. -/
def plain (t : Text) : Except Fault Text := shown [] (pieces t)

/-! ### Pictures -/

/-- Plain text put before pieces; it is one with the plain text that they begin with. -/
def withPlain (t : Text) : List Piece → List Piece
  | .plain u :: rest => .plain (t ++ u) :: rest
  | rest => .plain t :: rest

/-- Pieces with all plain text between two others in one. -/
def joined : List Piece → List Piece
  | [] => []
  | .plain t :: rest => withPlain t (joined rest)
  | .literal t :: rest => .literal t :: joined rest
  | .tag place body :: rest => .tag place body :: joined rest

/-- A piece with pictures in the place of their names. -/
def Piece.drawn (g : Gallery) : Piece → Piece
  | plain t => plain (g.drawn t)
  | literal t => literal (g.drawn t)
  | tag place body => tag place body

/-- The characters of a message that are shown. -/
def display (g : Gallery) (t : Text) : Except Fault Text :=
  shown [] ((joined (pieces t)).map (Piece.drawn g))

end PackageCatalog.Markup
