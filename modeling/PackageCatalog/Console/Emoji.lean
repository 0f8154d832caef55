import PackageCatalog.Console.EmojiData
import PackageCatalog.Text.Lines
import PackageCatalog.Text.Lower

/-!
# Emoji

A name between two colons, with no white space in it, stands for a picture when there is one of
that name.  This holds in every text that is printed, whether tags are read in it or not.

## Main definitions

* `Gallery`, `Gallery.standard` - pictures by their names.
* `Emoji.codes` - what stands between two colons of a text.
* `Gallery.drawn` - a text with pictures in the place of their names.
-/

namespace PackageCatalog

/-- Whether a character is one of those by which names of pictures and tags are told. -/
def Emoji.isMark (c : Char) : Bool := c == ':' || c == '[' || c == '\\'

/-- Pictures by their names. -/
structure Gallery where
  picture? : Text → Option Text
  /-- No picture has a mark in it. -/
  clean : ∀ {name picture}, picture? name = some picture → ∀ c ∈ picture, Emoji.isMark c = false

namespace Emoji

/-! ### Names -/

/-- The number that hexadecimal digits write. -/
def codePoint (t : Text) : Nat := t.foldl (fun n c => n * 16 + (Text.hexDigit? c).getD 0) 0

/-- The picture that code points tell. -/
def pictureOf (t : Text) : Text := (Text.pieces '+' t).map (fun u => Char.ofNat (codePoint u))

/-- The picture of a name among names and pictures in turn. -/
def lookup? (name : Text) : List Text → Option Text
  | n :: p :: rest => if n == name then some (pictureOf p) else lookup? name rest
  | _ => none

/-- What may stand at the end of a name, and the character that it puts behind the picture: the
picture is asked for in colours, or as text. -/
def variants : List (Text × Char) := [("-emoji".toList, '\ufe0f'), ("-text".toList, '\ufe0e')]

/-- The name in a code, and what is put behind its picture. -/
def nameOf (code : Text) : Text × Text :=
  match variants.find? (fun v => v.1.isSuffixOf code) with
  | some (ending, c) => (code.take (code.length - ending.length), [c])
  | none => (code, [])

/-- The codes of a text, read from left to right; `some code` is one that has begun, given from its
end.  A code that is not ended by a colon is none, and no colon belongs to two codes. -/
def codesFrom : Option Text → Text → List Text
  | _, [] => []
  | none, c :: t => codesFrom (if c = ':' then some [] else none) t
  | some code, c :: t =>
    if c = ':' then code.reverse :: codesFrom none t
    else codesFrom (if Text.isBlank c then none else some (c :: code)) t

/-- The codes of a text. -/
def codes (t : Text) : List Text := codesFrom none t

end Emoji

namespace Gallery

/-- The pictures that have a name of their own. -/
def standard : Gallery where
  picture? name :=
    (Emoji.rows.findSome? (fun row => Emoji.lookup? name (Text.pieces ' ' row.toList))).filter
      (fun p => p.all (fun c => !Emoji.isMark c))
  clean := by
    intro name picture h c hc
    have hall := (Option.filter_eq_some_iff.mp h).2
    simpa using List.all_eq_true.mp hall c hc

/-- The picture of a code. -/
def drawing? (g : Gallery) (code : Text) : Option Text :=
  let (name, variant) := Emoji.nameOf code
  (g.picture? (Text.lower name)).map (· ++ variant)

/-- A code with its colons, or the picture in its place. -/
def draw (g : Gallery) (code : Text) : Text := (g.drawing? code).getD (':' :: (code ++ [':']))

/-- The rest of a text with pictures in the place of their names; `some code` is a code that has
begun, given from its end. -/
def drawnFrom (g : Gallery) : Option Text → Text → Text
  | none, [] => []
  | some code, [] => ':' :: code.reverse
  | none, c :: t => if c = ':' then drawnFrom g (some []) t else c :: drawnFrom g none t
  | some code, c :: t =>
    if c = ':' then g.draw code.reverse ++ drawnFrom g none t
    else if Text.isBlank c then ':' :: (code.reverse ++ c :: drawnFrom g none t)
    else drawnFrom g (some (c :: code)) t

/-- A text with pictures in the place of their names. -/
def drawn (g : Gallery) (t : Text) : Text := g.drawnFrom none t

end Gallery

end PackageCatalog
