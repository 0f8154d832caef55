import PackageCatalog.Text.Lines
import PackageCatalog.Text.Lower

/-!
# Excerpts

The lines of a content that show why a search found it.

## Main definitions

* `numberedLines` - the lines of a content with their numbers.
* `isHit` - whether a line contains one of several needles, all in lower case.
* `matchingLines` - the first hits, without the blanks around them.
-/

namespace PackageCatalog

/-- The lines of a content with their numbers, counted from one. -/
def numberedLines (content : Text) : List (Text × Nat) := (Text.lines content).zipIdx 1

/-- Whether the lower-case form of a line contains one of the needles. -/
def isHit (needles : List Text) (line : Text) : Bool :=
  let lowered := Text.lower line
  needles.any (fun needle => Text.contains lowered needle)

/-- At most `most` hits among numbered lines, trimmed.  The bound is looked at after a hit has
been taken, so the first hit is always there. -/
def collectHits (needles : List Text) : Int → List (Text × Nat) → List (Nat × Text)
  | _, [] => []
  | most, (line, n) :: rest =>
    if isHit needles line then
      (n, Text.trim line) ::
        (if most ≤ 1 then [] else collectHits needles (most - 1) rest)
    else collectHits needles most rest

/-- The first lines of a content that contain one of the patterns in any case, with their
numbers, without the blanks around them. -/
def matchingLines (content : Text) (patterns : List Text) (most : Int) : List (Nat × Text) :=
  collectHits (patterns.map Text.lower) most (numberedLines content)

/-- The number of hits that are shown of each document. -/
def excerptLength : Int := 3

end PackageCatalog
