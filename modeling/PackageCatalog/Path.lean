import PackageCatalog.NativeName

/-!
# Paths

Lexical operations on slash-separated paths.  They are the same for texts, for native names and
for octets, so they are stated for any alphabet with a slash and a dot.

## Main definitions

* `Path.segments` - the pieces between slashes.
* `Path.collapse` - a path without empty, `.` and avoidable `..` segments.
* `Path.absolute` - the collapsed path as seen from a working directory.
* `Path.join`, `Path.baseName`, `Path.directory`, `Path.suffix` - putting together and taking
  apart.
* `Path.resolved` - the same absolute path by a stack of components.
* `Path.splitShort` - a short path cut at its first slash.
-/

namespace PackageCatalog

/-- An alphabet in which paths can be written. -/
class PathAlphabet (α : Type) extends BEq α where
  /-- The separator. -/
  slash : α
  /-- The dot of `.`, `..` and file extensions. -/
  dot : α

-- a type that has an equality of its own is compared by that one
attribute [instance (low)] PathAlphabet.toBEq

instance : PathAlphabet Char := { slash := '/', dot := '.' }
instance : PathAlphabet NameUnit := { slash := .char '/', dot := .char '.' }
instance : PathAlphabet UInt8 := { slash := 0x2F, dot := 0x2E }

namespace Path

open PathAlphabet

variable {α : Type} [PathAlphabet α]

/-- The pieces of a path between its slashes. -/
def segments (p : List α) : List (List α) := Text.pieces slash p

/-- Segments written with single slashes between them. -/
def ofSegments (ss : List (List α)) : List α := Text.joined slash ss

/-- Whether a segment names nothing: it is empty or a single dot. -/
def isIdle (s : List α) : Bool := s == [] || s == [dot]

/-- Whether a segment names the parent directory. -/
def isParent (s : List α) : Bool := s == [dot, dot]

/-- Whether a path starts at the root. -/
def isAbsolute : List α → Bool
  | [] => false
  | a :: _ => a == slash

/-- The number of leading slashes that a collapsed path keeps: two stay two, and any other
positive number becomes one. -/
def rootSlashes : List α → Nat
  | [] => 0
  | [a] => if a == slash then 1 else 0
  | [a, b] => if a == slash then (if b == slash then 2 else 1) else 0
  | a :: b :: c :: _ =>
    if a == slash then (if b == slash && !(c == slash) then 2 else 1) else 0

/-- One step of collapsing: `done` holds the kept segments, last first. -/
def collapseStep (rooted : Bool) (done : List (List α)) (s : List α) : List (List α) :=
  if isIdle s then done
  else if isParent s then
    match done with
    | [] => if rooted then [] else [s]
    | d :: rest => if isParent d then s :: d :: rest else rest
  else s :: done

/-- A path without idle segments, in which `..` removes the segment before it. -/
def collapse (p : List α) : List α :=
  let root := rootSlashes p
  let kept := ((segments p).foldl (collapseStep (root != 0)) []).reverse
  let collapsed := List.replicate root slash ++ ofSegments kept
  if collapsed.isEmpty then [dot] else collapsed

/-- The path `p` as seen from the directory `base`. -/
def join (base p : List α) : List α :=
  if isAbsolute p then p
  else match base.getLast? with
    | none => p
    | some a => if a == slash then base ++ p else base ++ slash :: p

/-- The absolute collapsed form of a path, seen from the working directory `base`. -/
def absolute (base p : List α) : List α :=
  collapse (if isAbsolute p then p else join base p)

/-- The last segment of a path. -/
def baseName (p : List α) : List α := (segments p).getLast?.getD []

/-- Everything before the last segment, without the slashes at its end unless it is only
slashes. -/
def directory (p : List α) : List α :=
  let head := p.take (p.length - (baseName p).length)
  if head.all (· == slash) then head
  else (head.reverse.dropWhile (· == slash)).reverse

/-- The text after the last dot of a segment whose leading dots have been taken away. -/
def suffixAfterDots (s : List α) : List α :=
  match Text.pieces dot s with
  | [] => []
  | [_] => []
  | _ :: p :: ps => (p :: ps).getLast?.getD []

/-- The extension of the last segment, without its dot; leading dots do not start one. -/
def suffix (p : List α) : List α :=
  suffixAfterDots ((baseName p).dropWhile (· == dot))

/-- One step of reference resolution: `..` pops a component and vanishes at the root. -/
def resolveStep (stack : List (List α)) (s : List α) : List (List α) :=
  if isIdle s then stack
  else if isParent s then stack.tail
  else s :: stack

/-- The absolute path by a component stack: the components of a path go onto those of the directory
`base`, or by themselves when the path is absolute.  Two leading slashes are kept when the path has
exactly two. -/
def resolved (base p : List α) : List α :=
  let components := if isAbsolute p then segments p else segments base ++ segments p
  let root := if (p.takeWhile (· == slash)).length = 2 then 2 else 1
  List.replicate root slash ++ ofSegments (components.foldl resolveStep []).reverse

/-- A short path `package/rest` cut at its first slash; none when it has no slash. -/
def splitShort (s : List α) : List α × Option (List α) :=
  match segments s with
  | [] => (s, none)
  | [_] => (s, none)
  | p :: rest => (p, some (ofSegments rest))

/-- The parts that a walk follows: the segments that are not idle. -/
def parts (p : List α) : List (List α) := (segments p).filter (!isIdle ·)

/-- A path rewritten from its parts: doubled slashes, trailing slashes and `.` vanish, `..`
stays. -/
def tidy (p : List α) : List α :=
  let written := List.replicate (rootSlashes p) slash ++ ofSegments (parts p)
  if written.isEmpty then [dot] else written

end Path

end PackageCatalog
