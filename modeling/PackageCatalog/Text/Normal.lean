import PackageCatalog.Text.NormalData

/-!
# Normal form C

Canonical decomposition, canonical ordering of combining marks, and canonical composition.

## Main definitions

* `Text.decomposeChar`, `Text.decompose` - full canonical decomposition.
* `Text.orderMarks` - combining marks in ascending class, stably.
* `Text.compose` - composition of adjacent characters.
* `Text.normalForm` - normal form C.
-/

namespace PackageCatalog.Text

/-- The canonical combining class of a character. -/
def combiningClass (c : Char) : Nat :=
  if c.toNat < 0x300 then 0 else (valueInRuns combiningRuns c.toNat).getD 0

/-- The full canonical decomposition of a character.  A Hangul syllable splits by its formula
into a leading consonant, a vowel and, unless it is absent, a trailing consonant. -/
def decomposeChar (c : Char) : Text :=
  let n := c.toNat
  if n < 0xC0 then [c]
  else if 0xAC00 ≤ n ∧ n < 0xAC00 + 11172 then
    let s := n - 0xAC00
    let lead := Char.ofNat (0x1100 + s / 588)
    let vowel := Char.ofNat (0x1161 + s % 588 / 28)
    if s % 28 = 0 then [lead, vowel] else [lead, vowel, Char.ofNat (0x11A7 + s % 28)]
  else
    match find (fun e => compare n e.1) decompositions with
    | some e => e.2.map Char.ofNat
    | none => [c]

/-- The canonical decomposition of a text, before its marks are put in order. -/
def decompose (t : Text) : Text := t.flatMap decomposeChar

/-- A mark put behind the marks of a class that is not greater; the list is in ascending order. -/
def insertMark (class_ : Nat) (c : Char) : List (Nat × Char) → List (Nat × Char)
  | [] => [(class_, c)]
  | (k, d) :: rest =>
    if k ≤ class_ then (k, d) :: insertMark class_ c rest else (class_, c) :: (k, d) :: rest

/-- Canonical ordering in front of `done`, latest first, with the marks of the current run. -/
def orderMarksOnto : List (Nat × Char) → Text → Text → Text
  | marks, [], done => ((marks.map Prod.snd).reverse ++ done).reverse
  | marks, c :: t, done =>
    let k := combiningClass c
    if k = 0 then orderMarksOnto [] t (c :: ((marks.map Prod.snd).reverse ++ done))
    else orderMarksOnto (insertMark k c marks) t done

/-- A text with each run of combining marks in ascending class. -/
def orderMarks (t : Text) : Text := orderMarksOnto [] t []

/-- The composite of two adjacent characters. -/
def composePair (a b : Char) : Option Char :=
  let m := a.toNat
  let n := b.toNat
  if 0x1100 ≤ m ∧ m < 0x1113 ∧ 0x1161 ≤ n ∧ n < 0x1176 then
    some (Char.ofNat (0xAC00 + ((m - 0x1100) * 21 + (n - 0x1161)) * 28))
  else if 0xAC00 ≤ m ∧ m < 0xAC00 + 11172 ∧ (m - 0xAC00) % 28 = 0 ∧ 0x11A7 < n ∧ n < 0x11C3 then
    some (Char.ofNat (m + (n - 0x11A7)))
  else
    (find (fun e => (compare m e.1.1).then (compare n e.1.2)) composites).map
      (Char.ofNat ·.2)

/-- The state of composition: what is finished (latest first), the starter that may still
compose, the characters kept after it (latest first) and the class of the last of them. -/
structure Composing where
  done : Text
  starter : Option Char
  kept : Text
  lastClass : Nat

/-- Composition of the next character. -/
def Composing.step (s : Composing) (c : Char) : Composing :=
  let k := combiningClass c
  match s.starter with
  | none => if k = 0 then { s with starter := some c } else { s with done := c :: s.done }
  | some starter =>
    let open_ := s.kept.isEmpty || s.lastClass < k
    match (if open_ then composePair starter c else none) with
    | some composite => { s with starter := some composite }
    | none =>
      if k = 0 then
        { done := s.kept ++ starter :: s.done, starter := some c, kept := [], lastClass := 0 }
      else { s with kept := c :: s.kept, lastClass := k }

/-- The composed text. -/
def Composing.finish (s : Composing) : Text :=
  match s.starter with
  | none => (s.kept ++ s.done).reverse
  | some starter => (s.kept ++ starter :: s.done).reverse

/-- Canonical composition of a decomposed and ordered text. -/
def compose (t : Text) : Text :=
  (t.foldl Composing.step ⟨[], none, [], 0⟩).finish

/-- Normal form C.  A text without any character from U+0300 on is in that form. -/
def normalForm (t : Text) : Text :=
  if t.all (·.toNat < 0x300) then t else compose (orderMarks (decompose t))

end PackageCatalog.Text
