import PackageCatalog.Text.CaseData

/-!
# Lower case

The full lower-case mapping: one character for one, except that a capital I with a dot above
becomes two, and that a capital sigma becomes the final form at the end of a word.

## Main definitions

* `Text.lowerChar` - the mapping of a single character.
* `Text.endsWord` - whether a sigma between two texts ends a word.
* `Text.lower` - the mapping of a text.
-/

namespace PackageCatalog.Text

/-- The lower-case form of a character on its own. -/
def lowerChar (c : Char) : Char :=
  if c.toNat < 0x80 then asciiLower c
  else
    match find (fun run => sideOfRun c.toNat run.1 run.2.1) lowerRuns with
    | none => c
    | some (first, _, step, distance) =>
      if (c.toNat - first) % step = 0 then Char.ofNat (c.toNat + distance).toNat else c

/-- Whether the first character that is not passed over is a cased one. -/
def startsCased : Text → Bool
  | [] => false
  | c :: t => if inRuns caseIgnorableRuns c.toNat then startsCased t else inRuns casedRuns c.toNat

/-- Whether a sigma ends a word: a cased character stands before it and none after it.  The text
before it is given from its end. -/
def endsWord (before after : Text) : Bool := startsCased before && !startsCased after

/-- The lower-case form of `rest`, which follows `before` (given from its end), put behind
`done` (given from its end). -/
def lowerOnto : Text → Text → Text → Text
  | _, [], done => done.reverse
  | before, c :: rest, done =>
    if c = 'Σ' then
      lowerOnto (c :: before) rest ((if endsWord before rest then 'ς' else 'σ') :: done)
    else if c = 'İ' then lowerOnto (c :: before) rest ('\u0307' :: 'i' :: done)
    else lowerOnto (c :: before) rest (lowerChar c :: done)

/-- The lower-case form of a text. -/
def lower (t : Text) : Text := lowerOnto [] t []

end PackageCatalog.Text
