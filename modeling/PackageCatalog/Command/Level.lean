import PackageCatalog.Text.Quoted

/-!
# Levels

A level names the rank from which on the journal keeps notes.  It may be written in small letters
or capitals.  A name that is not known stands for warnings, but two names are taken by settings
of the journal itself, and those are refused.

## Main definitions

* `Level.ranks` - the names of the levels with their ranks.
* `LevelFault`, `LevelFault.message` - what is wrong with a name that is taken.
* `Level.rank` - the rank that a name stands for.
-/

namespace PackageCatalog

/-- Why a name is refused as a level. -/
inductive LevelFault
  /-- It names the pattern of the journal's lines. -/
  | pattern
  /-- It names the styles in which such a pattern can be written. -/
  | styles
  deriving DecidableEq, Repr

namespace Level

/-- The capitals of a letter.  Of the letters outside ASCII only the dotless i, the long s and
two ligatures have ASCII capitals. -/
def capitals (c : Char) : Text :=
  if c = 'ı' then ['I']
  else if c = 'ſ' then ['S']
  else if c = 'ﬅ' ∨ c = 'ﬆ' then ['S', 'T']
  else [Text.asciiUpper c]

/-- The levels that can be asked for, with their ranks. -/
def ranks : List (String × Nat) :=
  [("NOTSET", 0), ("DEBUG", 10), ("INFO", 20), ("WARNING", 30), ("WARN", 30), ("ERROR", 40),
    ("CRITICAL", 50), ("FATAL", 50)]

/-- The names that are taken by settings of the journal. -/
def taken : List (String × LevelFault) := [("BASIC_FORMAT", .pattern), ("_STYLES", .styles)]

/-- What a table of names has for a name. -/
def lookup? {α : Type} (table : List (String × α)) (name : Text) : Option α :=
  (table.find? (fun e => e.1.toList == name)).map Prod.snd

/-- The rank of warnings. -/
def warning : Nat := 30

/-- The rank that a name stands for. -/
def rank (name : Text) : Except LevelFault Nat :=
  let name := name.flatMap capitals
  match lookup? taken name with
  | some fault => .error fault
  | none => .ok ((lookup? ranks name).getD warning)

/-- The pattern of the journal's lines, in the three styles in which it can be written. -/
def percentPattern : String := "%(levelname)s:%(name)s:%(message)s"

@[inherit_doc percentPattern]
def bracePattern : String := "\x7blevelname\x7d:\x7bname\x7d:\x7bmessage\x7d"

@[inherit_doc percentPattern]
def dollarPattern : String := "$\x7blevelname\x7d:$\x7bname\x7d:$\x7bmessage\x7d"

/-- The styles, each with its mark, its name and the pattern written in it. -/
def styles : List (Char × String × String) :=
  [('%', "PercentStyle", percentPattern), ('\x7b', "StrFormatStyle", bracePattern),
    ('$', "StringTemplateStyle", dollarPattern)]

/-- A style as it is told. -/
def styleShown (s : Char × String × String) : Text :=
  Quoted.ofText [s.1] ++ ": (<class 'logging.".toList ++ s.2.1.toList ++ "'>, ".toList ++
    Quoted.ofText s.2.2.toList ++ [')']

end Level

/-- The text of a refusal: it shows the setting that has the name. -/
def LevelFault.message : LevelFault → Text
  | pattern => "Unknown level: ".toList ++ Quoted.ofText Level.percentPattern.toList
  | styles =>
    "Level not an integer or a valid string: \x7b".toList ++
      ((Level.styles.map Level.styleShown).intersperse ", ".toList).flatten ++ ['\x7d']

end PackageCatalog
