import PackageCatalog.Text.Basic

/-!
# Switches

The words of a command line are switches with their values, and operands.

## Main definitions

* `Switch` - the switches of all commands, with their names.
* `Arguments` - a command line taken apart.
* `Arguments.read?` - the arguments of words, when every switch is known and has its value.
-/

namespace PackageCatalog

/-- The switches of the program and of its commands. -/
inductive Switch
  | help
  | logLevel
  | name
  | glob
  | ignore
  | pattern
  | package
  | path
  | restpath
  | suffix
  | offset
  | limit
  | format
  | lineNumbers
  deriving DecidableEq, Repr

namespace Switch

/-- The long name of a switch. -/
def long : Switch → String
  | help => "--help"
  | logLevel => "--log-level"
  | name => "--name"
  | glob => "--glob"
  | ignore => "--ignore"
  | pattern => "--pattern"
  | package => "--package"
  | path => "--path"
  | restpath => "--restpath"
  | suffix => "--suffix"
  | offset => "--offset"
  | limit => "--limit"
  | format => "--format"
  | lineNumbers => "--line-numbers"

/-- The letter of a switch that can be given by one. -/
def letter? : Switch → Option Char
  | package => some 'p'
  | suffix => some 's'
  | limit => some 'n'
  | _ => none

/-- Whether a value belongs to a switch. -/
def takesValue : Switch → Bool
  | help => false
  | lineNumbers => false
  | _ => true

/-- The switch of a long name among those allowed. -/
def ofLong? (allowed : List Switch) (t : Text) : Option Switch :=
  allowed.find? (fun s => s.long.toList == t)

/-- The switch of a letter among those allowed. -/
def ofLetter? (allowed : List Switch) (c : Char) : Option Switch :=
  allowed.find? (fun s => s.letter? == some c)

end Switch

/-- A command line taken apart: its switches in the order in which they are given, each with its
value or with an empty text, and its operands. -/
structure Arguments where
  given : List (Switch × Text) := []
  operands : List Text := []
  deriving DecidableEq, Repr

namespace Arguments

/-- Whether a switch is given. -/
def has (a : Arguments) (s : Switch) : Bool := a.given.any (fun g => g.1 == s)

/-- All values of a switch. -/
def all (a : Arguments) (s : Switch) : List Text :=
  (a.given.filter (fun g => g.1 == s)).map Prod.snd

/-- The last value of a switch. -/
def last? (a : Arguments) (s : Switch) : Option Text := (a.all s).getLast?

/-- Arguments with an operand in front. -/
def withOperand (operand : Text) (a : Arguments) : Arguments :=
  { a with operands := operand :: a.operands }

/-- The switches of one word, and the one among them whose value is the next word. -/
abbrev Reading := List (Switch × Text) × Option Switch

/-- The switches of a word that has their letters behind its hyphen: behind the letter of a switch
with a value stands that value. -/
def readLetters? (allowed : List Switch) : Text → Option Reading
  | [] => some ([], none)
  | c :: t =>
    match Switch.ofLetter? allowed c with
    | none => none
    | some s =>
      if s.takesValue then
        if t.isEmpty then some ([], some s) else some ([(s, t)], none)
      else (readLetters? allowed t).map (fun r => ((s, []) :: r.1, r.2))

/-- The switches of a word that starts with a hyphen.  Behind an equals sign stands the value of a
long name. -/
def readWord? (allowed : List Switch) (word : Text) : Option Reading :=
  let name := word.takeWhile (· != '=')
  match Switch.ofLong? allowed name, word.drop name.length with
  | some s, [] => if s.takesValue then some ([], some s) else some ([(s, [])], none)
  | some s, _ :: value => if s.takesValue then some ([(s, value)], none) else none
  | none, _ => if Text.startsWith word "--".toList then none else readLetters? allowed (word.drop 1)

/-- Whether a word is read as switches: it starts with a hyphen and has something behind it. -/
def isSwitchWord : Text → Bool
  | '-' :: _ :: _ => true
  | _ => false

/-- The arguments of words.  After a double hyphen all words are operands; without `mixed` they
are from the first operand on. -/
def read? (allowed : List Switch) (mixed : Bool) : List Text → Option Arguments
  | [] => some {}
  | word :: rest =>
    if word == "--".toList then some { operands := rest }
    else if isSwitchWord word then
      match readWord? allowed word with
      | none => none
      | some (given, none) =>
        (read? allowed mixed rest).map (fun a => { a with given := given ++ a.given })
      | some (given, some s) =>
        match rest with
        | [] => none
        | value :: rest =>
          (read? allowed mixed rest).map (fun a =>
            { a with given := given ++ (s, value) :: a.given })
    else if mixed then (read? allowed mixed rest).map (withOperand word)
    else some { operands := word :: rest }

end Arguments

end PackageCatalog
