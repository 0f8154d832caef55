import PackageCatalog.Command.Switch
import PackageCatalog.Number.Integer

/-!
# Command lines

What the words of a command line ask for.  The program first looks for the command and only then,
when its surroundings are known to be in order, at the words that belong to the command.

## Main definitions

* `Verb` - the commands by name.
* `Command` - a command with its arguments.
* `Invocation.read` - the command that is called, before its words are looked at.
* `Verb.read` - the command that words stand for.
-/

namespace PackageCatalog

/-- Why a command line is not carried out. -/
inductive Unread
  /-- Its words are not those of a command. -/
  | misused
  /-- It asks how the program is used. -/
  | helped
  deriving DecidableEq, Repr

/-- A command by its name. -/
inductive Verb
  | config
  | add
  | update
  | remove
  | list
  | search
  | ls
  | get
  | dump
  | cleanup
  | status
  deriving DecidableEq, Repr

namespace Verb

/-- All commands. -/
def all : List Verb := [config, add, update, remove, list, search, ls, get, dump, cleanup, status]

/-- The name of a command. -/
def name : Verb → String
  | config => "config"
  | add => "add"
  | update => "update"
  | remove => "remove"
  | list => "list"
  | search => "search"
  | ls => "ls"
  | get => "get"
  | dump => "dump"
  | cleanup => "cleanup"
  | status => "status"

/-- The command of a name. -/
def ofName? (t : Text) : Option Verb := all.find? (fun v => v.name.toList == t)

/-- The switches of a command. -/
def switches : Verb → List Switch
  | add => [.help, .name, .glob, .ignore]
  | search =>
    [.help, .pattern, .package, .path, .restpath, .suffix, .offset, .limit, .format]
  | get => [.help, .lineNumbers]
  | cleanup => [.help, .package]
  | _ => [.help]

end Verb

/-- The form in which a search is answered. -/
inductive Format
  /-- Short paths with the lines that were found. -/
  | lines
  | json
  /-- Short paths alone. -/
  | files
  deriving DecidableEq, Repr

/-- The format of a name. -/
def Format.ofName? (t : Text) : Option Format :=
  if t == "cli".toList then some lines
  else if t == "json".toList then some json
  else if t == "files".toList then some files
  else none

/-- The words of a search. -/
structure SearchRequest where
  keywords : List Text := []
  patterns : List Text := []
  packages : List Text := []
  paths : List Text := []
  restpaths : List Text := []
  suffixes : List Text := []
  offset : Int := 0
  limit : Option Int := none
  format : Format := .lines
  deriving DecidableEq, Repr

/-- A command with its arguments. -/
inductive Command
  | showConfig
  | setConfig (key value : Text)
  | add (path : Text) (name : Option Text) (glob : Text) (ignore : List Text)
  | update (name : Option Text)
  | remove (name : Text)
  | list
  | search (request : SearchRequest)
  | ls (shortpath : Option Text)
  | get (shortpath : Text) (numbered : Bool)
  | dump
  | cleanup (package : Option Text)
  | status
  deriving DecidableEq, Repr

/-- A command that is called: its name, the words behind it, and the level of logging. -/
structure Invocation where
  verb : Verb
  words : List Text
  logLevel : Option Text
  deriving DecidableEq, Repr

/-- The command that a command line calls. -/
def Invocation.read (words : List Text) : Except Unread Invocation :=
  match Arguments.read? [.help, .logLevel] false words with
  | none => .error .misused
  | some a =>
    if a.has .help then .error .helped
    else
      match a.operands with
      | [] => .error .misused
      | name :: words =>
        match Verb.ofName? name with
        | none => .error .misused
        | some verb => .ok ⟨verb, words, a.last? .logLevel⟩

/-- The arguments of a command, unless help is asked for. -/
def readArguments (allowed : List Switch) (mixed : Bool) (words : List Text) :
    Except Unread Arguments :=
  match Arguments.read? allowed mixed words with
  | none => .error .misused
  | some a => if a.has .help then .error .helped else .ok a

/-- The only operand. -/
def Arguments.operand (a : Arguments) : Except Unread Text :=
  match a.operands with
  | [t] => .ok t
  | _ => .error .misused

/-- The only operand, which may be missing. -/
def Arguments.optionalOperand (a : Arguments) : Except Unread (Option Text) :=
  match a.operands with
  | [] => .ok none
  | [t] => .ok (some t)
  | _ => .error .misused

/-- A command without operands. -/
def Arguments.bare (a : Arguments) (c : Command) : Except Unread Command :=
  if a.operands.isEmpty then .ok c else .error .misused

/-- The last value of a switch as an integer. -/
def Arguments.integer? (a : Arguments) (s : Switch) : Except Unread (Option Int) :=
  match a.last? s with
  | none => .ok none
  | some t =>
    match Integer.read 10 t with
    | .ok n => .ok (some n)
    | .error _ => .error .misused

/-- The format that a search asks for. -/
def Arguments.format (a : Arguments) : Except Unread Format :=
  match a.last? .format with
  | none => .ok .lines
  | some t =>
    match Format.ofName? t with
    | some f => .ok f
    | none => .error .misused

/-- The search that arguments ask for. -/
def SearchRequest.ofArguments (a : Arguments) : Except Unread SearchRequest := do
  let offset ← a.integer? .offset
  let limit ← a.integer? .limit
  let format ← a.format
  return {
    keywords := a.operands, patterns := a.all .pattern, packages := a.all .package,
    paths := a.all .path, restpaths := a.all .restpath, suffixes := a.all .suffix,
    offset := offset.getD 0, limit, format }

/-- The command about the configuration that words stand for. -/
def readConfigCommand (words : List Text) : Except Unread Command :=
  match readArguments [.help] false words with
  | .error e => .error e
  | .ok a =>
    match a.operands with
    | [] => .error .misused
    | name :: words =>
      if name == "show".toList then do
        let a ← readArguments [.help] true words
        a.bare .showConfig
      else if name == "set".toList then do
        let a ← readArguments [.help] true words
        match a.operands with
        | [key, value] => .ok (.setConfig key value)
        | _ => .error .misused
      else .error .misused

/-- The command that words stand for. -/
def Verb.read (v : Verb) (words : List Text) : Except Unread Command :=
  let arguments := readArguments v.switches true words
  match v with
  | .config => readConfigCommand words
  | .add => do
    let a ← arguments
    let path ← a.operand
    return .add path (a.last? .name) ((a.last? .glob).getD "**/*".toList) (a.all .ignore)
  | .update => do return .update (← (← arguments).optionalOperand)
  | .remove => do return .remove (← (← arguments).operand)
  | .list => do (← arguments).bare .list
  | .search => do return .search (← SearchRequest.ofArguments (← arguments))
  | .ls => do return .ls (← (← arguments).optionalOperand)
  | .get => do
    let a ← arguments
    return .get (← a.operand) (a.has .lineNumbers)
  | .dump => do (← arguments).bare .dump
  | .cleanup => do
    let a ← arguments
    a.bare (.cleanup (a.last? .package))
  | .status => do (← arguments).bare .status

end PackageCatalog
