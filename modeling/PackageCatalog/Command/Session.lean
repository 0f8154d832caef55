import PackageCatalog.Command.Journal
import PackageCatalog.Config.File

/-!
# Sessions

A command works in a session: it has the configuration and the table of documents, prints, and
makes notes.  When it stops early, all that it did until then stays done.

## Main definitions

* `Surroundings`, `Session` - what a command is given, and what it changes.
* `Action` - a step of a command.
* `Session.say`, `Session.refuse`, `Session.showGrid` - printing.
* `Session.attempt`, `Session.ask`, `Session.saveConfig` - work that may fail.
-/

namespace PackageCatalog

/-- What a command finds when it starts and cannot change. -/
structure Surroundings where
  home : Home
  detect : Detector

/-- The state of a command at work. -/
structure Session where
  /-- The pictures that are shown in the place of their names. -/
  gallery : Gallery
  tree : FileTree
  config : AppConfig
  table : Table
  /-- The rank from which on notes are kept. -/
  threshold : Nat
  /-- The octets of the file of the table when the command started. -/
  fileSize : Nat
  /-- What was printed, latest first. -/
  printed : List Text := []
  notices : List Notice := []

/-- What stops a command. -/
inductive Stop
  /-- The command has said why it does not go on. -/
  | refused
  | failed (e : Failure)

/-- A step of a command: it changes the session, and returns a value or stops the command. -/
abbrev Action (α : Type) := ExceptT Stop (StateM Session) α

namespace Session

/-- All that was printed. -/
def output (s : Session) : Text := s.printed.reverse.flatten

/-- Text is printed as it is. -/
def echo (t : Text) : Action Unit := modify (fun s => { s with printed := t :: s.printed })

/-- A result, or the failure that stops the command. -/
def attempt {α : Type} : Except Failure α → Action α
  | .ok a => return a
  | .error e => throw (.failed e)

/-- The characters of a styled text that are shown. -/
def plain (t : Text) : Action Text := do
  attempt ((Markup.display (← get).gallery t).mapError .badMarkup)

/-- A styled text is printed. -/
def say (t : Text) : Action Unit := do echo (Layout.page (← plain t))

/-- A styled text is printed, and the next follows in the same row. -/
def sayRow (t : Text) : Action Unit := do echo (Layout.row (← plain t))

/-- A text without styles is printed. -/
def sayPlain (t : Text) : Action Unit := do echo (Layout.page ((← get).gallery.drawn t))

/-- A table with styled cells is printed. -/
def showGrid (g : Grid) : Action Unit := do
  echo (Grid.page (← attempt ((g.styled (← get).gallery).mapError .badMarkup)))

/-- A styled text is printed, and the command does not go on. -/
def refuse {α : Type} (t : Text) : Action α := do
  say t
  throw .refused

/-- A text that says what is wrong. -/
def errorText (t : Text) : Text := styled "red" "Error:".toList ++ ' ' :: t

/-- Notes are made; those below the threshold are forgotten. -/
def note (ns : List Notice) : Action Unit :=
  modify (fun s => { s with notices := s.notices ++ keptNotices s.threshold ns })

/-- The table is replaced. -/
def setTable (t : Table) : Action Unit := modify (fun s => { s with table := t })

/-- A question to the table. -/
def ask {α : Type} (f : Table → Except Failure α) : Action α := do
  attempt (f (← get).table)

/-- A document is removed from the table. -/
def removeDocument (path : Text) : Action Unit := do
  setTable (← ask (fun t => t.remove path))
  note [.removed path]

/-- The packages of the configuration are replaced, and the configuration is saved. -/
def saveConfig (home : Home) (config : AppConfig) : Action Unit := do
  modify (fun s => { s with config })
  let tree ← attempt ((config.save (← get).tree home.configPath).mapError .file)
  modify (fun s => { s with tree })

end Session

end PackageCatalog
