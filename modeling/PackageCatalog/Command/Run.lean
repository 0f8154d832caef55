import PackageCatalog.Command.Line
import PackageCatalog.Command.Session
import PackageCatalog.Store.Pool

/-!
# Running commands

Each command as an action, and the course of a command line from its words to its exit code.

## Main definitions

* `Command.perform` - what a command does.
* `Site` - the files and databases that are there from one command to the next.
* `Ending`, `Outcome` - how a command ended, and what was seen of it.
* `Site.run` - a command line is carried out.
-/

namespace PackageCatalog

/-- The options that a request stands for. -/
def SearchRequest.options (r : SearchRequest) : Checked SearchOptions :=
  let texts := fun ts : List Text => Datum.list (ts.map .text)
  SearchOptions.ofRecord [
    ("keywords".toList, texts r.keywords), ("patterns".toList, texts r.patterns),
    ("packages".toList, texts r.packages), ("paths".toList, texts r.paths),
    ("restpaths".toList, texts r.restpaths), ("suffixes".toList, texts r.suffixes),
    ("offset".toList, .integer r.offset),
    ("limit".toList, match r.limit with
      | some n => .integer n
      | none => .null)]

/-- A text unless it is missing or empty. -/
def nonEmpty? (t : Option Text) : Option Text := t.filter (fun t => !t.isEmpty)

namespace Session

/-! ### Packages -/

/-- The files of a package are indexed, and the outcome is told; `lead` stands before an error. -/
def index (s : Surroundings) (lead : String) (p : PackageConfig) : Action Unit := do
  let session ← get
  let run := session.table.indexPackage s.detect session.tree p
  setTable run.table
  if session.threshold ≤ Severity.info.rank then note (run.notices s.detect session.tree p)
  match run.failure with
  | none => say ("  ".toList ++ run.tally.summary)
  | some e =>
    if e.isSystem || e.isEncoding then refuse (lead.toList ++ errorText e.message)
    else throw (.failed e)

/-- The name of a package in single quotes. -/
def quotedName (name : Text) : Text := '\'' :: (name ++ ['\''])

/-- The complaint that a package is not registered. -/
def unknownPackage (name : Text) : Text :=
  errorText ("Package ".toList ++ quotedName name ++ " not found".toList)

/-- Whether a name leads to a directory; one that cannot be looked at does not. -/
def isDirectory (tree : FileTree) (path : Text) : Bool :=
  match tree.stat (NativeName.ofText path) with
  | .ok entry => FileTree.isDirectoryEntry entry
  | .error _ => false

/-- A directory is registered as a package and indexed. -/
def addPackage (s : Surroundings) (path : Text) (name : Option Text) (glob : Text)
    (ignore : List Text) : Action Unit := do
  let session ← get
  let full := Path.absolute "/tmp/pkgx".toList path
  if !isDirectory session.tree full then
    refuse (errorText ("Path ".toList ++ full ++ " is not a directory".toList))
  let name := (nonEmpty? name).getD (Path.baseName (Path.collapse full))
  if (session.config.findPackage? name).isSome then
    refuse (errorText ("Package ".toList ++ quotedName name ++ " already exists".toList))
  let p : PackageConfig := ⟨name, full, glob, ignore⟩
  saveConfig s.home { session.config with packages := session.config.packages ++ [p] }
  say (styled "green" "Added package:".toList ++ ' ' :: (name ++ " -> ".toList ++ full))
  index s "" p

/-- Packages are indexed one after the other; `i` is the number of the first. -/
def updateEach (s : Surroundings) (count : Nat) : Nat → List PackageConfig → Action Unit
  | _, [] => return ()
  | i, p :: ps => do
    let place := '[' :: (Text.ofNat i ++ '/' :: (Text.ofNat count ++ [']']))
    say (styled "cyan" place ++ ' ' :: styled "bold" p.name)
    index s "  " p
    updateEach s count (i + 1) ps

/-- One package or all are indexed again. -/
def updatePackages (s : Surroundings) (name : Option Text) : Action Unit := do
  let config := (← get).config
  let packages ← match nonEmpty? name with
    | none => pure config.packages
    | some name =>
      match config.findPackage? name with
      | none => refuse (unknownPackage name)
      | some p => pure [p]
  if packages.isEmpty then say (styled "yellow" "No packages to update.".toList)
  else updateEach s packages.length 1 packages

/-- A package is no longer registered, and its documents are removed, in the order of their paths
below it; an empty name stands for all documents, in the order of their numbers. -/
def removePackage (s : Surroundings) (name : Text) : Action Unit := do
  let config := (← get).config
  if (config.findPackage? name).isNone then refuse (unknownPackage name)
  saveConfig s.home { config with packages := config.packages.filter (fun p => p.name != name) }
  let ds ← ask (fun t => t.below (some name))
  for d in if name.isEmpty then ds else inOrder ds do removeDocument d.path
  say (styled "yellow" "Removed package:".toList ++ ' ' :: (name ++ " (".toList ++
    Text.ofNat ds.length ++ " documents)".toList))

/-- The number of documents of a package among counts. -/
def countOf (counts : List (Cell × Nat)) (name : Text) : Nat :=
  ((counts.find? (fun c => c.1 == .text name)).map Prod.snd).getD 0

/-- The registered packages are shown. -/
def listPackages : Action Unit := do
  let packages := (← get).config.packages
  if packages.isEmpty then say "No packages registered.".toList
  else
    let counts ← ask Table.packageCounts
    showGrid {
      title := some "Packages"
      framed := true
      columns := [
        { header := "Name", cells := packages.map (·.name) },
        { header := "Path", cells := packages.map (·.path) },
        { header := "Glob", cells := packages.map (·.globPattern) },
        { header := "Docs", align := .right,
          cells := packages.map (fun p => Text.ofNat (countOf counts p.name)) }] }

/-! ### Documents -/

/-- A number of at least four characters. -/
def lineNumber (n : Nat) : Text := Text.padLeft 4 (Text.ofNat n)

/-- The heading of a document. -/
def heading (t : Text) : Text := styled "bold cyan" t

/-- A document that was found, with the lines that show why. -/
def showHit (needles : List Text) (d : Document) : Action Unit := do
  say (heading d.shortpath)
  for (n, line) in matchingLines d.content needles excerptLength do
    sayRow ("  ".toList ++ styled "dim" (lineNumber n ++ [':']) ++ [' '])
    sayPlain line

/-- The words of the first complaint. -/
def firstComplaint (cs : List Complaint) : Text :=
  match cs with
  | c :: _ => c.flaw.words.toList
  | [] => []

/-- Documents are searched. -/
def searchDocuments (r : SearchRequest) : Action Unit := do
  let options ← match r.options with
    | .ok o => pure o
    | .error cs => refuse (errorText (firstComplaint cs))
  let ds ← ask (fun t => t.search options)
  if ds.isEmpty then say (styled "yellow" "No results found.".toList)
  else match r.format with
    | .json => echo (jsonListing ds)
    | .files => echo (shortListing ds)
    | .lines =>
      for d in ds do showHit (r.patterns ++ r.keywords) d
      say ('\n' :: styled "dim" (Text.ofNat ds.length ++ " result(s)".toList))

/-- A result of looking up a short path; an error of the catalogue or of the system is told. -/
def orRefuse {α : Type} : Except Failure α → Action α
  | .ok a => return a
  | .error e => if e.isOwn || e.isSystem then refuse (errorText e.message) else throw (.failed e)

/-- The documents below a short path are shown with their sizes and dates. -/
def listDocuments (shortpath : Option Text) : Action Unit := do
  let ds ← orRefuse ((← get).table.below shortpath)
  if ds.isEmpty then say (styled "yellow" "No files found.".toList)
  else showGrid (← attempt (sizeListing (inOrder ds)))

/-- The content of a document is shown. -/
def showDocument (shortpath : Text) (numbered : Bool) : Action Unit := do
  match ← orRefuse ((← get).table.findShort (some shortpath)) with
  | none => refuse (styled "red" "Document not found:".toList ++ ' ' :: shortpath)
  | some d =>
    say (heading "Path:".toList ++ ' ' :: d.path)
    say (List.replicate 40 '-')
    for (line, n) in numberedLines d.content do
      if numbered then sayRow (styled "dim" (lineNumber n ++ " | ".toList))
      sayPlain line

/-- Every row of the table is shown. -/
def dumpDocuments : Action Unit := do
  let ds ← ask (fun t => t.documents.mapError .store)
  note (ds.map (fun d => .shown d.toContents))
  for d in ds do sayPlain d.shownRow

/-- A document is removed if its file is gone; returns the number of removed documents. -/
def sweepDocument (d : Document) : Action Nat := do
  let session ← get
  let sweep := session.table.sweep session.tree [d]
  for d in sweep.reported do
    say ("  ".toList ++ styled "dim" "removed".toList ++ ' ' :: d.shortpath)
  setTable sweep.table
  note (sweep.removed.map (fun d => .removed d.path))
  match sweep.failure with
  | some e => throw (.failed e)
  | none => return sweep.removed.length

/-- Documents whose file is gone are removed one after the other. -/
def sweepEach : List Document → Action Nat
  | [] => return 0
  | d :: ds => do
    let n ← sweepDocument d
    let m ← sweepEach ds
    return n + m

/-- The documents of one package or of all whose file is gone are removed. -/
def cleanupDocuments (package : Option Text) : Action Unit := do
  let ds ← ask (fun t => match nonEmpty? package with
    | some p => (t.packageDocuments p).mapError .store
    | none => t.documents.mapError .store)
  let n ← sweepEach ds
  say (styled "bold green" "Cleanup complete:".toList ++ ' ' ::
    (Text.ofNat n ++ " documents removed".toList))

/-! ### The program itself -/

/-- The width of the labels of the status. -/
def labelWidth : Nat := 10

/-- The state of the index is shown.  The column of values has room for the size of the file. -/
def showStatus : Action Unit := do
  let config := (← get).config
  let fileSize ← attempt (sizeText (← get).fileSize)
  let size ← ask (fun t => t.size.mapError .store)
  showGrid {
    title := some "Index Status"
    headed := false
    columns := [
      { header := "Metric", least := labelWidth,
        cells := ["Index".toList, "Packages".toList, "Documents".toList] },
      { header := "Value", least := fileSize.length,
        cells := [config.dbPath, Text.ofNat config.packages.length, Text.ofNat size] }] }
  let counts ← ask Table.packageCounts
  if !counts.isEmpty then
    showGrid {
      title := some "Packages Break-down"
      columns := [
        { header := "Package", cells := counts.map (fun c => c.1.plain) },
        { header := "Docs", cells := counts.map (fun c => Text.ofNat c.2) }] }

/-- The configuration is shown. -/
def showConfiguration (s : Surroundings) : Action Unit := do
  let config := (← get).config
  say ("Config path: ".toList ++ styled "cyan" s.home.configPath)
  showGrid {
    title := some "Configuration"
    framed := true
    columns := [
      { header := "Key",
        cells := ["db_path".toList, "log_level".toList, "Packages count".toList] },
      { header := "Value",
        cells := [config.dbPath, config.logLevel, Text.ofNat config.packages.length] }] }

/-- The configuration with another value of a key that can be set. -/
def withSetting (config : AppConfig) (key value : Text) : Option AppConfig :=
  if key == "db_path".toList then some { config with dbPath := value }
  else if key == "log_level".toList then some { config with logLevel := value }
  else none

/-- A value of the configuration is set. -/
def setConfiguration (s : Surroundings) (key value : Text) : Action Unit := do
  match withSetting (← get).config key value with
  | none => refuse (errorText ("Unknown key ".toList ++ quotedName key))
  | some config =>
    saveConfig s.home config
    say (styled "green" ("Set ".toList ++ key ++ " to:".toList) ++ ' ' :: value)

end Session

open Session in
/-- What a command does. -/
def Command.perform (s : Surroundings) : Command → Action Unit
  | showConfig => showConfiguration s
  | setConfig key value => setConfiguration s key value
  | add path name glob ignore => addPackage s path name glob ignore
  | update name => updatePackages s name
  | remove name => removePackage s name
  | list => listPackages
  | search request => searchDocuments request
  | ls shortpath => listDocuments shortpath
  | get shortpath numbered => showDocument shortpath numbered
  | dump => dumpDocuments
  | cleanup package => cleanupDocuments package
  | status => showStatus

/-! ### Command lines -/

/-- What is there from one command to the next: the files, and the databases in them. -/
structure Site where
  tree : FileTree := FileTree.empty
  pool : Pool := {}
  /-- The pictures that the console knows. -/
  gallery : Gallery := Gallery.standard

/-- How a command line ended. -/
inductive Ending
  | done
  /-- The command has said why it did not go on. -/
  | refused
  | failed (e : Failure)
  /-- The words are not those of a command. -/
  | misused
  /-- The words ask how the program is used. -/
  | helped

/-- The exit code of the program. -/
def Ending.code : Ending → Nat
  | done => 0
  | refused => 1
  | failed _ => 1
  | misused => 2
  | helped => 0

/-- The ending of a command line that is not carried out. -/
def Ending.ofUnread : Unread → Ending
  | .misused => misused
  | .helped => helped

/-- What was seen of a command line. -/
structure Outcome where
  ending : Ending
  output : Text := []
  notices : List Notice := []

namespace Site

/-- The size of a database file that has just been made. -/
def newFileSize : Nat := 4096

/-- The size of a database file whose connections have been closed before, as long as it is
small. -/
def settledFileSize : Nat := 40960

/-- The size of a directory. -/
def directorySize : Nat := 4096

/-- The size of the file of a name after a database was opened; `before` is the tree as it was
when that began.  A name that leads nowhere stands for no octets. -/
def fileSize (before after : FileTree) (name : Text) : Nat :=
  let entry? := fun tree : FileTree => (tree.stat (NativeName.ofText name)).toOption
  match entry? after with
  | none => 0
  | some (.file (.octets content) _) => content.length
  | some (.file (.database n) _) =>
    match entry? before with
    | some (.file (.database m) _) => if m = n then settledFileSize else newFileSize
    | _ => newFileSize
  | some _ => directorySize

/-- The subcommand of an invocation is carried out in a session with the table of a connection,
and the connection is closed at the end.  The level of the journal is looked at before the words
of the subcommand are. -/
def perform (site : Site) (s : Surroundings) (config : AppConfig) (connection fileSize : Nat)
    (invocation : Invocation) : Site × Outcome :=
  let closed := { site with pool := site.pool.close connection }
  match Level.rank ((nonEmpty? invocation.logLevel).getD config.logLevel) with
  | .error e => (closed, { ending := .failed (.badLevel e) })
  | .ok threshold =>
    match invocation.verb.read invocation.words with
    | .error e => (closed, { ending := .ofUnread e })
    | .ok command =>
      let session : Session :=
        { gallery := site.gallery, tree := site.tree, config,
          table := site.pool.table connection, threshold, fileSize }
      let (result, session) := (command.perform s).run.run session
      let ending := match result with
        | .ok () => Ending.done
        | .error .refused => .refused
        | .error (.failed e) => .failed e
      ({ site with
         tree := session.tree,
         pool := (site.pool.keep connection session.table).close connection },
        ⟨ending, session.output, session.notices⟩)

/-- A command line is carried out.  The configuration is read and the database is opened before
the words behind the name of the command are looked at. -/
def run (site : Site) (s : Surroundings) (words : List Text) : Site × Outcome :=
  match Invocation.read words with
  | .error e => (site, { ending := .ofUnread e })
  | .ok invocation =>
    match AppConfig.load s.home site.tree s.home.configPath with
    | .error e => (site, { ending := .failed e })
    | .ok config =>
      match site.pool.openFile site.tree config.dbPath with
      | (tree, pool, .error e) => ({ site with tree, pool }, { ending := .failed e })
      | (tree, pool, .ok connection) =>
        perform { site with tree, pool } s config connection
          (fileSize site.tree tree config.dbPath) invocation

end Site

end PackageCatalog
