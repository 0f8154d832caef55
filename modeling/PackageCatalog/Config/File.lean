import PackageCatalog.Config.Basic
import PackageCatalog.Yaml.Style
import PackageCatalog.Yaml.Value

/-!
# The configuration file

A configuration is kept as a document with the keys in alphabetical order.

## Main definitions

* `AppConfig.written` - the text of a configuration.
* `AppConfig.ofBytes` - the configuration that octets hold.
* `AppConfig.load`, `AppConfig.save` - reading and writing the file.
-/

namespace PackageCatalog

/-! ### Writing -/

/-- A line with a key, behind `lead`, and a text as its value. -/
def writtenEntry (indent : Nat) (lead key : String) (value : Text) : Text :=
  let start := lead.toList ++ key.toList ++ [':']
  start ++ Yaml.writeScalar indent start.length value ++ ['\n']

/-- The lines of a key whose value is a list, given as the lines of its items. -/
def writtenList (lead key : String) (items : List Text) : Text :=
  let start := lead.toList ++ key.toList ++ [':']
  if items.isEmpty then start ++ " []\n".toList else start ++ '\n' :: items.flatten

/-- The lines of a package. -/
def PackageConfig.written (p : PackageConfig) : Text :=
  let item := fun t => "  -".toList ++ Yaml.writeScalar 4 3 t ++ ['\n']
  writtenEntry 4 "- " "glob_pattern" p.globPattern ++
    writtenList "  " "ignore" (p.ignore.map item) ++
    writtenEntry 4 "  " "name" p.name ++
    writtenEntry 4 "  " "path" p.path

/-- The text of a configuration. -/
def AppConfig.written (c : AppConfig) : Text :=
  writtenEntry 2 "" "db_path" c.dbPath ++
    writtenEntry 2 "" "log_level" c.logLevel ++
    writtenList "" "packages" (c.packages.map PackageConfig.written)

/-! ### Reading -/

/-- A fault of the file as a failure. -/
def Yaml.Fault.toFailure : Yaml.Fault → Failure
  | .malformed => .badSyntax
  | .undecodable => .badEncoding
  | e => .badScalar e

/-- The configuration that octets hold.  Nothing stands for the standard one. -/
def AppConfig.ofBytes (home : Home) (bs : Bytes) : Except Failure AppConfig :=
  match Yaml.read bs with
  | .error e => .error e.toFailure
  | .ok none => .ok (.standard home)
  | .ok (some .null) => .ok (.standard home)
  | .ok (some d) => (AppConfig.ofDatum home d).mapError .invalid

/-- The configuration of a file; a file that is not there stands for the standard one. -/
def AppConfig.load (home : Home) (tree : FileTree) (path : Text) : Except Failure AppConfig :=
  let name := NativeName.ofText path
  match tree.testEntry name (fun _ => true) with
  | .error e => .error (.file e)
  | .ok false => .ok (.standard home)
  | .ok true =>
    match tree.read name with
    | .error e => .error (.file e)
    | .ok bytes => AppConfig.ofBytes home bytes

/-- The time of change that a file gets when it is written now: later than its last one. -/
def writeTime (tree : FileTree) (name : NativeName) : Int :=
  match tree.stat name with
  | .ok (.file _ changed) => max recentTime (changed + 1000000000)
  | _ => recentTime

/-- The tree with a configuration in a file; missing directories above it are made. -/
def AppConfig.save (c : AppConfig) (tree : FileTree) (path : Text) :
    Except FileError FileTree := do
  let name := NativeName.ofText path
  let tree ← tree.makeParents (Path.tidy (Path.directory name))
  tree.write name (.octets (Utf8.encode c.written)) (writeTime tree name)

end PackageCatalog
