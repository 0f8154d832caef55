import PackageCatalog.Catalog

/-!
# Configuration

What a user configures: where the database is, how much is logged, and which packages are
registered.

## Main definitions

* `AppConfig` - a configuration.
* `Home` - where the configuration lives.
* `PackageConfig.ofDatum`, `AppConfig.ofDatum` - reading them out of untyped data.
* `PackageConfig.toDatum`, `AppConfig.toDatum` - the data they are.
* `AppConfig.findPackage?` - the first package of a name.
-/

namespace PackageCatalog

/-- A configuration. -/
structure AppConfig where
  dbPath : Text
  logLevel : Text
  packages : List PackageConfig
  deriving DecidableEq, Repr

/-- The settings of the surroundings that say where the configuration lives. -/
structure Home where
  /-- The directory chosen for the program, if one is. -/
  chosen : Option Text
  /-- The home directory of the user. -/
  user : Text
  deriving DecidableEq, Repr

namespace Home

/-- The directory of the configuration: the chosen one unless it is empty, or a hidden directory
of the user. -/
def directory (h : Home) : Text :=
  match h.chosen with
  | some (c :: chosen) => Path.tidy (c :: chosen)
  | _ => Path.tidy (Path.join h.user ".pkgindex".toList)

/-- A file in the directory of the configuration. -/
def file (h : Home) (name : String) : Text := Path.tidy (Path.join h.directory name.toList)

/-- The path of the configuration file. -/
def configPath (h : Home) : Text := h.file "config.yml"

/-- The path of the database when none is configured. -/
def databasePath (h : Home) : Text := h.file "pkgindex.db"

end Home

/-! ### Reading -/

/-- The package that a value describes. -/
def PackageConfig.ofDatum : Datum → Checked PackageConfig
  | .record entries =>
    let name := Checked.field Checked.text "name" entries
    let path := Checked.field Checked.text "path" entries
    let glob := Checked.fieldOr "**/*".toList Checked.text "glob_pattern" entries
    let ignore := Checked.fieldOr [] (Checked.list Checked.text) "ignore" entries
    match ((name.both path).both glob).both ignore with
    | .ok (((name, path), globPattern), ignore) => .ok { name, path, globPattern, ignore }
    | .error e => .error e
  | _ => Checked.flawed (.notRecord "PackageConfig")

/-- The configuration that a value describes. -/
def AppConfig.ofDatum (home : Home) : Datum → Checked AppConfig
  | .record entries =>
    let dbPath := Checked.fieldOr home.databasePath Checked.text "db_path" entries
    let logLevel := Checked.fieldOr "warning".toList Checked.text "log_level" entries
    let packages := Checked.fieldOr [] (Checked.list PackageConfig.ofDatum) "packages" entries
    match (dbPath.both logLevel).both packages with
    | .ok ((dbPath, logLevel), packages) => .ok { dbPath, logLevel, packages }
    | .error e => .error e
  | _ => Checked.flawed (.notRecord "AppConfig")

/-- The configuration when nothing is configured. -/
def AppConfig.standard (home : Home) : AppConfig :=
  ⟨home.databasePath, "warning".toList, []⟩

/-! ### Writing -/

/-- A package as data. -/
def PackageConfig.toDatum (p : PackageConfig) : Datum :=
  .record [("name".toList, .text p.name), ("path".toList, .text p.path),
    ("glob_pattern".toList, .text p.globPattern),
    ("ignore".toList, .list (p.ignore.map .text))]

/-- A configuration as data. -/
def AppConfig.toDatum (c : AppConfig) : Datum :=
  .record [("db_path".toList, .text c.dbPath), ("log_level".toList, .text c.logLevel),
    ("packages".toList, .list (c.packages.map PackageConfig.toDatum))]

/-- The first registered package of a name. -/
def AppConfig.findPackage? (c : AppConfig) (name : Text) : Option PackageConfig :=
  c.packages.find? (fun p => p.name == name)

end PackageCatalog
