import PackageCatalog.Canonical
import PackageCatalog.Command.Level
import PackageCatalog.Console.Markup
import PackageCatalog.Crawl.Glob
import PackageCatalog.Number.Calendar
import PackageCatalog.Store.Basic
import PackageCatalog.Validation
import PackageCatalog.Yaml.Fault

/-!
# Failures

Every cause for which an operation of the catalogue can fail, and the text that tells it.

## Main definitions

* `Failure` - the causes.
* `Failure.message` - their text.
* `Failure.isOwn`, `Failure.isSystem`, `Failure.isEncoding` - the families that commands catch.
-/

namespace PackageCatalog

/-- Why an operation fails. -/
inductive Failure
  | file (e : FileError)
  /-- A name or content has no text. -/
  | undecodable (e : Undecodable)
  | store (e : StoreError)
  /-- A short path without a package. -/
  | badShortpath (shortpath : Option Text)
  /-- A stored time stamp is a text, so it is neither older nor newer. -/
  | incomparable
  | glob (e : GlobError)
  | clock (e : ClockError)
  /-- A size is too large to be divided. -/
  | sizeTooLarge
  /-- Data does not have the shape that is asked for. -/
  | invalid (complaints : List Complaint)
  /-- The configuration file is not well formed. -/
  | badSyntax
  /-- The configuration file is not UTF-8. -/
  | badEncoding
  /-- A scalar of the configuration file looks like a number or date but is none. -/
  | badScalar (fault : Yaml.Fault)
  /-- The tags of a console message do not fit together. -/
  | badMarkup (fault : Markup.Fault)
  /-- A name is no level of the journal. -/
  | badLevel (fault : LevelFault)
  /-- The body of a transaction gives up. -/
  | abandoned

/-- A read error as a failure. -/
def ReadError.toFailure : ReadError → Failure
  | file e => .file e
  | undecodable e => .undecodable e

/-- The text of a clock error. -/
def ClockError.message : ClockError → Text
  | yearOutOfRange year => "year ".toList ++ Text.ofInt year ++ " is out of range".toList
  | secondsOutOfRange => "timestamp out of range for platform time_t".toList
  | calendarOverflow => "[Errno 75] Value too large for defined data type".toList

namespace Failure

/-- The text of a failure. -/
def message : Failure → Text
  | file e => e.message
  | undecodable e => e.message
  | store e => e.message
  | badShortpath none => "Invalid short path: None".toList
  | badShortpath (some s) => "Invalid short path: ".toList ++ Quoted.ofText s
  | incomparable => "'<' not supported between instances of 'str' and 'float'".toList
  | glob e => e.message.toList
  | clock e => e.message
  | sizeTooLarge => "integer division result too large for a float".toList
  | invalid _ => []
  | badSyntax => []
  | badEncoding => []
  | badScalar fault => fault.message
  | badMarkup fault => fault.message
  | badLevel fault => fault.message
  | abandoned => "abort".toList

/-- Whether the catalogue itself raises the failure. -/
def isOwn : Failure → Bool
  | undecodable _ => true
  | badShortpath _ => true
  | store (.notFound _) => true
  | _ => false

/-- Whether the system raises the failure. -/
def isSystem : Failure → Bool
  | file (.system _ _) => true
  | clock .calendarOverflow => true
  | _ => false

/-- Whether the failure is about encoding or decoding. -/
def isEncoding : Failure → Bool
  | undecodable _ => true
  | file .unencodable => true
  | store .brokenText => true
  | badEncoding => true
  | _ => false

end Failure

end PackageCatalog
