import PackageCatalog.NativeName

/-!
# Addresses of databases

A database is asked for by the path of its file, or by an address: `file:`, then the path, and
behind a `?` options that say how it is to be opened.  In both parts `%` and two hexadecimal
digits stand for an octet; everything from a `#` on is ignored.

## Main definitions

* `Address`, `Address.read?` - a path with options, and the one that a name writes.
* `OpenMode`, `Opening` - how a database is to be opened.
* `Address.opening` - what the options of an address ask for.
-/

namespace PackageCatalog

/-- Why an address is refused. -/
inductive AddressFault
  /-- The path is on another host. -/
  | foreignHost (host : Text)
  /-- An option has a value that is not one of its own. -/
  | unknownMode (kind : String) (value : Text)
  /-- An option asks for more than one before it has left. -/
  | modeRefused (value : Text)
  | unknownDriver (name : Text)
  deriving DecidableEq, Repr

/-- The text of an address fault. -/
def AddressFault.message : AddressFault → Text
  | foreignHost host => "invalid uri authority: ".toList ++ host
  | unknownMode kind value => "no such ".toList ++ kind.toList ++ " mode: ".toList ++ value
  | modeRefused value => "access mode not allowed: ".toList ++ value
  | unknownDriver name => "no such vfs: ".toList ++ name

/-- What may be done with a database that is opened. -/
inductive OpenMode
  | readOnly
  /-- It is read and written, but has to be there. -/
  | existing
  /-- It is read and written, and made when it is missing. -/
  | create
  /-- It is kept in memory. -/
  | memory
  deriving DecidableEq, Repr

/-- How a database is to be opened. -/
structure Opening where
  mode : OpenMode := .create
  /-- Whether connections that ask for the same name share what is kept in memory. -/
  shared : Bool := false
  /-- Whether the file is promised not to change. -/
  frozen : Bool := false
  deriving DecidableEq, Repr

/-- An address: the octets of the path and the options, a name and a value each. -/
structure Address where
  path : Bytes
  options : List (Bytes × Bytes)
  deriving DecidableEq, Repr

namespace Address

/-- The mark that an address begins with. -/
def scheme : Text := "file:".toList

/-- The octets that a part of an address writes.  A zero octet ends the part. -/
def decode : Text → Bytes
  | [] => []
  | '%' :: a :: b :: t =>
    match Text.hexDigit? a, Text.hexDigit? b with
    | some x, some y => if x * 16 + y = 0 then [] else UInt8.ofNat (x * 16 + y) :: decode t
    | _, _ => Utf8.encodeChar '%' ++ decode (a :: b :: t)
  | c :: t => Utf8.encodeChar c ++ decode t

/-- A text cut at the first of a character, which belongs to neither part. -/
def cut (mark : Char) (t : Text) : Text × Text :=
  (t.takeWhile (· != mark), (t.dropWhile (· != mark)).drop 1)

/-- The options of a query, those without a name left out. -/
def readOptions (query : Text) : List (Bytes × Bytes) :=
  ((Text.pieces '&' query).map (fun o => (decode (cut '=' o).1, decode (cut '=' o).2))).filter
    (fun o => !o.1.isEmpty)

/-- The address whose path and options a text writes. -/
def ofText (t : Text) : Address :=
  let (path, query) := cut '?' (cut '#' t).1
  ⟨decode path, readOptions query⟩

/-- What stands behind the host of a text.  A path on this host may name it or leave it empty. -/
def afterHost (t : Text) : Except AddressFault Text :=
  match t with
  | '/' :: '/' :: t =>
    let host := t.takeWhile (· != '/')
    if host.isEmpty || host == "localhost".toList then .ok (t.dropWhile (· != '/'))
    else .error (.foreignHost host)
  | t => .ok t

/-- The address that a name writes; none when the name is a plain path. -/
def read? (name : Text) : Option (Except AddressFault Address) :=
  if Text.startsWith name scheme then some ((afterHost (name.drop scheme.length)).map ofText)
  else none

/-! ### Options -/

/-- A mode with the rank up to which options behind it may ask, and the rank that it asks for. -/
def limit : OpenMode → Nat
  | .readOnly => 1
  | .existing => 2
  | .create => 6
  | .memory => 128

@[inherit_doc limit]
def demand : OpenMode → Nat
  | .memory => 0
  | m => limit m

/-- The octets as text. -/
def shown (value : Bytes) : Text := (NativeName.ofBytes value).masked '\ufffd'

/-- Whether octets are those of a text. -/
def spells (value : Bytes) (word : String) : Bool := value == Utf8.encode word.toList

/-- The mode of a name. -/
def modeOf? (value : Bytes) : Option OpenMode :=
  if spells value "ro" then some .readOnly
  else if spells value "rw" then some .existing
  else if spells value "rwc" then some .create
  else if spells value "memory" then some .memory
  else none

/-- An opening with one more option regarded. -/
def withOption (o : Opening) (option : Bytes × Bytes) : Except AddressFault Opening :=
  let value := option.2
  if spells option.1 "mode" then
    match modeOf? value with
    | none => .error (.unknownMode "access" (shown value))
    | some m =>
      if limit o.mode < demand m then .error (.modeRefused (shown value))
      else .ok { o with mode := m }
  else if spells option.1 "cache" then
    if spells value "shared" then .ok { o with shared := true }
    else if spells value "private" then .ok { o with shared := false }
    else .error (.unknownMode "cache" (shown value))
  else .ok o

/-- An opening with several options regarded, from left to right. -/
def withOptions (o : Opening) : List (Bytes × Bytes) → Except AddressFault Opening
  | [] => .ok o
  | option :: rest =>
    match withOption o option with
    | .error e => .error e
    | .ok o => withOptions o rest

/-- The value of the first option of a name. -/
def option? (a : Address) (name : String) : Option Bytes :=
  (a.options.find? (fun o => spells o.1 name)).map Prod.snd

/-- The value of the last option of a name. -/
def lastOption? (a : Address) (name : String) : Option Bytes :=
  (a.options.reverse.find? (fun o => spells o.1 name)).map Prod.snd

/-- Whether a value says yes: by a word, or by a number whose last octet is not zero. -/
def isYes (value : Bytes) : Bool :=
  let t := (shown value).map Text.asciiLower
  t == "on".toList || t == "yes".toList || t == "true".toList ||
    Text.digitsValue (t.takeWhile Text.isDigit) % 256 != 0

/-- The drivers that keep a database in a file. -/
def fileDrivers : List String := ["unix", "unix-none", "unix-dotfile", "unix-excl"]

/-- What the options of an address ask for.  The driver is looked up last; the one for memory
shares databases whose name begins with a slash. -/
def opening (a : Address) : Except AddressFault Opening :=
  match withOptions {} a.options with
  | .error e => .error e
  | .ok o =>
    let o := { o with frozen := ((a.option? "immutable").map isYes).getD false }
    match a.lastOption? "vfs" with
    | none => .ok o
    | some driver =>
      if fileDrivers.any (spells driver) then .ok o
      else if spells driver "memdb" then
        .ok { o with
          mode := if o.mode = .readOnly then .readOnly else .memory,
          shared := Text.startsWith a.path (Utf8.encode ['/']) }
      else .error (.unknownDriver (shown driver))

end Address

end PackageCatalog
