import PackageCatalog.FileTree
import PackageCatalog.Text.Charset
import PackageCatalog.Text.Normal

/-!
# Canonical text

Names and contents become text the same way: UTF-8 is taken as it is, and anything else is
decoded by the encoding that a detector guesses.  A name keeps its normal form, so that it still
names the file; a content is put in normal form C.

## Main definitions

* `Detector` - a guess of the encoding of octets.
* `canonical` - the text of octets, or why they have none.
* `nameText`, `keyOf` - the text of a native name, and of its absolute form.
* `readContent` - the content of a file.
-/

namespace PackageCatalog

/-- A guess of the encoding of octets; none when there is no opinion. -/
abbrev Detector := Bytes → Option Text

/-- A detector that gives the same answer for all octets. -/
def Detector.constant (guess : Option Text) : Detector := fun _ => guess

/-- A detector that looks for a byte order mark. -/
def Detector.byMark : Detector := fun bytes =>
  if Text.startsWith bytes [0xEF, 0xBB, 0xBF] then some "UTF-8-SIG".toList
  else if Text.startsWith bytes [0xFF, 0xFE, 0, 0] || Text.startsWith bytes [0, 0, 0xFE, 0xFF] then
    some "UTF-32".toList
  else if Text.startsWith bytes [0xFF, 0xFE] || Text.startsWith bytes [0xFE, 0xFF] then
    some "UTF-16".toList
  else none

/-- Octets that cannot be turned into text: the label they go by, and the encoding that was
tried, if there was a guess. -/
structure Undecodable where
  label : NativeName
  encoding : Option Text
  deriving DecidableEq, Repr

/-- The text of the error; an empty encoding is not mentioned. -/
def Undecodable.message (e : Undecodable) : Text :=
  "Cannot decode ".toList ++ Quoted.ofName e.label ++
    match e.encoding with
    | none => []
    | some [] => []
    | some encoding => " as ".toList ++ encoding

/-- The text of octets, with the detector asked only when they are not UTF-8. -/
def canonical (detect : Detector) (raw : Bytes) (label : NativeName) : Except Undecodable Text :=
  match Utf8.decode raw with
  | some text => .ok text
  | none =>
    match detect raw with
    | none => .error ⟨label, none⟩
    | some [] => .error ⟨label, none⟩
    | some encoding =>
      match (Charset.ofName? encoding).bind (·.decode raw) with
      | some text => .ok text
      | none => .error ⟨label, some encoding⟩

/-- Why a name or a file cannot be read as text. -/
inductive ReadError
  | file (e : FileError)
  | undecodable (e : Undecodable)
  deriving DecidableEq, Repr

/-- The text of a native name. -/
def nameText (detect : Detector) (name : NativeName) : Except ReadError Text :=
  match name.toBytes? with
  | none => .error (.file .unencodable)
  | some raw =>
    match canonical detect raw name with
    | .ok text => .ok text
    | .error e => .error (.undecodable e)

/-- The absolute form of a native name. -/
def absoluteName (name : NativeName) : NativeName := Path.absolute FileTree.workingName name

/-- The text of the absolute form of a native name: the key under which a file is stored. -/
def keyOf (detect : Detector) (name : NativeName) : Except ReadError Text :=
  nameText detect (absoluteName name)

/-- The encoding by which octets were decoded, when it was not UTF-8. -/
def guessedEncoding? (detect : Detector) (raw : Bytes) : Option Text :=
  match Utf8.decode raw with
  | some _ => none
  | none => detect raw

/-- The content of a file as text in normal form C. -/
def readContent (detect : Detector) (tree : FileTree) (name : NativeName) :
    Except ReadError Text :=
  match tree.read name with
  | .error e => .error (.file e)
  | .ok raw =>
    match canonical detect raw name with
    | .ok text => .ok (Text.normalForm text)
    | .error e => .error (.undecodable e)

end PackageCatalog
