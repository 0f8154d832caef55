import PackageCatalog.Yaml.Cursor

/-!
# Scalars of documents

The texts of a document in their four spellings: plain, in single or double quotes, and as a
block of lines.  A reader takes the cursor at the first character of the spelling and gives back
the text and the cursor behind it.

## Main definitions

* `Yaml.scanQuoted` - a text in quotes.
* `Yaml.scanBlock` - a block, literal or folded.
* `Yaml.scanPlain` - a plain text.
-/

namespace PackageCatalog.Yaml

/-- What a reader gives back. -/
abbrev Scanned (α : Type) := Except Fault (α × Cursor)

/-- Line breaks after the first one, latest first, with the blanks around them passed; `blank`
says which characters are blanks, and `marks` whether a document mark is refused. -/
def scanBreaks (blank : Char → Bool) (marks : Bool) : Nat → Cursor → Text → Scanned Text
  | 0, c, done => .ok (done, c)
  | fuel + 1, c, done =>
    if marks && c.atAnyMark then .error (c.forward 3).fault
    else
      let c := c.pass blank
      match c.lineBreak? with
      | some (b, c) => scanBreaks blank marks fuel c (b :: done)
      | none => .ok (done, c)

/-- What a first line break and the ones after it (latest first) stand for, latest first: a
single line feed is a space, and otherwise the first line feed is dropped. -/
def foldBreaks (first : Char) (others : Text) : Text :=
  if first ≠ '\n' then others ++ [first]
  else if others.isEmpty then [' '] else others

/-! ### Quotes -/

/-- The character that a one-letter escape stands for. -/
def escapedChar? (c : Char) : Option Char :=
  match c with
  | '0' => some '\x00'
  | 'a' => some '\x07'
  | 'b' => some '\x08'
  | 't' => some '\t'
  | '\t' => some '\t'
  | 'n' => some '\n'
  | 'v' => some '\x0b'
  | 'f' => some '\x0c'
  | 'r' => some '\r'
  | 'e' => some '\x1b'
  | ' ' => some ' '
  | '"' => some '"'
  | '\\' => some '\\'
  | '/' => some '/'
  | 'N' => some '\u0085'
  | '_' => some '\u00a0'
  | 'L' => some '\u2028'
  | 'P' => some '\u2029'
  | _ => none

/-- The number of digits after the letter of a numeric escape. -/
def escapeLength? (c : Char) : Option Nat :=
  match c with
  | 'x' => some 2
  | 'u' => some 4
  | 'U' => some 8
  | _ => none

/-- The number that hexadecimal digits write, put behind `n`. -/
def hexOnto : Nat → Text → Option Nat
  | n, [] => some n
  | n, c :: t => (Text.hexDigit? c).bind (fun d => hexOnto (n * 16 + d) t)

/-- The number that hexadecimal digits write at a place, exactly `length` of them. -/
def scanHex (length : Nat) (c : Cursor) : Except Fault Nat :=
  let digits := c.rest.take length
  match hexOnto 0 digits with
  | none => .error .malformed
  | some n => if digits.length < length then .error (c.forward length).fault else .ok n

/-- The code point of a numeric escape at its digits. -/
def scanCode (length : Nat) (c : Cursor) : Except Fault NameUnit :=
  match scanHex length c with
  | .error e => .error e
  | .ok n =>
    if 0x80000000 ≤ n then .error .hugeCharacter
    else if 0x110000 ≤ n then .error .noCharacter
    else if n.isValidChar then .ok (.char (Char.ofNat n))
    else .ok (.surrogate ⟨(n - 0xD800) % 0x800, Nat.mod_lt _ (Nat.zero_lt_succ _)⟩)

/-- The rest of a text in quotes behind `done` (latest first).  Escapes may stand for
surrogates. -/
def scanQuotedOnto (double : Bool) : Nat → Cursor → NativeName → Scanned NativeName
  | 0, _, _ => .error .malformed
  | fuel + 1, c, done =>
    match c.rest with
    | [] => .error c.fault
    | a :: t =>
      if isGap a then
        let spaces := c.taken (fun a => a == ' ' || a == '\t')
        let c := c.forward spaces.length
        match c.lineBreak? with
        | some (b, c) =>
          match scanBreaks (fun a => a == ' ' || a == '\t') true c.rest.length c [] with
          | .error e => .error e
          | .ok (others, c) =>
            scanQuotedOnto double fuel c (NativeName.ofText (foldBreaks b others) ++ done)
        | none =>
          if c.rest.isEmpty then .error c.fault
          else scanQuotedOnto double fuel c (NativeName.ofText spaces.reverse ++ done)
      else if double && a == '"' then .ok (done.reverse, c.step)
      else if !double && a == '\'' then
        if atChar '\'' t then scanQuotedOnto double fuel c.step.step (.char '\'' :: done)
        else .ok (done.reverse, c.step)
      else if double && a == '\\' then
        match t with
        | [] => .error c.step.fault
        | e :: _ =>
          match escapedChar? e, escapeLength? e with
          | some d, _ => scanQuotedOnto double fuel c.step.step (.char d :: done)
          | none, some length =>
            match scanCode length c.step.step with
            | .error e => .error e
            | .ok u => scanQuotedOnto double fuel (c.forward (length + 2)) (u :: done)
          | none, none =>
            match c.step.lineBreak? with
            | none => .error .malformed
            | some (_, c) =>
              match scanBreaks (fun a => a == ' ' || a == '\t') true c.rest.length c [] with
              | .error e => .error e
              | .ok (others, c) =>
                scanQuotedOnto double fuel c (NativeName.ofText others ++ done)
      else scanQuotedOnto double fuel c.step (.char a :: done)

/-- A text in single or double quotes. -/
def scanQuoted (double : Bool) (c : Cursor) : Scanned NativeName :=
  scanQuotedOnto double c.rest.length c.step []

/-! ### Blocks -/

/-- What happens to the line breaks at the end of a block. -/
inductive Chomping
  | strip
  | clip
  | keep
  deriving DecidableEq, Repr

/-- The chomping that a character asks for. -/
def Chomping.ofChar? (c : Char) : Option Chomping :=
  if c = '+' then some keep else if c = '-' then some strip else none

/-- The header of a block: its chomping and its indentation, in either order. -/
def scanBlockHeader (c : Cursor) : Scanned (Chomping × Option Nat) :=
  let mark := fun (c : Cursor) =>
    match c.rest.head?.bind Chomping.ofChar? with
    | some chomping => (some chomping, c.step)
    | none => (none, c)
  let digit := fun (c : Cursor) =>
    match c.rest.head?.bind Text.digitValue? with
    | some n => (some n, c.step)
    | none => (none, c)
  let (first, c) := mark c
  let (indent, c) := digit c
  let (chomping, c) := if first.isNone && indent.isSome then mark c else (first, c)
  if indent = some 0 || !atWordEnd c.rest then .error .malformed
  else
    let c := c.passSpaces.passComment
    if atLineEnd c.rest then .ok ((chomping.getD .clip, indent), c.passBreak)
    else .error .malformed

/-- Empty lines at the start of a block, latest first, and the greatest indentation among them
and the line after them. -/
def scanIndentation : Nat → Cursor → Text → Nat → (Text × Nat) × Cursor
  | 0, c, done, most => ((done, most), c)
  | fuel + 1, c, done, most =>
    match c.lineBreak? with
    | some (b, c) => scanIndentation fuel c (b :: done) most
    | none =>
      if atChar ' ' c.rest then
        let c := c.step
        scanIndentation fuel c done (max most c.column)
      else ((done, most), c)

/-- The place after spaces up to a column. -/
def passIndent (indent : Nat) (c : Cursor) : Cursor :=
  c.forward (min (indent - c.column) (c.taken (· == ' ')).length)

/-- Empty lines inside a block, latest first, each indented at most to `indent`. -/
def scanEmptyLines (indent : Nat) : Nat → Cursor → Text → Text × Cursor
  | 0, c, done => (done, c)
  | fuel + 1, c, done =>
    let c := passIndent indent c
    match c.lineBreak? with
    | some (b, c) => scanEmptyLines indent fuel c (b :: done)
    | none => (done, c)

/-- Whether a text starts with a space or a tab. -/
def atBlank (t : Text) : Bool := atOneOf [' ', '\t'] t

/-- The lines of a block behind `done` (latest first), where `breaks` are the empty lines just
passed: the text without its end, the last line break and the empty lines after it. -/
def scanLines (folded : Bool) (indent : Nat) :
    Nat → Cursor → Text → Text → Option Char → (Text × Option Char × Text) × Cursor
  | 0, c, done, breaks, last => ((done, last, breaks), c)
  | fuel + 1, c, done, breaks, last =>
    if c.column ≠ indent ∨ c.rest.isEmpty then ((done, last, breaks), c)
    else
      let done := breaks ++ done
      let flush := !atBlank c.rest
      let line := c.taken (!isBreak ·)
      let done := line.reverse ++ done
      let c := c.forward line.length
      let (last, c) := match c.lineBreak? with
        | some (b, c) => (some b, c)
        | none => (none, c)
      let (breaks, c) := scanEmptyLines indent c.rest.length c []
      if c.column = indent ∧ !c.rest.isEmpty then
        let join : Text :=
          if folded && last == some '\n' && flush && !atBlank c.rest then
            (if breaks.isEmpty then [' '] else [])
          else last.toList
        scanLines folded indent fuel c (join ++ done) breaks last
      else ((done, last, breaks), c)

/-- A block whose collection is indented by `outer`. -/
def scanBlock (folded : Bool) (outer : Int) (c : Cursor) : Scanned Text :=
  match scanBlockHeader c.step with
  | .error e => .error e
  | .ok ((chomping, increment), c) =>
    let least := (max 1 (outer + 1)).toNat
    let ((breaks, indent), c) := match increment with
      | none =>
        let ((breaks, most), c) := scanIndentation c.rest.length c [] 0
        ((breaks, max least most), c)
      | some n =>
        let (breaks, c) := scanEmptyLines (least + n - 1) c.rest.length c []
        ((breaks, least + n - 1), c)
    let ((done, last, breaks), c) := scanLines folded indent (c.rest.length + 1) c [] breaks none
    let ending : Text := match chomping with
      | .strip => []
      | .clip => last.toList
      | .keep => breaks ++ last.toList
    .ok ((ending ++ done).reverse, c)

/-! ### Plain texts -/

/-- The part of a plain text up to white space or a character that ends it.  Inside brackets
more characters do. -/
def plainWord (inside : Bool) : Text → Text
  | [] => []
  | c :: t =>
    if isGap c || (c == ':' && (atGap t || (inside && atOneOf ",[]\x7b\x7d".toList t))) ||
        (inside && ",?[]\x7b\x7d".toList.any (· == c)) then []
    else c :: plainWord inside t

/-- Empty lines after a line break in a plain text, latest first; none when a document mark
comes, with the place where it stands. -/
def scanPlainBreaks : Nat → Cursor → Text → Option Text × Cursor
  | 0, c, done => (some done, c)
  | fuel + 1, c, done =>
    let c := c.passSpaces
    match c.lineBreak? with
    | some (b, c) => if c.atAnyMark then (none, c) else scanPlainBreaks fuel c (b :: done)
    | none => (some done, c)

/-- The white space after a part of a plain text: what it stands for (latest first), whether it
holds a line break, and the place after it. -/
def scanPlainSpaces (c : Cursor) : Text × Bool × Cursor :=
  let spaces := c.taken (· == ' ')
  let c := c.forward spaces.length
  match c.lineBreak? with
  | none => (spaces, false, c)
  | some (b, c) =>
    if c.atAnyMark then ([], true, c)
    else match scanPlainBreaks c.rest.length c [] with
      | (none, c) => ([], true, c)
      | (some others, c) => (foldBreaks b others, true, c)

/-- The rest of a plain text behind `done` and the white space `spaces` (both latest first).  The
truth value says whether the text ends after a line break. -/
def scanPlainOnto (inside : Bool) (indent : Int) :
    Nat → Cursor → Text → Text → Bool → (Text × Bool) × Cursor
  | 0, c, done, _, broken => ((done.reverse, broken), c)
  | fuel + 1, c, done, spaces, broken =>
    let word := plainWord inside c.rest
    if atChar '#' c.rest || word.isEmpty then ((done.reverse, broken), c)
    else
      let done := word.reverse ++ (spaces ++ done)
      let (spaces, broken, c) := scanPlainSpaces (c.forward word.length)
      if spaces.isEmpty || atChar '#' c.rest || (!inside && decide (c.column < indent)) then
        ((done.reverse, broken), c)
      else scanPlainOnto inside indent fuel c done spaces broken

/-- A plain text in a collection indented by `outer`. -/
def scanPlain (inside : Bool) (outer : Int) (c : Cursor) : (Text × Bool) × Cursor :=
  scanPlainOnto inside (outer + 1) (c.rest.length + 1) c [] [] false

end PackageCatalog.Yaml
