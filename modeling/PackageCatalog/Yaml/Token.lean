import PackageCatalog.Number.Integer
import PackageCatalog.Yaml.Scalar

/-!
# Tokens of documents

A text cut into tokens.  Indentation and the keys of mappings are made explicit: a token opens
every collection and another closes it, and a key that is only known for one by the colon behind
it gets its token put in where it starts.

## Main definitions

* `Yaml.Token` - the tokens.
* `Yaml.Scan` - the state of a scan, and `Yaml.Scan.next`, its step.
* `Yaml.Scan.handOver` - the tokens that are settled.
* `Yaml.tokens` - the tokens of a text.
-/

namespace PackageCatalog.Yaml

/-- A token. -/
inductive Token
  /-- The version that a directive asks for. -/
  | version (major : Nat)
  /-- A handle for tags, with what it stands for. -/
  | tagHandle (handle stem : Text)
  /-- Any other directive. -/
  | directive
  | documentStart
  | documentEnd
  | blockSequence
  | blockMapping
  | blockEnd
  | flowSequence
  | flowSequenceEnd
  | flowMapping
  | flowMappingEnd
  | item
  | comma
  | key
  | value
  | alias (name : Text)
  | anchor (name : Text)
  /-- A tag: its handle, unless it is written out, and the rest. -/
  | tag (handle : Option Text) (rest : Text)
  /-- A scalar, with whether it is plain. -/
  | scalar (text : NativeName) (plain : Bool)
  /-- The place where the text cannot be cut any further. -/
  | broken (fault : Fault)
  deriving DecidableEq, Repr

/-- A place where a key may have started. -/
structure KeyStart where
  /-- The number of tokens before it. -/
  position : Nat
  /-- Whether nothing else can stand there. -/
  required : Bool
  index : Nat
  line : Nat
  column : Nat
  deriving DecidableEq, Repr

/-- The most characters between the start of a key and its colon. -/
def keyLimit : Nat := 1024

/-- The state of a scan. -/
structure Scan where
  cursor : Cursor
  /-- The number of tokens that were handed over. -/
  handed : Nat := 0
  /-- The tokens after them, latest first: a colon may still put tokens in among them. -/
  waiting : List Token := []
  /-- The column of the innermost block collection. -/
  indent : Int := -1
  /-- The columns of the block collections around it. -/
  outer : List Int := []
  /-- Whether a key may start at the next token. -/
  keyAllowed : Bool := true
  /-- The possible start of a key in each open bracket, innermost first, and outside of all. -/
  keys : List (Option KeyStart) := [none]
  deriving DecidableEq, Repr

namespace Scan

/-- Whether the scan is inside brackets. -/
def inside (s : Scan) : Bool := 1 < s.keys.length

/-- The scan with one more token. -/
def push (s : Scan) (t : Token) : Scan := { s with waiting := t :: s.waiting }

/-- The number of tokens so far. -/
def count (s : Scan) : Nat := s.handed + s.waiting.length

/-- The scan with a token put in after the first `position` ones. -/
def insertAt (s : Scan) (position : Nat) (t : Token) : Scan :=
  let later := s.count - position
  { s with waiting := s.waiting.take later ++ t :: s.waiting.drop later }

/-- Whether a key that started there may still end at the cursor. -/
def isFresh (c : Cursor) (k : KeyStart) : Bool :=
  k.line == c.line && decide (c.index - k.index ≤ keyLimit)

/-- The scan without the starts of keys that are too far back. -/
def dropStale (s : Scan) : Except Fault Scan :=
  let stale := fun k => !isFresh s.cursor k
  if s.keys.any (fun k => k.any (fun k => stale k && k.required)) then .error .malformed
  else .ok { s with keys := s.keys.map (fun k => k.filter (fun k => !stale k)) }

/-- The possible start of a key in the innermost bracket. -/
def currentKey (s : Scan) : Option KeyStart := (s.keys.head?).join

/-- The scan with another start of a key in the innermost bracket. -/
def setKey (s : Scan) (k : Option KeyStart) : Scan := { s with keys := k :: s.keys.tail }

/-- The scan without a start of a key in the innermost bracket. -/
def dropKey (s : Scan) : Except Fault Scan :=
  if s.currentKey.any (·.required) then .error .malformed else .ok (s.setKey none)

/-- The scan with a start of a key at the cursor, if a key may start there. -/
def saveKey (s : Scan) : Except Fault Scan :=
  if s.keyAllowed then
    match s.dropKey with
    | .error e => .error e
    | .ok s =>
      let c := s.cursor
      .ok (s.setKey (some ⟨s.count, !s.inside && s.indent == c.column, c.index, c.line,
        c.column⟩))
  else .ok s

/-- The collections deeper than a column closed. -/
def unwindWith (column : Int) : List Int → Scan → Scan
  | [], s => s
  | i :: outer, s =>
    if column < s.indent then
      unwindWith column outer ({ s with indent := i, outer }.push .blockEnd)
    else s

/-- The collections deeper than a column closed, unless the scan is inside brackets. -/
def unwind (s : Scan) (column : Int) : Scan :=
  if s.inside then s else unwindWith column s.outer s

/-- Whether a collection opens at a column. -/
def opensAt (s : Scan) (column : Nat) : Bool := decide (s.indent < column)

/-- The scan in a collection at a column. -/
def openAt (s : Scan) (column : Nat) : Scan :=
  { s with indent := column, outer := s.indent :: s.outer }

/-- Blanks, comments and line breaks passed; outside of brackets a key may start on a new line. -/
def passGaps : Nat → Scan → Scan
  | 0, s => s
  | fuel + 1, s =>
    let c := s.cursor.passSpaces.passComment
    match c.lineBreak? with
    | some (_, c) =>
      passGaps fuel { s with cursor := c, keyAllowed := s.keyAllowed || !s.inside }
    | none => { s with cursor := c }

/-- All collections closed, as at the bounds of a document. -/
def closeAll (s : Scan) : Except Fault Scan :=
  match (s.unwind (-1)).dropKey with
  | .error e => .error e
  | .ok s => .ok { s with keyAllowed := false }

/-! ### Directives, anchors and tags -/

/-- The rest of a line after a directive. -/
def passLineEnd (c : Cursor) : Except Fault Cursor :=
  let c := c.passSpaces.passComment
  if atLineEnd c.rest then .ok c.passBreak else .error .malformed

/-- A natural number. -/
def scanNumber (c : Cursor) : Scanned Nat :=
  let digits := c.taken Text.isDigit
  if digits.isEmpty then .error c.fault
  else if Integer.digitLimit < digits.length then .error (.tooManyDigits digits.length)
  else .ok (Text.digitsValue digits, c.forward digits.length)

/-- The version after its directive. -/
def scanVersion (c : Cursor) : Except Fault (Token × Cursor) := do
  let (major, c) ← scanNumber c.passSpaces
  if !atChar '.' c.rest then throw c.fault
  let (_, c) ← scanNumber c.step
  if !atWordEnd c.rest then throw .malformed
  return (.version major, c)

/-- A handle: an exclamation mark, or a name between two. -/
def scanHandle (c : Cursor) : Scanned Text :=
  if !atChar '!' c.rest then .error c.fault
  else
    let inner := c.step
    if atChar ' ' inner.rest then .ok (['!'], inner)
    else
      let name := inner.taken isNameChar
      let c := inner.forward name.length
      if atChar '!' c.rest then .ok ('!' :: (name ++ ['!']), c.step) else .error c.fault

/-- Octets written as a percent sign and two digits each. -/
def scanOctets : Nat → Cursor → Bytes → Scanned Bytes
  | 0, _, _ => .error .malformed
  | fuel + 1, c, done =>
    if atChar '%' c.rest then
      match scanHex 2 c.step with
      | .error e => .error e
      | .ok n => scanOctets fuel (c.forward 3) (UInt8.ofNat n :: done)
    else .ok (done.reverse, c)

/-- Whether a character stands for itself in a tag. -/
def isTagChar (c : Char) : Bool :=
  isNameChar c || "-;/?:@&=+$,_.!~*'()[]".toList.any (· == c)

/-- The rest of a tag behind `done` (latest first). -/
def scanTagRestOnto : Nat → Cursor → Text → Scanned Text
  | 0, _, _ => .error .malformed
  | fuel + 1, c, done =>
    match c.rest with
    | '%' :: _ =>
      match scanOctets (c.rest.length + 1) c [] with
      | .error e => .error e
      | .ok (octets, c) =>
        match Utf8.decode octets with
        | some t => scanTagRestOnto fuel c (t.reverse ++ done)
        | none => .error .malformed
    | a :: _ =>
      if isTagChar a then scanTagRestOnto fuel c.step (a :: done) else .ok (done.reverse, c)
    | [] => .ok (done.reverse, c)

/-- The rest of a tag, which must not be empty. -/
def scanTagRest (c : Cursor) : Scanned Text :=
  match scanTagRestOnto (c.rest.length + 1) c [] with
  | .error e => .error e
  | .ok (t, c') => if c'.index = c.index then .error c.fault else .ok (t, c')

/-- The handle of a directive and what it stands for. -/
def scanTagHandle (c : Cursor) : Except Fault (Token × Cursor) := do
  let (handle, c) ← scanHandle c.passSpaces
  if !atChar ' ' c.rest then throw c.fault
  let (stem, c) ← scanTagRest c.passSpaces
  if !atWordEnd c.rest then throw .malformed
  return (.tagHandle handle stem, c)

/-- A directive, from its percent sign on. -/
def scanDirective (c : Cursor) : Except Fault (Token × Cursor) := do
  let name := c.step.taken isNameChar
  let c := c.step.forward name.length
  if name.isEmpty || !atWordEnd c.rest then throw c.fault
  let (token, c) ←
    if name == "YAML".toList then scanVersion c
    else if name == "TAG".toList then scanTagHandle c
    else pure (.directive, c.pass (!isBreak ·))
  let c ← passLineEnd c
  return (token, c)

/-- The name of an anchor or alias, from its mark on. -/
def scanName (c : Cursor) : Scanned Text :=
  let name := c.step.taken isNameChar
  let c := c.step.forward name.length
  if name.isEmpty then .error c.fault
  else if atGap c.rest || atOneOf "?:,]\x7d%@\x60".toList c.rest then .ok (name, c)
  else .error .malformed

/-- A tag, from its mark on. -/
def scanTag (c : Cursor) : Except Fault (Token × Cursor) := do
  let (token, c) ←
    if atChar '<' c.step.rest then do
      let (rest, c) ← scanTagRest c.step.step
      if !atChar '>' c.rest then throw c.fault
      pure (.tag none rest, c.step)
    else if atGap c.step.rest then pure (.tag none ['!'], c.step)
    else if (c.step.taken (fun a => !(a == ' ' || isBreak a))).any (· == '!') then do
      let (handle, c) ← scanHandle c
      let (rest, c) ← scanTagRest c
      pure (.tag (some handle) rest, c)
    else do
      let (rest, c) ← scanTagRest c.step
      pure (.tag (some ['!']) rest, c)
  if atWordEnd c.rest then return (token, c) else throw .malformed

/-! ### Steps -/

/-- A node that is a single token, which may be a key. -/
def single (s : Scan) (scan : Cursor → Scanned Token) : Except Fault Scan :=
  match s.saveKey with
  | .error e => .error e
  | .ok s =>
    match scan s.cursor with
    | .error e => .error e
    | .ok (t, c) => .ok ({ s with cursor := c, keyAllowed := false }.push t)

/-- A plain scalar; after a line break at its end a key may start. -/
def plain (s : Scan) : Except Fault Scan :=
  match s.saveKey with
  | .error e => .error e
  | .ok s =>
    let ((t, broken), c) := scanPlain s.inside s.indent s.cursor
    .ok ({ s with cursor := c, keyAllowed := broken }.push (.scalar (NativeName.ofText t) true))

/-- A block scalar, which is never a key. -/
def block (s : Scan) (folded : Bool) : Except Fault Scan :=
  match s.dropKey with
  | .error e => .error e
  | .ok s =>
    match scanBlock folded s.indent s.cursor with
    | .error e => .error e
    | .ok (t, c) =>
      .ok ({ s with cursor := c, keyAllowed := true }.push (.scalar (NativeName.ofText t) false))

/-- A mark of a document. -/
def mark (s : Scan) (t : Token) : Except Fault Scan :=
  match s.closeAll with
  | .error e => .error e
  | .ok s => .ok ({ s with cursor := s.cursor.forward 3 }.push t)

/-- An opening bracket. -/
def openBracket (s : Scan) (t : Token) : Except Fault Scan :=
  match s.saveKey with
  | .error e => .error e
  | .ok s =>
    .ok ({ s with cursor := s.cursor.step, keyAllowed := true, keys := none :: s.keys }.push t)

/-- A closing bracket; none may come when no bracket is open. -/
def closeBracket (s : Scan) (t : Token) : Except Fault Scan :=
  if !s.inside then .error .malformed
  else match s.dropKey with
    | .error e => .error e
    | .ok s =>
      .ok ({ s with cursor := s.cursor.step, keyAllowed := false, keys := s.keys.tail }.push t)

/-- A comma. -/
def comma (s : Scan) : Except Fault Scan :=
  match s.dropKey with
  | .error e => .error e
  | .ok s => .ok ({ s with cursor := s.cursor.step, keyAllowed := true }.push .comma)

/-- An indicator that may open a block collection, where outside of brackets it must be allowed
to. -/
def indicator (s : Scan) (collection t : Token) (keyAllowed : Bool) : Except Fault Scan :=
  if !s.inside && !s.keyAllowed then .error .malformed
  else
    let column := s.cursor.column
    let s := if !s.inside && s.opensAt column then (s.openAt column).push collection else s
    match { s with keyAllowed }.dropKey with
    | .error e => .error e
    | .ok s => .ok ({ s with cursor := s.cursor.step }.push t)

/-- A colon: what started as a possible key turns out to be one. -/
def colon (s : Scan) : Except Fault Scan :=
  match s.currentKey with
  | some k =>
    let s := (s.setKey none).insertAt k.position .key
    let s := if !s.inside && s.opensAt k.column then
        (s.openAt k.column).insertAt k.position .blockMapping
      else s
    .ok ({ s with cursor := s.cursor.step, keyAllowed := false }.push .value)
  | none => s.indicator .blockMapping .value (!s.inside)

/-- Whether a plain scalar may start with a text. -/
def startsPlain (inside : Bool) : Text → Bool
  | [] => false
  | c :: t =>
    !(isGap c || "-?:,[]\x7b\x7d#&*!|>'\"%@\x60".toList.any (· == c)) ||
      (!atGap t && (c == '-' || (!inside && (c == '?' || c == ':'))))

/-- The scan after the token that a character starts. -/
def token (s : Scan) (c : Char) (rest : Text) : Except Fault Scan :=
  let start := s.cursor.column == 0
  let apart := s.inside || atGap rest
  if c = '%' ∧ start then
    match s.closeAll with
    | .error e => .error e
    | .ok s =>
      match scanDirective s.cursor with
      | .error e => .error e
      | .ok (t, c) => .ok ({ s with cursor := c }.push t)
  else if start && s.cursor.atMark "---" then s.mark .documentStart
  else if start && s.cursor.atMark "..." then s.mark .documentEnd
  else if c = '[' then s.openBracket .flowSequence
  else if c = '\x7b' then s.openBracket .flowMapping
  else if c = ']' then s.closeBracket .flowSequenceEnd
  else if c = '\x7d' then s.closeBracket .flowMappingEnd
  else if c = ',' then s.comma
  else if c == '-' && atGap rest then s.indicator .blockSequence .item true
  else if c == '?' && apart then s.indicator .blockMapping .key (!s.inside)
  else if c == ':' && apart then s.colon
  else if c = '*' then
    s.single (fun c => (scanName c).map (fun r => (.alias r.1, r.2)))
  else if c = '&' then
    s.single (fun c => (scanName c).map (fun r => (.anchor r.1, r.2)))
  else if c = '!' then s.single scanTag
  else if (c = '|' ∨ c = '>') ∧ !s.inside then s.block (c == '>')
  else if c = '\'' ∨ c = '"' then
    s.single (fun c' => (scanQuoted (c == '"') c').map (fun r => (.scalar r.1 false, r.2)))
  else if startsPlain s.inside (c :: rest) then s.plain
  else .error .malformed

/-- The scan before the next token: gaps passed, far keys forgotten, collections closed. -/
def prepare (s : Scan) : Except Fault Scan :=
  match (passGaps (s.cursor.rest.length + 1) s).dropStale with
  | .error e => .error e
  | .ok s => .ok (s.unwind s.cursor.column)

/-- The tokens that no colon can come between any more, latest first, handed over. -/
def handOver (s : Scan) : List Token × Scan :=
  let ready := s.keys.foldl (fun n k => match k with
    | some k => min n (k.position - s.handed)
    | none => n) s.waiting.length
  let later := s.waiting.length - ready
  (s.waiting.drop later, { s with handed := s.handed + ready, waiting := s.waiting.take later })

/-- The scan after one more step, and whether the text has ended.  A text that breaks off ends
nowhere. -/
def next (s : Scan) : Except Fault (Scan × Bool) := do
  let s ← s.prepare
  match s.cursor.rest with
  | [] =>
    if let some e := s.cursor.broken then throw e
    let s ← s.closeAll
    return (s, true)
  | c :: rest =>
    let s ← s.token c rest
    if let some e := s.cursor.broken? then throw e
    return (s, false)

/-- All tokens behind `done` (latest first).  When a step fails, the tokens that were not handed
over before it are lost. -/
def run : Nat → Scan → List Token → List Token
  | 0, _, done => done.reverse
  | fuel + 1, s, done =>
    match s.dropStale with
    | .error e => (.broken e :: done).reverse
    | .ok s =>
      let (ready, s) := s.handOver
      let done := ready ++ done
      match s.next with
      | .error e => (.broken e :: done).reverse
      | .ok (s, ended) => if ended then (s.waiting ++ done).reverse else run fuel s done

end Scan

/-- The tokens of a text, which may break off for a reason; a byte order mark at its start is
passed over. -/
def tokens (t : Text) (broken : Option Fault) : List Token :=
  let c : Cursor := { rest := t, broken }
  let c := if atChar '\uFEFF' t then c.step else c
  Scan.run (t.length + 1) { cursor := c } []

end PackageCatalog.Yaml
