import PackageCatalog.NativeName

/-!
# Wildcards

Patterns for names: `*` is any run of characters, `?` any one, `[...]` one of a set.  A pattern is
cut at its stars into chunks of single-character tests.  The first chunk is tried at the start
of a name, the last one at its end, and each chunk between them where it first matches.

## Main definitions

* `Wildcard.Test`, `Wildcard.Chunk` - the tests and chunks of a pattern.
* `Wildcard.chunks` - a pattern read.
* `Wildcard.accepts` - whether a name matches a pattern.
-/

namespace PackageCatalog.Wildcard

/-- A test of one character of a name. -/
inductive Test
  /-- It has that code. -/
  | exactly (code : Nat)
  | anything
  /-- Its code lies in one of the runs, or in none of them when negated. -/
  | oneOf (negated : Bool) (runs : List (Nat × Nat))
  | nothing
  deriving DecidableEq, Repr

/-- Tests of consecutive characters. -/
abbrev Chunk := List Test

/-- Whether a character passes a test. -/
def Test.passes (u : NameUnit) : Test → Bool
  | exactly code => u.code == code
  | anything => true
  | oneOf negated runs => runs.any (fun run => run.1 ≤ u.code && u.code ≤ run.2) != negated
  | nothing => false

/-! ### Sets -/

/-- The inside of a set and what follows its closing bracket.  An exclamation mark at the start,
and a closing bracket there or right after it, belong to the inside. -/
def setBody? (t : Text) : Option (Text × Text) :=
  let (front, rest) := match t with
    | '!' :: ']' :: rest => (['!', ']'], rest)
    | '!' :: rest => (['!'], rest)
    | ']' :: rest => ([']'], rest)
    | rest => ([], rest)
  match rest.dropWhile (· != ']') with
  | [] => none
  | _ :: after => some (front ++ rest.takeWhile (· != ']'), after)

/-- The parts of an inside between the hyphens that make ranges.  The first `skip` characters
are passed over in the search for a hyphen, and after each hyphen that is found two more. -/
def rangeParts : Nat → Text → Text → List Text
  | _, current, [] => if current.isEmpty then [] else [current.reverse]
  | skip, current, c :: t =>
    match skip with
    | 0 => if c = '-' then current.reverse :: rangeParts 2 [] t else rangeParts 0 (c :: current) t
    | skip + 1 => rangeParts skip (c :: current) t

/-- The parts of an inside; a hyphen at its end is a plain character. -/
def setParts (body : Text) : List Text :=
  let skip := if body.head? == some '!' then 2 else 1
  let parts := rangeParts skip [] body
  if (parts.map List.length).foldr (· + ·) 0 + (parts.length - 1) < body.length then
    match parts.reverse with
    | last :: before => ((last ++ ['-']) :: before).reverse
    | [] => []
  else parts

/-- Parts with each reversed range taken out: the two characters around its hyphen go, and the
parts they belong to become one. -/
def dropReversed : List Text → List Text
  | [] => []
  | part :: rest =>
    match dropReversed rest with
    | [] => [part]
    | next :: more =>
      match part.getLast?, next with
      | some a, b :: after =>
        if b < a then (part.dropLast ++ after) :: more else part :: next :: more
      | _, _ => part :: next :: more

/-- Characters as runs of one. -/
def singles (t : Text) : List (Nat × Nat) := t.map (fun c => (c.toNat, c.toNat))

/-- The runs that parts stand for: a range across each hyphen, and every other character by
itself.  The first `taken` characters of the first part already belong to a range. -/
def runsOf : Nat → List Text → List (Nat × Nat)
  | _, [] => []
  | taken, [part] => singles (part.drop taken)
  | taken, part :: next :: more =>
    match part.getLast?, next.head? with
    | some a, some b =>
      singles (part.drop taken).dropLast ++ (a.toNat, b.toNat) :: runsOf 1 (next :: more)
    | _, _ => singles (part.drop taken) ++ runsOf 0 (next :: more)

/-- The test of a set by its parts.  The set is negated when what is left of it starts with an
exclamation mark; a hyphen right behind that mark is a plain character. -/
def testOfParts : List Text → Test
  | [] => .nothing
  | [[]] => .nothing
  | [['!']] => .anything
  | ['!'] :: next :: more => .oneOf true (runsOf 0 (('-' :: next) :: more))
  | ('!' :: part) :: more => .oneOf true (runsOf 0 (part :: more))
  | parts => .oneOf false (runsOf 0 parts)

/-- The test of a set by its inside. -/
def testOfSet (body : Text) : Test := testOfParts (dropReversed (setParts body))

/-! ### Patterns -/

/-- The tests of a pattern with `none` for each star, read with `fuel` steps. -/
def testsWith : Nat → Text → List (Option Test)
  | _, [] => []
  | 0, _ :: _ => []
  | fuel + 1, c :: t =>
    if c = '*' then none :: testsWith fuel t
    else if c = '?' then some .anything :: testsWith fuel t
    else if c = '[' then
      match setBody? t with
      | none => some (.exactly c.toNat) :: testsWith fuel t
      | some (body, rest) => some (testOfSet body) :: testsWith fuel rest
    else some (.exactly c.toNat) :: testsWith fuel t

/-- The chunks of a pattern between its stars. -/
def chunksOf : List (Option Test) → List Chunk
  | [] => [[]]
  | none :: ts => [] :: chunksOf ts
  | some t :: ts =>
    match chunksOf ts with
    | [] => [[t]]
    | chunk :: chunks => (t :: chunk) :: chunks

/-- A pattern read as chunks; there is always at least one. -/
def chunks (pattern : Text) : List Chunk := chunksOf (testsWith pattern.length pattern)

/-- What is left of a name after a chunk that matches its beginning. -/
def dropChunk : Chunk → NativeName → Option NativeName
  | [], n => some n
  | _ :: _, [] => none
  | t :: ts, u :: n => if t.passes u then dropChunk ts n else none

/-- What is left of a name after the first place where a chunk matches. -/
def skipTo (chunk : Chunk) : NativeName → Option NativeName
  | [] => dropChunk chunk []
  | u :: n =>
    match dropChunk chunk (u :: n) with
    | some rest => some rest
    | none => skipTo chunk n

/-- Whether a name ends with a chunk. -/
def endsWith (chunk : Chunk) (n : NativeName) : Bool :=
  chunk.length ≤ n.length && dropChunk chunk (n.drop (n.length - chunk.length)) == some []

/-- Whether the chunks after a star match a name. -/
def acceptsAfterStar : List Chunk → NativeName → Bool
  | [], _ => true
  | [last], n => endsWith last n
  | chunk :: next :: more, n =>
    match skipTo chunk n with
    | some rest => acceptsAfterStar (next :: more) rest
    | none => false

/-- Whether chunks match a name. -/
def acceptsChunks : List Chunk → NativeName → Bool
  | [], n => n.isEmpty
  | [only], n => dropChunk only n == some []
  | first :: next :: more, n =>
    match dropChunk first n with
    | some rest => acceptsAfterStar (next :: more) rest
    | none => false

/-- Whether a name matches a pattern. -/
def accepts (pattern : Text) (n : NativeName) : Bool := acceptsChunks (chunks pattern) n

end PackageCatalog.Wildcard
