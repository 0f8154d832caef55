/-!
# Text and bytes

The catalogue handles two kinds of sequence: `Text`, the characters of names and contents
once decoded, and `Bytes`, what the file system stores.  Both are plain lists, so that every
operation on them is a recursion on the data.

## Main definitions

* `Text`, `Bytes` - the two kinds of sequence.
* `upToNul` - the part of a text that a reader of NUL-terminated text sees.
* `asciiLower`, `sameLetter` - comparison that ignores the case of the letters A to Z only.
* `codeOrder` - lexicographic comparison of texts by code point.
-/

namespace PackageCatalog

/-- A sequence of Unicode scalar values. -/
abbrev Text := List Char

/-- A sequence of octets. -/
abbrev Bytes := List UInt8

namespace Text

/-- The text before its first NUL, or all of it. -/
def upToNul (t : Text) : Text := t.takeWhile (· != '\x00')

/-- The lower-case form of an ASCII capital; any other character is itself. -/
def asciiLower (c : Char) : Char :=
  if 'A' ≤ c ∧ c ≤ 'Z' then Char.ofNat (c.toNat + 32) else c

/-- The upper-case form of an ASCII small letter; any other character is itself. -/
def asciiUpper (c : Char) : Char :=
  if 'a' ≤ c ∧ c ≤ 'z' then Char.ofNat (c.toNat - 32) else c

/-- Equality of two characters up to the case of ASCII letters. -/
def sameLetter (a b : Char) : Bool :=
  a == b || asciiLower a == asciiLower b

/-- Comparison of two sequences by the codes of their elements, a proper beginning first. -/
def compareCodes {α : Type} (code : α → Nat) : List α → List α → Ordering
  | [], [] => .eq
  | [], _ :: _ => .lt
  | _ :: _, [] => .gt
  | a :: s, b :: t =>
    if code a < code b then .lt else if code b < code a then .gt else compareCodes code s t

/-- Comparison of texts by code point. -/
def codeOrder : Text → Text → Ordering := compareCodes Char.toNat

/-- Whether `part` stands at the beginning of a sequence. -/
def startsWith {α : Type} [BEq α] : List α → List α → Bool
  | _, [] => true
  | [], _ :: _ => false
  | a :: s, b :: part => a == b && startsWith s part

/-- Whether `part` stands somewhere in a sequence, as consecutive elements. -/
def contains {α : Type} [BEq α] (s part : List α) : Bool :=
  startsWith s part || match s with
    | [] => false
    | _ :: rest => contains rest part

/-- The pieces of a sequence between the elements equal to `mark`; there is always at least
one piece. -/
def pieces {α : Type} [BEq α] (mark : α) : List α → List (List α)
  | [] => [[]]
  | a :: s =>
    if a == mark then [] :: pieces mark s
    else match pieces mark s with
      | [] => [[a]]
      | p :: ps => (a :: p) :: ps

/-- Pieces joined with `mark` between them. -/
def joined {α : Type} (mark : α) : List (List α) → List α
  | [] => []
  | [p] => p
  | p :: q :: ps => p ++ mark :: joined mark (q :: ps)

/-- The decimal digits of a natural number. -/
def ofNat (n : Nat) : Text := Nat.toDigits 10 n

/-- An integer in decimal, with a minus sign when negative. -/
def ofInt : Int → Text
  | .ofNat n => ofNat n
  | .negSucc n => '-' :: ofNat (n + 1)

/-- `n` in lower-case hexadecimal, padded with zeros to `width` digits. -/
def hex (width n : Nat) : Text :=
  let digits := Nat.toDigits 16 n
  List.replicate (width - digits.length) '0' ++ digits

/-- The text with spaces before it up to `width` characters. -/
def padLeft (width : Nat) (t : Text) : Text :=
  List.replicate (width - t.length) ' ' ++ t

/-- The value of an ASCII decimal digit. -/
def digitValue? (c : Char) : Option Nat :=
  if '0' ≤ c ∧ c ≤ '9' then some (c.toNat - 48) else none

/-- The value of a hexadecimal digit. -/
def hexDigit? (c : Char) : Option Nat :=
  if '0' ≤ c ∧ c ≤ '9' then some (c.toNat - 48)
  else if 'a' ≤ c ∧ c ≤ 'f' then some (c.toNat - 87)
  else if 'A' ≤ c ∧ c ≤ 'F' then some (c.toNat - 55)
  else none

/-- Whether a character is an ASCII decimal digit. -/
def isDigit (c : Char) : Bool := (digitValue? c).isSome

/-- The number written by ASCII decimal digits; any other character counts as zero. -/
def digitsValue (t : Text) : Nat :=
  t.foldl (fun n c => n * 10 + (digitValue? c).getD 0) 0

/-- A sign at the start of a text, as whether it is a minus, and the rest. -/
def spanSign : Text → Bool × Text
  | '-' :: t => (true, t)
  | '+' :: t => (false, t)
  | t => (false, t)

/-- The text without the leading elements that satisfy `p` and without the trailing ones. -/
def trimBy (p : Char → Bool) (t : Text) : Text :=
  ((t.dropWhile p).reverse.dropWhile p).reverse

end Text

end PackageCatalog
