import Playpen.Text.Tables

/-!
# Classes and case of characters

The character classes the program decides by: white space, letters and numbers, numbers, and the
two classes identifiers are made of.  Below U+0080 each class is a short rule; above it, membership
is read off the edges of `Playpen.Text.Tables`.  Upper and lower case are the full mappings, so one
character may become several.
-/

namespace Playpen.Text

/-- How many of the ascending `edges` in the window `[lo, hi)` are at or below `n`, counted from the
start; the window halves in every round. -/
def edgesUpTo (edges : Array Nat) (n lo hi : Nat) : Nat :=
  if lo < hi then
    let mid := (lo + hi) / 2
    if edges[mid]?.any (· ≤ n) then edgesUpTo edges n (mid + 1) hi else edgesUpTo edges n lo mid
  else lo
termination_by hi - lo

/-- A code point is in a class when an odd number of the class's edges is at or below it. -/
def inClass (edges : Array Nat) (n : Nat) : Bool := edgesUpTo edges n 0 edges.size % 2 = 1

/-- The letters `A` to `Z` and `a` to `z`. -/
def isAsciiLetter (c : Char) : Bool := ('a' ≤ c ∧ c ≤ 'z') ∨ ('A' ≤ c ∧ c ≤ 'Z')

/-- The digits `0` to `9`. -/
def isDigit (c : Char) : Bool := '0' ≤ c ∧ c ≤ '9'

/-- The digits `0` to `9` and the letters `a` to `f` in either case. -/
def isHexDigit (c : Char) : Bool := isDigit c ∨ ('a' ≤ c ∧ c ≤ 'f') ∨ ('A' ≤ c ∧ c ≤ 'F')

/-- The value of a hexadecimal digit, and 0 for any other character. -/
def hexValue (c : Char) : Nat :=
  if isDigit c then c.toNat - 48
  else if 'a' ≤ c ∧ c ≤ 'f' then c.toNat - 87
  else if 'A' ≤ c ∧ c ≤ 'F' then c.toNat - 55
  else 0

/-- The Unicode property White_Space. -/
def isWhiteSpace (c : Char) : Bool :=
  let n := c.toNat
  (9 ≤ n ∧ n ≤ 13) ∨ n = 0x20 ∨ n = 0x85 ∨ n = 0xA0 ∨ n = 0x1680 ∨ (0x2000 ≤ n ∧ n ≤ 0x200A) ∨
    n = 0x2028 ∨ n = 0x2029 ∨ n = 0x202F ∨ n = 0x205F ∨ n = 0x3000

/-- Letters (Alphabetic) and numbers (Nd, Nl, No). -/
def isAlphanumeric (c : Char) : Bool :=
  if c.toNat < 128 then isAsciiLetter c || isDigit c else inClass Tables.alphanumeric c.toNat

/-- Numbers: Nd, Nl and No. -/
def isNumber (c : Char) : Bool :=
  if c.toNat < 128 then isDigit c else inClass Tables.numeric c.toNat

/-- ID_Start: a character that may begin a name. -/
def isIdStart (c : Char) : Bool :=
  if c.toNat < 128 then isAsciiLetter c else inClass Tables.idStart c.toNat

/-- ID_Continue: a character that may go on in a name. -/
def isIdContinue (c : Char) : Bool :=
  if c.toNat < 128 then isAsciiLetter c || isDigit c || c = '_' else inClass Tables.idContinue c.toNat

/-- The image of `n` under the runs of a case table. -/
def mapRun (runs : Array (Nat × Nat × Nat × Int)) (n : Nat) : Option Nat :=
  runs.findSome? fun (first, last, stride, shift) =>
    if first ≤ n ∧ n ≤ last ∧ (n - first) % stride = 0 then some (Int.toNat (n + shift)) else none

/-- Full upper case of one character. -/
def upper (c : Char) : List Char :=
  if c.toNat < 128 then [c.toUpper]
  else match Tables.upperSpecial.find? (·.1 = c.toNat) with
    | some (_, cs) => cs.map Char.ofNat
    | none => [((mapRun Tables.upperRuns c.toNat).map Char.ofNat).getD c]

/-- Full lower case of one character, without regard to its neighbours. -/
def lower (c : Char) : List Char :=
  if c.toNat < 128 then [c.toLower]
  else match Tables.lowerSpecial.find? (·.1 = c.toNat) with
    | some (_, cs) => cs.map Char.ofNat
    | none => [((mapRun Tables.lowerRuns c.toNat).map Char.ofNat).getD c]

/-- Drops the characters that satisfy `p` from both ends. -/
def trimBy (p : Char → Bool) (cs : List Char) : List Char :=
  ((cs.dropWhile p).reverse.dropWhile p).reverse

end Playpen.Text
