import Playpen.Text.Classes

/-!
# Texts that are shown as numbers

A text counts as a number when, blanks at its ends aside, it is a decimal literal with an optional
sign, a signed `Infinity`, or an unsigned literal in radix 16, 8 or 2.
-/

namespace Playpen.Display

open Playpen.Text (isDigit isHexDigit isWhiteSpace trimBy)

/-- Blanks around a number: White_Space and the byte order mark. -/
def isNumberBlank (c : Char) : Bool := isWhiteSpace c || c.toNat = 0xFEFF

/-! ## Decimal literals

They are looked for in the bytes of a text, with a place in them that moves on.  A look at a byte
that is not there comes to nothing, and so does all that depends on it.
-/

/-- Whether there is a byte of a class at a place; there is none at the end. -/
def looksAt (p : Char → Bool) (bytes : ByteArray) (i : Nat) : Option Bool :=
  if i < bytes.size then bytes[i]?.map fun b => p (Char.ofUInt8 b) else some false

theorem lt_of_looksAt {p : Char → Bool} {bytes : ByteArray} {i : Nat}
    (h : looksAt p bytes i = some true) : i < bytes.size := by
  unfold looksAt at h
  split at h
  · assumption
  · cases h

/-- The place behind the digits that begin at a place. -/
def skipDigits (bytes : ByteArray) (i : Nat) : Option Nat :=
  match h : looksAt isDigit bytes i with
  | some true => skipDigits bytes (i + 1)
  | some false => some i
  | none => none
termination_by bytes.size - i
decreasing_by
  have := lt_of_looksAt h
  omega

/-- Skips digits with an optional point among, before or after them.  Says how many digits there are,
and gives the place behind all. -/
def skipMantissa (bytes : ByteArray) : Option (Nat × Nat) := do
  let i ← skipDigits bytes 0
  if ← looksAt (· = '.') bytes i then
    let j ← skipDigits bytes (i + 1)
    return (i + (j - (i + 1)), j)
  else return (i, i)

/-- The place behind the sign at a place, or that place if there is none. -/
def skipSign (bytes : ByteArray) (i : Nat) : Option Nat := do
  if ← looksAt (fun c => c = '+' ∨ c = '-') bytes i then return i + 1 else return i

/-- The place behind the exponent part that begins at a place, or that place if there is none: `e` or
`E`, an optional sign, at least one digit.  Without a digit it is no exponent part. -/
def skipExponent (bytes : ByteArray) (i : Nat) : Option (Option Nat) := do
  if ← looksAt (fun c => c = 'e' ∨ c = 'E') bytes i then
    let first ← skipSign bytes (i + 1)
    let j ← skipDigits bytes first
    return if j = first then none else some j
  else return some i

/-- Whether a decimal literal without a sign takes up all of the bytes: a mantissa with at least one
digit, and an optional exponent part. -/
def scanDecimal (bytes : ByteArray) : Option Bool := do
  let (digits, i) ← skipMantissa bytes
  if digits = 0 then return false
  match ← skipExponent bytes i with
  | none => return false
  | some j => return j = bytes.size

/-- Whether a text is a decimal literal without a sign. -/
def isDecimalLiteral (cs : List Char) : Bool := scanDecimal (String.ofList cs).toUTF8 = some true

/-! ## Numbers -/

/-- The class of digits announced by `0x`, `0o` or `0b`, and what follows the mark. -/
def radixBody : List Char → Option ((Char → Bool) × List Char)
  | '0' :: c :: rest =>
    if c = 'x' ∨ c = 'X' then some (isHexDigit, rest)
    else if c = 'o' ∨ c = 'O' then some (fun d => '0' ≤ d ∧ d ≤ '7', rest)
    else if c = 'b' ∨ c = 'B' then some (fun d => d = '0' ∨ d = '1', rest)
    else none
  | _ => none

/-- Drops one sign. -/
def unsigned : List Char → List Char
  | '+' :: rest => rest
  | '-' :: rest => rest
  | cs => cs

/-- Whether a text is shown as a number. -/
def isNumeric (text : String) : Bool :=
  let cs := trimBy isNumberBlank text.toList
  !cs.isEmpty &&
    match radixBody cs with
    | some (digit, body) => !body.isEmpty && body.all digit
    | none =>
      let body := unsigned cs
      body = ['I', 'n', 'f', 'i', 'n', 'i', 't', 'y'] || isDecimalLiteral body

end Playpen.Display
