import Playpen.Json.Value

/-!
# Reading JSON text: places, faults, scalars

A cursor is the text still to be read together with its line and column, the column counted in
bytes.  A fault that concerns the next character is placed just behind it (`faultAhead`), one that
concerns what has been read stands where reading stopped (`faultHere`), and one about a value's
meaning is placed by whoever reads the value (`placed`).
-/

namespace Playpen.Json

/-- What is wrong with a text. -/
inductive Problem where
  | endInList | endInObject | endInString | endInValue
  | expectedColon | expectedItemEnd | expectedMemberEnd
  | expectedWord | expectedValue
  | badEscape | badNumber | numberOutOfRange
  | controlCharacter | keyNotString | loneSurrogate | shortSurrogate
  | trailingComma | trailingCharacters | tooDeep
  /-- The text is JSON, but not of the wanted kind. -/
  | mismatch (reason : String)
  deriving DecidableEq, Repr

def Problem.message : Problem → String
  | endInList => "EOF while parsing a list"
  | endInObject => "EOF while parsing an object"
  | endInString => "EOF while parsing a string"
  | endInValue => "EOF while parsing a value"
  | expectedColon => "expected `:`"
  | expectedItemEnd => "expected `,` or `]`"
  | expectedMemberEnd => "expected `,` or `\x7d`"
  | expectedWord => "expected ident"
  | expectedValue => "expected value"
  | badEscape => "invalid escape"
  | badNumber => "invalid number"
  | numberOutOfRange => "number out of range"
  | controlCharacter => "control character (\\u0000-\\u001F) found while parsing a string"
  | keyNotString => "key must be a string"
  | loneSurrogate => "lone leading surrogate in hex escape"
  | shortSurrogate => "unexpected end of hex escape"
  | trailingComma => "trailing comma"
  | trailingCharacters => "trailing characters"
  | tooDeep => "recursion limit exceeded"
  | mismatch reason => reason

/-- A line, from 1, and a column in bytes. -/
structure Place where
  line : Nat
  column : Nat
  deriving DecidableEq, Repr

/-- A problem and, once known, its place. -/
structure Fault where
  problem : Problem
  place : Option Place
  deriving DecidableEq, Repr

def Fault.message (f : Fault) : String :=
  match f.place with
  | some p => s!"{f.problem.message} at line {p.line} column {p.column}"
  | none => f.problem.message

/-- Text still to be read and the place where it begins. -/
structure Cursor where
  rest : List Char
  line : Nat
  column : Nat

def Cursor.ofString (s : String) : Cursor := ⟨s.toList, 1, 0⟩

def Cursor.place (c : Cursor) : Place := ⟨c.line, c.column⟩

/-- The place one byte further on. -/
def Cursor.placeAhead (c : Cursor) : Place :=
  match c.rest with
  | [] => c.place
  | '\n' :: _ => ⟨c.line + 1, 0⟩
  | _ :: _ => ⟨c.line, c.column + 1⟩

/-- The cursor behind the first character `c`, with `rest` to come. -/
def Cursor.pass (k : Cursor) (c : Char) (rest : List Char) : Cursor :=
  if c = '\n' then ⟨rest, k.line + 1, 0⟩ else ⟨rest, k.line, k.column + c.utf8Size⟩

/-- Readers move a cursor; a failing reader still says how far it came. -/
abbrev Reader := EStateM Fault Cursor

namespace Reader

def faultHere (p : Problem) : Reader α := fun c => .error ⟨p, some c.place⟩ c
def faultAhead (p : Problem) : Reader α := fun c => .error ⟨p, some c.placeAhead⟩ c
def mismatch (reason : String) : Reader α := fun c => .error ⟨.mismatch reason, none⟩ c

/-- Gives a fault that has no place the place where the reader stopped. -/
def placed (r : Reader α) : Reader α := fun c =>
  match r c with
  | .error ⟨p, none⟩ c' => .error ⟨p, some c'.place⟩ c'
  | other => other

def peek : Reader (Option Char) := fun c => .ok c.rest.head? c

/-- Takes the next character, if there is one. -/
def next : Reader (Option Char) := fun c =>
  match c.rest with
  | [] => .ok none c
  | x :: rest => .ok (some x) (c.pass x rest)

def skip : Reader Unit := do discard next

/-- The JSON blanks: space, tab, line feed, carriage return. -/
def isBlank (c : Char) : Bool := c = ' ' || c = '\t' || c = '\n' || c = '\r'

def skipBlanksFrom (k : Cursor) : List Char → Cursor
  | [] => { k with rest := [] }
  | c :: rest => if isBlank c then skipBlanksFrom (k.pass c rest) rest else { k with rest := c :: rest }

/-- Skips blanks and looks at the next character. -/
def peekToken : Reader (Option Char) := fun c =>
  let c := skipBlanksFrom c c.rest
  .ok c.rest.head? c

/-- The rest of `null`, `true` or `false`. -/
def word : List Char → Reader Unit
  | [] => pure ()
  | x :: xs => do
    match ← peek with
    | none => faultHere .endInValue
    | some c => if c = x then do skip; word xs else faultAhead .expectedWord

/-! ## Numbers

A number's digits are gathered into a significand below 2^64 and a power of ten; a significand that
would grow beyond drops its further digits.  A double is the significand, as a double, multiplied or
divided by powers of ten up to `10^308`, so the last bit is the one that this arithmetic gives. -/

/-- `10^n` as a double. -/
def power10 (n : Nat) : Float := Float.ofScientific 1 false n

/-- Divides by `10^308` until the rest of the exponent is in the table. -/
def scaleDown : Nat → Float → Nat → Float
  | 0, x, _ => x
  | fuel + 1, x, n =>
    if n ≤ 308 then x / power10 n
    else if x == 0.0 then x
    else scaleDown fuel (x / power10 308) (n - 308)

/-- `significand · 10^exponent`; `none` when it is out of range. -/
def assemble (significand : Nat) (exponent : Int) : Option Float :=
  let x := significand.toUInt64.toFloat
  if exponent ≥ 0 then
    if exponent ≤ 308 then
      let y := x * power10 exponent.toNat
      if y.isInf then none else some y
    else if x == 0.0 then some x else none
  else some (scaleDown 8 x exponent.natAbs)

def sign (positive : Bool) (x : Float) : Float := if positive then x else -x

def double (positive : Bool) (significand : Nat) (exponent : Int) : Reader Number :=
  match assemble significand exponent with
  | some x => pure (.double (sign positive x))
  | none => faultHere .numberOutOfRange

/-- The next character when it is a digit; it is not taken. -/
def peekDigit : Reader (Option Nat) := do
  match ← peek with
  | some c => pure (if Text.isDigit c then some (c.toNat - 48) else none)
  | none => pure none

/-- Skips digits and says how many there were. -/
def skipDigits : Nat → Nat → Reader Nat
  | 0, n => pure n
  | fuel + 1, n => do
    match ← peekDigit with
    | some _ => skip; skipDigits fuel (n + 1)
    | none => pure n

def remaining : Reader Nat := fun c => .ok c.rest.length c

/-- Exponents stop growing here. -/
def exponentLimit : Nat := 2147483647

/-- The digits of an exponent; `none` when it passes the limit. -/
def exponentDigits : Nat → Nat → Reader (Option Nat)
  | 0, e => pure (some e)
  | fuel + 1, e => do
    match ← peekDigit with
    | some d =>
      skip
      if e * 10 + d > exponentLimit then pure none else exponentDigits fuel (e * 10 + d)
    | none => pure (some e)

/-- Keeps an exponent within 32 bits. -/
def clampExponent (e : Int) : Int := max (-2147483648) (min 2147483647 e)

/-- From the `e` of an exponent part on. -/
def exponentPart (positive : Bool) (significand : Nat) (start : Int) : Reader Number := do
  skip
  let positiveExponent ← match ← peek with
    | some '+' => do skip; pure true
    | some '-' => do skip; pure false
    | _ => pure true
  match ← peek with
  | none => faultHere .endInValue
  | some c =>
    if Text.isDigit c then
      skip
      match ← exponentDigits (← remaining) (c.toNat - 48) with
      | some e => double positive significand (clampExponent (if positiveExponent then start + e else start - e))
      | none =>
        if significand ≠ 0 && positiveExponent then faultHere .numberOutOfRange
        else
          discard (skipDigits (← remaining) 0)
          pure (.double (sign positive 0.0))
    else faultAhead .badNumber

def isExponentMark (c : Option Char) : Bool := c == some 'e' || c == some 'E'

/-- The end of a number that has a point: an exponent part or nothing. -/
def afterPlaces (positive : Bool) (significand : Nat) (exponent : Int) : Reader Number := do
  if isExponentMark (← peek) then exponentPart positive significand exponent
  else double positive significand exponent

/-- Digits after the point. -/
def places (positive : Bool) (start : Int) : Nat → Nat → Nat → Reader Number
  | 0, significand, count => afterPlaces positive significand (start - count)
  | fuel + 1, significand, count => do
    match ← peekDigit with
    | some d =>
      if significand * 10 + d < Nat.pow 2 64 then
        skip
        places positive start fuel (significand * 10 + d) (count + 1)
      else
        discard (skipDigits (fuel + 1) 0)
        afterPlaces positive significand (start - count)
    | none =>
      if count = 0 then
        match ← peek with
        | some _ => faultAhead .badNumber
        | none => faultAhead .endInValue
      else afterPlaces positive significand (start - count)

/-- From the point of a number on. -/
def pointPart (positive : Bool) (significand : Nat) (start : Int) : Reader Number := do
  skip
  places positive start (← remaining) significand 0

/-- What follows the whole part of a number. -/
def afterWhole (positive : Bool) (significand : Nat) : Reader Number := do
  let c ← peek
  if c == some '.' then pointPart positive significand 0
  else if isExponentMark c then exponentPart positive significand 0
  else if positive then pure (.int significand)
  else if 0 < significand ∧ significand ≤ Nat.pow 2 63 then pure (.int (-(significand : Int)))
  else pure (.double (-significand.toUInt64.toFloat))

/-- The digits of a whole part that no longer fits: they only count. -/
def longWhole (positive : Bool) (significand : Nat) : Reader Number := do
  let n ← skipDigits (← remaining) 0
  let c ← peek
  if c == some '.' then pointPart positive significand n
  else if isExponentMark c then exponentPart positive significand n
  else double positive significand n

def wholeDigits (positive : Bool) : Nat → Nat → Reader Number
  | 0, significand => afterWhole positive significand
  | fuel + 1, significand => do
    match ← peekDigit with
    | some d =>
      if significand * 10 + d < Nat.pow 2 64 then
        skip
        wholeDigits positive fuel (significand * 10 + d)
      else longWhole positive significand
    | none => afterWhole positive significand

/-- A number without its sign. -/
def number (positive : Bool) : Reader Number := do
  match ← peek with
  | none => faultHere .endInValue
  | some '0' =>
    skip
    match ← peekDigit with
    | some _ => faultAhead .badNumber
    | none => afterWhole positive 0
  | some c =>
    if Text.isDigit c then
      skip
      wholeDigits positive (← remaining) (c.toNat - 48)
    else faultAhead .badNumber

/-! ## Strings -/

/-- Four hexadecimal digits. -/
def hex4 : Reader Nat := fun c =>
  match c.rest with
  | a :: b :: x :: y :: _ =>
    -- the four places are bytes: a longer character is no digit and ends the escape early
    if a.utf8Size + b.utf8Size + x.utf8Size + y.utf8Size = 4 then
      let c' := { c with rest := c.rest.drop 4, column := c.column + 4 }
      if Text.isHexDigit a && Text.isHexDigit b && Text.isHexDigit x && Text.isHexDigit y then
        .ok (((Text.hexValue a * 16 + Text.hexValue b) * 16 + Text.hexValue x) * 16 + Text.hexValue y) c'
      else .error ⟨.badEscape, some c'.place⟩ c'
    else .error ⟨.badEscape, some ⟨c.line, c.column + 4⟩⟩ c
  | short =>
    let bytes := short.foldl (fun n c => n + c.utf8Size) 0
    let c' := { c with rest := [], column := c.column + bytes }
    if bytes < 4 then .error ⟨.endInString, some c'.place⟩ c'
    else .error ⟨.badEscape, some ⟨c.line, c.column + 4⟩⟩ c'

/-- Takes the next character if it is the wanted one, and otherwise faults behind it. -/
def demand (wanted : Char) (p : Problem) : Reader Unit := do
  match ← peek with
  | none => faultHere .endInString
  | some c => if c = wanted then skip else faultAhead p

/-- The character of a `\u` escape. -/
def unicodeEscape : Reader Char := do
  let n ← hex4
  if 0xDC00 ≤ n ∧ n ≤ 0xDFFF then faultHere .loneSurrogate
  else if 0xD800 ≤ n ∧ n ≤ 0xDBFF then
    demand '\\' .shortSurrogate
    demand 'u' .shortSurrogate
    let lo ← hex4
    if 0xDC00 ≤ lo ∧ lo ≤ 0xDFFF then pure (Char.ofNat ((n - 0xD800) * 0x400 + (lo - 0xDC00) + 0x10000))
    else faultHere .loneSurrogate
  else pure (Char.ofNat n)

/-- The character named by the letter after a backslash, if it stands for one. -/
def simpleEscape : Char → Option Char
  | '"' => some '"'
  | '\\' => some '\\'
  | '/' => some '/'
  | 'b' => some (Char.ofNat 8)
  | 'f' => some (Char.ofNat 12)
  | 'n' => some '\n'
  | 'r' => some '\r'
  | 't' => some '\t'
  | _ => none

/-- The rest of a string, its opening quote taken. -/
def stringRest : Nat → List Char → Reader String
  | 0, _ => faultHere .endInString
  | fuel + 1, acc => do
    match ← next with
    | none => faultHere .endInString
    | some '"' => pure (String.ofList acc.reverse)
    | some '\\' =>
      match ← peek with
      | none => faultHere .endInString
      | some 'u' =>
        skip
        stringRest fuel ((← unicodeEscape) :: acc)
      | some c =>
        match simpleEscape c with
        | some x =>
          skip
          stringRest fuel (x :: acc)
        | none => faultAhead .badEscape
    | some c => if c.toNat < 32 then faultHere .controlCharacter else stringRest fuel (c :: acc)

/-- A string whose opening quote has been taken. -/
def string : Reader String := do stringRest ((← remaining) + 1) []

end Reader

end Playpen.Json
