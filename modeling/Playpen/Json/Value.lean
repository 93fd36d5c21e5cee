import Playpen.Text.Classes
import Playpen.Decimal.Double

/-!
# JSON values and their written forms

A value keeps the order of its members.  `compact` writes it without blanks, `pretty` over several
lines with two blanks per level.
-/

namespace Playpen

/-- A JSON number: whole numbers in the range of 64-bit integers stay whole, all others are doubles. -/
inductive Json.Number where
  | int (i : Int)
  | double (x : Float)
  deriving Inhabited

/-- A JSON value. -/
inductive Json where
  | null
  | bool (b : Bool)
  | number (n : Json.Number)
  | string (s : String)
  | array (items : List Json)
  | object (members : List (String × Json))
  deriving Inhabited

namespace Json

/-- Sets a member: a repeated key keeps its first position and takes its last value. -/
def insertMember (key : String) (value : Json) : List (String × Json) → List (String × Json)
  | [] => [(key, value)]
  | (k, v) :: rest => if k = key then (k, value) :: rest else (k, v) :: insertMember key value rest

/-- The member with the given key. -/
def member? (key : String) : Json → Option Json
  | object members => (members.find? (·.1 = key)).map (·.2)
  | _ => none

def nat (n : Nat) : Json := number (.int n)

/-! ## Writing -/

/-- One lower-case hexadecimal digit. -/
def hexDigit (n : Nat) : Char := Char.ofNat (if n < 10 then 48 + n else 87 + n)

/-- A character inside a string literal: quotes, backslashes and control characters are escaped. -/
def escapeChar (c : Char) : List Char :=
  if c = '"' then ['\\', '"']
  else if c = '\\' then ['\\', '\\']
  else if c = '\n' then ['\\', 'n']
  else if c = '\r' then ['\\', 'r']
  else if c = '\t' then ['\\', 't']
  else if c = Char.ofNat 8 then ['\\', 'b']
  else if c = Char.ofNat 12 then ['\\', 'f']
  else if c.toNat < 32 then ['\\', 'u', '0', '0', hexDigit (c.toNat / 16), hexDigit (c.toNat % 16)]
  else [c]

/-- A string literal. -/
def quote (s : String) : String := String.ofList ('"' :: s.toList.flatMap escapeChar ++ ['"'])

def Number.text : Number → String
  | .int i => if i < 0 then "-" ++ Decimal.natText i.natAbs else Decimal.natText i.natAbs
  | .double x => Decimal.documentText x

mutual

/-- The value without blanks. -/
def compact : Json → String
  | null => "null"
  | bool true => "true"
  | bool false => "false"
  | number n => n.text
  | string s => quote s
  | array items => "[" ++ compactItems items ++ "]"
  | object members => "\x7b" ++ compactMembers members ++ "\x7d"

/-- Items with commas between them. -/
def compactItems : List Json → String
  | [] => ""
  | item :: rest => compact item ++ compactMoreItems rest

/-- The items after the first, each behind its comma. -/
def compactMoreItems : List Json → String
  | [] => ""
  | item :: rest => "," ++ compact item ++ compactMoreItems rest

/-- Members with commas between them. -/
def compactMembers : List (String × Json) → String
  | [] => ""
  | (key, value) :: rest => quote key ++ ":" ++ compact value ++ compactMoreMembers rest

/-- The members after the first, each behind its comma. -/
def compactMoreMembers : List (String × Json) → String
  | [] => ""
  | (key, value) :: rest => "," ++ quote key ++ ":" ++ compact value ++ compactMoreMembers rest

end

/-- Begins a line at a level. -/
def newline (level : Nat) : String := "\n" ++ "".pushn ' ' (2 * level)

mutual

/-- The value over several lines, as it stands at a level. -/
def prettyAt (level : Nat) : Json → String
  | array [] => "[]"
  | object [] => "\x7b\x7d"
  | array (item :: rest) =>
    "[" ++ newline (level + 1) ++ prettyAt (level + 1) item ++ prettyItems (level + 1) rest ++
      newline level ++ "]"
  | object ((key, value) :: rest) =>
    "\x7b" ++ newline (level + 1) ++ quote key ++ ": " ++ prettyAt (level + 1) value ++
      prettyMembers (level + 1) rest ++ newline level ++ "\x7d"
  | value => compact value

/-- The items after the first. -/
def prettyItems (level : Nat) : List Json → String
  | [] => ""
  | item :: rest => "," ++ newline level ++ prettyAt level item ++ prettyItems level rest

/-- The members after the first. -/
def prettyMembers (level : Nat) : List (String × Json) → String
  | [] => ""
  | (key, value) :: rest =>
    "," ++ newline level ++ quote key ++ ": " ++ prettyAt level value ++ prettyMembers level rest

end

/-- The value over several lines. -/
def pretty (v : Json) : String := prettyAt 0 v

end Json

end Playpen
