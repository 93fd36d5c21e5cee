import Playpen.Decimal.Double
import Playpen.Text.Classes

/-!
# Numbers in texts

What a text stands for when a script uses it as a number: blanks at its ends aside, nothing stands
for zero, and otherwise it is a decimal literal with an optional sign, a signed `Infinity`, or an
unsigned literal in radix 16, 8 or 2.
-/

namespace Playpen.Decimal

open Playpen.Text (isDigit isHexDigit hexValue)

/-- Blanks of the script language, line ends included. -/
def isScriptBlank (c : Char) : Bool := (Text.isWhiteSpace c && c.toNat != 0x85) || c.toNat = 0xFEFF

/-- The value of digits in a radix. -/
def digitsValue (radix : Nat) (cs : List Char) : Nat := cs.foldl (fun n c => n * radix + hexValue c) 0

/-- The exponent behind a decimal literal; `none` if something else stands there. -/
def exponentOf : List Char → Option Int
  | [] => some 0
  | c :: rest =>
    if c = 'e' ∨ c = 'E' then
      let digits (negative : Bool) (ds : List Char) : Option Int :=
        if !ds.isEmpty && ds.all isDigit then
          -- beyond this size the exact exponent makes no difference
          let n : Int := if (ds.dropWhile (· = '0')).length > 9 then 999999999 else digitsValue 10 ds
          some (if negative then -n else n)
        else none
      match rest with
      | '+' :: ds => digits false ds
      | '-' :: ds => digits true ds
      | ds => digits false ds
    else none

/-- The value of a decimal literal without a sign. -/
def decimalOf (cs : List Char) : Option Float :=
  let whole := cs.takeWhile isDigit
  let (places, tail, point) := match cs.dropWhile isDigit with
    | '.' :: rest => (rest.takeWhile isDigit, rest.dropWhile isDigit, true)
    | rest => ([], rest, false)
  if whole.isEmpty && (places.isEmpty || !point) then none
  else (exponentOf tail).map fun e => toFloat (digitsValue 10 (whole ++ places)) (e - places.length)

/-- The value of a literal with a mark for its radix. -/
def radixOf : List Char → Option (Option Nat)
  | '0' :: c :: ds =>
    let read (radix : Nat) (digit : Char → Bool) : Option (Option Nat) :=
      some (if !ds.isEmpty && ds.all digit then some (digitsValue radix ds) else none)
    if c = 'x' ∨ c = 'X' then read 16 isHexDigit
    else if c = 'o' ∨ c = 'O' then read 8 fun d => '0' ≤ d ∧ d ≤ '7'
    else if c = 'b' ∨ c = 'B' then read 2 fun d => d = '0' ∨ d = '1'
    else none
  | _ => none

/-- The number that a text stands for. -/
def ofText? (text : String) : Option Float :=
  let cs := Text.trimBy isScriptBlank text.toList
  if cs.isEmpty then some 0
  else match radixOf cs with
    | some v => v.map fun n => toFloat n 0
    | none =>
      let (negative, body) := match cs with
        | '-' :: rest => (true, rest)
        | '+' :: rest => (false, rest)
        | cs => (false, cs)
      let x := if body = ['I', 'n', 'f', 'i', 'n', 'i', 't', 'y'] then some (1.0 / 0.0) else decimalOf body
      x.map fun x => if negative then -x else x

/-- The whole number that a text stands for. -/
def integerOfText? (text : String) : Option Int :=
  let cs := Text.trimBy isScriptBlank text.toList
  if cs.isEmpty then some 0
  else match radixOf cs with
    | some v => v.map Int.ofNat
    | none =>
      let (negative, ds) := match cs with
        | '-' :: rest => (true, rest)
        | '+' :: rest => (false, rest)
        | cs => (false, cs)
      if !ds.isEmpty && ds.all isDigit then
        let n : Int := digitsValue 10 ds
        some (if negative then -n else n)
      else none

end Playpen.Decimal
