import Playpen.Text.Classes

/-!
# Percent encoding

Which characters a part of a URL may hold as they are is a set per part, each a superset of the one
before; everything else is written as the percent-encoded bytes of its UTF-8 form.
-/

namespace Playpen.Url

/-- Control characters and everything beyond U+007E. -/
def controlSet (c : Char) : Bool := c.toNat < 0x20 || c.toNat > 0x7E

def fragmentSet (c : Char) : Bool := controlSet c || c = ' ' || c = '"' || c = '<' || c = '>' || c.toNat = 0x60

def querySet (c : Char) : Bool := controlSet c || c = ' ' || c = '"' || c = '#' || c = '<' || c = '>'

def specialQuerySet (c : Char) : Bool := querySet c || c = '\''

def pathSet (c : Char) : Bool := fragmentSet c || c = '#' || c = '?' || c = '\x7b' || c = '\x7d'

def userinfoSet (c : Char) : Bool :=
  pathSet c || c = '/' || c = ':' || c = ';' || c = '=' || c = '@' || c = '[' || c = '\\' || c = ']' ||
    c = '^' || c = '|'

/-- A byte as `%` and two upper-case hexadecimal digits. -/
def percentByte (b : UInt8) : List Char :=
  let digit (n : Nat) : Char := Char.ofNat (if n < 10 then 48 + n else 55 + n)
  ['%', digit (b.toNat / 16), digit (b.toNat % 16)]

/-- Encodes the characters of a set. -/
def encodeWith (set : Char → Bool) (cs : List Char) : List Char :=
  cs.flatMap fun c =>
    if set c then (String.singleton c).toUTF8.toList.flatMap percentByte else [c]

/-- The bytes of a text with `%xx` read as the byte it names. -/
def percentDecode : List UInt8 → List UInt8
  | b :: h :: l :: rest =>
    let hc := Char.ofNat h.toNat
    let lc := Char.ofNat l.toNat
    if b = 0x25 ∧ Text.isHexDigit hc ∧ Text.isHexDigit lc then
      (Text.hexValue hc * 16 + Text.hexValue lc).toUInt8 :: percentDecode rest
    else b :: percentDecode (h :: l :: rest)
  | short => short

end Playpen.Url
