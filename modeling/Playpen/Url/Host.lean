import Playpen.Url.Domain
import Playpen.Url.Percent

/-!
# Hosts of URLs

A host is a domain, an address, or an opaque name of a scheme the standard knows nothing about.  A
domain is written in ASCII; one whose last label is a number is an IPv4 address.
-/

namespace Playpen.Url

/-- Why a text is not a URL. -/
inductive Error where
  | emptyHost | badDomain | badPort | badIPv4 | badIPv6 | badHostCharacter
  | noBase | opaqueBase
  deriving DecidableEq, Repr

def Error.message : Error → String
  | emptyHost => "empty host"
  | badDomain => "invalid international domain name"
  | badPort => "invalid port number"
  | badIPv4 => "invalid IPv4 address"
  | badIPv6 => "invalid IPv6 address"
  | badHostCharacter => "invalid domain character"
  | noBase => "relative URL without a base"
  | opaqueBase => "relative URL with a cannot-be-a-base base"

/-- A host. -/
inductive Host where
  | domain (name : String)
  | ipv4 (address : Nat)
  | ipv6 (pieces : List Nat)
  deriving DecidableEq, Repr

/-! ## IPv4 -/

/-- A number in a radix. -/
def numberIn (radix : Nat) (cs : List Char) : Nat := cs.foldl (fun n c => n * radix + Text.hexValue c) 0

/-- A part of an IPv4 address: decimal, octal after `0`, hexadecimal after `0x`. -/
def ipv4Number (cs : List Char) : Option Nat :=
  let read (radix : Nat) (digit : Char → Bool) (cs : List Char) : Option Nat :=
    if cs.all digit then some (numberIn radix cs) else none
  match cs with
  | [] => none
  | '0' :: 'x' :: rest => read 16 Text.isHexDigit rest
  | '0' :: 'X' :: rest => read 16 Text.isHexDigit rest
  | '0' :: c :: rest => read 8 (fun d => '0' ≤ d ∧ d ≤ '7') (c :: rest)
  | cs => read 10 Text.isDigit cs

/-- Whether the last label of a domain is a number. -/
def endsInNumber (cs : List Char) : Bool :=
  let labels := (splitOnChar '.' cs).reverse
  let last := match labels with
    | [] :: [] => none
    | [] :: last :: _ => some last
    | last :: _ => some last
    | [] => none
  match last with
  | none => false
  | some label => (!label.isEmpty && label.all Text.isDigit) || (ipv4Number label).isSome

/-- The address given by up to four parts. -/
def parseIPv4 (cs : List Char) : Except Error Nat :=
  let parts := splitOnChar '.' cs
  let parts := if parts.getLast? = some [] then parts.dropLast else parts
  if parts.length > 4 then .error .badIPv4
  else match parts.mapM ipv4Number with
    | none => .error .badIPv4
    | some numbers =>
      match numbers.getLast? with
      | none => .error .badIPv4
      | some last =>
        let front := numbers.dropLast
        if last ≥ Nat.pow 256 (4 - front.length) ∨ front.any (· > 255) then .error .badIPv4
        else .ok (front.zipIdx.foldl (fun sum (n, i) => sum + n * Nat.pow 256 (3 - i)) last)

def ipv4Text (n : Nat) : String :=
  ".".intercalate ([n / Nat.pow 2 24 % 256, n / Nat.pow 2 16 % 256, n / Nat.pow 2 8 % 256, n % 256].map toString)

/-! ## IPv6 -/

/-- A trailing dotted address inside an IPv6 address, as two pieces. -/
def embeddedIPv4 (cs : List Char) : Option (List Nat) := do
  let parts := splitOnChar '.' cs
  if parts.length ≠ 4 then none
  else
    let numbers ← parts.mapM fun p =>
      if p.isEmpty ∨ !p.all Text.isDigit ∨ (p.length > 1 ∧ p.head? = some '0') ∨ p.length > 3 then none
      else
        let n := numberIn 10 p
        if n > 255 then none else some n
    match numbers with
    | [a, b, c, d] => some [a * 256 + b, c * 256 + d]
    | _ => none

/-- One side of `::`.  A dotted address can only be the end of the whole. -/
def ipv6Side (ends : Bool) (cs : List Char) : Option (List Nat) :=
  if cs.isEmpty then some []
  else
    let groups := splitOnChar ':' cs
    let pieces := groups.zipIdx.mapM fun (g, i) =>
      if ends ∧ i + 1 = groups.length ∧ g.contains '.' then embeddedIPv4 g
      else if g.isEmpty ∨ g.length > 4 ∨ !g.all Text.isHexDigit then none
      else some [numberIn 16 g]
    pieces.map List.flatten

/-- Cuts a text at the first `::`. -/
def cutDoubleColon : List Char → Option (List Char × List Char)
  | ':' :: ':' :: rest => some ([], rest)
  | c :: rest => (cutDoubleColon rest).map fun (a, b) => (c :: a, b)
  | [] => none

def parseIPv6 (cs : List Char) : Except Error Host :=
  let pieces := match cutDoubleColon cs with
    | some (before, after) => do
      let a ← ipv6Side false before
      let b ← ipv6Side true after
      if a.length + b.length > 7 then none
      else some (a ++ List.replicate (8 - a.length - b.length) 0 ++ b)
    | none => do
      let a ← ipv6Side true cs
      if a.length = 8 then some a else none
  match pieces with
  | some ps => .ok (.ipv6 ps)
  | none => .error .badIPv6

/-- Start and length of the longest run of zeros, the first of equals. -/
def longestZeros (pieces : List Nat) : Nat × Nat :=
  let step := fun (best : Nat × Nat) (i : Nat) =>
    let n := ((pieces.drop i).takeWhile (· = 0)).length
    if n > best.2 then (i, n) else best
  (List.range pieces.length).foldl step (0, 0)

def ipv6Text (pieces : List Nat) : String :=
  let hex (n : Nat) : String := String.ofList (Nat.toDigits 16 n)
  let (start, n) := longestZeros pieces
  if n < 2 then ":".intercalate (pieces.map hex)
  else
    ":".intercalate ((pieces.take start).map hex) ++ "::" ++ ":".intercalate ((pieces.drop (start + n)).map hex)

/-- The written form of a host. -/
def Host.text : Host → String
  | domain name => name
  | ipv4 n => ipv4Text n
  | ipv6 ps => "[" ++ ipv6Text ps ++ "]"

/-! ## Domains -/

/-- Characters that no domain holds. -/
def forbiddenInDomain (c : Char) : Bool :=
  c.toNat ≤ 0x20 || c.toNat = 0x7F || c = '#' || c = '/' || c = ':' || c = '<' || c = '>' || c = '?' ||
    c = '@' || c = '[' || c = '\\' || c = ']' || c = '^' || c = '|' || c = '%'

/-- Characters that no opaque host holds. -/
def forbiddenInOpaque (c : Char) : Bool :=
  c.toNat = 0 || c = '\t' || c = '\n' || c = '\r' || c = ' ' || c = '#' || c = '/' || c = ':' || c = '<' ||
    c = '>' || c = '?' || c = '@' || c = '[' || c = '\\' || c = ']' || c = '^' || c = '|'

/-- A domain in ASCII. -/
def domainToAscii (cs : List Char) : Except Error (List Char) :=
  match Domain.toAscii? cs with
  | some ascii => if ascii.any forbiddenInDomain then .error .badDomain else .ok ascii
  | none => .error .badDomain

/-- The host of a special scheme. -/
def Host.parse (cs : List Char) : Except Error Host :=
  match cs with
  | '[' :: rest =>
    if rest.getLast? = some ']' then parseIPv6 rest.dropLast else .error .badIPv6
  | cs =>
    let bytes := percentDecode (String.ofList cs).toUTF8.toList
    match String.fromUTF8? ⟨bytes.toArray⟩ with
    | none => .error .badDomain
    | some text => do
      let ascii ← domainToAscii text.toList
      if ascii.isEmpty then .error .emptyHost
      else if endsInNumber ascii then return .ipv4 (← parseIPv4 ascii)
      else return .domain (String.ofList ascii)

/-- The host of any other scheme. -/
def Host.parseOpaque (cs : List Char) : Except Error Host :=
  match cs with
  | '[' :: rest =>
    if rest.getLast? = some ']' then parseIPv6 rest.dropLast else .error .badIPv6
  | cs =>
    if cs.any forbiddenInOpaque then .error .badHostCharacter
    else .ok (.domain (String.ofList (encodeWith controlSet cs)))

/-- A host, special or opaque after its scheme. -/
def Host.read (special : Bool) (cs : List Char) : Except Error Host :=
  if special then Host.parse cs else Host.parseOpaque cs

end Playpen.Url
