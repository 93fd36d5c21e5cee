import Playpen.Text.Classes

/-!
# Punycode

A label with characters beyond ASCII is written as its ASCII characters, a hyphen, and a string of
digits in base 36 that says where the other characters are inserted.
-/

namespace Playpen.Url.Punycode

def base : Nat := 36
def tMin : Nat := 1
def tMax : Nat := 26
def initialBias : Nat := 72
def initialCode : Nat := 128

/-- Divides `delta` down to the range of one digit and counts the steps. -/
def scaleBias : Nat → Nat → Nat → Nat
  | 0, _, k => k
  | fuel + 1, delta, k =>
    if delta > (base - tMin) * tMax / 2 then scaleBias fuel (delta / (base - tMin)) (k + base)
    else k + (base - tMin + 1) * delta / (delta + 38)

/-- The bias for the next delta. -/
def adapt (delta count : Nat) (first : Bool) : Nat :=
  let delta := if first then delta / 700 else delta / 2
  scaleBias 64 (delta + delta / count) 0

/-- The threshold of the digit at position `k`. -/
def threshold (k bias : Nat) : Nat := if k ≤ bias + tMin then tMin else if k ≥ bias + tMax then tMax else k - bias

def digit (d : Nat) : Char := Char.ofNat (if d < 26 then 97 + d else 22 + d)

/-- A delta as digits of variable length. -/
def digits (bias : Nat) : Nat → Nat → Nat → List Char
  | 0, _, _ => []
  | fuel + 1, q, k =>
    let t := threshold k bias
    if q < t then [digit q]
    else digit (t + (q - t) % (base - t)) :: digits bias fuel ((q - t) / (base - t)) (k + base)

/-- State of the encoder: the last code point handled, the delta, the bias, and how many characters
are placed. -/
structure Encoder where
  code : Nat
  delta : Nat
  bias : Nat
  placed : Nat

/-- Handles every occurrence of the code point `m`. -/
def encodeRound (basic m : Nat) (input : List Nat) (e : Encoder) : Encoder × List Char :=
  let delta := e.delta + (m - e.code) * (e.placed + 1)
  let step := fun (acc : Encoder × List Char) (c : Nat) =>
    let (e, out) := acc
    if c < m then ({ e with delta := e.delta + 1 }, out)
    else if c = m then
      let ds := digits e.bias 64 e.delta base
      let bias := adapt e.delta (e.placed + 1) (e.placed = basic)
      ({ e with delta := 0, bias := bias, placed := e.placed + 1 }, out ++ ds)
    else (e, out)
  let (e, out) := input.foldl step ({ e with code := m, delta := delta }, [])
  ({ e with code := m + 1, delta := e.delta + 1 }, out)

/-- One round per distinct code point beyond ASCII, in ascending order. -/
def encodeRounds (basic : Nat) (input : List Nat) : Nat → Encoder → List Char
  | 0, _ => []
  | fuel + 1, e =>
    match (input.filter (· ≥ e.code)).min? with
    | none => []
    | some m =>
      let (e, out) := encodeRound basic m input e
      out ++ encodeRounds basic input fuel e

/-- The label without its `xn--`. -/
def encode (label : List Char) : List Char :=
  let basic := label.filter (·.toNat < 128)
  let rest := encodeRounds basic.length (label.map Char.toNat) label.length
    ⟨initialCode, 0, initialBias, basic.length⟩
  basic ++ (if basic.isEmpty then [] else ['-']) ++ rest

/-- The value of a digit. -/
def digitValue (c : Char) : Option Nat :=
  if 'a' ≤ c ∧ c ≤ 'z' then some (c.toNat - 97)
  else if 'A' ≤ c ∧ c ≤ 'Z' then some (c.toNat - 65)
  else if Text.isDigit c then some (c.toNat - 22)
  else none

/-- Reads one delta. -/
def decodeDelta (bias : Nat) : List Char → Nat → Nat → Nat → Option (Nat × List Char)
  | [], _, _, _ => none
  | c :: rest, i, w, k => do
    let d ← digitValue c
    let i := i + d * w
    if i > 0x7FFFFFFF then none
    else
      let t := threshold k bias
      if d < t then some (i, rest) else decodeDelta bias rest i (w * (base - t)) (k + base)

/-- Inserts characters until the digits are used up. -/
def decodeRounds : Nat → List Char → List Nat → Nat → Nat → Nat → Option (List Nat)
  | 0, _, out, _, _, _ => some out
  | fuel + 1, cs, out, i, code, bias =>
    if cs.isEmpty then some out
    else do
      let (i', rest) ← decodeDelta bias cs i 1 base
      let n := out.length + 1
      let code := code + i' / n
      let at_ := i' % n
      if code > 0x10FFFF ∨ (0xD800 ≤ code ∧ code < 0xE000) then none
      else decodeRounds fuel rest (out.insertIdx at_ code) (at_ + 1) code (adapt (i' - i) n (i = 0))

/-- The label whose encoding, without `xn--`, is given. -/
def decode (cs : List Char) : Option (List Char) := do
  let tail := (cs.reverse.takeWhile (· ≠ '-')).reverse
  let head := cs.take (cs.length - tail.length - 1)
  let hasHyphen := tail.length < cs.length
  let basic := if hasHyphen then head else []
  if basic.any (·.toNat ≥ 128) then none
  else
    let ns ← decodeRounds (cs.length + 1) tail (basic.map Char.toNat) 0 initialCode initialBias
    some (ns.map Char.ofNat)

end Playpen.Url.Punycode
