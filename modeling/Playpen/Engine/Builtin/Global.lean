import Playpen.Engine.Builtin.TypedArray

/-!
# Built-in functions: the global object

The functions that put texts into a form that may stand in a URL, and back.
-/

namespace Playpen.Engine

open M
open Playpen.Text (Wide)

namespace Builtin.Globals

def upperHex (n : Nat) : Char := Char.ofNat (if n < 10 then 48 + n else 55 + n)

def percent (b : UInt8) : List Char := ['%', upperHex (b.toNat / 16), upperHex (b.toNat % 16)]

def invalidEscape : M α := raise .uri "invalid escape character found"

/-- Characters that stay, apart from letters and digits. -/
def componentMarks : String := "-_.!~*'()"

def uriMarks : String := componentMarks ++ ";/?:@&=+$,#"

def encode (marks : String) : Behaviour := fun i => do
  match ← toText (i.arg 0) with
  | .plain s =>
    let keep (c : Char) : Bool := Text.isAsciiLetter c || Text.isDigit c || marks.toList.contains c
    return .str (String.ofList (s.toList.flatMap fun c =>
      if keep c then [c] else ((String.singleton c).toUTF8.toList.flatMap percent)))
  | .broken _ => raise .uri "trying to encode an invalid string"

def hexPair (a b : Char) : Option UInt8 :=
  if Text.isHexDigit a && Text.isHexDigit b then some (UInt8.ofNat (Text.hexValue a * 16 + Text.hexValue b)) else none

/-- Bytes of escapes that follow each other. -/
def escapedBytes : Nat → List Char → Option (List UInt8 × List Char)
  | 0, cs => some ([], cs)
  | n + 1, cs =>
    match cs with
    | '%' :: a :: b :: rest =>
      match hexPair a b, escapedBytes n rest with
      | some x, some (xs, rest) => some (x :: xs, rest)
      | _, _ => none
    | _ => none

/-- How many bytes a character takes that begins with a byte. -/
def byteCount (b : UInt8) : Nat :=
  if b < 0x80 then 1 else if b < 0xC2 then 0 else if b < 0xE0 then 2 else if b < 0xF0 then 3 else if b < 0xF5 then 4 else 0

def decodeFrom (reserved : String) : Nat → List Char → String → M String
  | 0, _, acc => return acc
  | n + 1, cs, acc => do
    match cs with
    | [] => return acc
    | '%' :: a :: b :: rest =>
      match hexPair a b with
      | none => invalidEscape
      | some first =>
        match escapedBytes (byteCount first - 1) rest, byteCount first with
        | _, 0 => invalidEscape
        | none, _ => invalidEscape
        | some (more, after), _ =>
          match String.fromUTF8? (ByteArray.mk (first :: more).toArray) with
          | none => invalidEscape
          | some s =>
            let kept := reserved.toList.contains s.front && s.length == 1
            decodeFrom reserved n after (if kept then ((acc.push '%').push a).push b else acc ++ s)
    | '%' :: _ => invalidEscape
    | c :: rest => decodeFrom reserved n rest (acc.push c)

def decode (reserved : String) : Behaviour := fun i => do
  match ← toText (i.arg 0) with
  | .plain s => return .str (← decodeFrom reserved (s.length + 1) s.toList "")
  | w => return .text w

/-- The objects that are found by name. -/
def named : List (String × Ref) := [
  ("Object", Intrinsic.object), ("Function", Intrinsic.function), ("Math", Intrinsic.math),
  ("JSON", Intrinsic.json), ("Array", Intrinsic.array), ("Proxy", Intrinsic.proxy),
  ("ArrayBuffer", Intrinsic.buffer), ("BigInt", Intrinsic.bigint), ("Boolean", Intrinsic.boolean),
  ("Date", Intrinsic.date), ("DataView", Intrinsic.dataView), ("Map", Intrinsic.map),
  ("Number", Intrinsic.number), ("eval", Intrinsic.eval), ("Set", Intrinsic.set), ("String", Intrinsic.string),
  ("RegExp", Intrinsic.regex)] ++
  (Bytes.elementTypes.map fun (t, _) => (TypedArrays.name t, TypedArrays.constructorOf t)) ++ [
  ("Symbol", Intrinsic.symbol), ("Error", Intrinsic.error), ("RangeError", Intrinsic.rangeError),
  ("ReferenceError", Intrinsic.referenceError), ("TypeError", Intrinsic.typeError),
  ("SyntaxError", Intrinsic.syntaxError), ("EvalError", Intrinsic.evalError), ("URIError", Intrinsic.uriError),
  ("AggregateError", Intrinsic.aggregateError), ("Reflect", Intrinsic.reflect), ("Promise", Intrinsic.promise),
  ("WeakRef", Intrinsic.weakRef), ("WeakMap", Intrinsic.weakMap), ("WeakSet", Intrinsic.weakSet),
  ("FinalizationRegistry", Intrinsic.finalizationRegistry)]

def build : Build Unit := do
  let g := Intrinsic.global
  Build.setProto g (some Intrinsic.objectPrototype)
  Build.hidden g "globalThis" (.object g)
  Build.constant g "Infinity" (.number Num.infinity)
  Build.constant g "NaN" (.number Value.nan)
  Build.constant g "undefined" .undefined
  Build.method g "encodeURI" 1 (encode uriMarks)
  Build.method g "encodeURIComponent" 1 (encode componentMarks)
  Build.method g "decodeURI" 1 (decode (";/?:@&=+$,#"))
  Build.method g "decodeURIComponent" 1 (decode "")
  named.forM fun (name, r) => Build.hidden g name (.object r)

end Builtin.Globals

end Playpen.Engine
