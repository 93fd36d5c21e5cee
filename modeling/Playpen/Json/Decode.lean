import Playpen.Json.Read

/-!
# Decoding records from JSON

A type is decodable in two ways: while its text is being read, which places every fault, and from a
value already read, whose faults have no place.  A record is given once, as a `Shape`: its slots in
order of declaration.  It is then decoded from an object, in which every slot may stand once and
unknown keys are passed over, and from an array, which gives the slots in order.
-/

namespace Playpen.Json

/-- Types that are decoded from JSON. -/
class Decodable (α : Type) where
  /-- Decodes while reading. -/
  read : Reader α
  /-- Decodes a value. -/
  ofValue : Json → Except String α

/-! ## What was found instead -/

/-- A number in the words of a mismatch. -/
def Number.found : Number → String
  | .int i => s!"integer `{(Number.int i).text}`"
  | .double x => s!"floating point `{(Number.double x).text}`"

/-- A text in double quotes, with the escapes of a debug print. -/
def debugQuote (s : String) : String :=
  let esc (c : Char) : List Char :=
    if c = '"' then ['\\', '"']
    else if c = '\\' then ['\\', '\\']
    else if c = '\n' then ['\\', 'n']
    else if c = '\r' then ['\\', 'r']
    else if c = '\t' then ['\\', 't']
    else if c = Char.ofNat 0 then ['\\', '0']
    else if c.toNat < 32 ∨ c.toNat = 127 then
      ['\\', 'u', '\x7b'] ++ Nat.toDigits 16 c.toNat ++ ['\x7d']
    else [c]
  String.ofList ('"' :: s.toList.flatMap esc ++ ['"'])

/-- A value in the words of a mismatch. -/
def found : Json → String
  | null => "null"
  | bool b => if b then "boolean `true`" else "boolean `false`"
  | number n => n.found
  | string s => s!"string {debugQuote s}"
  | array _ => "sequence"
  | object _ => "map"

def invalidType (what expected : String) : String := s!"invalid type: {what}, expected {expected}"
def invalidValue (what expected : String) : String := s!"invalid value: {what}, expected {expected}"

/-- Reads as far as it takes to say what stands here instead of what was expected. -/
def Reader.wrongType (expected : String) : Reader α := placed do
  let what ← match ← peek with
    | some 'n' => do skip; word ['u', 'l', 'l']; pure (found null)
    | some 't' => do skip; word ['r', 'u', 'e']; pure (found (bool true))
    | some 'f' => do skip; word ['a', 'l', 's', 'e']; pure (found (bool false))
    | some '-' => do skip; pure (← Reader.number false).found
    | some '"' => do skip; pure (found (.string (← Reader.string)))
    | some '[' => pure (found (array []))
    | some '\x7b' => pure (found (object []))
    | some c => if Text.isDigit c then pure (← Reader.number true).found else faultAhead .expectedValue
    | none => faultAhead .expectedValue
  mismatch (invalidType what expected)

/-- The next token, which has to be there. -/
def Reader.token : Reader Char := do
  match ← peekToken with
  | some c => pure c
  | none => faultAhead .endInValue

/-! ## Scalars -/

instance : Decodable String where
  read := do
    if (← Reader.token) = '"' then
      Reader.skip
      Reader.string
    else Reader.wrongType "a string"
  ofValue
    | .string s => .ok s
    | v => .error (invalidType (found v) "a string")

instance : Decodable Bool where
  read := do
    match ← Reader.token with
    | 't' => do Reader.skip; Reader.word ['r', 'u', 'e']; pure true
    | 'f' => do Reader.skip; Reader.word ['a', 'l', 's', 'e']; pure false
    | _ => Reader.wrongType "a boolean"
  ofValue
    | .bool b => .ok b
    | v => .error (invalidType (found v) "a boolean")

/-- Natural numbers below 2^64, called by a name of their own in mismatches. -/
structure Word (name : String) where
  val : Nat
  deriving DecidableEq, Repr

/-- A number as a word. -/
def Number.toWord (name : String) (n : Number) : Except String (Word name) :=
  match n with
  | .int i => if 0 ≤ i then .ok ⟨i.toNat⟩ else .error (invalidValue n.found name)
  | .double _ => .error (invalidType n.found name)

/-- A decoded number, or its mismatch. -/
def Reader.lift (r : Except String α) : Reader α :=
  match r with
  | .ok a => pure a
  | .error reason => Reader.mismatch reason

instance (name : String) : Decodable (Word name) where
  read := do
    let c ← Reader.token
    if c = '-' then
      Reader.skip
      Reader.placed do Reader.lift ((← Reader.number false).toWord name)
    else if Text.isDigit c then Reader.placed do Reader.lift ((← Reader.number true).toWord name)
    else Reader.wrongType name
  ofValue
    | .number n => n.toWord name
    | v => .error (invalidType (found v) name)

instance [Decodable α] : Decodable (Option α) where
  read := do
    if (← Reader.peekToken) = some 'n' then
      Reader.skip
      Reader.word ['u', 'l', 'l']
      pure none
    else return some (← Decodable.read)
  ofValue
    | .null => .ok none
    | v => (Decodable.ofValue v).map some

/-! ## Records -/

/-- One field of a record under construction. -/
structure Slot (σ : Type) where
  name : String
  /-- Whether the field must be given. -/
  required : Bool
  filled : σ → Bool
  read : σ → Reader σ
  ofValue : σ → Json → Except String σ

/-- A slot from the way its field is looked up and set. -/
def Slot.of [Decodable β] (name : String) (required : Bool) (get : σ → Option β) (set : σ → β → σ) :
    Slot σ where
  name := name
  required := required
  filled s := (get s).isSome
  read s := return set s (← Decodable.read)
  ofValue s v := (Decodable.ofValue v).map (set s)

/-- A record: its name in mismatches, its slots in order of declaration, and how it is built. -/
structure Shape (σ α : Type) where
  name : String
  slots : List (Slot σ)
  start : σ
  finish : σ → α

namespace Shape

variable {σ α : Type}

def expected (s : Shape σ α) : String := "struct " ++ s.name

def invalidLength (s : Shape σ α) (n : Nat) : String :=
  s!"invalid length {n}, expected {s.expected} with {s.slots.length} elements"

/-- The record, unless a required field was not given. -/
def complete (s : Shape σ α) (state : σ) : Except String α :=
  match s.slots.find? fun slot => slot.required && !slot.filled state with
  | some slot => .error s!"missing field `{slot.name}`"
  | none => .ok (s.finish state)

/-- Whether another element follows in an array. -/
def more (first : Bool) : Reader Bool := do
  match ← Reader.peekToken with
  | none => Reader.faultAhead .endInList
  | some ']' => pure false
  | some ',' =>
    if first then pure true
    else
      Reader.skip
      match ← Reader.peekToken with
      | some ']' => Reader.faultAhead .trailingComma
      | some _ => pure true
      | none => Reader.faultAhead .endInValue
  | some _ => if first then pure true else Reader.faultAhead .expectedItemEnd

/-- The slots in order, from an array whose bracket has been taken. -/
def readArray (s : Shape σ α) : List (Slot σ) → Nat → σ → Reader α
  | [], _, state => pure (s.finish state)
  | slot :: rest, i, state => do
    if ← more (i = 0) then readArray s rest (i + 1) (← slot.read state)
    else if slot.required then Reader.mismatch (s.invalidLength i)
    else readArray s rest i state

/-- The end of an array, behind the elements that were wanted. -/
def endArray : Reader Unit := do
  match ← Reader.peekToken with
  | some ']' => Reader.skip
  | some ',' =>
    Reader.skip
    match ← Reader.peekToken with
    | some ']' => Reader.faultAhead .trailingComma
    | _ => Reader.faultAhead .trailingCharacters
  | some _ => Reader.faultAhead .trailingCharacters
  | none => Reader.faultAhead .endInList

/-- Whether another key follows in an object. -/
def moreKeys (first : Bool) : Reader Bool := do
  match ← Reader.peekToken with
  | none => Reader.faultAhead .endInObject
  | some '\x7d' => pure false
  | some c =>
    if first then (if c = '"' then pure true else Reader.faultAhead .keyNotString)
    else if c = ',' then
      Reader.skip
      match ← Reader.peekToken with
      | some '"' => pure true
      | some '\x7d' => Reader.faultAhead .trailingComma
      | some _ => Reader.faultAhead .keyNotString
      | none => Reader.faultAhead .endInValue
    else Reader.faultAhead .expectedMemberEnd

/-- The colon behind a key. -/
def colon : Reader Unit := do
  match ← Reader.peekToken with
  | some ':' => Reader.skip
  | some _ => Reader.faultAhead .expectedColon
  | none => Reader.faultAhead .endInObject

/-- The members of an object whose brace has been taken. -/
def readObject (s : Shape σ α) : Nat → Bool → σ → Reader α
  | 0, _, _ => Reader.faultAhead .endInObject
  | fuel + 1, first, state => do
    if ← moreKeys first then
      Reader.skip
      let key ← Reader.string
      match s.slots.find? (·.name = key) with
      | some slot =>
        if slot.filled state then Reader.mismatch s!"duplicate field `{key}`"
        else
          colon
          readObject s fuel false (← slot.read state)
      | none =>
        colon
        Reader.skipValue
        readObject s fuel false state
    else Reader.lift (s.complete state)

/-- The end of an object. -/
def endObject : Reader Unit := do
  match ← Reader.peekToken with
  | some '\x7d' => Reader.skip
  | some ',' => Reader.faultAhead .trailingComma
  | some _ => Reader.faultAhead .trailingCharacters
  | none => Reader.faultAhead .endInObject

/-- Reads a body and then its end; the end is looked for even when the body failed, and of two faults
the body's counts. -/
def enclosed (body : Reader α) (stop : Reader Unit) : Reader α := fun c =>
  match body c with
  | .ok a c =>
    match stop c with
    | .ok _ c => .ok a c
    | .error f c => .error f c
  | .error f c =>
    match stop c with
    | .ok _ c => .error f c
    | .error _ c => .error f c

/-- Reads a record. -/
def read (s : Shape σ α) : Reader α := do
  match ← Reader.token with
  | '[' =>
    Reader.skip
    Reader.placed (enclosed (s.readArray s.slots 0 s.start) endArray)
  | '\x7b' =>
    Reader.skip
    Reader.placed (enclosed (do s.readObject ((← Reader.remaining) + 1) true s.start) endObject)
  | _ => Reader.wrongType s.expected

/-- The slots in order, from the items of an array. -/
def ofItems (s : Shape σ α) (size : Nat) : List (Slot σ) → List Json → Nat → σ → Except String α
  | [], [], _, state => .ok (s.finish state)
  | [], _ :: _, _, _ => .error s!"invalid length {size}, expected fewer elements in array"
  | slot :: slots, [], i, state =>
    if slot.required then .error (s.invalidLength i) else ofItems s size slots [] i state
  | slot :: slots, item :: items, i, state => do
    ofItems s size slots items (i + 1) (← slot.ofValue state item)

/-- Fills slots from the members of an object. -/
def ofMembers (s : Shape σ α) : List (String × Json) → σ → Except String α
  | [], state => s.complete state
  | (key, value) :: rest, state =>
    match s.slots.find? (·.name = key) with
    | some slot => do ofMembers s rest (← slot.ofValue state value)
    | none => ofMembers s rest state

/-- Decodes a record from a value. -/
def ofValue (s : Shape σ α) : Json → Except String α
  | .array items => s.ofItems items.length s.slots items 0 s.start
  | .object members => s.ofMembers members s.start
  | v => .error (invalidType (found v) s.expected)

end Shape

/-! ## Lists and names -/

/-- The elements of a list whose bracket has been taken. -/
def Reader.items [Decodable α] : Nat → Bool → List α → Reader (List α)
  | 0, _, _ => faultAhead .endInList
  | fuel + 1, first, acc => do
    if ← Shape.more first then items fuel false ((← Decodable.read) :: acc) else pure acc.reverse

/-- Reads a list; anything else is a mismatch. -/
def Reader.list [Decodable α] : Reader (List α) := do
  match ← token with
  | '[' =>
    skip
    placed (Shape.enclosed (do items ((← remaining) + 1) true []) Shape.endArray)
  | _ => wrongType "a sequence"

/-- One of a few names, as a string or as the key of an object whose value is null. -/
def Reader.variant (ofName : String → Option α) (names : List String) : Reader α := do
  let name : Reader α := placed do
    let s ← (Decodable.read : Reader String)
    match ofName s with
    | some a => pure a
    | none =>
      let known := ", ".intercalate (names.map fun n => s!"`{n}`")
      mismatch s!"unknown variant `{s}`, expected one of {known}"
  match ← token with
  | '"' => name
  | '\x7b' =>
    skip
    let a ← do
      if (← peekToken) = some '"' then name
      else if (← peekToken).isNone then faultAhead .endInValue
      else wrongType "variant identifier"
    Shape.colon
    match ← peekToken with
    | some 'n' => do skip; word ['u', 'l', 'l']
    | some _ => wrongType "unit"
    | none => faultAhead .endInValue
    match ← peekToken with
    | some '\x7d' => do skip; pure a
    | some _ => faultHere .expectedValue
    | none => faultHere .endInObject
  | _ => faultAhead .expectedValue

/-- Reads a whole text as a value of a type. -/
def decode (α : Type) [Decodable α] (text : String) : Except Fault α := (Decodable.read : Reader α).run text

end Playpen.Json
