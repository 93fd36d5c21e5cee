import Playpen.Json.Cursor

/-!
# Reading JSON values

`value` reads one value with the containers still open on an explicit stack, so nesting costs no
recursion; a nesting limit is a parameter.  `skipValue` passes over a value that nobody wants, with
only the brackets on its stack.  `parse` reads a whole text.
-/

namespace Playpen.Json

open Reader

/-- A container whose reading has begun. -/
inductive Open where
  /-- Items so far, last first. -/
  | array (done : List Json)
  /-- Members so far, and the key whose value comes next. -/
  | object (done : List (String × Json)) (key : String)

/-- Reads a key and its colon; the opening quote is the next character. -/
def Reader.key : Reader String := do
  skip
  let k ← string
  match ← peekToken with
  | some ':' => do skip; pure k
  | some _ => faultAhead .expectedColon
  | none => faultAhead .endInObject

/-- What comes after a value: the enclosing container goes on or is complete.  `inr` is the finished
outermost value, `inl` the stack with which the next value is read. -/
def Reader.close : Nat → Json → List Open → Reader (List Open ⊕ Json)
  | 0, v, _ => pure (.inr v)
  | _, v, [] => pure (.inr v)
  | fuel + 1, v, .array done :: stack => do
    match ← peekToken with
    | some ']' =>
      skip
      close fuel (array (v :: done).reverse) stack
    | some ',' =>
      skip
      match ← peekToken with
      | some ']' => faultAhead .trailingComma
      | some _ => pure (.inl (.array (v :: done) :: stack))
      | none => faultAhead .endInValue
    | some _ => faultAhead .expectedItemEnd
    | none => faultAhead .endInList
  | fuel + 1, v, .object done key :: stack => do
    match ← peekToken with
    | some '\x7d' =>
      skip
      close fuel (object (insertMember key v done)) stack
    | some ',' =>
      skip
      match ← peekToken with
      | some '"' => do
        let k ← Reader.key
        pure (.inl (.object (insertMember key v done) k :: stack))
      | some '\x7d' => faultAhead .trailingComma
      | some _ => faultAhead .keyNotString
      | none => faultAhead .endInValue
    | some _ => faultAhead .expectedMemberEnd
    | none => faultAhead .endInObject

/-- Refuses a container when as many are open as the limit allows. -/
def Reader.checkDepth (limit : Option Nat) (stack : List Open) : Reader Unit :=
  match limit with
  | some n => if n ≤ stack.length + 1 then faultAhead .tooDeep else pure ()
  | none => pure ()

/-- Begins a value.  `inr` is a finished scalar or empty container. -/
def Reader.begin (limit : Option Nat) (stack : List Open) : Reader (List Open ⊕ Json) := do
  match ← peekToken with
  | none => faultAhead .endInValue
  | some 'n' => do skip; word ['u', 'l', 'l']; pure (.inr null)
  | some 't' => do skip; word ['r', 'u', 'e']; pure (.inr (bool true))
  | some 'f' => do skip; word ['a', 'l', 's', 'e']; pure (.inr (bool false))
  | some '"' => do skip; return .inr (.string (← Reader.string))
  | some '-' => do skip; return .inr (.number (← Reader.number false))
  | some '[' =>
    checkDepth limit stack
    skip
    match ← peekToken with
    | some ']' => do skip; pure (.inr (array []))
    | some _ => pure (.inl (.array [] :: stack))
    | none => faultAhead .endInList
  | some '\x7b' =>
    checkDepth limit stack
    skip
    match ← peekToken with
    | some '\x7d' => do skip; pure (.inr (object []))
    | some '"' => do
      let k ← Reader.key
      pure (.inl (.object [] k :: stack))
    | some _ => faultAhead .keyNotString
    | none => faultAhead .endInObject
  | some c => if Text.isDigit c then return .inr (.number (← Reader.number true)) else faultAhead .expectedValue

/-- Reads values until the outermost one is finished. -/
def Reader.values (limit : Option Nat) : Nat → List Open → Reader Json
  | 0, _ => faultAhead .endInValue
  | fuel + 1, stack => do
    match ← begin limit stack with
    | .inl stack => values limit fuel stack
    | .inr v =>
      match ← close (stack.length + 1) v stack with
      | .inl stack => values limit fuel stack
      | .inr v => pure v

/-- Reads one value. -/
def Reader.value (limit : Option Nat) : Reader Json := do values limit ((← remaining) + 1) []

/-- Refuses anything but blanks. -/
def Reader.finish : Reader Unit := do
  match ← peekToken with
  | some _ => faultAhead .trailingCharacters
  | none => pure ()

/-- Runs a reader over a whole text. -/
def Reader.run (r : Reader α) (text : String) : Except Fault α :=
  match (do let a ← r; finish; pure a : Reader α) (Cursor.ofString text) with
  | .ok a _ => .ok a
  | .error f _ => .error f

/-- Reads a whole text as one value. -/
def parse (limit : Option Nat) (text : String) : Except Fault Json := (Reader.value limit).run text

/-! ## Passing over a value -/

/-- The digits and the parts of a number nobody wants. -/
def Reader.skipExponent : Reader Unit := do
  skip
  match ← peek with
  | some '+' | some '-' => skip
  | _ => pure ()
  match ← peekDigit with
  | some _ => discard (skipDigits (← remaining) 0)
  | none => if (← peek).isSome then faultAhead .badNumber else faultHere .badNumber

def Reader.skipNumber : Reader Unit := do
  match ← peekDigit with
  | some 0 =>
    skip
    if (← peekDigit).isSome then faultAhead .badNumber
  | some _ => discard (skipDigits (← remaining) 0)
  | none => if (← peek).isSome then faultAhead .badNumber else faultHere .badNumber
  match ← peek with
  | some '.' =>
    skip
    if (← skipDigits (← remaining) 0) = 0 then faultAhead .badNumber
    if isExponentMark (← peek) then skipExponent
  | c => if isExponentMark c then skipExponent else pure ()

/-- The rest of a string nobody wants: escapes are checked for shape only. -/
def Reader.skipString : Nat → Reader Unit
  | 0 => faultHere .endInString
  | fuel + 1 => do
    match ← peek with
    | none => faultHere .endInString
    | some '"' => skip
    | some '\\' =>
      skip
      match ← peek with
      | none => faultHere .endInString
      | some 'u' =>
        skip
        discard hex4
        skipString fuel
      | some c =>
        if (simpleEscape c).isSome then do skip; skipString fuel else faultAhead .badEscape
    | some c => if c.toNat < 32 then faultHere .controlCharacter else do skip; skipString fuel

/-- Leaves the containers that end here.  `none`: all are left; `some stack`: a value follows. -/
def Reader.skipClose : Nat → Bool → List Char → Reader (Option (List Char))
  | 0, _, stack => pure (some stack)
  | _, _, [] => pure none
  | fuel + 1, comma, frame :: stack => do
    match ← peekToken with
    | some c =>
      if c = ',' ∧ comma then do skip; pure (some (frame :: stack))
      else if c = frame then do
        skip
        skipClose fuel true stack
      else if comma then faultAhead (if frame = ']' then .expectedItemEnd else .expectedMemberEnd)
      else pure (some (frame :: stack))
    | none => faultAhead (if frame = ']' then .endInList else .endInObject)

/-- A key nobody wants and its colon. -/
def Reader.skipKey : Reader Unit := do
  match ← peekToken with
  | some '"' => skip
  | some _ => faultAhead .keyNotString
  | none => faultAhead .endInObject
  skipString ((← remaining) + 1)
  match ← peekToken with
  | some ':' => skip
  | some _ => faultAhead .expectedColon
  | none => faultAhead .endInObject

/-- Passes over values until the outermost one is finished; the stack holds the closing brackets that
are due. -/
def Reader.skipValues : Nat → List Char → Reader Unit
  | 0, _ => faultAhead .endInValue
  | fuel + 1, stack => do
    let opened ← match ← peekToken with
      | none => faultAhead .endInValue
      | some 'n' => do skip; word ['u', 'l', 'l']; pure none
      | some 't' => do skip; word ['r', 'u', 'e']; pure none
      | some 'f' => do skip; word ['a', 'l', 's', 'e']; pure none
      | some '-' => do skip; skipNumber; pure none
      | some '"' => do skip; skipString ((← remaining) + 1); pure none
      | some '[' => do skip; pure (some ']')
      | some '\x7b' => do skip; pure (some '\x7d')
      | some c => if Text.isDigit c then do skipNumber; pure none else faultAhead .expectedValue
    let (comma, stack) := match opened with
      | some bracket => (false, bracket :: stack)
      | none => (true, stack)
    match ← skipClose (stack.length + 1) comma stack with
    | none => pure ()
    | some stack =>
      if stack.head? = some '\x7d' then skipKey
      skipValues fuel stack

/-- Passes over one value. -/
def Reader.skipValue : Reader Unit := do skipValues ((← remaining) + 1) []

end Playpen.Json
