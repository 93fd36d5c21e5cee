import Playpen.Engine.Builtin.Basic

/-!
# Built-in functions: dates

Times are milliseconds since the start of 1970, and local time is universal time.  The clock that
scripts see stands still.
-/

namespace Playpen.Engine

open M
open Playpen.Text (Wide)

namespace Builtin.Dates

/-- The time that it is for scripts. -/
def now : Float := 1735689600000

def msPerDay : Int := 86400000

/-! ## The calendar -/

/-- The day, counted from the start of 1970, of a date of the Gregorian calendar; months begin with
zero and may be any whole number. -/
def dayNumber (year month day : Int) : Int :=
  let y := year + month / 12
  let m := month % 12
  -- years that begin in March
  let y' := if m < 2 then y - 1 else y
  let m' := (m + 10) % 12
  let era := y' / 400
  let yearOfEra := y' - era * 400
  let dayOfYear := (153 * m' + 2) / 5 + day - 1
  era * 146097 + (yearOfEra * 365 + yearOfEra / 4 - yearOfEra / 100 + dayOfYear) - 719468

/-- A time taken apart. -/
structure Parts where
  year : Int
  month : Int
  day : Int
  hour : Int
  minute : Int
  second : Int
  milli : Int
  weekday : Int

def partsOf (t : Float) : Parts :=
  let ms := Num.toInt t
  let day := ms / msPerDay
  let rest := ms % msPerDay
  let z := day + 719468
  let era := z / 146097
  let dayOfEra := z - era * 146097
  let yearOfEra := (dayOfEra - dayOfEra / 1460 + dayOfEra / 36524 - dayOfEra / 146096) / 365
  let dayOfYear := dayOfEra - (365 * yearOfEra + yearOfEra / 4 - yearOfEra / 100)
  let m := (5 * dayOfYear + 2) / 153
  let month := (m + 2) % 12
  let year := yearOfEra + era * 400 + (if month < 2 then 1 else 0)
  ⟨year, month, dayOfYear - (153 * m + 2) / 5 + 1, rest / 3600000, rest / 60000 % 60, rest / 1000 % 60, rest % 1000,
    (day + 4) % 7⟩

/-- A time, if it is one that dates can hold. -/
def clip (t : Float) : Float := if !Num.isFinite t || t.abs > 8.64e15 then Value.nan else Num.trunc t + 0

/-- The time of parts, none of which need be in its usual range. -/
def make (year month day hour minute second milli : Float) : Float :=
  if [year, month, day, hour, minute, second, milli].any fun x => !Num.isFinite x || x.abs > 1e15 then Value.nan
  else
    let n (x : Float) : Int := Num.toInt x
    let days := dayNumber (n year) (n month) 1 + n day - 1
    clip (Num.ofInt (days * msPerDay + n hour * 3600000 + n minute * 60000 + n second * 1000 + n milli))

/-! ## Writing -/

def weekdays : List String := ["Sun", "Mon", "Tue", "Wed", "Thu", "Fri", "Sat"]

def months : List String := ["Jan", "Feb", "Mar", "Apr", "May", "Jun", "Jul", "Aug", "Sep", "Oct", "Nov", "Dec"]

def pad (n : Int) (width : Nat) : String :=
  let s := toString n.natAbs
  "".pushn '0' (width - s.length) ++ s

def nameOf (names : List String) (n : Int) : String := names.getD n.toNat ""

def yearText (y : Int) : String := (if y < 0 then "-" else "") ++ pad y 4

def dateText (p : Parts) : String :=
  s!"{nameOf weekdays p.weekday} {nameOf months p.month} {pad p.day 2} {yearText p.year}"

def timeText (p : Parts) : String := s!"{pad p.hour 2}:{pad p.minute 2}:{pad p.second 2}"

def isoYear (y : Int) : String :=
  if y ≥ 0 && y ≤ 9999 then pad y 4 else (if y < 0 then "-" else "+") ++ pad y 6

def isoText (t : Float) : String :=
  let p := partsOf t
  s!"{isoYear p.year}-{pad (p.month + 1) 2}-{pad p.day 2}T{timeText p}.{pad p.milli 3}Z"

def text (t : Float) : String :=
  if t.isNaN then "Invalid Date"
  else
    let p := partsOf t
    s!"{dateText p} {timeText p} GMT+0000"

def utcText (t : Float) : String :=
  if t.isNaN then "Invalid Date"
  else
    let p := partsOf t
    s!"{nameOf weekdays p.weekday}, {pad p.day 2} {nameOf months p.month} {yearText p.year} {timeText p} GMT"

/-! ## Reading -/

def digits (n : Nat) (cs : List Char) : Option (Int × List Char) :=
  let ds := cs.take n
  if ds.length == n && ds.all Text.isDigit then
    some (ds.foldl (fun v c => v * 10 + (c.toNat - 48)) 0, cs.drop n)
  else none

def expect (c : Char) : List Char → Option (List Char)
  | d :: cs => if c == d then some cs else none
  | [] => none

/-- An offset from universal time, in minutes. -/
def offset (cs : List Char) : Option (Int × List Char) :=
  match cs with
  | 'Z' :: rest => some (0, rest)
  | c :: rest =>
    if c == '+' || c == '-' then do
      let (h, rest) ← digits 2 rest
      let rest := (expect ':' rest).getD rest
      let (m, rest) ← digits 2 rest
      return (if c == '-' then -(h * 60 + m) else h * 60 + m, rest)
    else none
  | [] => none

/-- A time of day. -/
structure Clock where
  hour : Int
  minute : Int
  second : Int
  milli : Int

/-- A time of day behind its mark, or midnight. -/
def clockOf (cs : List Char) : Option (Clock × List Char) :=
  match cs with
  | [] => some (⟨0, 0, 0, 0⟩, [])
  | c :: r =>
    if c == 'T' || c == 't' || c == ' ' then do
      let (h, r) ← digits 2 r
      let r ← expect ':' r
      let (m, r) ← digits 2 r
      match expect ':' r with
      | none => return (⟨h, m, 0, 0⟩, r)
      | some r =>
        let (s, r) ← digits 2 r
        match expect '.' r with
        | none => return (⟨h, m, s, 0⟩, r)
        | some r =>
          let ds := r.takeWhile Text.isDigit
          if ds.isEmpty then none
          else
            let three := (ds ++ ['0', '0']).take 3
            let ms : Int := three.foldl (fun v c => v * 10 + (c.toNat - 48 : Nat)) (0 : Int)
            return (⟨h, m, s, ms⟩, r.drop ds.length)
    else some (⟨0, 0, 0, 0⟩, cs)

/-- A date in the form of the standard. -/
def parseIso (cs : List Char) : Option Float := do
  let (year, rest) ← match cs with
    | '+' :: r => digits 6 r
    | '-' :: r => (digits 6 r).map fun (y, r) => (-y, r)
    | r => digits 4 r
  let (month, rest) := (((expect '-' rest).bind (digits 2)).map fun (m, r) => (m, r)).getD (1, rest)
  let (day, rest) := (((expect '-' rest).bind (digits 2)).map fun (d, r) => (d, r)).getD (1, rest)
  let (clock, rest) ← clockOf rest
  let (shift, rest) := (offset rest).getD (0, rest)
  if !rest.isEmpty || month < 1 || month > 12 || day < 1 || day > 31 || clock.hour > 24 || clock.minute > 59 ||
      clock.second > 59 then none
  let f := Float.ofInt
  return make (f year) (f (month - 1)) (f day) (f clock.hour) (f (clock.minute - shift)) (f clock.second)
    (f clock.milli)

/-- Words of a date that is written for people. -/
def wordsOf (s : String) : List String :=
  (((s.map fun c => if c == ',' then ' ' else c).splitOn " ").filter (· != ""))

def timeOf (w : String) : Option (Int × Int × Int) := do
  let parts := w.splitOn ":"
  let ns ← parts.mapM fun p => p.toNat?
  match ns with
  | [h, m] => return (h, m, 0)
  | [h, m, s] => return (h, m, s)
  | _ => none

/-- A date as `toString` and its like write it, or a part of that. -/
def parseWords (s : String) : Option Float := do
  let ws := wordsOf s
  let ws := match ws with
    | w :: rest => if weekdays.any (w.startsWith ·) then rest else ws
    | [] => []
  let month (w : String) : Option Nat := months.findIdx? fun m => (w.take 3).toString.toLower == m.toLower
  let (m, d, y, rest) ← match ws with
    | a :: b :: c :: rest =>
      match month a, month b with
      | some m, _ => do pure (m, ← b.toNat?, ← c.toNat?, rest)
      | none, some m => do pure (m, ← a.toNat?, ← c.toNat?, rest)
      | none, none => none
    | _ => none
  let (time, rest) := match rest with
    | w :: more => match timeOf w with
      | some t => (t, more)
      | none => ((0, 0, 0), rest)
    | [] => ((0, 0, 0), [])
  let shift ← match rest with
    | [] => some 0
    | w :: _ =>
      let tail := if w.startsWith "GMT" || w.startsWith "UTC" then w.toList.drop 3 else w.toList
      if tail.isEmpty then some 0 else (offset tail).map (·.1)
  let f := Float.ofInt
  return make (f y) (f m) (f d) (f time.1) (f (time.2.1 - shift)) (f time.2.2) 0

def parse (w : Wide) : Float :=
  match w with
  | .plain s => ((parseIso s.toList) <|> parseWords s).getD Value.nan
  | .broken _ => Value.nan

/-! ## Methods -/

def this (i : Invocation) : M Float := do
  match i.this with
  | .object r =>
    match ← Heap.kindOf r with
    | .date t => return t
    | _ => typeError "'this' is not a Date"
  | _ => typeError "'this' is not a Date"

def store (i : Invocation) (t : Float) : M Value := do
  match i.this with
  | .object r =>
    Heap.setKind r (.date t)
    return .number t
  | _ => return .number t

/-- A year of two digits is one of the last century. -/
def fullYear (y : Float) : Float :=
  let n := Num.trunc y
  if n ≥ 0 && n ≤ 99 then 1900 + n else y

/-- The time that up to seven numbers stand for. -/
def ofNumbers (i : Invocation) : M Float := do
  let xs ← i.args.mapM toNumber
  let x (n : Nat) (otherwise : Float) : Float := if n < xs.size then trunc (xs.getD n 0) else otherwise
  return make (fullYear (x 0 Value.nan)) (x 1 0) (x 2 1) (x 3 0) (x 4 0) (x 5 0) (x 6 0)
where
  trunc (x : Float) : Float := if Num.isFinite x then Num.trunc x else Value.nan

def construct : Behaviour := fun i => do
  if !i.isConstruct then return .str (text now)
  let t ← match i.args with
    | #[] => pure now
    | #[v] =>
      let date? ← match v with
        | .object r =>
          match ← Heap.kindOf r with
          | .date t => pure (some t)
          | _ => pure none
        | _ => pure none
      match date? with
      | some t => pure t
      | none =>
        match ← toPrimitive v .default with
        | .text w => pure (parse w)
        | p => do pure (clip (← toNumber p))
    | _ => ofNumbers i
  i.create Intrinsic.datePrototype (.date t)

/-- A method that reads a part. -/
def reading (part : Parts → Int) : Behaviour := fun i => do
  let t ← this i
  return if t.isNaN then .number t else .int (part (partsOf t))

/-- A method that sets parts from the one at `first` on. -/
def setting (first count : Nat) : Behaviour := fun i => do
  let t ← this i
  let xs ← i.args.mapM toNumber
  let t := if t.isNaN && first == 0 then 0 else t
  if t.isNaN then return .number t
  let p := partsOf t
  let old : Array Float := #[p.year, p.month, p.day, p.hour, p.minute, p.second, p.milli].map Float.ofInt
  let x (n : Nat) : Float :=
    if n < first || n ≥ first + count then old.getD n 0
    else if n == first then ofNumbers.trunc (xs.getD 0 Value.nan)
    else match xs[n - first]? with
      | some y => ofNumbers.trunc y
      | none => old.getD n 0
  store i (make (x 0) (x 1) (x 2) (x 3) (x 4) (x 5) (x 6))

/-- The parts of a time with the words that methods have for them: how many further parts the
setter takes. -/
def accessors : List (String × (Parts → Int) × Option (Nat × Nat)) := [
  ("Date", Parts.day, some (2, 1)), ("Day", Parts.weekday, none), ("FullYear", Parts.year, some (0, 3)),
  ("Hours", Parts.hour, some (3, 4)), ("Milliseconds", Parts.milli, some (6, 1)),
  ("Minutes", Parts.minute, some (4, 3)), ("Month", Parts.month, some (1, 2)),
  ("Seconds", Parts.second, some (5, 2))]

def toPrimitiveMethod : Behaviour := fun i => do
  match i.this, i.arg 0 with
  | .object r, .text (.plain hint) =>
    match hint with
    | "default" | "string" => ordinaryToPrimitive r .string
    | "number" => ordinaryToPrimitive r .number
    | _ => typeError "Date.prototype[@@toPrimitive] called with invalid hint"
  | _, _ => typeError "Date.prototype[@@toPrimitive] called on non-object"

def writing (f : Float → String) : Behaviour := fun i => return .str (f (← this i))

/-- Writes a valid time. -/
def valid (f : Parts → String) (t : Float) : String := if t.isNaN then "Invalid Date" else f (partsOf t)

def build : Build Unit := do
  let c := Intrinsic.date
  let p := Intrinsic.datePrototype
  Build.constructor c p "Date" 7 construct
  Build.method c "now" 0 fun _ => return .number now
  Build.method c "parse" 1 fun i => return .number (parse (← toText (i.arg 0)))
  Build.method c "UTC" 7 fun i => return .number (← ofNumbers i)
  accessors.forM fun (name, part, setter) =>
    for zone in ["", "UTC"] do
      Build.method p ("get" ++ zone ++ name) 0 (reading part)
      match setter with
      | some (first, count) => Build.method p ("set" ++ zone ++ name) count (setting first count)
      | none => pure ()
  Build.method p "getTime" 0 fun i => return .number (← this i)
  Build.method p "setTime" 1 fun i => do
    discard (this i)
    store i (clip (← toNumber (i.arg 0)))
  Build.method p "getTimezoneOffset" 0 fun i => do
    let t ← this i
    return .number (if t.isNaN then t else 0)
  Build.method p "toDateString" 0 (writing (valid dateText))
  Build.method p "toISOString" 0 fun i => do
    let t ← this i
    if t.isNaN then rangeError "Invalid time value"
    return .str (isoText t)
  Build.method p "toJSON" 1 fun i => do
    match ← toPrimitive i.this .number with
    | .number x => if !Num.isFinite x then return .null
    | _ => pure ()
    Object.invoke i.this (.ofString "toISOString") #[]
  Build.method p "toLocaleDateString" 0 (writing (valid dateText))
  Build.method p "toLocaleString" 0 (writing text)
  Build.method p "toLocaleTimeString" 0 (writing (valid timeText))
  Build.method p "toString" 0 (writing text)
  Build.method p "toTimeString" 0 (writing (valid fun q => timeText q ++ " GMT+0000"))
  Build.method p "toUTCString" 0 (writing utcText)
  Build.method p "valueOf" 0 fun i => return .number (← this i)
  let f ← Build.function "[Symbol.toPrimitive]" 1 toPrimitiveMethod
  Build.define p (.symbol Sym.toPrimitive) (.data (.object f) .configurableOnly)

end Builtin.Dates

end Playpen.Engine
