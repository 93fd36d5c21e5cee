import Playpen.Json.Decode

/-!
# Configuration

What a session can be told: where modules come from, how many a dependency may bring, what the
engine may use, and whether the source holds markup.  Every field may be left out of the JSON form,
on each of its levels, and then has its default; keys nobody knows are passed over.
-/

namespace Playpen

/-- What one run may use of the engine. -/
structure Limits where
  /-- Calls nested in each other. -/
  recursionLimit : Nat
  /-- Values on the engine's stack. -/
  stackSizeLimit : Nat
  /-- Rounds of all loops of one call; without a limit a loop may run forever. -/
  loopIterationLimit : Option Nat
  deriving DecidableEq, Repr

namespace Limits

def standard : Limits := ⟨16384, 1024 * 1024, none⟩

instance : Inhabited Limits := ⟨standard⟩

def toJson (l : Limits) : Json :=
  .object [
    ("recursion_limit", .nat l.recursionLimit),
    ("stack_size_limit", .nat l.stackSizeLimit),
    ("loop_iteration_limit", l.loopIterationLimit.elim .null .nat)]

/-- Limits of which some are known. -/
structure Draft where
  recursion : Option (Json.Word "usize")
  stack : Option (Json.Word "usize")
  loops : Option (Option (Json.Word "u64"))

def shape : Json.Shape Draft Limits where
  name := "EngineLimits"
  slots := [
    .of "recursion_limit" false Draft.recursion fun d n => { d with recursion := some n },
    .of "stack_size_limit" false Draft.stack fun d n => { d with stack := some n },
    .of "loop_iteration_limit" false Draft.loops fun d n => { d with loops := some n }]
  start := ⟨none, none, none⟩
  finish d := {
    recursionLimit := d.recursion.elim standard.recursionLimit (·.val)
    stackSizeLimit := d.stack.elim standard.stackSizeLimit (·.val)
    loopIterationLimit := d.loops.elim standard.loopIterationLimit fun n => n.map (·.val) }

instance : Json.Decodable Limits := ⟨shape.read, shape.ofValue⟩

end Limits

/-- How source text is read. -/
structure Dialect where
  /-- Whether markup elements are accepted; they become calls of `React.createElement`. -/
  jsx : Bool
  deriving DecidableEq, Repr

namespace Dialect

def standard : Dialect := ⟨false⟩

def toJson (d : Dialect) : Json := .object [("jsx", .bool d.jsx)]

def shape : Json.Shape (Option Bool) Dialect where
  name := "TranspilerConfig"
  slots := [.of "jsx" false id fun _ b => some b]
  start := none
  finish d := ⟨d.getD standard.jsx⟩

instance : Json.Decodable Dialect := ⟨shape.read, shape.ofValue⟩

end Dialect

/-- Settings of a session. -/
structure Config where
  /-- Modules are fetched from `<cdnBase>/npm/<name>@<version>/+esm`. -/
  cdnBase : String
  /-- Seconds that the fetch of one module may take. -/
  fetchTimeout : Nat
  /-- How many modules one dependency may bring. -/
  maxModules : Nat
  limits : Limits
  dialect : Dialect
  deriving DecidableEq, Repr

namespace Config

def standard : Config := ⟨"https://cdn.jsdelivr.net", 30, 256, Limits.standard, Dialect.standard⟩

instance : Inhabited Config := ⟨standard⟩

def toJson (c : Config) : Json :=
  .object [
    ("cdn_base", .string c.cdnBase),
    ("fetch_timeout_secs", .nat c.fetchTimeout),
    ("max_modules_per_dependency", .nat c.maxModules),
    ("limits", c.limits.toJson),
    ("transpiler", c.dialect.toJson)]

/-- A configuration of which some fields are known. -/
structure Draft where
  cdnBase : Option String
  fetchTimeout : Option (Json.Word "u64")
  maxModules : Option (Json.Word "usize")
  limits : Option Limits
  dialect : Option Dialect

def shape : Json.Shape Draft Config where
  name := "PlaygroundConfig"
  slots := [
    .of "cdn_base" false Draft.cdnBase fun d s => { d with cdnBase := some s },
    .of "fetch_timeout_secs" false Draft.fetchTimeout fun d n => { d with fetchTimeout := some n },
    .of "max_modules_per_dependency" false Draft.maxModules fun d n => { d with maxModules := some n },
    .of "limits" false Draft.limits fun d l => { d with limits := some l },
    .of "transpiler" false Draft.dialect fun d t => { d with dialect := some t }]
  start := ⟨none, none, none, none, none⟩
  finish d := {
    cdnBase := d.cdnBase.getD standard.cdnBase
    fetchTimeout := d.fetchTimeout.elim standard.fetchTimeout (·.val)
    maxModules := d.maxModules.elim standard.maxModules (·.val)
    limits := d.limits.getD standard.limits
    dialect := d.dialect.getD standard.dialect }

instance : Json.Decodable Config := ⟨shape.read, shape.ofValue⟩

/-- The fetch timeout in milliseconds. -/
def fetchTimeoutMillis (c : Config) : Nat := c.fetchTimeout * 1000

/-- What is found under the path of a file, as far as it can be read. -/
inductive File where
  | missing
  /-- The path goes through a file. -/
  | misplaced
  | directory
  /-- Bytes that are not UTF-8. -/
  | undecodable
  | text (content : String)
  deriving DecidableEq, Repr

/-- Why a configuration file is refused. -/
inductive FileError where
  /-- The file could not be read. -/
  | unreadable (reason : String)
  /-- The file does not hold a configuration. -/
  | malformed (reason : String)
  deriving DecidableEq, Repr

/-- The file of a path that holds the given bytes. -/
def File.ofBytes (bytes : ByteArray) : File :=
  match String.fromUTF8? bytes with
  | some s => .text s
  | none => .undecodable

/-- Whether there is anything under the path. -/
def File.isPresent : File → Bool
  | .missing | .misplaced => false
  | .directory | .undecodable | .text _ => true

/-- The text of a file, or why there is none. -/
def File.read : File → Except String String
  | .missing => .error "No such file or directory (os error 2)"
  | .misplaced => .error "Not a directory (os error 20)"
  | .directory => .error "Is a directory (os error 21)"
  | .undecodable => .error "stream did not contain valid UTF-8"
  | .text s => .ok s

/-- The configuration in a file. -/
def ofFile (file : File) : Except FileError Config :=
  match file.read with
  | .error reason => .error (.unreadable reason)
  | .ok text =>
    match Json.decode Config text with
    | .ok c => .ok c
    | .error fault => .error (.malformed fault.message)

end Config

end Playpen
