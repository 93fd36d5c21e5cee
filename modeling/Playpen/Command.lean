import Playpen.Dependency.Offline
import Playpen.Playground
import Playpen.Report
import Playpen.Terminal

/-!
# Commands

What the command line asks for, and what is answered: run a file once, watch it, or print the script
it stands for.  Files and network come in as a `Host`; the time that a run took is handed in when
the page is written.
-/

namespace Playpen

/-- The world around a command. -/
structure Host where
  /-- What is found under a path. -/
  file : String → Config.File
  /-- The network as it answers over time: loads go on once for each. -/
  networks : List (String → Dependency.Reply)

/-- What is asked for. -/
inductive Command where
  /-- Run a file once; the result is a page or a JSON document. -/
  | run (file : String) (specs : List String) (asJson : Bool) (config : Option String)
  /-- Run a file whenever it changes. -/
  | watch (file : String) (specs : List String) (clear : Bool) (config : Option String)
  /-- Print the script that a file stands for. -/
  | transpile (file : String) (config : Option String)
  deriving DecidableEq, Repr

namespace Command

/-! ## Arguments -/

/-- The options of a command, as far as they have been read. -/
structure Draft where
  files : List String
  specs : List String
  configs : List String
  flags : List String

namespace Draft

def empty : Draft := ⟨[], [], [], []⟩

/-- Takes in an option that has a value. -/
def set (d : Draft) (name value : String) : Option Draft :=
  if name = "--dep" then some { d with specs := d.specs ++ [value] }
  else if name = "--config" then some { d with configs := d.configs ++ [value] }
  else none

def addFile (d : Draft) (file : String) : Draft := { d with files := d.files ++ [file] }

def addFlag (d : Draft) (flag : String) : Draft := { d with flags := d.flags ++ [flag] }

end Draft

/-- The long name of a short option. -/
def longName : Char → Option String
  | 'c' => some "--config"
  | 'v' => some "--verbose"
  | _ => none

/-- Options that have a value. -/
def valued : List String := ["--dep", "--config"]

/-- What one argument is. -/
inductive Argument where
  | file (path : String)
  | flags (names : List String)
  /-- An option whose value is part of the argument. -/
  | assigned (flags : List String) (name value : String)
  /-- An option whose value is the next argument. -/
  | awaiting (flags : List String) (name : String)
  /-- Everything after it is a file. -/
  | separator
  | unknown

/-- Reads short options that stand together behind one dash. -/
def readShort (flags : List String) : List Char → Argument
  | [] => .flags flags
  | c :: rest =>
    match longName c with
    | none => .unknown
    | some name =>
      if valued.contains name then
        match rest with
        | [] => .awaiting flags name
        | '=' :: value => .assigned flags name (String.ofList value)
        | value => .assigned flags name (String.ofList value)
      else readShort (flags ++ [name]) rest

def readArgument (arg : String) : Argument :=
  match arg.toList with
  | ['-', '-'] => .separator
  | '-' :: '-' :: rest =>
    let name := String.ofList ('-' :: '-' :: rest.takeWhile (· ≠ '='))
    match rest.dropWhile (· ≠ '=') with
    | [] => if valued.contains name then .awaiting [] name else .flags [name]
    | _ :: value => .assigned [] name (String.ofList value)
  | '-' :: c :: rest => readShort [] (c :: rest)
  | _ => .file arg

/-- Whether an argument may be the value of an option before it. -/
def isValue (arg : String) : Bool :=
  match arg.toList with
  | '-' :: _ :: _ => false
  | _ => true

/-- Reads the arguments of a command, in any order. -/
def readOptions : List String → Draft → Option Draft
  | [], d => some d
  | arg :: rest, d =>
    match readArgument arg, rest with
    | .file path, rest => readOptions rest (d.addFile path)
    | .flags names, rest => readOptions rest (names.foldl Draft.addFlag d)
    | .assigned names name value, rest => do
      let d ← (names.foldl Draft.addFlag d).set name value
      readOptions rest d
    | .awaiting names name, value :: rest =>
      if isValue value then do
        let d ← (names.foldl Draft.addFlag d).set name value
        readOptions rest d
      else none
    | .awaiting _ _, [] => none
    | .separator, rest => some (rest.foldl Draft.addFile d)
    | .unknown, _ => none

/-- A draft with one file, at most one configuration, and no flag twice or unknown. -/
def Draft.isValid (d : Draft) (flags : List String) : Bool :=
  d.files.length == 1 && d.configs.length ≤ 1 && d.flags.all flags.contains && decide d.flags.Nodup

/-- The command that a draft of the given name stands for. -/
def ofDraft (name : String) (d : Draft) : Option Command :=
  let file := d.files.headD ""
  let config := d.configs.head?
  if name = "run" then
    if d.isValid ["--json", "--verbose"] then some (run file d.specs (d.flags.contains "--json") config) else none
  else if name = "watch" then
    if d.isValid ["--clear", "--verbose"] then some (watch file d.specs (d.flags.contains "--clear") config)
    else none
  else if name = "transpile" then
    if d.isValid ["--verbose"] && d.specs.isEmpty then some (transpile file config) else none
  else none

/-- The command that arguments stand for. -/
def ofArgs? : List String → Option Command
  | [] => none
  | arg :: rest =>
    match readArgument arg with
    | .flags ["--verbose"] => ofArgs? rest
    | .file name => (readOptions rest .empty).bind (ofDraft name)
    | _ => none

/-! ## Failures -/

/-- Why a command does not get to run anything. -/
inductive Failure where
  | noSource (path : String)
  | unreadable (reason : String)
  | refused (e : Error)

/-- What is written about a failure. -/
def Failure.text : Failure → String
  | noSource path => s!"Error: Source file not found: {path}\n"
  | unreadable reason => s!"Error: {reason}\n"
  | refused e => s!"Error: {e.withHint}\n"

/-! ## Files -/

/-- The pieces of a path. -/
def components (path : String) : List String := (path.splitOn "/").filter fun s => s ≠ "" && s ≠ "."

/-- The name of the file at a path. -/
def fileName (path : String) : String :=
  match (components path).getLast? with
  | some name => if name = ".." then "" else name
  | none => ""

/-- What follows the last dot of a file's name, unless the name begins with it. -/
def extension? (path : String) : Option String :=
  let cs := (fileName path).toList.reverse
  match cs.dropWhile (· ≠ '.') with
  | _ :: _ :: _ => some (String.ofList (cs.takeWhile (· ≠ '.')).reverse)
  | _ => none

/-- Whether a file's name says that it holds markup. -/
def hasMarkup (path : String) : Bool := extension? path = some "jsx" || extension? path = some "tsx"

/-- The text of a source file. -/
def readSource (h : Host) (path : String) : Except Failure String :=
  let file := h.file path
  if file.isPresent then file.read.mapError .unreadable else .error (.noSource path)

/-- The configuration in a file, or the standard one; the source's name may turn markup on. -/
def readConfig (h : Host) (config : Option String) (source : String) : Except Failure Config := do
  let c ← match config with
    | some path => (Config.ofFile (h.file path)).mapError fun e => .refused (.ofFile e)
    | none => .ok .standard
  return if hasMarkup source then { c with dialect := ⟨true⟩ } else c

/-! ## Sessions -/

/-- A playground that is ready, and what was written on the way. -/
structure Opened where
  playground : Playground
  notices : String

/-- When the loads of a session go on.  All of them are started first, in their order; after that,
whose turn it is depends on whose answers come. -/
structure Pace where
  /-- What the network says when the load of a number is started. -/
  first : Nat → String → Dependency.Reply
  /-- Later turns: the number of a load, and what the network says by then. -/
  later : List (Nat × (String → Dependency.Reply))

namespace Pace

/-- The turns of that many loads. -/
def turns (pace : Pace) (loads : Nat) : List (Nat × (String → Dependency.Reply)) :=
  (List.range loads).map (fun id => (id, pace.first id)) ++ pace.later

/-- That many loads go on together, once for each network, the oldest first. -/
def steady (networks : List (String → Dependency.Reply)) (loads : Nat) : Pace where
  first _ := networks.headD fun _ => .waiting
  later := networks.tail.flatMap fun network => (List.range loads).map (·, network)

end Pace

/-- What a finished load still has to say: it was never listed. -/
def rejection : Playground.Task → String
  | .ended (.error (.bindingConflict name existing identifier)) =>
    Terminal.warning (Dependency.Error.bindingConflict name existing identifier).message
  | .ended (.error (.reservedName name)) => Terminal.warning (Dependency.Error.reservedName name).message
  | _ => ""

/-- Opens a session and loads all dependencies at once.  A spec that cannot be read is an error, and
then nothing is loaded. -/
def openSession (pace : Pace) (c : Config) (specs : List String) : Except Error Opened := do
  let dependencies ← specs.mapM fun s => (Dependency.parseSpec s).mapError Error.dependency
  if dependencies.isEmpty then return ⟨.new c, ""⟩
  let queued := dependencies.foldl (fun p d => (p.spawn d).2) (Playground.new c)
  let p := queued.attend (pace.turns dependencies.length)
  return ⟨p, Terminal.loading dependencies.length ++ String.join (p.tasks.toList.map rejection)⟩

/-- Reads the configuration and opens a session. -/
def prepare (h : Host) (file : String) (specs : List String) (config : Option String) : Except Failure Opened := do
  let c ← readConfig h config file
  (openSession (.steady h.networks specs.length) c specs).mapError .refused

/-! ## Answers -/

/-- What a command leaves: the exit code and both outputs. -/
structure Response where
  exit : Nat
  out : String
  err : String
  deriving DecidableEq, Repr

namespace Response

def failure (f : Failure) : Response := ⟨1, "", f.text⟩

/-- What is said to arguments that are no command. -/
def usage : Response :=
  ⟨2, "", "Usage: playjs run|watch|transpile [OPTIONS] FILE\n"⟩

end Response

/-- A session with its source set, and what was written on the way. -/
def prepareRun (h : Host) (file : String) (specs : List String) (config : Option String) :
    Except Failure Opened := do
  let source ← readSource h file
  let s ← prepare h file specs config
  let p := s.playground
  return ⟨p.setSource source, s.notices ++ Terminal.unboundAll p.registry.dependencies⟩

/-- The page about a run of a file. -/
def page (file : String) (o : Execution.Outcome) (time : String) : String :=
  Terminal.header "PlayJS" (fileName file) ++ Terminal.outcome o ++ Terminal.duration time

/-- What a finished run answers. -/
def answerRun (file : String) (asJson : Bool) (notices : String) (o : Execution.Outcome) (p : Playground)
    (time : String) : Response :=
  let out := if asJson then Report.text o p.registry.dependencies else page file o time
  ⟨if o.isFailed then 1 else 0, out, notices⟩

/-- Prints the script that a file stands for. -/
def answerTranspile (h : Host) (file : String) (config : Option String) : Except Failure Response := do
  let source ← readSource h file
  let c ← readConfig h config file
  let script ← (Playpen.transpile c.dialect source).mapError fun e => .refused (.transpile e)
  return ⟨0, script, ""⟩

/-- Starts to watch: the source need not be readable yet, but it must be there. -/
def prepareWatch (h : Host) (file : String) (specs : List String) (config : Option String) :
    Except Failure Opened :=
  if (h.file file).isPresent then prepare h file specs config else .error (.noSource file)

/-- The sequence that clears a terminal. -/
def clearScreen : String := "\x1b[2J\x1b[1;1H"

/-- One round of watching: the file is run as it is now. -/
def watchRound (h : Host) (file : String) (p : Playground) : Response × Playground :=
  match (h.file file).read with
  | .error reason => (⟨0, "", Terminal.failure reason⟩, p)
  | .ok source =>
    let err := Terminal.unboundAll p.registry.dependencies
    let closing := "\n" ++ Terminal.line (Terminal.paint .dim "Watching for changes... (Ctrl+C to stop)")
    match (p.setSource source).run with
    | .ok (r, p) => (⟨0, Terminal.outcome r.outcome ++ closing, err⟩, p)
    | .error e => (⟨0, closing, err ++ Terminal.failure e.message⟩, p)

/-- The answer to a command, up to the first round of a watch; `time` is how long the run took. -/
def answer (h : Host) (time : String) : Command → Response
  | .run file specs asJson config =>
    match prepareRun h file specs config with
    | .error f => .failure f
    | .ok s =>
      match s.playground.run with
      | .error e => .failure (.refused e)
      | .ok (r, p) => answerRun file asJson s.notices r.outcome p time
  | .watch file specs clear config =>
    match prepareWatch h file specs config with
    | .error f => .failure f
    | .ok s =>
      let (round, _) := watchRound h file s.playground
      ⟨0, Terminal.header "PlayJS Watch" (fileName file) ++ (if clear then clearScreen else "") ++ round.out,
        s.notices ++ round.err⟩
  | .transpile file config =>
    match answerTranspile h file config with
    | .error f => .failure f
    | .ok r => r

end Command

end Playpen
