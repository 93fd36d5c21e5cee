import Playpen.Command

/-!
# The command line

Reads the files a command names, answers it, and, when it watches a file, goes on as long as it is
not stopped.  There is no network here: every dependency stays unbound and is warned of.
-/

namespace Playpen.CommandLine

/-- What is found under a path. -/
def fileAt (path : String) : IO Config.File := do
  try
    return .ofBytes (← IO.FS.readBinFile path)
  catch
    | .noFileOrDirectory _ _ _ => return .missing
    | .inappropriateType _ _ _ => return .directory
    | _ => return .misplaced

/-- The world as it is now, as far as the paths given are concerned. -/
def hostOf (paths : List String) : IO Host := do
  let found ← paths.mapM fun path => return (path, ← fileAt path)
  return ⟨fun path => (found.lookup path).getD .missing, [Dependency.offline]⟩

/-- Milliseconds with two decimals. -/
def milliseconds (nanos : Nat) : String :=
  let hundredths := (nanos + 5000) / 10000
  let cents := toString (hundredths % 100)
  toString (hundredths / 100) ++ "." ++ "".pushn '0' (2 - cents.length) ++ cents ++ "ms"

def write (r : Command.Response) : IO Unit := do
  (← IO.getStderr).putStr r.err
  let out ← IO.getStdout
  out.putStr r.out
  out.flush

/-- Runs a file again whenever its text is another one. -/
partial def watching (file : String) (clear : Bool) (last : Config.File) (p : Playground) : IO Unit := do
  IO.sleep 200
  let now ← fileAt file
  if now = last then watching file clear last p
  else if !now.isPresent then
    (← IO.getStderr).putStr ("\n" ++ Terminal.warning s!"Script file removed: {file}")
    watching file clear now p
  else
    let (round, next) := Command.watchRound (← hostOf [file]) file p
    let opening := if clear then Command.clearScreen
      else "\n" ++ Terminal.line (Terminal.paint .yellow "File changed, re-running...")
    write { round with out := opening ++ round.out }
    watching file clear now next

/-- Answers a command; gives the exit code. -/
def perform (c : Command) : IO UInt32 := do
  match c with
  | .run file specs asJson config =>
    match Command.prepareRun (← hostOf (file :: config.toList)) file specs config with
    | .error f => write (.failure f); return 1
    | .ok s =>
      let started ← IO.monoNanosNow
      match s.playground.run with
      | .error e => write (.failure (.refused e)); return 1
      | .ok (r, p) =>
        let ended ← IO.monoNanosNow
        let response := Command.answerRun file asJson s.notices r.outcome p (milliseconds (ended - started))
        write response
        return response.exit.toUInt32
  | .watch file specs clear config =>
    let host ← hostOf (file :: config.toList)
    match Command.prepareWatch host file specs config with
    | .error f => write (.failure f); return 1
    | .ok s =>
      let (round, p) := Command.watchRound host file s.playground
      let head := Terminal.header "PlayJS Watch" (Command.fileName file)
      write ⟨0, head ++ (if clear then Command.clearScreen else "") ++ round.out, s.notices ++ round.err⟩
      watching file clear (host.file file) p
      return 0
  | .transpile file config =>
    let response := Command.answer (← hostOf (file :: config.toList)) "" (.transpile file config)
    write response
    return response.exit.toUInt32

end Playpen.CommandLine

/-- Runs the command that the arguments stand for. -/
def main (args : List String) : IO UInt32 := do
  match Playpen.Command.ofArgs? args with
  | some c => Playpen.CommandLine.perform c
  | none =>
    Playpen.CommandLine.write .usage
    return 2
