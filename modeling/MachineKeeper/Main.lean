import MachineKeeper.CommandLine.Run

/-! The program. It works on a host in memory, which is empty when it starts. -/
namespace MachineKeeper.Program

def readFile (path : String) : IO (Except FileError Bytes) := do
  try
    return .ok (← IO.FS.readBinFile path).data.toList
  catch
    | .noFileOrDirectory .. => return .error .notFound
    | .inappropriateType _ code _ =>
      return .error (if code = 20 then .notDirectory else .isDirectory)
    | e => return .error (.unreadable (toString e))

def readEnvironment : IO (Table String) :=
  Surroundings.placeVariables.foldlM (fun environment name => do
    match ← IO.getEnv name with
    | some value => return environment.insert name value
    | none => return environment) ∅

def readSurroundings (invocation : Invocation) : IO Surroundings := do
  let bare : Surroundings :=
    { read := fun _ => .error .notFound
      directory := (← IO.currentDir).toString
      environment := ← readEnvironment }
  let paths := bare.settingsCandidates invocation.settings? ++ invocation.command.manifest?.toList
  let contents ← paths.mapM fun path => return (path, ← readFile path)
  return { bare with read := fun path => (contents.lookup path).getD (.error .notFound) }

def say (lines : List Line) : IO Unit := do
  IO.print (Line.textOf lines)
  (← IO.getStdout).flush

/-- Passes until the last one, with waits in between. -/
partial def watch (intervals : Intervals) (name : String) (w : World) :
    IO (Outcome Failure Unit) := do
  let turn := Run.turn intervals name w
  say turn.lines
  match turn.outcome with
  | .done .done => return .done ()
  | .done (.after delay) =>
    let milliseconds := delay.seconds.toNat * 1000 + delay.nanos.val / 1000000
    IO.sleep (min milliseconds (UInt32.size - 1)).toUInt32
    watch intervals name turn.world
  | .failed failure => return .failed failure
  | .overflow => return .overflow

def run (invocation : Invocation) : IO (Outcome Failure Unit) := do
  let surroundings ← readSurroundings invocation
  match invocation.command with
  | .reconcile true delete path =>
    let start : Outcome Failure (Settings × Manifest) := do
      return (← surroundings.settings invocation.settings?, ← surroundings.manifest path)
    match start with
    | .done (settings, manifest) =>
      watch settings.intervals manifest.name (Run.enter settings.defaults delete manifest .initial)
    | .failed failure => return .failed failure
    | .overflow => return .overflow
  | _ =>
    let run := invocation.run 0 surroundings .initial
    say run.lines
    return run.outcome

end MachineKeeper.Program

open MachineKeeper in
def main (arguments : List String) : IO UInt32 := do
  match Invocation.ofArguments arguments with
  | .error .help =>
    IO.println UsageError.help.message
    return 0
  | .error e =>
    IO.eprintln e.message
    return e.exitCode.toUInt32
  | .ok invocation =>
    match ← Program.run invocation with
    | .done () => return 0
    | .failed failure =>
      IO.eprint (Line.error failure.message).text
      return 1
    | .overflow =>
      IO.eprintln "arithmetic overflow"
      return 101
