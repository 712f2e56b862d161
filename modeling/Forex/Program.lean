import Forex.Command.Arguments
import Forex.Command.Run
import Forex.Config.Variables

namespace Forex

inductive Exit
  | done
  | stopped (s : Stop)
  | misconfigured (e : ConfigError)
  | failed (f : Failure)
  | outOfRange (fault : Decimal.Fault)
deriving DecidableEq

namespace Exit

def ofAbort : Abort CommandError → Exit
  | .refused e => failed e.toFailure
  | .outOfRange f => outOfRange f

def status : Exit → Nat
  | done => 0
  | stopped s => s.exitCode
  | misconfigured e => e.toFailure.exitCode
  | failed f => f.exitCode
  | outOfRange _ => 101

def failureLine (f : Failure) : String := "Error [" ++ f.code ++ "]: " ++ f.message

def complaint : Exit → Option String
  | done | stopped .help | stopped .version => none
  | stopped .usage => some "The arguments are not in order; --help lists the commands"
  | misconfigured e => some (failureLine e.toFailure)
  | failed f => some (failureLine f)
  | outOfRange f => some f.message

end Exit

namespace Program

def name : String := "pricer"

def version : String := "0.1.0"

def help : List String :=
  ["Usage: " ++ name ++ " [--json] COMMAND [OPTIONS]", "", "Commands:"] ++
    (Arguments.forms.map fun f ↦ "  " ++ f.name)

variable {m : Type → Type} [Monad m] (host : Host m)

def printAll (lines : List String) : m Unit := lines.forM host.print

def notice : Stop → List String
  | .usage => []
  | .help => help
  | .version => [name ++ " " ++ version]

def environment (env : Environment) : m Environment := do
  match ← host.read ".env" with
  | .ok bytes => return Variables.addFile env bytes
  | .error _ => return env

def runCommand (config : Config) (i : Invocation) : m Exit := do
  match ← i.run host config with
  | .ok lines =>
    printAll host lines
    return .done
  | .error e => return .ofAbort e

def run (env : Environment) (args : List String) : m Exit := do
  match Invocation.ofArguments args with
  | .error s =>
    printAll host (notice s)
    return .stopped s
  | .ok i =>
    match ← Config.load host (← environment host env) with
    | .error e => return .misconfigured e
    | .ok config =>
      match config.validate with
      | .error f => return .failed f
      | .ok () => runCommand host config i

end Program

end Forex
