/-
# Leaderboard.Main — the command

Reads the variables and the files that a run needs, runs it, prints what it prints, and writes the
records that are wanted, one a line, and the complaint to the error channel.
-/
import Leaderboard.Session

set_option autoImplicit false

namespace Leaderboard.Command

/-- The variables that the program knows. -/
def knownVariables : List String :=
  [Settings.baseVariable, Settings.dataVariable, Settings.explanationsVariable,
    Settings.modeVariable, "LOG_LEVEL", "LOG_DOMAINS", "RUN_ID"]

def environment : IO Environment := do
  let given ← knownVariables.mapM fun name => do
    let value? ← IO.getEnv name
    return value?.map fun value => (name, value)
  return given.filterMap id

def faultOf : IO.Error → Site.ReadFault
  | .noFileOrDirectory _ code text => .ofCode text code.toNat
  | .permissionDenied _ code text => .ofCode text code.toNat
  | .inappropriateType _ code text => .ofCode text code.toNat
  | .invalidArgument _ code text => .ofCode text code.toNat
  | .illegalOperation code text => .ofCode text code.toNat
  | .otherError code text => .ofCode text code.toNat
  | e => .other 5 e.toString

def readFile (place : String) : IO (Except Site.ReadFault (List UInt8)) := do
  try
    let bytes ← IO.FS.readBinFile place
    return .ok bytes.toList
  catch e => return .error (faultOf e)

/-- Runs the program on its words and gives the status that it ends with. -/
def execute (words : List String) : IO UInt32 := do
  let env ← environment
  let contents ← (Session.places words env).mapM fun place => do
    return (place, ← readFile place)
  let outcome := Session.run words env fun place =>
    (contents.lookup place).getD (.error .notFound)
  let run := (env.lookup "RUN_ID").getD "run"
  let lines := outcome.records.mapIdx fun i r => (r.line run i).render
  for line in lines do
    IO.eprintln line
  IO.print outcome.output
  unless outcome.complaint.isEmpty do
    IO.eprintln outcome.complaint
  return UInt32.ofNat outcome.status

end Leaderboard.Command

def main (words : List String) : IO UInt32 := Leaderboard.Command.execute words
