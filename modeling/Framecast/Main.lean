import Framecast.Command.Run
import Framecast.Machine.Bench

/-!
# The program

Runs one command line on a machine of its own.
-/

open Framecast

/-- The scripts of checkpoints that the environment sets. -/
def readEnvironment : IO (List (String × String)) := do
  let names := [Checkpoint.frameSendName, Checkpoint.attachReturnName]
  let found ← names.mapM fun name => do
    return (← IO.getEnv name).map fun value => (name, value)
  return found.filterMap id

/-- Run the command line on a machine of its own, print what it prints and exit with its code. -/
def main (words : List String) : IO UInt32 := do
  let ctx : Command.Context := { environment := ← readEnvironment }
  let bench : Bench Unit := {}
  match (bench.perform (Command.run ctx .json words)).1 with
  | none =>
    IO.eprintln "error: nothing more can happen"
    return UInt32.ofNat Command.ExitCode.internal
  | some outcome =>
    IO.print outcome.output
    IO.eprint outcome.errorOutput
    return UInt32.ofNat outcome.code
