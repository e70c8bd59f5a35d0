import Lanewise.Cli.Command

/-!
# The program

The command line with the files and the clock of this computer.
-/

namespace Lanewise

/-- The number of steps after which a machine is given up. -/
def maxMachineSteps : Nat := 0x4000000000000000

/-- The contents of a file, if there is one. -/
def readFile (path : String) : IO (Option ByteArray) :=
  try
    return some (← IO.FS.readBinFile path)
  catch _ => return none

/-- Writes a file; false if that is not possible. -/
def writeFile (path : String) (data : ByteArray) : IO Bool :=
  try
    IO.FS.writeBinFile path data
    return true
  catch _ => return false

/-- Measures with the clock of this computer. -/
def clock : Bench.Stopwatch IO where
  time f := do
    let start ← IO.monoNanosNow
    let answer ← (pure (f ()) : IO _)
    let stop ← IO.monoNanosNow
    return (answer, Duration.ofNanos (stop - start : Nat))

/-- This computer. -/
def world (home : String) : Cli.World IO :=
  { home, read := readFile, write := writeFile, watch := clock, timeText := Duration.text
    fuel := maxMachineSteps }

end Lanewise

open Lanewise in
/-- Runs the command line that the program was started with. -/
def main (words : List String) : IO UInt32 := do
  let home := (← IO.getEnv "HOME").getD ""
  let outcome ← Cli.execute (world home) words
  IO.print outcome.output
  for line in outcome.complaints do
    IO.eprintln line
  return outcome.status
