import BlockStage.CommandLine.Run

/-!
The program: the command line over the files of the disk.
-/

open BlockStage CommandLine

/-- The files of the disk. -/
def diskFiles : Files IO where
  read path := do
    try return some (← IO.FS.readBinFile path)
    catch _ => return none
  write path text := do
    try
      IO.FS.writeFile path text
      return true
    catch _ => return false

/-- Runs the command line, with a random seed in case none is given. -/
def main (args : List String) : IO UInt32 := do
  let entropy ← IO.rand 0 (UInt64.size - 1)
  let outcome ← run diskFiles (UInt64.ofNat entropy) args
  for line in outcome.warnings do IO.eprintln line
  for line in outcome.output do IO.println line
  for line in outcome.ending.complaint do IO.eprintln line
  return UInt32.ofNat outcome.ending.code
