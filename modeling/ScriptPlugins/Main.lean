import ScriptPlugins.CommandLine.Snapshot

/-!
# The program

Reads a snapshot from its input and prints what the command leaves.
-/

open ScriptPlugins

def main (arguments : List String) : IO UInt32 := do
  let text ← (← IO.getStdin).readToEnd
  let (exit, output) := Snapshot.run arguments text
  (← IO.getStdout).putStrLn output
  return UInt32.ofNat exit
