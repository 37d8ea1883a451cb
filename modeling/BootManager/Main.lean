import BootManager.CommandLine.Trial
import BootManager.Firmware.LogRecord

/-!
# The command line

Tries out the configuration on the standard input: the program runs with it on a machine made for
that. What it prints goes to the standard output, and its messages go to the standard error.
-/

open BootManager

/-- Runs the program. -/
def main (arguments : List String) : IO UInt32 := do
  let configuration ← (← IO.getStdin).readBinToEnd
  let machine := CommandLine.Trial.machine configuration.data.toList arguments
  let ran := CommandLine.run.run.run machine
  let (started, after) := ran.value
  for message in ran.messages do
    let level := message.level.name
    IO.eprintln s!"{level}: {message.text}"
  IO.print (after.console.replace "\r\n" "\n")
  return if started matches .ok true then 0 else 1
