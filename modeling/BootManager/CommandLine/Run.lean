import BootManager.CommandLine.Argument
import BootManager.CommandLine.Session
import BootManager.Text.Utf16

/-!
# The program

The program is started with one text. Its first word is the name of the program, and the others are
its arguments, of which the first that is a command is obeyed.
-/

namespace BootManager.CommandLine

open Firmware

/-- What the program can be told to do. -/
inductive Command where
  | help
  | list
  | config
  | entries
  | save
  deriving DecidableEq, Repr

namespace Command

/-- Every command. -/
def all : List Command :=
  [help, list, config, entries, save]

/-- The letter of a command. -/
def letter : Command → Char
  | help => 'h'
  | list => 'l'
  | config => 'c'
  | entries => 'e'
  | save => 's'

/-- The name of a command. -/
def name : Command → String
  | help => "help"
  | list => "list"
  | config => "config"
  | entries => "entries"
  | save => "save"

/-- The command that an argument stands for. -/
def ofArgument? : Argument → Option Command
  | .letter c => all.find? fun command => command.letter == c
  | .name text => all.find? fun command => command.name == text
  | _ => none

end Command

/-- What is printed about an argument that is no command. -/
def Argument.complaint : Argument → String
  | letter c => "Error: Unknown short argument: -" ++ String.singleton c
  | name text => "Error: Unknown long argument: --" ++ text
  | value text | plain text => "Error: Unknown positional argument: " ++ text

/-- How the program is used. -/
def usage (program : String) : List String :=
  [s!"Usage: {program} [OPTIONS]",
    "",
    "-h, --help       display this help and exit",
    "-l, --list       display scanned volumes and exit",
    "-c, --config     display the loaded settings and exit",
    "-e, --entries    display the manual boot stanzas and exit",
    "-s, --save       save the loaded settings into the variable store",
    ""]

namespace Session

/-- Prints how the program is used. -/
def printUsage (program : String) : Attempt Unit :=
  (usage program).forM Attempt.printLine

/-- Obeys a command. -/
def perform (session : Session) (program : String) : Command → Attempt Unit
  | .help => printUsage program
  | .list => session.printVolumes
  | .config => session.printSettings
  | .entries => session.printEntries
  | .save => session.printSave

/-- Obeys the first command among the arguments, and complains about those before it. A value that
no argument takes ends them. -/
def obey (session : Session) (program : String) : List Argument → Attempt Unit
  | [] | .value _ :: _ => printUsage program
  | argument :: rest =>
    match Command.ofArgument? argument with
    | some command => session.perform program command
    | none => do
      Attempt.printLine argument.complaint
      session.obey program rest

end Session

/-- What the program is taken to be started with if it is not told. -/
def unnamed : String := "refit-rs-cli.efi"

/-- The text in the bytes that the program is started with: whole units with a zero at the end and
only there, and without surrogates. -/
def startText? (bytes : Bytes) : Option String :=
  let units := Text.Utf16.unitsOfBytes bytes
  let text := units.dropLast
  if bytes.length % 2 = 0 ∧ units.getLast? = some 0 ∧
      text.all (fun u => u != 0 && !Text.Utf16.isHigh u && !Text.Utf16.isLow u) then
    some (String.ofList (Text.Utf16.decode text))
  else none

/-- The words that the program is started with. -/
def startWords : Attempt (List String) := do
  match (← get).image with
  | none => throw (.firmware .unsupported)
  | some image => pure (Text.words ((image.options.bind startText?).getD unnamed))

/-- Runs the program with its name and its arguments. Messages are shown as the configuration says,
once it was read. -/
def runWith (program : String) (arguments : List String) : Attempt Unit := do
  let early ← EarlySession.start.restrict .warn
  Attempt.restrict early.settings.level do
    let session ← early.finish
    session.obey program (Argument.ofWords arguments)

/-- Runs the program, unless it is started with nothing. -/
def runWords : List String → Attempt Unit
  | [] => Attempt.printLine "Error: No load options were passed to the program"
  | program :: arguments => runWith program arguments

/-- Runs the program. The answer tells whether it could start. -/
def run : Attempt Bool := do
  let result ← Attempt.outcome do runWords (← startWords)
  match result with
  | .ok () => pure true
  | .error failure =>
    Attempt.printLine s!"Error: {failure.summary}"
    pure false

end BootManager.CommandLine
