import BootManager.Firmware.Machine

/-!
# Messages on a console

A message is printed on a line of its own, after the time, its level and the place that it is from.
-/

namespace BootManager

/-- The name of a level. -/
def Level.name : Level → String
  | error => "ERROR"
  | warn => "WARN"
  | info => "INFO"
  | debug => "DEBUG"
  | trace => "TRACE"

namespace Firmware

/-- A number with zeros in front, up to a width. -/
def padded (width n : Nat) : String :=
  let digits := toString n
  String.ofList (List.replicate (width - digits.length) '0') ++ digits

namespace Time

/-- What stands for the time where there is no clock. -/
def unset : Time := ⟨0, 0, 0, 0, 0, 0, 0, some 0⟩

/-- The distance from universal time, in hours. -/
def zoneText (t : Time) : String :=
  match t.zone with
  | none => " (local)"
  | some minutes => "UTC+" ++ toString (minutes.tdiv 60)

/-- The date and the time, down to nanoseconds. -/
def text (t : Time) : String :=
  padded 4 t.year ++ "-" ++ padded 2 t.month ++ "-" ++ padded 2 t.day ++ " " ++
    padded 2 t.hour ++ ":" ++ padded 2 t.minute ++ ":" ++ padded 2 t.second ++ "." ++
    padded 9 t.nanosecond ++ t.zoneText

end Time

/-- A message and where it is from. -/
structure LogRecord extends Message where
  file : Option String
  line : Option Nat
  deriving DecidableEq, Repr

/-- The parts of the line of a message, which are printed one by one. -/
def LogRecord.parts (r : LogRecord) (time : Time) : List String :=
  ["[" ++ time.text ++ " " ++ r.level.name ++ " ", r.file.getD "",
    ":" ++ toString (r.line.getD 0) ++ "] - ", r.text, "\n"]

/-- Prints a message, if the limit shows its level. -/
def Attempt.printRecord (limit : Level) (r : LogRecord) : Attempt Unit := do
  if limit.shows r.level then
    let m ← get
    Attempt.print (r.parts (m.clock.getD .unset))

end Firmware

end BootManager
