import BootManager.Text.Decimal

/-!
# Times of the day

Times are minutes past midnight, and ranges of them go around the clock.
-/

namespace BootManager.Config.TimeOfDay

/-- The last minute of a day. -/
def lastMinute : UInt32 := 1439

/-- The hour and minute read so far. -/
structure Reading where
  hour : UInt32
  minute : UInt32
  deriving DecidableEq, Repr

/-- Reads one character: a colon makes an hour of the number before it, and what is neither a colon
nor a digit does not count. -/
def Reading.next (r : Reading) (c : Char) : Reading :=
  if c = ':' then ⟨r.minute, 0⟩
  else
    match Text.digitValue? c with
    | some d => { r with minute := Text.appendDigit r.minute d }
    | none => r

/-- The minutes past midnight of a time such as `23:59`, or of a plain number of minutes. -/
def read (s : String) : UInt32 :=
  let r := s.toList.foldl Reading.next ⟨0, 0⟩
  Text.saturate ((Text.saturate (r.hour.toNat * 60)).toNat + r.minute.toNat)

/-- Whether a time lies in a range, ends included. A range that does not start before its end goes
past midnight. -/
def inRange (start stop now : UInt32) : Bool :=
  if start < stop then start ≤ now && now ≤ stop else start ≤ now || now ≤ stop

end BootManager.Config.TimeOfDay
