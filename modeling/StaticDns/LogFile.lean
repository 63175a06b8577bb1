import StaticDns.Notice

/-!
# StaticDns.LogFile — log files that are set aside day by day

When the first line of a new day is written, the log of the day before is set aside under its name
with the number one, and every log set aside earlier moves up by one. The oldest is overwritten.

* `renames`: the moves, in an order in which no log is lost but the oldest.
-/

namespace StaticDns.LogFile

/-- How many logs are kept besides the one that is written. -/
def kept : Nat := 30

/-- The name of the log that was set aside the given number of times. -/
def aside (path : String) (age : Nat) : String := if age = 0 then path else s!"{path}.{age}"

/-- The moves that make room for a new log, the oldest first. -/
def renames (path : String) : List (String × String) :=
  (List.range kept).reverse.map fun age => (aside path age, aside path (age + 1))

/-- A line of the log behind the time at which it is written. -/
def stamped (time : String) (notice : Notice) : String :=
  let level := notice.severity.text
  time ++ String.ofList (List.replicate (6 - level.length) ' ') ++ notice.logLine

end StaticDns.LogFile
