import StaticDns.Duration
import StaticDns.Text.Blank

/-!
# StaticDns.Interval — how often the record file is looked at

An interval is written as a whole number and one of the units `ms`, `s`, `m` and `h`, with white
space allowed around it. It is brought into the range from two seconds to one day.

* `read`: the interval that a text spells.
-/

namespace StaticDns.Interval

inductive Scale where
  | milliseconds
  | seconds
  | minutes
  | hours
  deriving DecidableEq, Repr

/-- The milliseconds of a unit. -/
def Scale.factor : Scale → Nat
  | .milliseconds => 1
  | .seconds => 1000
  | .minutes => 60 * 1000
  | .hours => 3600 * 1000

/-- The largest number that a unit may follow. Longer units count seconds in 64 bits. -/
def Scale.limit : Scale → Nat
  | .milliseconds => UInt64.size - 1
  | .seconds => UInt64.size - 1
  | .minutes => (UInt64.size - 1) / 60
  | .hours => (UInt64.size - 1) / 3600

inductive Fault where
  | number (fault : Decimal.Fault)
  | missingUnit
  | outOfRange
  deriving DecidableEq, Repr

def Fault.message : Fault → String
  | .number fault => fault.message
  | .missingUnit => "missing unit"
  | .outOfRange => "value out of range"

/-- A text cut into its number and the unit at its end. `ms` is tried before `s` and `m`. -/
def splitUnit? (cs : List Char) : Option (List Char × Scale) :=
  match cs.reverse with
  | 's' :: 'm' :: number => some (number.reverse, .milliseconds)
  | 's' :: number => some (number.reverse, .seconds)
  | 'm' :: number => some (number.reverse, .minutes)
  | 'h' :: number => some (number.reverse, .hours)
  | _ => none

/-- The milliseconds that a text spells, before they are brought into range. -/
def written (text : String) : Except Fault Nat :=
  match splitUnit? (Text.trim text.toList) with
  | none => .error .missingUnit
  | some (number, scale) =>
    match Decimal.readUnsigned (UInt64.size - 1) number with
    | .error fault => .error (.number fault)
    | .ok n => if scale.limit < n then .error .outOfRange else .ok (n * scale.factor)

def shortest : Duration := .ofSeconds 2

def longest : Duration := .ofSeconds (24 * 3600)

/-- A span brought into the range of intervals. -/
def clamp (span : Duration) : Duration := (span.max shortest).min longest

def read (text : String) : Except Fault Duration :=
  (written text).map fun n => clamp (.ofMilliseconds n)

/-- What is said about a text that is no interval. -/
def errorText (text : String) (fault : Fault) : String :=
  s!"invalid duration '{text}': {fault.message}"

end StaticDns.Interval
