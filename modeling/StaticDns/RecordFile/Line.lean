import StaticDns.Table
import StaticDns.Text.Split

/-!
# StaticDns.RecordFile.Line — one line of a record file

A line holds a name and an address between blanks. Whatever follows the first `#` is comment, and a
line with nothing before it is silent. Any other line that gives no record has a fault.

* `readLine`: what a line says.
-/

namespace StaticDns.RecordFile

/-- The characters that separate fields. -/
def isBlank (c : Char) : Bool := c == ' ' || c == '\t' || c == '\r'

/-- The part of a line in front of its comment. -/
def uncommented (line : List Char) : List Char := line.takeWhile (· != '#')

def fieldsOf (line : List Char) : List (List Char) := Text.fields isBlank (uncommented line)

/-- Why a line gives no record. -/
inductive LineFault where
  | fieldCount (found : Nat)
  | badAddress
  | badName (field : String) (error : NameError)
  deriving DecidableEq, Repr

inductive LineReading where
  | silent
  | entry (field : String) (record : Record)
  | fault (fault : LineFault)

/-- What the two fields of a line say. -/
def readFields (name address : List Char) : LineReading :=
  match Ipv4.read? address with
  | none => .fault .badAddress
  | some ip =>
    match Record.ofText (String.ofList name) ip with
    | .ok record => .entry (String.ofList name) record
    | .error error => .fault (.badName (String.ofList name) error)

def readLine (line : List Char) : LineReading :=
  match fieldsOf line with
  | [] => .silent
  | [name, address] => readFields name address
  | fields => .fault (.fieldCount fields.length)

def LineReading.record? : LineReading → Option Record
  | .entry _ record => some record
  | _ => none

end StaticDns.RecordFile
