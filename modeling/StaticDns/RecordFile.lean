import StaticDns.Notice
import StaticDns.Settings

/-!
# StaticDns.RecordFile — reading a record file

A record file is cut into lines at its newlines, and each line is read by itself: a bad line is
reported with its number and the rest of the file still loads.

* `records_eq`: the table is the records of the lines, in the order of the lines.
-/

namespace StaticDns.RecordFile

/-- The lines of a text, without their newlines. -/
def lines (text : String) : List (List Char) := Text.pieces (· == '\n') text.toList

/-- What each line of a text says, with the number of the line; the first line is line 1. -/
def readings (text : String) : List (LineReading × Nat) :=
  ((lines text).map readLine).zipIdx 1

/-- The table of a text: the records of its lines. -/
def table (text : String) : Table := ⟨(readings text).filterMap fun reading => reading.1.record?⟩

def noticesOf (settings : Settings) (reading : LineReading × Nat) : List Notice :=
  match reading.1 with
  | .silent => []
  | .entry field record => if settings.verbose then [.recordRead field record.address] else []
  | .fault fault => [.lineSkipped reading.2 fault]

def notices (settings : Settings) (text : String) : List Notice :=
  (readings text).flatMap (noticesOf settings)

theorem records_eq (text : String) :
    (table text).records = (lines text).filterMap fun line => (readLine line).record? := by
  simp only [table, readings]
  generalize 1 = first
  induction lines text generalizing first with
  | nil => rfl
  | cons line rest ih =>
    simp only [List.map_cons, List.zipIdx_cons, List.filterMap_cons]
    cases (readLine line).record? <;> simp [ih]

end StaticDns.RecordFile
