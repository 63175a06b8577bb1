import StaticDns.Duration
import StaticDns.Metrics.Counter
import StaticDns.Respond

/-!
# StaticDns.Metrics.Traffic — what is counted about datagrams and tables

`Traffic` counts datagrams by what came of them, and `TableGauges` tells which record file is being
served and how often loading one has failed.

* `observe_dropped`: a dropped datagram counts as dropped and as nothing else.
-/

namespace StaticDns

inductive DropCause where
  | undecoded (reason : DropReason)
  | badSize
  deriving DecidableEq, Repr

def DropCause.label : DropCause → String
  | .undecoded reason => reason.label
  | .badSize => "bad_size"

/-- The label of what a datagram asks for. -/
def askedLabel : Option RecordType → String
  | some type => type.text
  | none => "OTHER"

def requestBounds : List Nat := [0, 32, 64, 100, 200, 300, 400, 512]

def responseBounds : List Nat := [0, 32, 64, 100, 200, 300, 400, 512, 1023]

/-- The bounds that times of handling are counted by, in nanoseconds. -/
def durationBounds : List Nat :=
  [1000, 5000, 10000, 50000, 100000, 250000, 500000, 1000000, 5000000, 10000000]

/-- Datagrams counted by what came of them. -/
structure Traffic where
  requests : Counter (Option RecordType) := {}
  responses : Counter Rcode := {}
  dropped : Counter DropCause := {}
  requestSizes : Histogram := .ofBounds requestBounds
  responseSizes : Histogram := .ofBounds responseBounds
  durations : Histogram := .ofBounds durationBounds

namespace Traffic

def drop (traffic : Traffic) (cause : DropCause) : Traffic :=
  { traffic with dropped := traffic.dropped.increment cause }

/-- A question that has been ruled upon. -/
def ask (traffic : Traffic) (asked : Option RecordType) (size : Nat) : Traffic :=
  { traffic with
    requests := traffic.requests.increment asked
    requestSizes := traffic.requestSizes.observe size }

/-- A reply that is sent. -/
def answer (traffic : Traffic) (rcode : Rcode) (size : Nat) (elapsed : Duration) : Traffic :=
  { traffic with
    responses := traffic.responses.increment rcode
    responseSizes := traffic.responseSizes.observe size
    durations := traffic.durations.observe elapsed.nanoseconds }

/-- Counts a datagram of the given size by what came of it after the time it took. -/
def observe (traffic : Traffic) (size : Nat) (elapsed : Duration) : Outcome → Traffic
  | .dropped reason => traffic.drop (.undecoded reason)
  | .unframed asked _ => traffic.ask asked size
  | .answered asked rcode reply => (traffic.ask asked size).answer rcode reply.length elapsed

/-- Counts a packet that is answered from a table in no time. -/
def handle (table : Table) (settings : Settings) (traffic : Traffic) (packet : Octets) : Traffic :=
  traffic.observe packet.length ⟨0⟩ (respond table settings packet).outcome

/-- What is counted about packets that are answered from one table. -/
def ofPackets (table : Table) (settings : Settings) (packets : List Octets) : Traffic :=
  packets.foldl (handle table settings) {}

theorem ofPackets_concat (table : Table) (settings : Settings) (packets : List Octets)
    (packet : Octets) :
    ofPackets table settings (packets ++ [packet]) =
      (ofPackets table settings packets).handle table settings packet := by
  simp [ofPackets]

theorem observe_dropped (traffic : Traffic) (size : Nat) (elapsed : Duration)
    (reason : DropReason) :
    traffic.observe size elapsed (.dropped reason) =
      { traffic with dropped := traffic.dropped.increment (.undecoded reason) } := rfl

end Traffic

/-! ## Tables -/

/-- Which record file is being served. -/
structure TableGauges where
  /-- The number of records in the table that is served. -/
  records : Nat := 0
  /-- Every digest ever loaded, and whether its file is the one that is served. -/
  versions : List (String × Bool) := []
  /-- How often loading a record file has failed. -/
  failures : Nat := 0
  deriving DecidableEq, Repr

/-- Sets the entry of a digest. -/
def setVersion (digest : String) (served : Bool) : List (String × Bool) → List (String × Bool)
  | [] => [(digest, served)]
  | (d, s) :: rest =>
    if d = digest then (d, served) :: rest else (d, s) :: setVersion digest served rest

structure Metrics where
  /-- The version of the program, once it has been announced. -/
  build : Option String := none
  traffic : Traffic := {}
  tables : TableGauges := {}

end StaticDns
