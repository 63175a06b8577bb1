import StaticDns.Duration
import StaticDns.Host.SystemError
import StaticDns.Message.Reply
import StaticDns.Net.Endpoint
import StaticDns.RecordFile.Line
import StaticDns.Text.Terminal

/-!
# StaticDns.Notice — what the server reports about itself

Every event worth a line in the log is a notice. A notice has a severity, a subject that tells which
part of the server it comes from, and a text. Some notices are given only where the operator asked
for more than the usual.
-/

namespace StaticDns

inductive Severity where
  | error
  | warn
  | info
  | debug
  deriving DecidableEq, Repr

def Severity.text : Severity → String
  | .error => "ERROR"
  | .warn => "WARN"
  | .info => "INFO"
  | .debug => "DEBUG"

/-- Why a record file cannot be loaded. -/
inductive LoadError where
  | unreadable (path : String) (cause : SystemError)
  | notText (path : String) (fault : Utf8.Malformed)
  deriving DecidableEq, Repr

def LoadError.context : LoadError → String
  | .unreadable path _ => s!"Failed to read record file '{path}'"
  | .notText path _ => s!"Record file '{path}' is not valid UTF-8"

def LoadError.cause : LoadError → String
  | .unreadable _ cause => cause.message
  | .notText _ fault => fault.message

def LoadError.message (error : LoadError) : String := s!"{error.context}: {error.cause}"

/-- An event worth a line in the log. -/
inductive Notice where
  /-- A line of a record file has given a record. -/
  | recordRead (name : String) (address : Ipv4)
  /-- A line of a record file has given nothing. -/
  | lineSkipped (line : Nat) (fault : RecordFile.LineFault)
  | malformedName (error : NameError)
  | dropped (reason : DropReason)
  | queried (type : RecordType) (name : String)
  | matched (type : RecordType) (name : String)
  | unframed (error : ReplyError)
  | sizeRefused (size : Nat) (sender : Endpoint)
  | received (sender : Endpoint) (destination : Option Ipv4)
  | unsent (size : Nat) (recipient : Endpoint) (cause : SystemError)
  | stopping (bound : Endpoint)
  | watching (path : String) (interval jitter : Duration)
  /-- A look at the record file has failed. -/
  | unreadable (path : String) (cause : SystemError)
  | changed (digest : String)
  | hangup (path : String)
  | serving (records : Nat)
  | keeping (error : LoadError)
  | metricsBound (bound : Endpoint)
  | starting (version : String)
  | loaded (records : Nat) (path : String)
  | accepting (bound : Endpoint)
  | interrupted
  deriving DecidableEq, Repr

namespace Notice

def severity : Notice → Severity
  | .unframed _ | .unreadable _ _ | .keeping _ => .error
  | .lineSkipped _ _ | .dropped _ | .sizeRefused _ _ | .unsent _ _ _ => .warn
  | .malformedName _ => .debug
  | _ => .info

/-- The part of the server that a notice comes from. -/
def subject : Notice → String
  | .recordRead _ _ | .lineSkipped _ _ => "dnsd::config"
  | .malformedName _ => "dnsd::decoder"
  | .dropped _ | .queried _ _ | .matched _ _ | .unframed _ | .sizeRefused _ _ | .received _ _
  | .unsent _ _ _ | .stopping _ => "dnsd::dns_server"
  | .watching _ _ _ | .unreadable _ _ | .changed _ | .hangup _ | .serving _ | .keeping _ =>
    "dnsd::service::reload"
  | .metricsBound _ => "dnsd::service::metrics"
  | .starting _ | .loaded _ _ | .accepting _ | .interrupted => "dnsd"

def skippedText (line : Nat) : RecordFile.LineFault → String
  | .fieldCount found => s!"error at line {line}: expected 2 fields, found {found}, skipping"
  | .badAddress => s!"error at line {line}, skipping"
  | .badName field error => s!"error at line {line}: bad name '{field}' ({error.message}), skipping"

def text : Notice → String
  | .recordRead name address => s!"name:{name}, ip:{address.text}"
  | .lineSkipped line fault => skippedText line fault
  | .malformedName error => s!"malformed query name: {error.message}"
  | .dropped reason => s!"{reason.text}, ignored"
  | .queried type name => s!"{type.text} {name}"
  | .matched type name => s!"    |-- matched {type.text} for {name}"
  | .unframed error => s!"Failed to frame response: {error.message}"
  | .sizeRefused size sender => s!"packet size {size} from {sender.text}, ignored"
  | .received sender (some destination) =>
    s!"Got UDP packet from {sender.text} to {destination.text}"
  | .received sender none => s!"Got UDP packet from {sender.text}"
  | .unsent size recipient cause =>
    s!"Failed to send {size} bytes to {recipient.text}: {cause.message}"
  | .stopping bound => s!"Stopping UDP listener on {bound.text}"
  | .watching path interval jitter =>
    s!"[reload] Watching changes for {path} (Interval: {interval.text}, Jitter: {jitter.text})"
  | .unreadable path cause => s!"[reload] Failed to read {path}: {cause.message}"
  | .changed digest => s!"[reload] Record file change detected! New SHA512: {digest}"
  | .hangup path => s!"[reload] SIGHUP received, reloading {path}"
  | .serving records => s!"[reload] Serving {records} records"
  | .keeping error => s!"[reload] Keeping previous table: {error.message}"
  | .metricsBound bound => s!"[metrics] Successfully bound metrics listener on {bound.text}"
  | .starting version => s!"Starting dnsd version {version}"
  | .loaded records path => s!"Loaded {records} records from {path}"
  | .accepting bound => s!"Accepting UDP packets on {bound.text}"
  | .interrupted => "Interrupt received, shutting down"

/-- A notice as a line: its severity and its text. -/
def line (notice : Notice) : String := s!"{notice.severity.text} {notice.text}"

/-- A notice as a line of the log, which also names its subject. A log may be read on a terminal, so
control characters in it are spelled out. -/
def logLine (notice : Notice) : String :=
  s!"{notice.severity.text} {notice.subject}: {Terminal.spellOut notice.text}"

/-- Whether a notice is written to the log: debugging is, only where the operator asked for more. -/
def isLogged (verbose : Bool) (notice : Notice) : Bool := verbose || notice.severity != .debug

end Notice

end StaticDns
