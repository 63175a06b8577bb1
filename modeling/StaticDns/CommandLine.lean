import StaticDns.Interval
import StaticDns.Net.Endpoint
import StaticDns.Settings
import StaticDns.Text.Terminal

/-!
# StaticDns.CommandLine — the words a server is started with

The options of the command line, the help text that lists them, and the reader of command lines. A
value may stand in the word of its option or in the next word. A value that stands alone is judged
only when the next option or the end of the line is reached, so of two faults the later one may be
found first.

* `parse`: what a command line asks for.
* `UsageError.message`: what is said about a command line that cannot be read; `UsageError.styled` is
  the same for a terminal.
-/

namespace StaticDns

inductive Switch where
  | verbose
  | interface
  | config
  | ttl
  | port
  | detachLogs
  | logFile
  | reload
  | metrics
  | help
  deriving DecidableEq, Repr

namespace Switch

/-- All options, in the order of the help text. -/
def all : List Switch :=
  [.verbose, .interface, .config, .ttl, .port, .detachLogs, .logFile, .reload, .metrics, .help]

def long : Switch → String
  | .verbose => "verbose"
  | .interface => "interface"
  | .config => "config"
  | .ttl => "ttl"
  | .port => "port"
  | .detachLogs => "detach-logs"
  | .logFile => "log-file"
  | .reload => "reload"
  | .metrics => "metrics"
  | .help => "help"

/-- The letter of an option. -/
def short? : Switch → Option Char
  | .verbose => some 'v'
  | .interface => some 'i'
  | .config => some 'c'
  | .ttl => some 't'
  | .port => some 'p'
  | .detachLogs => some 'd'
  | .logFile | .reload | .metrics => none
  | .help => some 'h'

/-- What stands for the value of an option, where it takes one. -/
def value? : Switch → Option String
  | .verbose | .detachLogs | .help => none
  | .interface => some "<INTERFACE>"
  | .config => some "<CONFIG>"
  | .ttl => some "<TTL>"
  | .port => some "<PORT>"
  | .logFile => some "<LOG_FILE>"
  | .reload => some "<RELOAD>"
  | .metrics => some "<METRICS>"

def about : Switch → String
  | .verbose => "Log every loaded record and every received packet"
  | .interface => "Address to listen on [default: 0.0.0.0]"
  | .config => "Record file with `<name> <ipv4>` lines [default: /etc/dnsd.conf]"
  | .ttl => "TTL of answers, in seconds [default: 120]"
  | .port => "[default: 53]"
  | .detachLogs => "Write logs to the rolling log file instead of stdout"
  | .logFile => "[default: logs/dnsd.log]"
  | .reload => "Poll the record file for changes at this interval (e.g. 30s, 5m)"
  | .metrics => "Serve Prometheus metrics on this address"
  | .help => "Print help"

/-- An option as it is written with its value. -/
def text (switch : Switch) : String :=
  "--" ++ switch.long ++ match switch.value? with
  | some value => " " ++ value
  | none => ""

def ofLong? (name : String) : Option Switch := all.find? fun switch => switch.long == name

def ofShort? (c : Char) : Option Switch := all.find? fun switch => switch.short? == some c

/-- The left column of an option in the help text. -/
def usage (switch : Switch) : String :=
  (match switch.short? with
  | some c => "  -" ++ String.ofList [c] ++ ", "
  | none => "      ") ++ switch.text

end Switch

def helpText : List String :=
  let width := (Switch.all.map fun switch => switch.usage.length).foldl max 0
  ["Small static DNS server answering A and PTR queries", "", "Usage: dnsd [OPTIONS]", "",
    "Options:"]
  ++ Switch.all.map fun switch =>
    switch.usage ++ String.ofList (List.replicate (width + 2 - switch.usage.length) ' ')
      ++ switch.about

/-! ## Values -/

structure Options where
  verbose : Bool := false
  interface : Address := .v4 ⟨0, 0, 0, 0⟩
  config : String := "/etc/dnsd.conf"
  ttl : UInt32 := defaultTtl
  port : UInt16 := 53
  detachLogs : Bool := false
  logFile : String := "logs/dnsd.log"
  reload : Option Duration := none
  metrics : Option Endpoint := none
  deriving DecidableEq, Repr

inductive UsageError where
  | unexpectedArgument (word : String)
  | unexpectedValue (switch : Switch) (value : String)
  | missingValue (switch : Switch)
  | repeated (switch : Switch)
  | invalidValue (switch : Switch) (value reason : String)
  deriving DecidableEq, Repr

namespace UsageError

/-- The part of a command line that is wrong, set off from the rest. -/
def wrong (text : String) : String := Terminal.styled Terminal.yellow text

/-- What is to be written literally, set off from the rest. -/
def literal (text : String) : String := Terminal.styled Terminal.bold text

def sentence : UsageError → String
  | .unexpectedArgument word => s!"unexpected argument '{wrong word}' found"
  | .unexpectedValue switch value =>
    s!"unexpected value '{wrong value}' for '{literal switch.text}' found; no more were expected"
  | .missingValue switch =>
    s!"a value is required for '{wrong switch.text}' but none was supplied"
  | .repeated switch => s!"the argument '{wrong switch.text}' cannot be used multiple times"
  | .invalidValue switch value reason =>
    s!"invalid value '{wrong value}' for '{literal switch.text}': {reason}"

/-- What is said about a command line that cannot be read, with the styles of a terminal. -/
def styled (error : UsageError) : String :=
  Terminal.styled (Terminal.bold ++ Terminal.red) "error:" ++ " " ++ error.sentence
    ++ "\n\nFor more information, try '" ++ literal "--help" ++ "'.\n"

/-- What is said about a command line that cannot be read. What a terminal would act upon is left
out, also where it comes from the command line itself. -/
def message (error : UsageError) : String := Terminal.plain error.styled

end UsageError

/-- A number from one to `limit`, or why a text is none. -/
def readRanged (limit : Nat) (value : String) : Except String Nat :=
  match Decimal.readSigned value.toList with
  | .error fault => .error fault.message
  | .ok n =>
    if 1 ≤ n ∧ n ≤ limit then .ok n.toNat else .error s!"{n} is not in 1..={limit}"

/-- The options with the value of one of them set. -/
def Options.set (options : Options) (switch : Switch) (value : String) :
    Except UsageError Options :=
  let given {α : Type} (read : Except String α) (use : α → Options) : Except UsageError Options :=
    match read with
    | .ok a => .ok (use a)
    | .error reason => .error (.invalidValue switch value reason)
  let path (use : Options) : Except UsageError Options :=
    if value = "" then .error (.missingValue switch) else .ok use
  match switch with
  | .verbose => .ok { options with verbose := true }
  | .detachLogs => .ok { options with detachLogs := true }
  | .help => .ok options
  | .config => path { options with config := value }
  | .logFile => path { options with logFile := value }
  | .ttl =>
    given (readRanged 4294967295 value) fun n => { options with ttl := UInt32.ofNat n }
  | .port => given (readRanged 65535 value) fun n => { options with port := UInt16.ofNat n }
  | .interface =>
    given ((Address.read? value.toList).elim (.error "invalid IP address syntax") .ok)
      fun interface => { options with interface }
  | .metrics =>
    given ((Endpoint.read? value.toList).elim (.error "invalid socket address syntax") .ok)
      fun endpoint => { options with metrics := some endpoint }
  | .reload =>
    given ((Interval.read value).mapError (Interval.errorText value))
      fun interval => { options with reload := some interval }

/-! ## Lines -/

inductive Invocation where
  | help
  | serve (options : Options)
  deriving DecidableEq, Repr

/-- A command line that has been read up to some word. -/
structure Progress where
  options : Options := {}
  /-- The options that have been settled. -/
  seen : List Switch := []
  /-- The option that is still to be settled, with its value where that has been read. -/
  pending : Option (Switch × Option String) := none

namespace Progress

/-- Settles an option: it needs its value, may come once, and has to be understood. -/
def settle (progress : Progress) (switch : Switch) (value : Option String) :
    Except UsageError Progress :=
  match value with
  | none => .error (.missingValue switch)
  | some value =>
    if switch ∈ progress.seen then .error (.repeated switch)
    else (progress.options.set switch value).map fun options =>
      { progress with options, seen := switch :: progress.seen }

/-- Settles the option that is still to be settled. -/
def resolve (progress : Progress) : Except UsageError Progress :=
  match progress.pending with
  | none => .ok progress
  | some (switch, value) => { progress with pending := none }.settle switch value

/-- A flag, or an option whose value stands in the same word. -/
def take (progress : Progress) (switch : Switch) (value : String) : Except UsageError Progress := do
  (← progress.resolve).settle switch value

/-- An option whose value is the next word. -/
def await (progress : Progress) (switch : Switch) : Except UsageError Progress := do
  return { ← progress.resolve with pending := some (switch, none) }

def finish (progress : Progress) : Except UsageError Invocation :=
  progress.resolve.map fun settled => .serve settled.options

/-- A word that is no option: the value that is waited for, or nothing that is expected. -/
def takeWord (progress : Progress) (word : String) : Except UsageError Progress :=
  match progress.pending with
  | some (switch, none) => .ok { progress with pending := some (switch, some word) }
  | _ => .error (.unexpectedArgument word)

/-- A word that begins with two dashes, behind them. Without a progress it asks for help. -/
def takeLong (progress : Progress) (body : List Char) : Except UsageError (Option Progress) := do
  let name := body.takeWhile (· != '=')
  let value? := (body.dropWhile (· != '=')).tail?.map String.ofList
  match Switch.ofLong? (String.ofList name) with
  | none => throw (.unexpectedArgument ("--" ++ String.ofList name))
  | some switch =>
    match switch.value?, value? with
    | none, some value => throw (.unexpectedValue switch value)
    | none, none =>
      if switch = .help then
        let _ ← progress.resolve
        return none
      else return some (← progress.take switch "")
    | some _, some value => return some (← progress.take switch value)
    | some _, none => return some (← progress.await switch)

/-- The letters behind a single dash. Without a progress they ask for help. -/
def takeShorts (progress : Progress) : List Char → Except UsageError (Option Progress)
  | [] => return some progress
  | c :: rest =>
    match Switch.ofShort? c with
    | none => throw (.unexpectedArgument ("-" ++ String.ofList [c]))
    | some switch =>
      match switch.value?, rest with
      | none, _ =>
        if switch = .help then do
          let _ ← progress.resolve
          return none
        else do (← progress.take switch "").takeShorts rest
      | some _, [] => do return some (← progress.await switch)
      | some _, '=' :: value => do return some (← progress.take switch (String.ofList value))
      | some _, value => do return some (← progress.take switch (String.ofList value))

/-- The words behind a word of two dashes, where no option is read. -/
def finishPlain (progress : Progress) : List String → Except UsageError Invocation
  | [] => progress.finish
  | word :: _ => .error (.unexpectedArgument word)

/-- Reads the rest of a command line. -/
def readWords (progress : Progress) : List String → Except UsageError Invocation
  | [] => progress.finish
  | word :: rest =>
    match word.toList with
    | ['-', '-'] => progress.finishPlain rest
    | '-' :: '-' :: body => do
      match ← progress.takeLong body with
      | none => return .help
      | some progress => progress.readWords rest
    | '-' :: c :: letters => do
      match ← progress.takeShorts (c :: letters) with
      | none => return .help
      | some progress => progress.readWords rest
    | _ => do (← progress.takeWord word).readWords rest

end Progress

def parse (words : List String) : Except UsageError Invocation := ({} : Progress).readWords words

end StaticDns
