import StaticDns.CommandLine
import StaticDns.Host
import StaticDns.Source

/-!
# StaticDns.Startup — starting a server on a host

A server comes up in a fixed order: its log, its record file, its metrics, its watch and its socket.
The first of them that fails ends the start, after what has been reported up to there.

* `bringUp`: what a server reports while it comes up, and how that ends.
* `launch`: what a start on a host reports, where the reports go, and how it ends.
-/

namespace StaticDns

def programVersion : String := "0.1.0"

inductive StartError where
  | logDirectory (path : String) (cause : SystemError)
  | logFile (path : String) (cause : SystemError)
  | load (error : LoadError)
  | bindMetrics (endpoint : Endpoint) (cause : SystemError)
  | bindUdp (endpoint : Endpoint) (cause : SystemError)
  deriving DecidableEq, Repr

namespace StartError

def context : StartError → String
  | .logDirectory path _ => s!"Failed to create log directory '{path}'"
  | .logFile path _ => s!"Failed to open log file '{path}'"
  | .load error => error.context
  | .bindMetrics endpoint _ => s!"Failed to bind metrics listener on {endpoint.text}"
  | .bindUdp endpoint _ => s!"Failed to bind UDP {endpoint.text}"

def cause : StartError → String
  | .logDirectory _ cause | .logFile _ cause | .bindMetrics _ cause | .bindUdp _ cause =>
    cause.message
  | .load error => error.cause

def message (error : StartError) : String := s!"{error.context}: {error.cause}"

/-- What failed and why, as the lines with which the program ends. -/
def report (error : StartError) : List String :=
  [s!"Error: {error.context}", "", "Caused by:", s!"    {error.cause}"]

end StartError

namespace Options

/-- The choices that loading and answering depend on. -/
def settings (options : Options) : Settings := { ttl := options.ttl, verbose := options.verbose }

def listening (options : Options) : Endpoint :=
  { address := options.interface, port := options.port }

/-- The directory that has to exist for the log file. -/
def logDirectory? (options : Options) : Option String :=
  (FileTree.parent? options.logFile).filter (· != "")

end Options

/-- How sockets are bound: those that accept streams and those that take datagrams. A bound socket
has an endpoint of its own, because a port may be left for the host to choose. -/
structure Sockets where
  stream : Endpoint → Except SystemError Endpoint
  datagram : Endpoint → Except SystemError Endpoint

def openMetrics (sockets : Sockets) : Option Endpoint → Except StartError (List Notice)
  | none => .ok []
  | some endpoint =>
    match sockets.stream endpoint with
    | .ok bound => .ok [.metricsBound bound]
    | .error cause => .error (.bindMetrics endpoint cause)

def openWatch (options : Options) : List Notice :=
  match options.reload with
  | none => []
  | some interval => [Source.watchBegun options.config interval]

def openSocket (sockets : Sockets) (endpoint : Endpoint) : Except StartError Endpoint :=
  match sockets.datagram endpoint with
  | .ok bound => .ok bound
  | .error cause => .error (.bindUdp endpoint cause)

/-- A server that has come up, or has failed to: its record file, what it has reported, and the
endpoint that it listens on. -/
structure BringUp where
  source : Source
  notices : List Notice
  result : Except StartError Endpoint

/-- Brings up a server whose record file has been read with the given outcome. -/
def bringUp (digest : Octets → String) (sockets : Sockets) (options : Options)
    (file : Except SystemError Octets) : BringUp :=
  let unloaded : Source := { path := options.config, settings := options.settings }
  let loading := unloaded.reload digest file
  let source := loading.source
  let begun := .starting programVersion :: loading.notices
  match loading.result with
  | .error error => ⟨source, begun, .error (.load error)⟩
  | .ok records =>
    let loaded := begun ++ [.loaded records options.config]
    match openMetrics sockets options.metrics with
    | .error error => ⟨source, loaded, .error error⟩
    | .ok measured =>
      let watched := loaded ++ measured ++ openWatch options
      match openSocket sockets options.listening with
      | .error error => ⟨source, watched, .error error⟩
      | .ok bound => ⟨source, watched ++ [.accepting bound], .ok bound⟩

/-- A start of the program: the files afterwards, what is written to the standard output, and how
the start ends. -/
structure Launch where
  files : FileTree
  output : List String
  result : Except StartError Endpoint

/-- The octets of lines, every one ended. -/
def linesOctets (lines : List String) : Octets :=
  Utf8.encode (lines.flatMap fun line => line.toList ++ ['\n'])

/-- Makes the log file and the directory that it is in. -/
def openLog (files : FileTree) (options : Options) : Except StartError FileTree := do
  let files ← match options.logDirectory? with
    | none => pure files
    | some directory =>
      (files.createDirectories directory).mapError (.logDirectory directory)
  (files.append options.logFile []).mapError (.logFile options.logFile)

def Host.sockets (host : Host) : Sockets :=
  { stream := host.bind .stream, datagram := host.bind .datagram }

/-- The lines that go to the log of what a server has reported. -/
def logLines (options : Options) (notices : List Notice) : List String :=
  (notices.filter (Notice.isLogged options.verbose)).map Notice.logLine

def Host.bringUp (digest : Octets → String) (host : Host) (options : Options) : BringUp :=
  StaticDns.bringUp digest host.sockets options (host.files.read options.config)

/-- Starts a server. What it reports goes to the standard output or to the end of the log file. -/
def launch (digest : Octets → String) (host : Host) (options : Options) : Launch :=
  if options.detachLogs then
    match openLog host.files options with
    | .error error => ⟨host.files, [], .error error⟩
    | .ok files =>
      let up := { host with files }.bringUp digest options
      let written := files.append options.logFile (linesOctets (logLines options up.notices))
      ⟨written.toOption.getD files, [], up.result⟩
  else
    let up := host.bringUp digest options
    ⟨host.files, logLines options up.notices, up.result⟩

end StaticDns
