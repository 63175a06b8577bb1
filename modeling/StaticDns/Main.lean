import StaticDns.Daemon
import StaticDns.Digest.Sha512
import StaticDns.LogFile
import StaticDns.Metrics.Http
import Std.Async
import Std.Sync.Channel
import Std.Time

/-!
# StaticDns.Main — the program

The outer layer: it reads the command line, opens files and sockets, turns what happens to them into
the events of a daemon, and carries out what the daemon decides.
-/

namespace StaticDns.Program

open Std.Async Std.Net

/-! ## Endpoints and errors of the host -/

def toHost (endpoint : Endpoint) : SocketAddress :=
  match endpoint.address with
  | .v4 ip => .v4 ⟨.ofParts ip.a ip.b ip.c ip.d, endpoint.port⟩
  | .v6 ip => .v6 ⟨⟨ip.groups.toArray, by simpa using ip.eight⟩, endpoint.port⟩

def ofHost : SocketAddress → Endpoint
  | .v4 ⟨ip, port⟩ =>
    { address := .v4 ⟨ip.octets[0], ip.octets[1], ip.octets[2], ip.octets[3]⟩, port }
  | .v6 ⟨ip, port⟩ => { address := .v6 ⟨ip.segments.toList, by simp⟩, port }

def cause (error : IO.Error) : SystemError :=
  match error with
  | .noFileOrDirectory .. => .noSuchFile
  | .alreadyExists .. => .fileExists
  | .permissionDenied .. => .permissionDenied
  | .invalidArgument .. => .invalidArgument
  | .inappropriateType _ code _ => if code = 21 then .isDirectory else .notDirectory
  | _ => .other (toString error)

/-- The outcome of an operation on the host. -/
def attempt {α : Type} (action : IO α) : IO (Except SystemError α) := do
  try return .ok (← action)
  catch error => return .error (cause error)

/-- The record file as it can be read now. -/
def observe (path : String) : IO (Except SystemError Octets) := do
  return (← attempt (IO.FS.readBinFile path)).map ByteArray.toList

/-! ## The log -/

structure LogState where
  handle : IO.FS.Handle
  day : String

/-- Where lines are written: to a file, or to the standard output. -/
structure Log where
  options : Options
  file : Option (IO.Ref LogState)

def now (format : String) : IO String := return (← Std.Time.DateTime.now).format format

def openHandle (path : String) : IO IO.FS.Handle := IO.FS.Handle.mk path .append

def openLog (options : Options) : IO (Except StartError Log) := do
  if !options.detachLogs then return .ok ⟨options, none⟩
  if let some directory := options.logDirectory? then
    if let .error error ← attempt (IO.FS.createDirAll directory) then
      return .error (.logDirectory directory error)
  match ← attempt (openHandle options.logFile) with
  | .error error => return .error (.logFile options.logFile error)
  | .ok handle =>
    let state ← IO.mkRef { handle, day := ← now "uuuu-MM-dd" }
    return .ok ⟨options, some state⟩

/-- Sets the log of a past day aside. -/
def rollOver (path : String) (state : IO.Ref LogState) : IO Unit := do
  let today ← now "uuuu-MM-dd"
  if today != (← state.get).day then
    for (source, target) in LogFile.renames path do
      discard <| attempt (IO.FS.rename source target)
    if let .ok handle ← attempt (openHandle path) then state.set ⟨handle, today⟩

def Log.write (log : Log) (notices : List Notice) : IO Unit := do
  for notice in notices.filter (Notice.isLogged log.options.verbose) do
    let line := LogFile.stamped (← now "uuuu-MM-dd'T'HH:mm:ss.SSSxxx") notice
    match log.file with
    | none =>
      IO.println line
      (← IO.getStdout).flush
    | some state =>
      rollOver log.options.logFile state
      let handle := (← state.get).handle
      handle.putStrLn line
      handle.flush

/-! ## Events -/

inductive Event where
  | datagram (datagram : Datagram)
  | hangup
  | poll
  | interrupt
  deriving Inhabited

/-- Passes events on for as long as there are any. -/
partial def pump (events : Std.Channel Event) (next : Async (Option Event)) : Async Unit := do
  match ← next with
  | none => return ()
  | some event =>
    discard <| events.send event
    pump events next

/-- The next datagram. Errors of the socket are passed over. -/
partial def nextDatagram (socket : UDP.Socket) : Async (Option Event) := do
  try
    match ← socket.recv (UInt64.ofNat (maxPacket + 1)) with
    | (octets, some sender) =>
      return some (.datagram { payload := octets.toList, sender := ofHost sender })
    | (_, none) => nextDatagram socket
  catch _ => nextDatagram socket

def nextSignal (waiter : Signal.Waiter) (event : Event) : Async (Option Event) := do
  discard <| await (← waiter.wait)
  return some event

def nextPoll (interval : Duration) : Async (Option Event) := do
  let chance ← IO.rand 0 (2 * (Source.jitter interval).milliseconds)
  let delay := Source.pollDelay interval chance
  Std.Async.sleep (.ofNat delay.milliseconds)
  return some .poll

/-! ## Metrics -/

/-- What a client sends first, unless it stays silent for two seconds. -/
def firstRequest (client : TCP.Socket.Client) : Async (Option ByteArray) := do
  Selectable.one #[
    .case (client.recvSelector 8192) fun request => return request,
    .case (← Selector.sleep 2000) fun _ => return none]

/-- Answers a client that asks for the metrics. -/
def answerClient (client : TCP.Socket.Client) (metrics : IO.Ref Metrics) : Async Unit := do
  let some request ← firstRequest client | return ()
  let some answer := (← metrics.get).answer? request.toList | return ()
  client.send answer.text.toUTF8
  client.shutdown

partial def serveMetrics (listener : TCP.Socket.Server) (metrics : IO.Ref Metrics) :
    Async Unit := do
  let client ← listener.accept
  background (do try answerClient client metrics catch _ => return ())
  serveMetrics listener metrics

/-! ## The daemon -/

/-- Sends a reply. The host chooses the address that it comes from. -/
def transmit (log : Log) (socket : UDP.Socket) (out : Outgoing) : Async Unit := do
  try socket.send out.payload.toByteArray (some (toHost out.recipient))
  catch error => log.write [.unsent out.payload.length out.recipient (cause error)]

/-- Handles a datagram, with the time that answering it takes. -/
def handle (daemon : Daemon) (datagram : Datagram) : IO (Daemon × Server.Reaction) := do
  let (buffer, size) := Server.fill daemon.server.buffer datagram.payload
  let server := { daemon.server with buffer }
  if Server.admits size then
    let packet := buffer.take size
    let before ← IO.monoNanosNow
    let response ← IO.lazyPure fun _ => respond server.table server.settings packet
    let after ← IO.monoNanosNow
    let (server, reaction) := server.conclude datagram packet response ⟨after - before⟩
    return ({ daemon with server }, reaction)
  else
    let (server, reaction) := server.refuse datagram size
    return ({ daemon with server }, reaction)

/-- Handles events until the program is interrupted. -/
partial def serve (log : Log) (socket : UDP.Socket) (events : Std.Channel Event)
    (metrics : IO.Ref Metrics) (daemon : Daemon) : Async Unit := do
  metrics.set daemon.metrics
  match ← await (← events.recv) with
  | .interrupt => log.write daemon.closing
  | .hangup =>
    let (after, notices) := daemon.hangup Sha512.hex (← observe daemon.options.config)
    log.write notices
    serve log socket events metrics after
  | .poll =>
    let (after, notices) := daemon.poll Sha512.hex (← observe daemon.options.config)
    log.write notices
    serve log socket events metrics after
  | .datagram datagram =>
    let (after, reaction) ← handle daemon datagram
    log.write reaction.notices
    if let some out := reaction.sent then transmit log socket out
    serve log socket events metrics after

/-- Starts everything that brings events, and handles them. -/
def run (log : Log) (socket : UDP.Socket) (listener : Option TCP.Socket.Server)
    (daemon : Daemon) : Async Unit := do
  let events ← Std.Channel.new (some 1024)
  let metrics ← IO.mkRef daemon.metrics
  let hangups ← Signal.Waiter.mk .sighup true
  let interrupts ← Signal.Waiter.mk .sigint true
  background (pump events (nextSignal hangups .hangup))
  background (pump events (nextSignal interrupts .interrupt))
  background (pump events (nextDatagram socket))
  if let some interval := daemon.options.reload then
    background (pump events (nextPoll interval))
  if let some listener := listener then background (serveMetrics listener metrics)
  serve log socket events metrics daemon

def bindDatagrams (endpoint : Endpoint) : IO (UDP.Socket × Endpoint) := do
  let socket ← UDP.Socket.mk
  socket.bind (toHost endpoint)
  return (socket, ofHost (← socket.getSockName))

def bindMetrics (endpoint : Endpoint) : IO (TCP.Socket.Server × Endpoint) := do
  let listener ← TCP.Socket.Server.mk
  listener.bind (toHost endpoint)
  listener.listen 1024
  return (listener, ofHost (← listener.getSockName))

/-- Ends the program with a report of what failed. -/
def giveUp (error : StartError) : IO UInt32 := do
  error.report.forM IO.eprintln
  return 1

/-- Brings a server up and runs it. -/
def start (options : Options) : IO UInt32 := do
  match ← openLog options with
  | .error error => giveUp error
  | .ok log =>
    let file ← observe options.config
    let listener ← options.metrics.mapM fun endpoint => attempt (bindMetrics endpoint)
    let socket ← attempt (bindDatagrams options.listening)
    let sockets : Sockets :=
      { stream := fun _ => (listener.getD (.error .addressUnavailable)).map
          fun opened => opened.2
        datagram := fun _ => socket.map fun opened => opened.2 }
    let up := bringUp Sha512.hex sockets options file
    log.write up.notices
    match up.result, socket with
    | .error error, _ => giveUp error
    | .ok bound, .ok (socket, _) =>
      let accepting := (listener.bind Except.toOption).map fun opened => opened.1
      (run log socket accepting (.start options bound up.source)).block
      return 0
    | .ok bound, .error error => giveUp (.bindUdp bound error)

end StaticDns.Program

/-- Reads the command line and does what it asks for. -/
def main (words : List String) : IO UInt32 := do
  match StaticDns.parse words with
  | .error error =>
    let errors ← IO.getStderr
    errors.putStr (if ← errors.isTty then error.styled else error.message)
    return 2
  | .ok .help =>
    StaticDns.helpText.forM IO.println
    return 0
  | .ok (.serve options) => StaticDns.Program.start options
