import StaticDns.Metrics.Traffic
import StaticDns.Net.Endpoint

/-!
# StaticDns.Server — datagrams in, datagrams out

A server holds one receive buffer, which it uses for every datagram and which is one octet longer
than the longest datagram it answers: a datagram that fills it was too long. Each datagram is
answered from the table published last, to its own sender, and from the address that it was sent to
where that address can be a source.

* `fill_take`: what is read of a datagram does not depend on what was in the buffer.
-/

namespace StaticDns

/-- A datagram that arrives; `destination` is the IPv4 address it was sent to, where it is known. -/
structure Datagram where
  payload : Octets
  sender : Endpoint
  destination : Option Ipv4 := none
  deriving DecidableEq, Repr

/-- A datagram that is sent; without a `source` the host chooses one. -/
structure Outgoing where
  payload : Octets
  recipient : Endpoint
  source : Option Ipv4
  deriving DecidableEq, Repr

structure Server where
  settings : Settings
  table : Table := {}
  buffer : Octets := List.replicate (maxPacket + 1) 0
  traffic : Traffic := {}

inductive Server.Event where
  | arrival (datagram : Datagram)
  | publication (table : Table)

/-- What a server does about an event. -/
structure Server.Reaction where
  sent : Option Outgoing := none
  notices : List Notice := []

namespace Server

/-- A buffer with a payload at its front, as much of it as fits, and the number of octets read. -/
def fill (buffer payload : Octets) : Octets × Nat :=
  let read := payload.take buffer.length
  (read ++ buffer.drop read.length, read.length)

def replySource (datagram : Datagram) : Option Ipv4 := datagram.destination.filter Ipv4.isSource

/-- Whether as many octets as were read are a packet to be looked at. -/
def admits (size : Nat) : Prop := headerLength ≤ size ∧ size ≤ maxPacket

instance (size : Nat) : Decidable (admits size) := inferInstanceAs (Decidable (_ ∧ _))

def refuse (server : Server) (datagram : Datagram) (size : Nat) : Server × Reaction :=
  ({ server with traffic := server.traffic.drop .badSize },
    { notices := [.sizeRefused size datagram.sender] })

/-- Counts a packet by its response and sends the reply, if there is one. -/
def conclude (server : Server) (datagram : Datagram) (packet : Octets) (response : Response)
    (elapsed : Duration) : Server × Reaction :=
  let source := replySource datagram
  ({ server with traffic := server.traffic.observe packet.length elapsed response.outcome },
    { sent := response.outcome.reply?.map fun payload =>
        { payload, recipient := datagram.sender, source }
      notices :=
        (if server.settings.verbose then [.received datagram.sender source] else [])
          ++ response.notices })

/-- Handles a datagram as it arrives, taking the given time. -/
def arrive (server : Server) (datagram : Datagram) (elapsed : Duration) : Server × Reaction :=
  let (buffer, size) := fill server.buffer datagram.payload
  let server := { server with buffer }
  if admits size then
    let packet := buffer.take size
    server.conclude datagram packet (respond server.table server.settings packet) elapsed
  else server.refuse datagram size

def step (server : Server) : Event → Server × Reaction
  | .arrival datagram => server.arrive datagram ⟨0⟩
  | .publication table => ({ server with table }, {})

/-- The server after a run of events, and what it has sent, in order. -/
def run (server : Server) (events : List Event) : Server × List Outgoing :=
  events.foldl
    (fun (server, sent) event =>
      let (after, reaction) := server.step event
      (after, sent ++ reaction.sent.toList))
    (server, [])

@[simp] theorem run_nil (server : Server) : server.run [] = (server, []) := rfl

theorem run_concat (server : Server) (events : List Event) (event : Event) :
    server.run (events ++ [event]) =
      (((server.run events).1.step event).1,
        (server.run events).2 ++ ((server.run events).1.step event).2.sent.toList) := by
  simp [run]

theorem fill_take (buffer payload : Octets) :
    (fill buffer payload).1.take (fill buffer payload).2 = payload.take buffer.length := by
  simp [fill]

theorem length_fill (buffer payload : Octets) :
    (fill buffer payload).1.length = buffer.length := by
  simp only [fill, List.length_append, List.length_take, List.length_drop]
  omega

end Server

end StaticDns
