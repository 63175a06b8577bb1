import StaticDns.Proofs.Respond.Sending
import StaticDns.Proofs.Server.Serving

/-!
# StaticDns.Proofs.Server.Reflection — replies are never answered

Two servers that get hold of each other could go on answering each other for ever.  They do not:
every reply is marked as a response and announces a question, and the decoder looks at both before
anything else, so a reply is dropped as a response by every server, whatever is put behind it and
however it is cut as long as the header is left.

* `IsReply`: what marks a reply.
* `isReply_of_sent`: every reply is marked.
* `IsReply.respond_eq`: what is so marked is dropped.
* `Exchange`: two servers that are sent each other's replies.
* `reply_never_answered`: an exchange ends with its first reply.
-/

namespace StaticDns

open Message

/-! ## Replies -/

/-- A message that is marked as a response and announces a question. -/
structure IsReply (message : Octets) : Prop where
  long : headerLength ≤ message.length
  counted : questionCount message ≠ 0
  response : responseBit message = 1

theorem isReply_framed (packet : Octets) (questionEnd : Nat) (ruling : Ruling) (ttl : UInt32) :
    IsReply (framed packet questionEnd ruling ttl) := by
  have header := headerOf_framed packet questionEnd ruling ttl
  refine ⟨?_, ?_, ?_⟩
  · rw [framed, List.length_append, Header.length_toOctets]
    exact Nat.le_add_right _ _
  · have one : (1 : UInt16) ≠ 0 := by decide
    rw [ne_eq, ← questions_headerOf, header]
    exact one
  · rw [← qr_headerOf, header]
    rfl

/-- **Every reply is marked as one**, whatever it was sent for. -/
theorem isReply_of_sent {table : Table} {settings : Settings} {packet reply : Octets}
    (sent : (respond table settings packet).outcome.reply? = some reply) : IsReply reply := by
  rcases dropped_or_settled table settings packet with ⟨reason, dropped⟩ |
    ⟨-, name, type, qclass, behind, asked, ruling, before, -, -, settled⟩
  · rw [respond_drop dropped] at sent
    cases sent
  · rw [settled] at sent
    rw [framed_of_settle sent]
    exact isReply_framed _ _ _ _

namespace IsReply

variable {message : Octets} (reply : IsReply message)
include reply

theorem append (behind : Octets) : IsReply (message ++ behind) := by
  have long : 12 ≤ message.length := reply.long
  refine ⟨?_, ?_, ?_⟩
  · rw [List.length_append]
    exact Nat.le_add_right_of_le reply.long
  · rw [questionCount, wordAt_append_left (by omega)]
    exact reply.counted
  · rw [responseBit, wordAt_append_left (by omega)]
    exact reply.response

theorem take {length : Nat} (enough : headerLength ≤ length) : IsReply (message.take length) := by
  have header : 12 ≤ length := enough
  refine ⟨?_, ?_, ?_⟩
  · rw [List.length_take]
    exact Nat.le_min.mpr ⟨enough, reply.long⟩
  · rw [questionCount, wordAt_take (by omega)]
    exact reply.counted
  · rw [responseBit, wordAt_take (by omega)]
    exact reply.response

/-- **A reply is dropped as a response**, with any table and any settings. -/
theorem respond_eq (table : Table) (settings : Settings) :
    respond table settings message = ⟨.dropped .responsePacket, [.dropped .responsePacket]⟩ :=
  respond_drop (decode_of_response reply.long reply.counted reply.response) table settings

end IsReply

theorem isReply_of_replyTo {settings : Settings} {table : Table} {datagram : Datagram}
    {outgoing : Outgoing} (sent : datagram.replyTo settings table = some outgoing) :
    IsReply outgoing.payload := by
  unfold Datagram.replyTo at sent
  split_ifs at sent
  obtain ⟨payload, answered, rfl⟩ := Option.map_eq_some_iff.mp sent
  exact isReply_of_sent answered

theorem replyTo_of_isReply {datagram : Datagram} (reply : IsReply datagram.payload)
    (settings : Settings) (table : Table) : datagram.replyTo settings table = none := by
  unfold Datagram.replyTo
  rw [reply.respond_eq]
  exact ite_self none

/-! ## Two servers -/

/-- Two servers that are sent each other's replies.  What is under way goes to `next`, and what is
sent for it goes to `peer`. -/
structure Exchange where
  next : Server
  peer : Server
  underWay : Option Octets
  /-- What has been sent so far. -/
  sent : List Octets := []

/-- What happens in an exchange. -/
inductive Exchange.Event where
  /-- What is under way arrives, from some address at some address. -/
  | delivery (sender : Endpoint) (destination : Option Ipv4)
  /-- Tables are published on both servers. -/
  | publication (next peer : Table)

namespace Exchange

/-- The exchange after an event. -/
def step (exchange : Exchange) : Event → Exchange
  | .publication next peer =>
    { exchange with
      next := (exchange.next.step (.publication next)).1
      peer := (exchange.peer.step (.publication peer)).1 }
  | .delivery sender destination =>
    match exchange.underWay with
    | none => exchange
    | some payload =>
      let (after, reaction) := exchange.next.step (.arrival { payload, sender, destination })
      let answer := reaction.sent.map Outgoing.payload
      { next := exchange.peer
        peer := after
        underWay := answer
        sent := exchange.sent ++ answer.toList }

/-- The exchange after a run of events. -/
def run (exchange : Exchange) (events : List Event) : Exchange := events.foldl step exchange

/-- Both servers of an exchange are such as they are after any run. -/
structure Running (exchange : Exchange) : Prop where
  next : exchange.next.buffer.length = maxPacket + 1
  peer : exchange.peer.buffer.length = maxPacket + 1

/-- What is under way is a reply. -/
def Quiet (exchange : Exchange) : Prop :=
  ∀ payload, exchange.underWay = some payload → IsReply payload

variable {exchange : Exchange} (running : exchange.Running)
include running

theorem Running.step (event : Event) : (exchange.step event).Running := by
  cases event with
  | publication next peer => exact ⟨running.next, running.peer⟩
  | delivery sender destination =>
    cases underWay : exchange.underWay with
    | none =>
      simp only [Exchange.step, underWay]
      exact running
    | some payload =>
      obtain ⟨-, -, length⟩ := Server.kept_arrive running.next { payload, sender, destination } ⟨0⟩
      simp only [Exchange.step, underWay]
      exact ⟨running.peer, length⟩

/-- What a delivery sends is what the server that it goes to sends for that datagram alone. -/
theorem Running.delivery {payload : Octets} (underWay : exchange.underWay = some payload)
    (sender : Endpoint) (destination : Option Ipv4) :
    let after := exchange.step (.delivery sender destination)
    after.underWay = (Datagram.replyTo exchange.next.settings exchange.next.table
      { payload, sender, destination }).map Outgoing.payload ∧
    after.sent = exchange.sent ++ after.underWay.toList := by
  have answer := Server.sent_arrive running.next { payload, sender, destination } ⟨0⟩
  simp only [Exchange.step, underWay, Server.step_arrival, answer, and_self]

theorem Running.quiet_of_delivery {payload : Octets} (underWay : exchange.underWay = some payload)
    (sender : Endpoint) (destination : Option Ipv4) :
    (exchange.step (.delivery sender destination)).Quiet := by
  obtain ⟨answer, -⟩ := running.delivery underWay sender destination
  intro reply sent
  rw [answer] at sent
  obtain ⟨outgoing, replied, rfl⟩ := Option.map_eq_some_iff.mp sent
  exact isReply_of_replyTo replied

/-- Nothing is sent once a reply is under way. -/
theorem Running.step_of_quiet (quiet : exchange.Quiet) (event : Event) :
    (exchange.step event).Quiet ∧ (exchange.step event).sent = exchange.sent := by
  cases event with
  | publication next peer => exact ⟨quiet, rfl⟩
  | delivery sender destination =>
    cases underWay : exchange.underWay with
    | none =>
      simp only [Exchange.step, underWay]
      exact ⟨quiet, trivial⟩
    | some payload =>
      -- the reply under way is dropped on arrival, so the exchange falls silent here
      obtain ⟨answer, sent⟩ := running.delivery underWay sender destination
      rw [replyTo_of_isReply (quiet payload underWay), Option.map_none] at answer
      rw [answer, Option.toList_none, List.append_nil] at sent
      exact ⟨running.quiet_of_delivery underWay sender destination, sent⟩

theorem Running.run_of_quiet (quiet : exchange.Quiet) (events : List Event) :
    (exchange.run events).sent = exchange.sent := by
  induction events generalizing exchange with
  | nil => rfl
  | cons event events ih =>
    obtain ⟨still, same⟩ := running.step_of_quiet quiet event
    exact (ih (running.step event) still).trans same

/-- **An exchange ends with its first reply**, if there is one. -/
theorem Running.sent_run {payload : Octets} (underWay : exchange.underWay = some payload)
    (sender : Endpoint) (destination : Option Ipv4) (events : List Event) :
    (exchange.run (.delivery sender destination :: events)).sent =
      exchange.sent ++ ((Datagram.replyTo exchange.next.settings exchange.next.table
        { payload, sender, destination }).map Outgoing.payload).toList := by
  obtain ⟨answer, sent⟩ := running.delivery underWay sender destination
  have quiet := running.quiet_of_delivery underWay sender destination
  rw [← answer, ← sent]
  exact (running.step (.delivery sender destination)).run_of_quiet quiet events

end Exchange

/-- What a server keeps in any run. -/
theorem Server.kept_run (settings : Settings) (table : Table) (events : List Event) :
    ((Server.fresh settings table).run events).1.settings = settings ∧
      ((Server.fresh settings table).run events).1.buffer.length = maxPacket + 1 := by
  have sized : (Server.fresh settings table).buffer.length = maxPacket + 1 := List.length_replicate
  obtain ⟨-, -, kept, still⟩ := Server.run_eq_replies sized events
  exact ⟨kept, still⟩

/-- **There is no reflection loop.**  A reply is dropped as a response by every server, whatever is
put behind it and however it is cut behind its header.  So when two servers, in whatever states they
are, are sent each other's replies, nothing follows the reply to the packet that it began with. -/
theorem reply_never_answered (table peerTable : Table) (settings peerSettings : Settings)
    (packet : Octets) :
    (∀ reply, (respond table settings packet).outcome.reply? = some reply →
      (∀ behind, respond peerTable peerSettings (reply ++ behind) =
        ⟨.dropped .responsePacket, [.dropped .responsePacket]⟩) ∧
      ∀ length, 12 ≤ length → respond peerTable peerSettings (reply.take length) =
        ⟨.dropped .responsePacket, [.dropped .responsePacket]⟩) ∧
    ∀ earlier peerEarlier sender destination events,
      let server := ((Server.fresh settings table).run earlier).1
      let peer := ((Server.fresh peerSettings peerTable).run peerEarlier).1
      let exchange : Exchange := { next := server, peer, underWay := some packet }
      (exchange.run (.delivery sender destination :: events)).sent =
        ((Datagram.replyTo settings server.table
          { payload := packet, sender, destination }).map Outgoing.payload).toList := by
  constructor
  · intro reply sent
    have marked := isReply_of_sent sent
    constructor
    · intro behind
      exact (marked.append behind).respond_eq peerTable peerSettings
    · intro length enough
      exact (marked.take enough).respond_eq peerTable peerSettings
  · intro earlier peerEarlier sender destination events server peer exchange
    obtain ⟨kept, sized⟩ := Server.kept_run settings table earlier
    obtain ⟨-, peerSized⟩ := Server.kept_run peerSettings peerTable peerEarlier
    have running : exchange.Running := ⟨sized, peerSized⟩
    have sent := running.sent_run rfl sender destination events
    rw [show exchange.next.settings = settings from kept] at sent
    exact sent

/-- A query for the addresses of the root, under an operation that is not served. -/
def noticePacket : Octets := [0, 1, 0x20, 0, 0, 1, 0, 0, 0, 0, 0, 0, 0, 0, 1, 0, 1]

/-- The refusal of that query. -/
def noticeReply : Octets := [0, 1, 0xA0, 4, 0, 1, 0, 0, 0, 0, 0, 0, 0, 0, 1, 0, 1]

theorem noticeReply_never_answered :
    (respond {} {} noticePacket).outcome.reply? = some noticeReply ∧
      (respond {} {} (noticeReply ++ noticePacket)).outcome = .dropped .responsePacket ∧
      (respond {} {} (noticeReply.take 12)).outcome = .dropped .responsePacket := by
  have sent : (respond {} {} noticePacket).outcome.reply? = some noticeReply := by decide +kernel
  obtain ⟨dropped, -⟩ := reply_never_answered {} {} {} {} noticePacket
  obtain ⟨longer, shorter⟩ := dropped noticeReply sent
  refine ⟨sent, ?_, ?_⟩
  · rw [longer noticePacket]
  · rw [shorter 12 (Nat.le_refl 12)]

end StaticDns
