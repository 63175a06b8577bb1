import StaticDns.Message.Query
import StaticDns.Table

/-!
# StaticDns.Message.Reply — framing a reply

A reply starts as the packet it answers, cut off behind the question, and grows at its end inside a
fixed capacity. The question is never written anew: an answer record repeats the octets that already
stand in the buffer, and at last the header is set in place.

* `ReplyBuffer`: the growing reply; each edit either succeeds or leaves no trace.
* `frame`: the reply that carries a ruling on a question.
-/

namespace StaticDns

/-! ## The buffer -/

inductive ReplyError where
  | capacity (needed limit : Nat)
  | questionOutOfBounds (questionEnd length : Nat)
  | rdataTooLong (length : Nat)
  deriving DecidableEq, Repr

def ReplyError.message : ReplyError → String
  | .capacity needed limit =>
    s!"response would grow to {needed} bytes, capacity is {limit}"
  | .questionOutOfBounds questionEnd length =>
    s!"question ends at {questionEnd} but the packet has {length} bytes"
  | .rdataTooLong length => s!"rdata of {length} bytes does not fit RDLENGTH"

structure ReplyBuffer where
  octets : Octets
  capacity : Nat
  deriving DecidableEq, Repr

namespace ReplyBuffer

/-- Accepts `extra` more octets or says how long the reply would become. -/
def checkRoom (buffer : ReplyBuffer) (extra : Nat) : Except ReplyError Unit :=
  if buffer.capacity < buffer.octets.length + extra then
    .error (.capacity (buffer.octets.length + extra) buffer.capacity)
  else .ok ()

/-- Starts from a packet cut off behind its question. -/
def start (packet : Octets) (questionEnd capacity : Nat) : Except ReplyError ReplyBuffer := do
  if questionEnd < headerLength ∨ packet.length < questionEnd then
    throw (.questionOutOfBounds questionEnd packet.length)
  let buffer : ReplyBuffer := ⟨packet.take questionEnd, capacity⟩
  buffer.checkRoom 0
  return buffer

/-- Octets at the end. -/
def append (buffer : ReplyBuffer) (octets : Octets) : Except ReplyError ReplyBuffer := do
  buffer.checkRoom octets.length
  return { buffer with octets := buffer.octets ++ octets }

def appendWord16 (buffer : ReplyBuffer) (word : UInt16) : Except ReplyError ReplyBuffer :=
  buffer.append (Octets.ofWord16 word)

def appendWord32 (buffer : ReplyBuffer) (word : UInt32) : Except ReplyError ReplyBuffer :=
  buffer.append (Octets.ofWord32 word)

/-- A copy of the octets from `first` up to but without `last`, at the end. -/
def appendWithin (buffer : ReplyBuffer) (first last : Nat) : Except ReplyError ReplyBuffer := do
  if last < first ∨ buffer.octets.length < last then
    throw (.questionOutOfBounds last buffer.octets.length)
  buffer.append ((buffer.octets.take last).drop first)

def header (buffer : ReplyBuffer) : Header := (Header.read? buffer.octets).getD {}

/-- Another header in front of the reply. -/
def writeHeader (buffer : ReplyBuffer) (header : Header) : ReplyBuffer :=
  { buffer with octets := header.toOctets ++ buffer.octets.drop headerLength }

inductive Edit where
  | append (octets : Octets)
  | appendWord16 (word : UInt16)
  | appendWord32 (word : UInt32)
  | appendWithin (first last : Nat)
  | writeHeader (header : Header)
  deriving DecidableEq, Repr

def apply (buffer : ReplyBuffer) : Edit → Except ReplyError ReplyBuffer
  | .append octets => buffer.append octets
  | .appendWord16 word => buffer.appendWord16 word
  | .appendWord32 word => buffer.appendWord32 word
  | .appendWithin first last => buffer.appendWithin first last
  | .writeHeader header => .ok (buffer.writeHeader header)

/-- The buffer after an edit, unchanged if the edit fails. -/
def edit (buffer : ReplyBuffer) (edit : Edit) : ReplyBuffer :=
  match buffer.apply edit with
  | .ok after => after
  | .error _ => buffer

def session (buffer : ReplyBuffer) (edits : List Edit) : ReplyBuffer := edits.foldl edit buffer

end ReplyBuffer

/-! ## Replies -/

inductive Ruling where
  | formatError
  | notImplemented
  | nameError
  | success (answer : Answer)
  deriving DecidableEq, Repr

def Ruling.rcode : Ruling → Rcode
  | .formatError => .formErr
  | .notImplemented => .notImp
  | .nameError => .nxDomain
  | .success _ => .noError

def Refusal.ruling : Refusal → Ruling
  | .notImplemented => .notImplemented
  | .malformedName _ => .formatError

/-- What is done about a datagram: nothing, or a reply to its question. -/
inductive Disposition where
  | drop (reason : DropReason)
  | rule (ruling : Ruling)
  deriving DecidableEq, Repr

def Disposition.rcode? : Disposition → Option Rcode
  | .drop _ => none
  | .rule ruling => some ruling.rcode

/-- The largest datagram that is read. -/
def maxPacket : Nat := 512

/-- Room for a question twice, a lifetime, a length and the longest name. -/
def replyCapacity : Nat := 2 * maxPacket + 4 + 2 + Name.maxName + 1

/-- A query's header as that of its reply: the identifier, the operation and the bits that are not
the server's stay, the code and the counts are set. -/
def Header.forReply (header : Header) (rcode : Rcode) (answers : UInt16) : Header :=
  { header with
    flags :=
      { header.flags with
        qr := true
        aa := rcode == .noError || rcode == .nxDomain
        rcode := rcode.code }
    questions := 1
    answers
    authorities := 0
    additionals := 0 }

/-- An answer record behind the question: the question again, the lifetime, and the data behind its
length. -/
def ReplyBuffer.appendAnswer (buffer : ReplyBuffer) (questionEnd : Nat) (answer : Answer)
    (ttl : UInt32) : Except ReplyError ReplyBuffer := do
  if UInt16.size ≤ answer.rdata.length then throw (.rdataTooLong answer.rdata.length)
  let buffer ← buffer.appendWithin headerLength questionEnd
  let buffer ← buffer.appendWord32 ttl
  let buffer ← buffer.appendWord16 (UInt16.ofNat answer.rdata.length)
  buffer.append answer.rdata

/-- The reply that carries a ruling on the question of a packet. -/
def frame (packet : Octets) (questionEnd : Nat) (ruling : Ruling) (ttl : UInt32) :
    Except ReplyError Octets := do
  let buffer ← ReplyBuffer.start packet questionEnd replyCapacity
  match ruling with
  | .success answer =>
    let whole ← buffer.appendAnswer questionEnd answer ttl
    return (whole.writeHeader (buffer.header.forReply ruling.rcode 1)).octets
  | _ => return (buffer.writeHeader (buffer.header.forReply ruling.rcode 0)).octets

/-- The reply to a packet, none where it is dropped. -/
def reply (packet : Octets) (questionEnd : Nat) (disposition : Disposition) (ttl : UInt32) :
    Except ReplyError (Option Octets) :=
  match disposition with
  | .drop _ => .ok none
  | .rule ruling => (frame packet questionEnd ruling ttl).map some

end StaticDns
