import Mathlib.Algebra.Ring.Nat
import StaticDns.Proofs.Respond.Layout

/-!
# StaticDns.Proofs.Respond.Influence — what a response depends on

A response is made from the identifier of a datagram, from the bits of its flags that are the
client's, and from its question.  The rest of the header is replaced and whatever stands behind the
question is cut off, so two datagrams that agree in these get the same response, however they
differ elsewhere.

* `SameRequest`: two datagrams agree in all that matters.
* `Header.forReply_congr`, `SameRequest.framed_eq`: what a reply takes over from its datagram.
* `judge_congr`: what the judgement of a question takes over from the header.
* `respond_eq_of_sameRequest`: the same request gets the same response.
-/

namespace StaticDns

open Message

/-! ## Flags -/

/-- A field that a mask covers is the same in words that agree under the mask. -/
theorem Flags.field_eq_of_land_eq {n m mask k j : Nat} (same : n &&& mask = m &&& mask)
    (covered : mask / 2 ^ k % 2 ^ j = 2 ^ j - 1) :
    field n (2 ^ k) (2 ^ j) = field m (2 ^ k) (2 ^ j) := by
  rw [← field_land_of_covered covered n, same, field_land_of_covered covered m]

/-- The bits of the flags that are the client's: all but the authority bit and the response code. -/
def clientFlags : Nat := 0xFBF0

section Flags

variable {packet other : Octets}
  (same : wordAt other 2 &&& clientFlags = wordAt packet 2 &&& clientFlags)
include same

theorem responseBit_congr : responseBit other = responseBit packet :=
  Flags.field_eq_of_land_eq (k := 15) (j := 1) same rfl

theorem flags_congr :
    (headerOf other).flags.opcode = (headerOf packet).flags.opcode ∧
      (headerOf other).flags.tc = (headerOf packet).flags.tc ∧
      (headerOf other).flags.rd = (headerOf packet).flags.rd ∧
      (headerOf other).flags.ra = (headerOf packet).flags.ra ∧
      (headerOf other).flags.z = (headerOf packet).flags.z := by
  have opcode := Flags.field_eq_of_land_eq (k := 11) (j := 4) same rfl
  have tc := Flags.field_eq_of_land_eq (k := 9) (j := 1) same rfl
  have rd := Flags.field_eq_of_land_eq (k := 8) (j := 1) same rfl
  have ra := Flags.field_eq_of_land_eq (k := 7) (j := 1) same rfl
  have z := Flags.field_eq_of_land_eq (k := 4) (j := 3) same rfl
  simp only [Nat.reducePow] at opcode tc rd ra z
  simp only [flags_headerOf, Flags.ofWord, toNat_ofNat_wordAt, opcode, tc, rd, ra, z, and_self]

end Flags

/-! ## Replies -/

/-- The header of a reply takes over the identifier and the flags that are the client's. -/
theorem Header.forReply_congr {header other : Header} (id : other.id = header.id)
    (flags : other.flags.opcode = header.flags.opcode ∧ other.flags.tc = header.flags.tc ∧
      other.flags.rd = header.flags.rd ∧ other.flags.ra = header.flags.ra ∧
      other.flags.z = header.flags.z) (rcode : Rcode) (answers : UInt16) :
    other.forReply rcode answers = header.forReply rcode answers := by
  obtain ⟨opcode, tc, rd, ra, z⟩ := flags
  simp only [Header.forReply, id, opcode, tc, rd, ra, z]

/-- The end of the question that a datagram is judged by. -/
def Decoded.questionEnd? : Decoded → Option Nat
  | .drop _ => none
  | .reject _ questionEnd => some questionEnd
  | .query accepted => some accepted.questionEnd

/-- A datagram agrees with a packet whose question ends at `questionEnd` in all that a response is
made from. -/
structure SameRequest (questionEnd : Nat) (packet other : Octets) : Prop where
  whole : questionEnd ≤ other.length
  id : other.take 2 = packet.take 2
  flags : wordAt other 2 &&& clientFlags = wordAt packet 2 &&& clientFlags
  counted : questionCount other ≠ 0
  question : (other.take questionEnd).drop 12 = (packet.take questionEnd).drop 12

namespace SameRequest

variable {questionEnd : Nat} {packet other : Octets}

theorem replyHeader_eq (same : SameRequest questionEnd packet other) (ruling : Ruling) :
    replyHeader other ruling = replyHeader packet ruling := by
  have front (message : Octets) : wordAt (message.take 2) 0 = wordAt message 0 :=
    wordAt_take (by omega)
  have word : wordAt other 0 = wordAt packet 0 := by
    rw [← front other, same.id, front packet]
  have id : (headerOf other).id = (headerOf packet).id := by
    simp only [headerOf, word]
  exact Header.forReply_congr id (flags_congr same.flags) _ _

theorem framed_eq (same : SameRequest questionEnd packet other) (ruling : Ruling) (ttl : UInt32) :
    framed other questionEnd ruling ttl = framed packet questionEnd ruling ttl := by
  have question : questionOctets other questionEnd = questionOctets packet questionEnd :=
    same.question
  rw [framed, same.replyHeader_eq, question]
  rfl

/-- Framing does not look at the length of a datagram that holds the question. -/
theorem frameFault?_eq (same : SameRequest questionEnd packet other)
    (long : headerLength ≤ questionEnd) (inside : questionEnd ≤ packet.length) (ruling : Ruling) :
    frameFault? other.length questionEnd ruling = frameFault? packet.length questionEnd ruling := by
  have whole := same.whole
  have placed : ¬ (questionEnd < headerLength ∨ packet.length < questionEnd) := by omega
  have placed' : ¬ (questionEnd < headerLength ∨ other.length < questionEnd) := by omega
  unfold frameFault?
  rw [if_neg placed, if_neg placed']

theorem settle_eq (same : SameRequest questionEnd packet other) (long : headerLength ≤ questionEnd)
    (inside : questionEnd ≤ packet.length) (settings : Settings) (asked : Option RecordType)
    (ruling : Ruling) (before : List Notice) :
    settle settings other asked questionEnd ruling before =
      settle settings packet asked questionEnd ruling before := by
  unfold settle
  rw [frame_eq, frame_eq, same.frameFault?_eq long inside, same.framed_eq]

end SameRequest

/-! ## Questions -/

/-- A judgement takes nothing over from the header but the operation, and an accepted query carries
its header along. -/
theorem judge_congr {header other : Header} (same : other.flags.opcode = header.flags.opcode)
    (name : Octets) (type qclass : UInt16) :
    judge other name type qclass =
      match judge header name type qclass with
      | .query query => .query { query with header := other }
      | verdict => verdict := by
  unfold judge
  rw [same]
  cases RecordType.ofCode? type with
  | none => rfl
  | some served =>
    dsimp only
    by_cases unserved : qclass ≠ classIn ∨ header.flags.opcode ≠ 0
    · rw [if_pos unserved, if_pos unserved]
    · rw [if_neg unserved, if_neg unserved]
      cases Name.validate name <;> rfl

section Question

variable {questionEnd : Nat} {packet other name behind : Octets} {type qclass : UInt16}

/-- The same request asks the same question. -/
theorem SameRequest.asks (same : SameRequest questionEnd packet other)
    (asks : Asks packet name type qclass behind)
    (place : questionEnd = headerLength + name.length + questionTail) :
    Asks other name type qclass (other.drop questionEnd) := by
  have whole := same.whole
  have bounds := asks.bounds
  have long : headerLength ≤ (other.take questionEnd).length := by
    rw [List.length_take_of_le whole]
    omega
  -- the question is the packet's, and behind it stands what the other datagram has there
  have body : other.drop headerLength =
      (other.take questionEnd).drop headerLength ++ other.drop questionEnd := by
    rw [← List.drop_append_of_le_length long, List.take_append_drop]
  have question : (other.take questionEnd).drop headerLength =
      name ++ (Octets.ofWord16 type ++ Octets.ofWord16 qclass) := by
    rw [← asks.question_eq, ← place]
    exact same.question
  refine ⟨same.counted, ?_, asks.ended, ?_⟩
  · rw [responseBit_congr same.flags]
    exact asks.asked
  · rw [body, question]
    simp only [List.append_assoc]

/-- The end of the question that a datagram asks. -/
theorem questionEnd?_of_asks (asks : Asks packet name type qclass behind) :
    (decode packet).questionEnd? = some (headerLength + name.length + questionTail) := by
  rw [decode_of_asks asks]
  cases verdict : judge (headerOf packet) name type qclass with
  | drop reason => exact absurd verdict (judge_ne_drop _ _ _ _ reason)
  | reject refusal questionEnd => exact congrArg some (judge_questionEnd verdict)
  | query query =>
    obtain ⟨-, -, -, -, -, -, place⟩ := judge_eq_query_iff.mp verdict
    exact congrArg some place

end Question

/-- **A response depends on nothing in a datagram but what it should.**  Where a packet is not
dropped, any datagram that has the same identifier, the same question and the same flags, apart from
the authority bit and the response code, and that counts at least one question, gets the same
response: the same reply, or the same error, and the same reports. -/
theorem respond_eq_of_sameRequest {packet other : Octets} {questionEnd : Nat}
    (judged : (decode packet).questionEnd? = some questionEnd)
    (same : SameRequest questionEnd packet other) (table : Table) (settings : Settings) :
    respond table settings other = respond table settings packet := by
  rcases drop_or_asks packet with ⟨reason, dropped⟩ | ⟨name, type, qclass, behind, asks⟩
  · rw [dropped] at judged
    cases judged
  rw [questionEnd?_of_asks asks] at judged
  obtain rfl := Option.some.inj judged
  obtain ⟨above, inside⟩ := asks.bounds
  have long : headerLength ≤ headerLength + name.length + questionTail := by omega
  have verdict := decode_of_asks asks
  have verdict' := decode_of_asks (same.asks asks rfl)
  rw [judge_congr (flags_congr same.flags).1] at verdict'
  have settled := same.settle_eq long inside settings
  cases ruled : judge (headerOf packet) name type qclass with
  | drop reason => exact absurd ruled (judge_ne_drop _ _ _ _ reason)
  | reject refusal questionEnd =>
    rw [ruled] at verdict verdict'
    obtain rfl := judge_questionEnd ruled
    simp only [respond, verdict, verdict', settled]
  | query query =>
    rw [ruled] at verdict verdict'
    obtain ⟨-, -, -, -, -, -, place⟩ := judge_eq_query_iff.mp ruled
    simp only [respond, verdict, verdict', answerQuery, place, settled]

/-- The query for the addresses of `a` as a client with extensions may send it: other counts, the
authority bit, a response code, and an additional record behind the question. -/
def extendedPacket : Octets :=
  [0, 7, 5, 3, 0, 2, 0, 1, 0, 0, 0, 1, 1, 0x61, 0, 0, 1, 0, 1, 0, 0, 41, 16, 0, 0, 0, 0, 0, 0, 0]

theorem respond_to_extendedPacket :
    (decode hostPacket).questionEnd? = some 19 ∧ SameRequest 19 hostPacket extendedPacket ∧
      extendedPacket ≠ hostPacket ∧
      (respond ⟨[hostRecord]⟩ {} extendedPacket).outcome.reply? = some hostReply := by
  have judged : (decode hostPacket).questionEnd? = some 19 := by decide +kernel
  have same : SameRequest 19 hostPacket extendedPacket := by
    constructor <;> decide
  have sent : (respond ⟨[hostRecord]⟩ {} hostPacket).outcome.reply? = some hostReply := by
    decide +kernel
  refine ⟨judged, same, by decide, ?_⟩
  rw [respond_eq_of_sameRequest judged same]
  exact sent

end StaticDns
