import StaticDns.Proofs.Message.Decoding
import StaticDns.Proofs.Message.Framing
import StaticDns.Proofs.Name.Dotted
import StaticDns.Respond

/-!
# StaticDns.Proofs.Respond.Sending — when a reply is sent

A datagram is answered in two steps that can each end without a reply: it may be dropped, and a
reply may fail to be framed.  The second never happens.  A question that is judged ends inside its
datagram, the data of every record is an address or a name of at most 255 octets, and the capacity
is made for the longest question twice with the longest name behind it.

* `dropped_or_settled`: what a response is, for every table and every datagram.
* `length_rdata_answer`: how long the data of a record is.
* `respond_unless_dropped`: only a dropped datagram gets no reply, and how long replies are.
-/

namespace StaticDns

open Message

/-! ## Records -/

/-- **A stored name has between 3 and 255 octets**, because it was encoded from some text. -/
theorem Record.length_name (record : Record) :
    3 ≤ record.name.length ∧ record.name.length ≤ Name.maxName := by
  obtain ⟨text, encoded⟩ := record.encoded
  exact Name.length_of_encode encoded

theorem Record.length_rdata_answer (record : Record) (type : RecordType) :
    (record.answer type).rdata.length ≤ Name.maxName := by
  cases type with
  | a =>
    show record.address.octets.length ≤ Name.maxName
    rw [Ipv4.length_octets, Name.maxName]
    omega
  | ptr => exact record.length_name.2

/-- The ruling of a table on an accepted query. -/
def Table.ruling (table : Table) (query : Query) : Ruling :=
  match table.records.find? fun record => record.matchesQuery query.type query.name with
  | some record => .success (record.answer query.type)
  | none => .nameError

theorem Table.bounded_ruling (table : Table) (query : Query) : (table.ruling query).Bounded := by
  intro answer ruled
  unfold ruling at ruled
  split at ruled
  · rename_i record found
    cases ruled
    exact record.length_rdata_answer query.type
  · cases ruled

/-! ## Outcomes -/

/-- A settled question has the outcome of its framing, whatever has been reported before. -/
theorem outcome_settle (settings : Settings) (packet : Octets) (asked : Option RecordType)
    (questionEnd : Nat) (ruling : Ruling) (before : List Notice) :
    (settle settings packet asked questionEnd ruling before).outcome =
      match frameFault? packet.length questionEnd ruling with
      | some error => .unframed asked error
      | none => .answered asked ruling.rcode (framed packet questionEnd ruling settings.ttl) := by
  unfold settle
  rw [frame_eq]
  cases frameFault? packet.length questionEnd ruling <;> rfl

/-- The reply of a settled question is the framed ruling. -/
theorem framed_of_settle {settings : Settings} {packet reply : Octets} {asked : Option RecordType}
    {questionEnd : Nat} {ruling : Ruling} {before : List Notice}
    (sent : (settle settings packet asked questionEnd ruling before).outcome.reply? = some reply) :
    reply = framed packet questionEnd ruling settings.ttl := by
  rw [outcome_settle] at sent
  cases fault : frameFault? packet.length questionEnd ruling with
  | some error =>
    rw [fault] at sent
    cases sent
  | none =>
    rw [fault] at sent
    cases sent
    rfl

theorem rcodeBits_of_settle {settings : Settings} {packet reply : Octets}
    {asked : Option RecordType} {questionEnd : Nat} {ruling : Ruling} {before : List Notice}
    (sent : (settle settings packet asked questionEnd ruling before).outcome.reply? = some reply) :
    rcodeBits reply = ruling.rcode.code.toNat := by
  rw [framed_of_settle sent, rcodeBits_framed]

/-- The outcome of an accepted query is that of the ruling of the table. -/
theorem respond_query {packet : Octets} {query : Query} (accepted : decode packet = .query query)
    (table : Table) (settings : Settings) :
    ∃ before, respond table settings packet =
      settle settings packet query.type query.questionEnd (table.ruling query) before := by
  have answered : respond table settings packet = answerQuery table settings packet query := by
    simp only [respond, accepted]
  rw [answered]
  unfold answerQuery Table.lookup Table.ruling
  cases table.records.find? fun record => record.matchesQuery query.type query.name with
  | some record => exact ⟨_, rfl⟩
  | none => exact ⟨_, rfl⟩

/-- A question that is judged is not dropped any more. -/
theorem judge_ne_drop (header : Header) (name : Octets) (type qclass : UInt16)
    (reason : DropReason) : judge header name type qclass ≠ .drop reason := by
  unfold judge
  dsimp only
  split
  · exact Decoded.noConfusion
  · split_ifs
    · exact Decoded.noConfusion
    · split <;> exact Decoded.noConfusion

/-- **What a response is**: a datagram is dropped, or it asks a question and a ruling on it is
settled whose data is short. -/
theorem dropped_or_settled (table : Table) (settings : Settings) (packet : Octets) :
    (∃ reason, decode packet = .drop reason) ∨
      (∀ reason, decode packet ≠ .drop reason) ∧
        ∃ name type qclass behind asked ruling before, Asks packet name type qclass behind ∧
          ruling.Bounded ∧ respond table settings packet =
            settle settings packet asked (headerLength + name.length + questionTail) ruling
              before := by
  rcases drop_or_asks packet with dropped | ⟨name, type, qclass, behind, asks⟩
  · exact .inl dropped
  right
  have judged := decode_of_asks asks
  refine ⟨fun reason => judged ▸ judge_ne_drop _ _ _ _ reason, name, type, qclass, behind, ?_⟩
  cases verdict : judge (headerOf packet) name type qclass with
  | drop reason => exact absurd verdict (judge_ne_drop _ _ _ _ reason)
  | reject refusal questionEnd =>
    have place := judge_questionEnd verdict
    rw [verdict] at judged
    refine ⟨none, refusal.ruling, refusal.notices, asks, ?_, ?_⟩
    · intro answer ruled
      cases refusal <;> cases ruled
    · rw [← place]
      exact respond_reject judged table settings
  | query query =>
    obtain ⟨-, -, -, -, -, -, place⟩ := judge_eq_query_iff.mp verdict
    rw [verdict] at judged
    obtain ⟨before, settled⟩ := respond_query judged table settings
    rw [place] at settled
    exact ⟨query.type, table.ruling query, before, asks, table.bounded_ruling query, settled⟩

/-! ## Replies -/

/-- The longest reply repeats the longest question and carries the longest name. -/
theorem answerSize_le {questionEnd : Nat} {ruling : Ruling} (long : headerLength ≤ questionEnd)
    (small : questionEnd ≤ maxPacket) (bounded : ruling.Bounded) :
    questionEnd + answerSize questionEnd ruling ≤ 1273 := by
  simp only [headerLength] at long
  simp only [maxPacket] at small
  cases ruling with
  | success answer =>
    have data := bounded answer rfl
    simp only [Name.maxName] at data
    simp only [answerSize, headerLength]
    omega
  | formatError | notImplemented | nameError =>
    simp only [answerSize]
    omega

/-- **Only a dropped datagram gets no reply.**  For every table, the limits that the server keeps
put all framing errors out of reach, and every reply has between 17 and 1273 octets. -/
theorem respond_unless_dropped {packet : Octets} (small : packet.length ≤ maxPacket)
    (table : Table) (settings : Settings) :
    ((respond table settings packet).outcome.reply? = none ↔
      ∃ reason, decode packet = .drop reason) ∧
    (∀ asked error, (respond table settings packet).outcome ≠ .unframed asked error) ∧
    ∀ reply, (respond table settings packet).outcome.reply? = some reply →
      17 ≤ reply.length ∧ reply.length ≤ 1273 := by
  rcases dropped_or_settled table settings packet with ⟨reason, dropped⟩ |
    ⟨kept, name, type, qclass, behind, asked, ruling, before, asks, bounded, settled⟩
  · rw [respond_drop dropped]
    refine ⟨⟨fun _ => ⟨reason, dropped⟩, fun _ => rfl⟩, ?_, ?_⟩
    · rintro asked error ⟨⟩
    · rintro reply ⟨⟩
  · obtain ⟨above, inside⟩ := asks.bounds
    have long : headerLength ≤ headerLength + name.length + questionTail := by omega
    have outcome : (respond table settings packet).outcome = .answered asked ruling.rcode
        (framed packet (headerLength + name.length + questionTail) ruling settings.ttl) := by
      rw [settled, outcome_settle, frameFault?_eq_none long inside small bounded]
    rw [outcome]
    refine ⟨⟨?_, ?_⟩, ?_, ?_⟩
    · rintro ⟨⟩
    · rintro ⟨reason, dropped⟩
      exact absurd dropped (kept reason)
    · rintro asked error ⟨⟩
    · rintro reply ⟨⟩
      have most := answerSize_le long (Nat.le_trans inside small) bounded
      rw [length_framed long inside]
      omega

/-- A query for the addresses of the root, than which none is shorter. -/
def rootPacket : Octets := [0, 1, 1, 0, 0, 1, 0, 0, 0, 0, 0, 0, 0, 0, 1, 0, 1]

theorem respond_to_rootPacket :
    rootPacket.length ≤ maxPacket ∧ ∃ reply,
      (respond {} {} rootPacket).outcome.reply? = some reply ∧
        17 ≤ reply.length ∧ reply.length ≤ 1273 := by
  have small : rootPacket.length ≤ maxPacket := by decide
  obtain ⟨silent, -, sizes⟩ := respond_unless_dropped small {} {}
  cases sent : (respond {} {} rootPacket).outcome.reply? with
  | none =>
    obtain ⟨reason, dropped⟩ := silent.mp sent
    have kept : ∀ reason, decode rootPacket ≠ .drop reason := by
      rintro (_ | _ | _) <;> decide +kernel
    exact absurd dropped (kept reason)
  | some reply => exact ⟨small, reply, rfl, sizes reply sent⟩

end StaticDns
