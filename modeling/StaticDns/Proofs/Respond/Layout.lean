import StaticDns.Proofs.Message.Reader
import StaticDns.Proofs.Respond.Sending

/-!
# StaticDns.Proofs.Respond.Layout — what a client reads in a reply

The builder of replies never parses a name.  It copies octets between positions that it has from the
first zero octet of the question, while a client walks over labels and believes the counts and
lengths it finds.  Both views agree on every reply: the client reads the question that was asked, at
most one record that repeats it, and nothing is missing or left over.

* `message_framed`: what is read in a framed reply.
* `client_reads_reply`: what is read in the reply to an accepted query.
-/

namespace StaticDns

open Message

/-! ## Accepted queries -/

/-- The name of an accepted query is the wire form of valid labels, and its question stands behind
the header of the packet. -/
theorem labels_of_decode_query {packet : Octets} {query : Query}
    (accepted : decode packet = .query query) :
    ∃ labels behind, (∀ label ∈ labels, Name.ValidLabel label) ∧
      query.name = Name.ofLabels labels ∧
      query.questionEnd = headerLength + (Name.ofLabels labels).length + questionTail ∧
      Asks packet (Name.ofLabels labels) query.type.code classIn behind := by
  obtain ⟨type, qclass, behind, asks, judged⟩ := asks_of_decode_query accepted
  obtain ⟨rfl, rfl, -, sound, -, -, place⟩ := judge_eq_query_iff.mp judged
  obtain ⟨labels, valid, same⟩ := Name.validate_eq_ok_iff.mp sound
  rw [same] at asks place
  exact ⟨labels, behind, valid, same, place, asks⟩

/-- A reply to an accepted query is the framed ruling of the table. -/
theorem framed_of_sent {packet reply : Octets} {query : Query} {table : Table} {settings : Settings}
    (accepted : decode packet = .query query)
    (sent : (respond table settings packet).outcome.reply? = some reply) :
    reply = framed packet query.questionEnd (table.ruling query) settings.ttl := by
  obtain ⟨before, settled⟩ := respond_query accepted table settings
  rw [settled] at sent
  exact framed_of_settle sent

/-! ## Reading a framed reply -/

/-- The records that are read in the reply that carries a ruling on a question. -/
def Ruling.records (question : Reader.Question) (ttl : UInt32) : Ruling → List Reader.Resource
  | .success answer =>
    [{ name := question.name
       type := question.type
       rclass := question.qclass
       ttl := ttl.toNat
       dataLength := answer.rdata.length
       data := answer.rdata }]
  | _ => []

section Framed

variable {packet behind : Octets} {labels : List Octets} {type qclass : UInt16}
  (valid : ∀ label ∈ labels, Name.ValidLabel label)
  (asks : Asks packet (Name.ofLabels labels) type qclass behind)
include valid asks

theorem question_packet : Reader.question (packet.drop headerLength) =
    some (⟨labels, type.toNat, qclass.toNat⟩, behind) := by
  rw [asks.body]
  exact Reader.question_append valid type qclass behind

/-- **What is read in a framed reply**: the question once, the records of the ruling, and nothing
behind them. -/
theorem message_framed {ruling : Ruling} (bounded : ruling.Bounded) (ttl : UInt32) :
    Reader.message
        (framed packet (headerLength + (Name.ofLabels labels).length + questionTail) ruling ttl) =
      some
        ({ id := (replyHeader packet ruling).id.toNat
           flags := (replyHeader packet ruling).flags.toWord.toNat
           questions := [⟨labels, type.toNat, qclass.toNat⟩]
           answers := ruling.records ⟨labels, type.toNat, qclass.toNat⟩ ttl
           authorities := 0
           additionals := 0 }, []) := by
  have question : questionOctets packet (headerLength + (Name.ofLabels labels).length + questionTail) =
      Name.ofLabels labels ++ (Octets.ofWord16 type ++ Octets.ofWord16 qclass) := asks.question_eq
  unfold framed
  rw [question, List.append_assoc, List.append_assoc]
  refine Reader.message_toOctets_append _
    (Reader.many_one (Reader.question_append valid type qclass _)) ?_
  cases ruling with
  | success answer =>
    have data := bounded answer rfl
    have size : answer.rdata.length = (UInt16.ofNat answer.rdata.length).toNat := by
      simp only [Name.maxName] at data
      rw [UInt16.toNat_ofNat']
      omega
    have read := Reader.resource_append valid type qclass [] ttl size
    rw [← size, List.append_nil] at read
    simp only [answerOctets, List.append_assoc]
    exact Reader.many_one read
  | formatError | notImplemented | nameError => rfl

end Framed

/-! ## Replies to accepted queries -/

/-- What the data of an answer has to be: the four octets of the record's address, or the record's
name, whole, without compression and not too long. -/
def SoundData (record : Record) (data : Octets) : RecordType → Prop
  | .a => data = record.address.octets ∧ data.length = 4
  | .ptr =>
    data = record.name ∧ data.length ≤ 255 ∧ ∃ labels, Reader.name data = some (labels, [])

theorem soundData_answer (record : Record) (type : RecordType) :
    SoundData record (record.answer type).rdata type := by
  cases type with
  | a => exact ⟨rfl, rfl⟩
  | ptr =>
    obtain ⟨text, encoded⟩ := record.encoded
    obtain ⟨valid, same, bound⟩ := Name.encode_eq_ok_iff.mp encoded
    refine ⟨rfl, bound, Name.textLabels text, Reader.name_eq_some_iff.mpr ⟨valid, ?_⟩⟩
    rw [List.append_nil]
    exact same

/-- **A client reads the reply to an accepted query whole.**  It finds the question that was asked,
octet for octet, no record when the table has no answer, and otherwise one record with the name, the
type and the class of the question, the chosen lifetime, and sound data of the length that is
announced. -/
theorem client_reads_reply {packet reply : Octets} {query : Query} {table : Table}
    {settings : Settings} (accepted : decode packet = .query query)
    (sent : (respond table settings packet).outcome.reply? = some reply) :
    ∃ question behind message,
      Reader.question (packet.drop 12) = some (question, behind) ∧
      Name.ofLabels question.name = query.name ∧
      question.type = query.type.code.toNat ∧ question.qclass = classIn.toNat ∧
      Reader.message reply = some (message, []) ∧
      message.questions = [question] ∧ message.authorities = 0 ∧ message.additionals = 0 ∧
      match table.lookup query.type query.name with
      | none => message.answers = []
      | some answer => ∃ record ∈ table.records, ∃ data,
          answer = record.answer query.type ∧ SoundData record data query.type ∧
          message.answers =
            [{ name := question.name
               type := question.type
               rclass := question.qclass
               ttl := settings.ttl.toNat
               dataLength := data.length
               data }] := by
  obtain ⟨labels, behind, valid, name, place, asks⟩ := labels_of_decode_query accepted
  have read := message_framed valid asks (table.bounded_ruling query) settings.ttl
  rw [← place, ← framed_of_sent accepted sent] at read
  refine ⟨_, behind, _, question_packet valid asks, name.symm, rfl, rfl, read, rfl, rfl, rfl,
    ?_⟩
  unfold Table.lookup Table.ruling
  cases found : table.records.find? fun record => record.matchesQuery query.type query.name with
  | none => rfl
  | some record =>
    exact ⟨record, List.mem_of_find?_eq_some found, _, rfl, soundData_answer record query.type, rfl⟩

/-! ## One reply -/

/-- A query for the addresses of the name `a`. -/
def hostPacket : Octets := [0, 7, 1, 0, 0, 1, 0, 0, 0, 0, 0, 0, 1, 0x61, 0, 0, 1, 0, 1]

/-- The query that it is accepted as. -/
def hostQuery : Query where
  header := { id := 7, flags := { rd := true }, questions := 1 }
  name := [1, 0x61, 0]
  type := .a
  questionEnd := 19

/-- The name `a` with an address. -/
def hostRecord : Record where
  name := [1, 0x61, 0]
  address := ⟨192, 0, 2, 1⟩
  encoded := ⟨"a", rfl⟩

/-- The reply of a table that holds just this record. -/
def hostReply : Octets :=
  [0, 7, 0x85, 0, 0, 1, 0, 1, 0, 0, 0, 0, 1, 0x61, 0, 0, 1, 0, 1,
    1, 0x61, 0, 0, 1, 0, 1, 0, 0, 0, 120, 0, 4, 192, 0, 2, 1]

theorem client_reads_hostReply :
    decode hostPacket = .query hostQuery ∧
      (respond ⟨[hostRecord]⟩ {} hostPacket).outcome.reply? = some hostReply ∧
      ∃ question message, Reader.message hostReply = some (message, []) ∧
        message.questions = [question] ∧ ∃ answer, message.answers = [answer] ∧
          answer.name = question.name ∧ answer.ttl = 120 ∧ answer.data = [192, 0, 2, 1] := by
  have accepted : decode hostPacket = .query hostQuery := by decide +kernel
  have sent : (respond ⟨[hostRecord]⟩ {} hostPacket).outcome.reply? = some hostReply := by
    decide +kernel
  obtain ⟨question, behind, message, -, -, -, -, read, asked, -, -, answered⟩ :=
    client_reads_reply accepted sent
  obtain ⟨record, mem, data, -, sound, answers⟩ := answered
  obtain rfl : record = hostRecord := List.mem_singleton.mp mem
  exact ⟨accepted, sent, question, message, read, asked, _, answers, rfl, rfl, sound.1⟩

end StaticDns
