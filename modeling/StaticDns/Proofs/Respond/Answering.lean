import StaticDns.Proofs.Respond.Layout
import StaticDns.Proofs.Table.Matching

/-!
# StaticDns.Proofs.Respond.Answering — from record text to the octets of a reply

What an operator writes into a table are names and addresses, and what a client gets is a datagram.
Between them stand the encoding of names, the search of the table and the framing of the reply.  Put
together they follow one rule: the first pair that serves a query answers it, and where none does
the name is denied.

* `Response.Carries`: a reply that gives its reader just one answer.
* `sent_of_decode_query`: an accepted query is always answered, with the ruling of the table.
* `reply_of_first_pair`: the rule, from the pairs to the reply that is read.
-/

namespace StaticDns

open Message

/-- A response whose reply is read whole, of code zero, and holds one answer, with
this data. -/
def Response.Carries (response : Response) (data : Octets) : Prop :=
  ∃ reply message answer, response.outcome.reply? = some reply ∧ rcodeBits reply = 0 ∧
    Reader.message reply = some (message, []) ∧ message.answers = [answer] ∧ answer.data = data

/-- **An accepted query is always answered** inside the limits that the server keeps, and a client
reads the ruling of the table in the reply. -/
theorem sent_of_decode_query {packet : Octets} {query : Query} (small : packet.length ≤ maxPacket)
    (accepted : decode packet = .query query) {labels : List Octets}
    (valid : ∀ label ∈ labels, Name.ValidLabel label) (name : query.name = Name.ofLabels labels)
    (table : Table) (settings : Settings) :
    ∃ reply message, (respond table settings packet).outcome.reply? = some reply ∧
      Reader.message reply = some (message, []) ∧
      rcodeBits reply = (table.ruling query).rcode.code.toNat ∧
      (authoritativeBit reply = 1 ↔
        (table.ruling query).rcode = .noError ∨ (table.ruling query).rcode = .nxDomain) ∧
      message.answers = (table.ruling query).records
        ⟨labels, query.type.code.toNat, classIn.toNat⟩ settings.ttl := by
  obtain ⟨others, behind, sound, same, place, asks⟩ := labels_of_decode_query accepted
  obtain rfl : labels = others := Name.ofLabels_inj valid sound (name.symm.trans same)
  obtain ⟨before, settled⟩ := respond_query accepted table settings
  obtain ⟨above, inside⟩ := asks.bounds
  have bounded := table.bounded_ruling query
  have long : headerLength ≤ query.questionEnd := by
    rw [place]
    omega
  rw [← place] at inside
  have read := message_framed valid asks bounded settings.ttl
  rw [← place] at read
  refine ⟨framed packet query.questionEnd (table.ruling query) settings.ttl, _, ?_, read,
    rcodeBits_framed _ _ _ _, authoritativeBit_framed _ _ _ _, rfl⟩
  rw [settled, outcome_settle, frameFault?_eq_none long inside small bounded]
  rfl

/-- **The first pair that serves a query answers it**, with its address or with its name, and where
no pair does the name is denied; either way with authority. -/
theorem reply_of_first_pair {pairs : List (String × Ipv4)} {records : List Record}
    (made : List.Forall₂ (fun pair record => Record.ofText pair.1 pair.2 = .ok record) pairs records)
    {packet : Octets} {query : Query} (small : packet.length ≤ maxPacket)
    (accepted : decode packet = .query query) (settings : Settings) :
    ∃ labels reply message, (∀ label ∈ labels, Name.ValidLabel label) ∧
      query.name = Name.ofLabels labels ∧
      (respond ⟨records⟩ settings packet).outcome.reply? = some reply ∧
      Reader.message reply = some (message, []) ∧ authoritativeBit reply = 1 ∧
      match pairs.find? fun pair => Serves pair.1 pair.2 query.type labels with
      | some (text, address) => rcodeBits reply = 0 ∧ ∃ answer, message.answers = [answer] ∧
          match query.type with
          | .a => answer.data = address.octets
          | .ptr => Name.encode text = .ok answer.data
      | none => rcodeBits reply = 3 ∧ message.answers = [] := by
  obtain ⟨labels, -, valid, name, -, -⟩ := labels_of_decode_query accepted
  obtain ⟨reply, message, sent, read, rcode, authority, answers⟩ :=
    sent_of_decode_query small accepted valid name ⟨records⟩ settings
  refine ⟨labels, reply, message, valid, name, sent, read, ?_⟩
  have first := find?_records made query.type valid
  rw [← name] at first
  rw [authority, rcode, answers]
  unfold Table.ruling
  dsimp only
  generalize pairs.find? (fun pair => decide (Serves pair.1 pair.2 query.type labels)) = pair at *
  generalize records.find? (fun record => record.matchesQuery query.type query.name) = record at *
  cases first with
  | none => exact ⟨.inr rfl, rfl, rfl⟩
  | @some pair record one =>
    obtain ⟨text, address⟩ := pair
    obtain ⟨encoded, rfl⟩ := Record.ofText_eq_ok_iff.mp one
    refine ⟨.inl rfl, rfl, _, rfl, ?_⟩
    cases query.type with
    | a => rfl
    | ptr => exact encoded

/-! ## A table of four pairs -/

/-- A wildcard stands in front of the last of these pairs. -/
def officePairs : List (String × Ipv4) :=
  [("mail", ⟨192, 0, 2, 5⟩), ("A", ⟨192, 0, 2, 7⟩), ("*.lan", ⟨192, 0, 2, 9⟩),
    ("a", ⟨192, 0, 2, 1⟩)]

/-- The records that are made of them. -/
def officeRecords : List Record :=
  [⟨[4, 0x6D, 0x61, 0x69, 0x6C, 0], ⟨192, 0, 2, 5⟩, "mail", rfl⟩,
    ⟨[1, 0x41, 0], ⟨192, 0, 2, 7⟩, "A", rfl⟩,
    ⟨[1, 0x2A, 3, 0x6C, 0x61, 0x6E, 0], ⟨192, 0, 2, 9⟩, "*.lan", rfl⟩, hostRecord]

/-- The labels of the reverse name of the host in 192.0.2 whose number is this digit. -/
def reverseLabels (digit : UInt8) : List Octets :=
  [[digit], [0x32], [0x30], [0x31, 0x39, 0x32], [0x69, 0x6E, 0x2D, 0x61, 0x64, 0x64, 0x72],
    [0x61, 0x72, 0x70, 0x61]]

/-- A query for the name of this host. -/
def reversePacket (digit : UInt8) : Octets :=
  [0, 7, 1, 0, 0, 1, 0, 0, 0, 0, 0, 0] ++ Name.ofLabels (reverseLabels digit) ++ [0, 12, 0, 1]

/-- The query that it is accepted as. -/
def reverseQuery (digit : UInt8) : Query where
  header := { id := 7, flags := { rd := true }, questions := 1 }
  name := Name.ofLabels (reverseLabels digit)
  type := .ptr
  questionEnd := 40

/-- The second pair serves the name `a` in spite of its capital, and the reverse query for its own
address.  The wildcard behind it serves the reverse query for the address of the last pair, which
comes too late. -/
theorem reply_of_later_pair :
    List.Forall₂ (fun pair record => Record.ofText pair.1 pair.2 = .ok record) officePairs
        officeRecords ∧
      (hostPacket.length ≤ maxPacket ∧ decode hostPacket = .query hostQuery ∧
        (respond ⟨officeRecords⟩ {} hostPacket).Carries [192, 0, 2, 7]) ∧
      (∀ digit ∈ [0x37, 0x31], (reversePacket digit).length ≤ maxPacket ∧
        decode (reversePacket digit) = .query (reverseQuery digit)) ∧
      (respond ⟨officeRecords⟩ {} (reversePacket 0x37)).Carries [1, 0x41, 0] ∧
      (respond ⟨officeRecords⟩ {} (reversePacket 0x31)).Carries
        [1, 0x2A, 3, 0x6C, 0x61, 0x6E, 0] := by
  have made : List.Forall₂ (fun pair record => Record.ofText pair.1 pair.2 = .ok record)
      officePairs officeRecords :=
    .cons rfl (.cons rfl (.cons rfl (.cons rfl .nil)))
  have small : hostPacket.length ≤ maxPacket := by decide
  have accepted : decode hostPacket = .query hostQuery := by decide +kernel
  have asked : ∀ digit ∈ [0x37, 0x31], (reversePacket digit).length ≤ maxPacket ∧
      decode (reversePacket digit) = .query (reverseQuery digit) := by
    decide +kernel
  have named : ∀ digit ∈ [0x37, 0x31], ∀ {text : String} {address : Ipv4} {data : Octets},
      officePairs.find? (fun pair => Serves pair.1 pair.2 (reverseQuery digit).type
        (reverseLabels digit)) = some (text, address) →
      Name.encode text = .ok data →
      (respond ⟨officeRecords⟩ {} (reversePacket digit)).Carries data := by
    intro digit mem text address data found spelt
    obtain ⟨labels, reply, message, valid, name, sent, read, -, ruled⟩ :=
      reply_of_first_pair made (asked digit mem).1 (asked digit mem).2 {}
    -- A name has one list of labels, so those that served are the ones in the packet.
    have plain : ∀ label ∈ reverseLabels digit, Name.ValidLabel label := by
      simp [reverseLabels, Name.ValidLabel, Name.maxLabel]
    obtain rfl : reverseLabels digit = labels := Name.ofLabels_inj plain valid name
    rw [found] at ruled
    obtain ⟨success, answer, answers, encoded⟩ := ruled
    have carried : answer.data = data := Except.ok.inj (encoded.symm.trans spelt)
    exact ⟨reply, message, answer, sent, success, read, answers, carried⟩
  refine ⟨made, ⟨small, accepted, ?_⟩, asked, ?_, ?_⟩
  · obtain ⟨labels, reply, message, valid, name, sent, read, -, ruled⟩ :=
      reply_of_first_pair made small accepted {}
    have plain : ∀ label ∈ ([[0x61]] : List Octets), Name.ValidLabel label := by decide
    obtain rfl : [[0x61]] = labels := Name.ofLabels_inj plain valid name
    have found : officePairs.find? (fun pair => Serves pair.1 pair.2 hostQuery.type [[0x61]]) =
        some ("A", ⟨192, 0, 2, 7⟩) := by
      decide
    rw [found] at ruled
    obtain ⟨success, answer, answers, data⟩ := ruled
    exact ⟨reply, message, answer, sent, success, read, answers, data⟩
  · have found : officePairs.find? (fun pair => Serves pair.1 pair.2 (reverseQuery 0x37).type
        (reverseLabels 0x37)) = some ("A", ⟨192, 0, 2, 7⟩) := by
      decide
    exact named 0x37 (by decide) found rfl
  · have found : officePairs.find? (fun pair => Serves pair.1 pair.2 (reverseQuery 0x31).type
        (reverseLabels 0x31)) = some ("*.lan", ⟨192, 0, 2, 9⟩) := by
      decide
    exact named 0x31 (by decide) found rfl

end StaticDns
