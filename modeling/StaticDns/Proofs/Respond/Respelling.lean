import Mathlib.Data.List.TakeWhile
import StaticDns.Proofs.Respond.Layout
import StaticDns.Proofs.Table.Meeting

/-!
# StaticDns.Proofs.Respond.Respelling — the case of a question's letters

A name may be asked for in any mixture of capitals and small letters.  Which one a datagram uses
decides nothing: whether it is dropped, rejected or accepted, which record answers it and every other
octet of its reply stay the same, and only the spelling that the reply repeats is the datagram's own.

* `Respelt`: two datagrams differ in nothing but the case of letters in their name.
* `judge_of_fold_eq`: what the judgement of a question takes over from its spelling.
* `settled_of_respelt`: respelt datagrams get the same ruling.
* `Stencil`, `framed_eq_fill`: a reply with its name left open.
* `respond_of_respelt`: the replies to respelt datagrams.
-/

namespace StaticDns

open Message

/-! ## Datagrams that differ in case -/

/-- The octets of a datagram behind its header and in front of the next zero octet: the name of its
question, without the terminator. -/
def nameSpan (packet : Octets) : Octets := (packet.drop headerLength).takeWhile (· != 0)

/-- Two datagrams are the same, except that their names are so only up to the case of letters. -/
structure Respelt (packet other : Octets) : Prop where
  header : other.take headerLength = packet.take headerLength
  name : Octets.fold (nameSpan other) = Octets.fold (nameSpan packet)
  behind : other.drop (headerLength + (nameSpan other).length) =
    packet.drop (headerLength + (nameSpan packet).length)

theorem Respelt.symm {packet other : Octets} (respelt : Respelt packet other) :
    Respelt other packet :=
  ⟨respelt.header.symm, respelt.name.symm, respelt.behind.symm⟩

theorem drop_header_eq (packet : Octets) :
    packet.drop headerLength =
      nameSpan packet ++ packet.drop (headerLength + (nameSpan packet).length) := by
  have front : nameSpan packet <+: packet.drop headerLength := List.takeWhile_prefix _
  rw [← List.drop_drop]
  exact (List.prefix_iff_eq_append.mp front).symm

theorem ne_zero_of_mem_nameSpan {packet : Octets} {octet : UInt8} (mem : octet ∈ nameSpan packet) :
    octet ≠ 0 := by
  have nonzero := List.mem_takeWhile_imp mem
  simpa using nonzero

/-- The name of a question is the span up to the first zero octet, with that octet. -/
theorem Asks.name_eq {packet name behind : Octets} {type qclass : UInt16}
    (asks : Asks packet name type qclass behind) : name = nameSpan packet ++ [0] := by
  obtain ⟨front, nonzero, rfl⟩ := asks.ended
  have all : ∀ octet ∈ front, (octet != 0) = true :=
    fun octet mem => bne_iff_ne.mpr (nonzero octet mem)
  rw [nameSpan, asks.body, List.append_assoc, List.takeWhile_append_of_pos all,
    List.singleton_append, List.takeWhile_cons_of_neg (by decide), List.append_nil]

section Respelt

variable {packet other : Octets} (respelt : Respelt packet other)
include respelt

theorem Respelt.length_nameSpan : (nameSpan other).length = (nameSpan packet).length := by
  rw [← Octets.length_fold, respelt.name, Octets.length_fold]

/-- A respelt datagram asks the same question by its own name. -/
theorem Respelt.asks {name behind : Octets} {type qclass : UInt16}
    (asks : Asks packet name type qclass behind) :
    Asks other (nameSpan other ++ [0]) type qclass behind := by
  have word (position : Nat) (inside : position + 1 < headerLength) :
      wordAt other position = wordAt packet position := by
    rw [← wordAt_take inside, respelt.header, wordAt_take inside]
  have counted : questionCount other = questionCount packet := word 4 (by decide)
  have asked : responseBit other = responseBit packet := by
    rw [responseBit, word 2 (by decide), responseBit]
  have body := asks.body
  rw [drop_header_eq, asks.name_eq, List.append_assoc] at body
  refine ⟨?_, ?_, ⟨_, fun _ => ne_zero_of_mem_nameSpan, rfl⟩, ?_⟩
  · rw [counted]
    exact asks.counted
  · rw [asked]
    exact asks.asked
  · rw [drop_header_eq, respelt.behind, List.append_cancel_left body, List.append_assoc]

end Respelt

/-! ## Rulings -/

/-- **A judgement does not see the case of letters**: a name is rejected in one spelling as in the
other, or accepted in both. -/
theorem judge_of_fold_eq {name other : Octets} (same : Octets.fold other = Octets.fold name)
    (header : Header) (type qclass : UInt16) :
    (∃ refusal refusal' questionEnd, judge header name type qclass = .reject refusal questionEnd ∧
      judge header other type qclass = .reject refusal' questionEnd ∧
      refusal'.ruling = refusal.ruling) ∨
    ∃ query, judge header name type qclass = .query query ∧
      judge header other type qclass = .query { query with name := other } := by
  have length : other.length = name.length := by
    rw [← Octets.length_fold, same, Octets.length_fold]
  unfold judge
  rw [length]
  dsimp only
  cases RecordType.ofCode? type with
  | none => exact .inl ⟨_, _, _, rfl, rfl, rfl⟩
  | some served =>
    dsimp only
    by_cases unserved : qclass ≠ classIn ∨ header.flags.opcode ≠ 0
    · rw [if_pos unserved, if_pos unserved]
      exact .inl ⟨_, _, _, rfl, rfl, rfl⟩
    · rw [if_neg unserved, if_neg unserved]
      cases checked : Name.validate name with
      | ok _ =>
        rw [Name.validate_of_fold_eq same checked]
        exact .inr ⟨_, rfl, rfl⟩
      | error fault =>
        cases checked' : Name.validate other with
        | ok _ =>
          rw [Name.validate_of_fold_eq same.symm checked'] at checked
          cases checked
        | error fault' => exact .inl ⟨_, _, _, rfl, rfl, rfl⟩

/-- A table rules alike on names that differ in case. -/
theorem Table.ruling_of_fold_eq {query : Query} {other : Octets}
    (same : Octets.fold other = Octets.fold query.name) (table : Table) :
    table.ruling { query with name := other } = table.ruling query := by
  unfold ruling
  simp only [Record.matchesQuery_of_fold_eq same]

/-- **Respelt datagrams get the same ruling** on questions that end at the same position. -/
theorem settled_of_respelt {packet other name behind : Octets} {type qclass : UInt16}
    (respelt : Respelt packet other) (asks : Asks packet name type qclass behind) (table : Table)
    (settings : Settings) :
    ∃ asked questionEnd ruling before before',
      questionEnd = headerLength + name.length + questionTail ∧
      respond table settings packet =
        settle settings packet asked questionEnd ruling before ∧
      respond table settings other = settle settings other asked questionEnd ruling before' := by
  have same : Octets.fold (nameSpan other ++ [0]) = Octets.fold name := by
    rw [asks.name_eq, Name.fold_append, Name.fold_append, respelt.name]
  have decoded := decode_of_asks asks
  have decoded' := decode_of_asks (respelt.asks asks)
  rw [headerOf_eq_of_take_eq respelt.header] at decoded'
  rcases judge_of_fold_eq same (headerOf packet) type qclass with
    ⟨refusal, refusal', questionEnd, judged, judged', alike⟩ | ⟨query, judged, judged'⟩
  · rw [judged] at decoded
    rw [judged'] at decoded'
    have settled' := respond_reject decoded' table settings
    rw [alike] at settled'
    exact ⟨none, questionEnd, refusal.ruling, refusal.notices, refusal'.notices,
      judge_questionEnd judged, respond_reject decoded table settings, settled'⟩
  · rw [judged] at decoded
    rw [judged'] at decoded'
    obtain ⟨-, -, -, -, -, spelt, place⟩ := judge_eq_query_iff.mp judged
    obtain ⟨before, settled⟩ := respond_query decoded table settings
    obtain ⟨before', settled'⟩ := respond_query decoded' table settings
    rw [Table.ruling_of_fold_eq (spelt ▸ same)] at settled'
    exact ⟨query.type, query.questionEnd, table.ruling query, before, before', place, settled,
      settled'⟩

/-! ## Replies with the name left open -/

/-- A reply without the name it repeats: its header, what stands behind the name in its question, and
what stands behind the name in its answer, if it has one. -/
structure Stencil where
  header : Octets
  question : Octets
  answer : Option Octets

/-- The reply that spells a name as given. -/
def Stencil.fill (stencil : Stencil) (name : Octets) : Octets :=
  stencil.header ++ (name ++ (stencil.question ++
    match stencil.answer with
    | none => []
    | some behind => name ++ behind))

/-- The stencil of the reply that carries a ruling. -/
def replyStencil (header : Header) (type qclass : UInt16) (ttl : UInt32) (ruling : Ruling) :
    Stencil where
  header := (header.forReply ruling.rcode ruling.answerCount).toOctets
  question := 0 :: (Octets.ofWord16 type ++ Octets.ofWord16 qclass)
  answer := match ruling with
    | .success answer =>
      some (0 :: (Octets.ofWord16 type ++ Octets.ofWord16 qclass) ++ (Octets.ofWord32 ttl ++
        (Octets.ofWord16 (UInt16.ofNat answer.rdata.length) ++ answer.rdata)))
    | _ => none

/-- **A framed reply is its stencil with the name of its packet.** -/
theorem framed_eq_fill {packet name behind : Octets} {type qclass : UInt16}
    (asks : Asks packet name type qclass behind) (ruling : Ruling) (ttl : UInt32) :
    framed packet (headerLength + name.length + questionTail) ruling ttl =
      (replyStencil (headerOf packet) type qclass ttl ruling).fill (nameSpan packet) := by
  have question : questionOctets packet (headerLength + name.length + questionTail) =
      nameSpan packet ++ 0 :: (Octets.ofWord16 type ++ Octets.ofWord16 qclass) := by
    rw [questionOctets, asks.question_eq]
    conv_lhs => rw [asks.name_eq]
    rw [List.append_assoc, List.singleton_append]
  unfold framed
  rw [question]
  cases ruling <;> simp [Stencil.fill, replyStencil, replyHeader, answerOctets]

/-- The positions at which a reply spells its name, of the given length, out: in the question, and
once more in front of an answer. -/
def InEcho (length position : Nat) : Prop :=
  (12 ≤ position ∧ position < 12 + length) ∨
    (17 + length ≤ position ∧ position < 17 + 2 * length)

/-- The reply spells a name as given, in its question and in front of an answer. -/
structure Echoes (name reply : Octets) : Prop where
  question : (reply.drop 12).take name.length = name
  answer : 17 + name.length < reply.length →
    (reply.drop (17 + name.length)).take name.length = name

/-- Two replies are the same, except that each spells the name as its own datagram does. -/
structure SameButEcho (name other reply reply' : Octets) : Prop where
  length : reply'.length = reply.length
  outside : ∀ position, ¬ InEcho name.length position → reply'[position]? = reply[position]?
  echo : Echoes name reply
  echo' : Echoes other reply'

theorem getElem?_append_replaced {front old new back : Octets} (same : new.length = old.length)
    {position : Nat} (outside : position < front.length ∨ front.length + old.length ≤ position) :
    (front ++ (new ++ back))[position]? = (front ++ (old ++ back))[position]? := by
  rcases outside with before | behind
  · rw [List.getElem?_append_left before, List.getElem?_append_left before]
  · rw [List.getElem?_append_right (by omega), List.getElem?_append_right (by omega),
      List.getElem?_append_right (by omega), List.getElem?_append_right (by omega), same]

namespace Stencil

variable {stencil : Stencil} (header : stencil.header.length = 12)
  (question : stencil.question.length = 5)
include header question

theorem echoes_fill (name : Octets) : Echoes name (stencil.fill name) := by
  have front : (stencil.fill name).drop 12 = name ++ (stencil.question ++
      match stencil.answer with
      | none => []
      | some behind => name ++ behind) := by
    rw [fill, ← header, List.drop_left]
  refine ⟨by rw [front, List.take_left], fun long => ?_⟩
  have skip : 17 + name.length = 12 + (name ++ stencil.question).length := by
    rw [List.length_append, question]
    omega
  rw [skip, ← List.drop_drop, front, ← List.append_assoc, List.drop_left]
  cases answered : stencil.answer with
  | none =>
    -- the reply ends behind its question
    rw [fill, answered] at long
    simp only [List.length_append, List.length_nil, header, question] at long
    omega
  | some behind => rw [List.take_left]

theorem sameButEcho_fill {name other : Octets} (same : other.length = name.length) :
    SameButEcho name other (stencil.fill name) (stencil.fill other) := by
  refine ⟨?_, fun position outside => ?_, echoes_fill header question name,
    echoes_fill header question other⟩
  · unfold fill
    cases stencil.answer <;> simp [same]
  · unfold InEcho at outside
    unfold fill
    rw [getElem?_append_replaced same (by omega)]
    cases stencil.answer with
    | none => rfl
    | some behind =>
      have length : (stencil.header ++ (name ++ stencil.question)).length = 17 + name.length := by
        simp only [List.length_append, header, question]
        omega
      have second :
          (stencil.header ++ (name ++ stencil.question) ++ (other ++ behind))[position]? =
            (stencil.header ++ (name ++ stencil.question) ++ (name ++ behind))[position]? :=
        getElem?_append_replaced same (by omega)
      simpa only [List.append_assoc] using second

end Stencil

/-! ## Replies -/

/-- **The case of letters decides nothing.**  Respelt datagrams are both left without a reply, or get
replies of the same length that agree in every octet outside the names they repeat, and each repeats
the name as its own datagram spells it. -/
theorem respond_of_respelt {packet other : Octets} (respelt : Respelt packet other) (table : Table)
    (settings : Settings) :
    ((respond table settings packet).outcome.reply? = none ∧
      (respond table settings other).outcome.reply? = none) ∨
    ∃ reply reply', (respond table settings packet).outcome.reply? = some reply ∧
      (respond table settings other).outcome.reply? = some reply' ∧
      SameButEcho (nameSpan packet) (nameSpan other) reply reply' := by
  have long := respelt.length_nameSpan
  rcases drop_or_asks packet with ⟨reason, dropped⟩ | ⟨name, type, qclass, behind, asks⟩
  · rcases drop_or_asks other with ⟨reason', dropped'⟩ | ⟨name, type, qclass, behind, asks⟩
    · rw [respond_drop dropped, respond_drop dropped']
      exact .inl ⟨rfl, rfl⟩
    · -- a datagram that asks a question asks it in the other spelling too
      rw [decode_of_asks (respelt.symm.asks asks)] at dropped
      exact absurd dropped (judge_ne_drop _ _ _ _ reason)
  obtain ⟨asked, questionEnd, ruling, before, before', rfl, settled, settled'⟩ :=
    settled_of_respelt respelt asks table settings
  have asks' := respelt.asks asks
  have size : packet.length = other.length := by
    rw [asks.length_eq, asks'.length_eq, asks.name_eq, List.length_append, List.length_append, long]
  have place : headerLength + (nameSpan other ++ [0]).length + questionTail =
      headerLength + name.length + questionTail := by
    rw [asks.name_eq, List.length_append, List.length_append, long]
  rw [settled, settled', outcome_settle, outcome_settle, size]
  cases frameFault? other.length (headerLength + name.length + questionTail) ruling with
  | some error => exact .inl ⟨rfl, rfl⟩
  | none =>
    have filled := framed_eq_fill asks ruling settings.ttl
    have filled' := framed_eq_fill asks' ruling settings.ttl
    rw [place, headerOf_eq_of_take_eq respelt.header] at filled'
    refine .inr ⟨_, _, rfl, rfl, ?_⟩
    rw [filled, filled']
    exact Stencil.sameButEcho_fill (Header.length_toOctets _) rfl long

/-- The query for the addresses of `a`, asked in capitals. -/
def capitalPacket : Octets := [0, 7, 1, 0, 0, 1, 0, 0, 0, 0, 0, 0, 1, 0x41, 0, 0, 1, 0, 1]

theorem respond_to_capitalPacket :
    Respelt hostPacket capitalPacket ∧
      (respond ⟨[hostRecord]⟩ {} hostPacket).outcome.reply? = some hostReply ∧
      ∃ reply, (respond ⟨[hostRecord]⟩ {} capitalPacket).outcome.reply? = some reply ∧
        reply.length = hostReply.length ∧ (reply.drop 12).take 2 = [1, 0x41] ∧
        (reply.drop 19).take 2 = [1, 0x41] ∧
        ∀ position, 21 ≤ position → reply[position]? = hostReply[position]? := by
  have respelt : Respelt hostPacket capitalPacket := by
    constructor <;> decide
  have sent : (respond ⟨[hostRecord]⟩ {} hostPacket).outcome.reply? = some hostReply := by
    decide +kernel
  have spelt : nameSpan hostPacket = [1, 0x61] := by decide
  have spelt' : nameSpan capitalPacket = [1, 0x41] := by decide
  rcases respond_of_respelt respelt ⟨[hostRecord]⟩ {} with
    ⟨silent, -⟩ | ⟨reply, reply', sent₁, sent₂, same⟩
  · rw [sent] at silent
    cases silent
  obtain rfl : hostReply = reply := Option.some.inj (sent.symm.trans sent₁)
  rw [spelt, spelt'] at same
  have long : 19 < reply'.length := by
    rw [same.length]
    decide
  refine ⟨respelt, sent, reply', sent₂, same.length, same.echo'.question, same.echo'.answer long,
    fun position behind => same.outside position ?_⟩
  unfold InEcho
  simp only [List.length_cons, List.length_nil]
  omega

end StaticDns
