import StaticDns.Proofs.Message.Decoding

/-!
# StaticDns.Proofs.Message.Grammar — which datagrams are queries

Queries have a grammar: a header that asks, a name of plain labels, a type, the Internet class, and
anything behind.  The decoder never looks at it as such.  It cuts a datagram at its first zero octet
and only then walks the labels, so that zero octets inside labels, lengths over the limit and labels
that swallow the terminator all have to come out as refusals.

* `IsQuery`: the grammar.
* `firstRule`: what becomes of any other datagram, by the first rule that applies to it.
* `decode_follows_grammar`: the decoder accepts exactly the grammar and follows the rules elsewhere.
-/

namespace StaticDns

open Message

/-! ## The grammar -/

/-- A header that asks: twelve octets, no response, a standard query, at least one question. -/
structure IsAskingHeader (header : Octets) : Prop where
  length : header.length = 12
  query : responseBit header = 0
  standard : opcodeBits header = 0
  counted : questionCount header ≠ 0

/-- A label of 1 to 63 octets, none of them zero. -/
def PlainLabel (label : Octets) : Prop :=
  1 ≤ label.length ∧ label.length ≤ 63 ∧ ∀ octet ∈ label, octet ≠ 0

/-- The octets of a record type in a question. -/
def typeOctets : RecordType → Octets
  | .a => [0, 1]
  | .ptr => [0, 12]

/-- A datagram that is a query for a name and a type, with its question up to `questionEnd`. -/
structure IsQuery (packet name : Octets) (type : RecordType) (questionEnd : Nat) : Prop where
  parts : ∃ header rest, IsAskingHeader header ∧
    packet = header ++ name ++ typeOctets type ++ [0, 1] ++ rest
  plain : ∃ labels, (∀ label ∈ labels, PlainLabel label) ∧ name = Name.ofLabels labels
  ends : questionEnd = 12 + name.length + 4

/-! ## The rules for everything else -/

/-- What becomes of a datagram that is no query. -/
inductive Verdict where
  | drop (reason : DropReason)
  | reject (rcode : Rcode) (questionEnd : Nat)
  deriving DecidableEq, Repr

/-- The verdict on a datagram that has not been accepted. -/
def Decoded.verdict? : Decoded → Option Verdict
  | .drop reason => some (.drop reason)
  | .reject refusal questionEnd => some (.reject refusal.rcode questionEnd)
  | .query _ => none

/-- The position of the first zero octet behind the header. -/
def firstZero? (packet : Octets) : Option Nat :=
  ((packet.drop 12).findIdx? (· == 0)).map (12 + ·)

/-- The verdict of the first rule that applies to a datagram. -/
def firstRule (packet : Octets) : Verdict :=
  if packet.length < 12 then .drop .truncatedQuestion
  else if questionCount packet = 0 then .drop .noQuestions
  else if responseBit packet = 1 then .drop .responsePacket
  else match firstZero? packet with
  | none => .drop .truncatedQuestion
  | some stop =>
    if packet.length < stop + 5 then .drop .truncatedQuestion
    else if wordAt packet (stop + 1) ∉ [1, 12] ∨ wordAt packet (stop + 3) ≠ 1 ∨
        opcodeBits packet ≠ 0 then .reject .notImp (stop + 5)
    else .reject .formErr (stop + 5)

/-! ## From the grammar to the decoder and back -/

theorem typeOctets_eq (type : RecordType) : typeOctets type = Octets.ofWord16 type.code := by
  cases type <;> rfl

theorem PlainLabel.valid {label : Octets} (h : PlainLabel label) : Name.ValidLabel label :=
  ⟨h.1, h.2.1⟩

/-- The written form of plain labels has no zero octet, so the first one ends the name. -/
theorem ne_zero_of_mem_wire {labels : List Octets} (plain : ∀ label ∈ labels, PlainLabel label) :
    ∀ octet ∈ labels.flatMap Name.labelWire, octet ≠ 0 := by
  intro octet mem
  obtain ⟨label, member, mem⟩ := List.mem_flatMap.mp mem
  obtain ⟨positive, bound, nonzero⟩ := plain label member
  rcases List.mem_cons.mp mem with rfl | mem
  · intro zero
    have length := congrArg UInt8.toNat zero
    rw [UInt8.toNat_ofNat'] at length
    simp only [UInt8.toNat_zero] at length
    omega
  · exact nonzero octet mem

theorem IsQuery.asks {packet name : Octets} {type : RecordType} {questionEnd : Nat}
    (h : IsQuery packet name type questionEnd) :
    (∃ behind, Asks packet name type.code classIn behind) ∧ opcodeBits packet = 0 := by
  obtain ⟨⟨header, rest, asking, rfl⟩, ⟨labels, plain, rfl⟩, -⟩ := h
  have long := asking.length
  have tail : header ++ Name.ofLabels labels ++ typeOctets type ++ [0, 1] ++ rest =
      header ++ (Name.ofLabels labels ++ (Octets.ofWord16 type.code ++
        (Octets.ofWord16 classIn ++ rest))) := by
    rw [typeOctets_eq]
    simp only [List.append_assoc]
    rfl
  rw [tail]
  refine ⟨⟨rest, ?_, ?_, ⟨_, ne_zero_of_mem_wire plain, rfl⟩, ?_⟩, ?_⟩
  · rw [questionCount, wordAt_append_left (by omega)]
    exact asking.counted
  · rw [responseBit, wordAt_append_left (by omega)]
    exact asking.query
  · exact List.drop_left' long
  · rw [opcodeBits, wordAt_append_left (by omega)]
    exact asking.standard

theorem IsQuery.validate {packet name : Octets} {type : RecordType} {questionEnd : Nat}
    (h : IsQuery packet name type questionEnd) : Name.validate name = .ok () := by
  obtain ⟨labels, plain, rfl⟩ := h.plain
  exact Name.validate_eq_ok_iff.mpr ⟨labels, fun label mem => (plain label mem).valid, rfl⟩

theorem Asks.isQuery {packet name behind : Octets} {type : RecordType}
    (h : Asks packet name type.code classIn behind) (standard : opcodeBits packet = 0)
    (sound : Name.validate name = .ok ()) :
    IsQuery packet name type (headerLength + name.length + questionTail) := by
  have long := h.header_le
  have whole : packet.take headerLength ++ packet.drop headerLength = packet :=
    List.take_append_drop headerLength packet
  have length : (packet.take headerLength).length = 12 := List.length_take_of_le long
  obtain ⟨front, nonzero, same⟩ := h.ended
  obtain ⟨labels, valid, rfl⟩ := Name.validate_eq_ok_iff.mp sound
  have tiles : labels.flatMap Name.labelWire = front := List.append_cancel_right same
  refine ⟨⟨packet.take headerLength, behind, ⟨length, ?_, ?_, ?_⟩, ?_⟩, ⟨labels, ?_, rfl⟩, rfl⟩
  · have asked := h.asked
    rwa [responseBit, ← whole, wordAt_append_left (by omega)] at asked
  · rwa [opcodeBits, ← whole, wordAt_append_left (by omega)] at standard
  · have counted := h.counted
    rwa [questionCount, ← whole, wordAt_append_left (by omega)] at counted
  · rw [typeOctets_eq]
    conv_lhs => rw [← whole, h.body]
    simp only [List.append_assoc]
    rfl
  · -- the octets of a label are among those in front of the first zero octet
    intro label mem
    refine ⟨(valid label mem).1, (valid label mem).2, fun octet inside => nonzero octet ?_⟩
    rw [← tiles]
    exact List.mem_flatMap.mpr ⟨label, mem, List.mem_cons_of_mem _ inside⟩

theorem decode_eq_query_iff_isQuery (packet : Octets) (query : Query) :
    decode packet = .query query ↔
      query.header = headerOf packet ∧
        IsQuery packet query.name query.type query.questionEnd := by
  constructor
  · intro accepted
    obtain ⟨type, qclass, behind, asks, judged⟩ := asks_of_decode_query accepted
    obtain ⟨rfl, rfl, standard, sound, header, -, ends⟩ := judge_eq_query_iff.mp judged
    rw [ends]
    exact ⟨header, asks.isQuery ((opcode_headerOf_eq_zero_iff packet).mp standard) sound⟩
  · rintro ⟨header, isQuery⟩
    obtain ⟨⟨behind, asks⟩, standard⟩ := isQuery.asks
    rw [decode_of_asks asks, judge_eq_query_iff]
    exact ⟨rfl, rfl, (opcode_headerOf_eq_zero_iff packet).mpr standard, isQuery.validate, header,
      rfl, isQuery.ends⟩

/-! ## The rules -/

theorem findIdx?_append_zero {front : Octets} (nonzero : ∀ octet ∈ front, octet ≠ 0)
    (behind : Octets) : (front ++ 0 :: behind).findIdx? (· == 0) = some front.length := by
  induction front with
  | nil => rfl
  | cons octet front ih =>
    obtain ⟨first, nonzero⟩ := List.forall_mem_cons.mp nonzero
    have skipped : ¬ (octet == 0) = true := by simpa using first
    rw [List.cons_append, List.findIdx?_cons, if_neg skipped, ih nonzero]
    rfl

theorem firstZero?_of_split {packet name behind : Octets}
    (split : splitName? (packet.drop headerLength) = some (name, behind)) :
    firstZero? packet = some (11 + name.length) := by
  obtain ⟨front, nonzero, rfl, body⟩ := splitName?_eq_some split
  have tail : packet.drop 12 = front ++ 0 :: behind := by
    rw [show packet.drop 12 = _ from body, List.append_assoc]
    rfl
  rw [firstZero?, tail, findIdx?_append_zero nonzero]
  simp
  omega

theorem firstZero?_of_endless {packet : Octets}
    (endless : splitName? (packet.drop headerLength) = none) : firstZero? packet = none := by
  rw [splitName?_eq_none_iff] at endless
  rw [firstZero?, Option.map_eq_none_iff, List.findIdx?_eq_none_iff]
  intro octet mem
  simpa using endless octet mem

namespace Asks

variable {packet name behind : Octets} {type qclass : UInt16}
  (h : Asks packet name type qclass behind)
include h

theorem firstZero?_eq : firstZero? packet = some (11 + name.length) :=
  firstZero?_of_split (splitName?_of_asks h)

/-- The word at a position behind the name is the one that stands there in the question. -/
theorem wordAt_behind_name (position : Nat) :
    wordAt packet (headerLength + name.length + position) =
      wordAt (Octets.ofWord16 type ++ (Octets.ofWord16 qclass ++ behind)) position := by
  have long := h.header_le
  have length : (packet.take headerLength ++ name).length = headerLength + name.length := by
    rw [List.length_append, List.length_take_of_le long]
  rw [← List.take_append_drop headerLength packet, h.body, ← List.append_assoc,
    wordAt_append_add length]

theorem type_at : wordAt packet (11 + name.length + 1) = type.toNat := by
  have position : 11 + name.length + 1 = headerLength + name.length + 0 := by
    simp only [headerLength]
    omega
  rw [position, h.wordAt_behind_name, wordAt_ofWord16_append]

theorem class_at : wordAt packet (11 + name.length + 3) = qclass.toNat := by
  have position : 11 + name.length + 3 = headerLength + name.length + 2 := by
    simp only [headerLength]
    omega
  rw [position, h.wordAt_behind_name]
  show wordAt _ (2 + 0) = _
  rw [wordAt_append_add (Octets.length_ofWord16 type), wordAt_ofWord16_append]

end Asks

theorem ofCode?_eq_none_iff (code : UInt16) :
    RecordType.ofCode? code = none ↔ code.toNat ∉ [1, 12] := by
  have one : code = 1 ↔ code.toNat = 1 := UInt16.toNat_inj.symm
  have twelve : code = 12 ↔ code.toNat = 12 := UInt16.toNat_inj.symm
  unfold RecordType.ofCode?
  split_ifs <;> simp_all

/-- A question that is not accepted is rejected: as not implemented for its type, its class or its
opcode, and otherwise for its name. -/
theorem verdict?_judge {header : Header} {name : Octets} {type qclass : UInt16}
    (refused : ∀ query, judge header name type qclass ≠ .query query) :
    (judge header name type qclass).verdict? =
      some (.reject
        (if type.toNat ∉ [1, 12] ∨ qclass.toNat ≠ 1 ∨ header.flags.opcode ≠ 0 then .notImp
          else .formErr)
        (headerLength + name.length + questionTail)) := by
  have internet : qclass ≠ classIn ↔ qclass.toNat ≠ 1 := not_congr UInt16.toNat_inj.symm
  unfold judge at refused ⊢
  dsimp only at refused ⊢
  cases known : RecordType.ofCode? type with
  | none => rw [if_pos (.inl ((ofCode?_eq_none_iff type).mp known))]; rfl
  | some served =>
    have type_known : ¬ type.toNat ∉ [1, 12] := by
      rw [← ofCode?_eq_none_iff, known]
      simp
    rw [known] at refused
    by_cases other : qclass ≠ classIn ∨ header.flags.opcode ≠ 0
    · simp only [if_pos other]
      rw [internet] at other
      rw [if_pos (.inr other)]
      rfl
    · simp only [if_neg other] at refused ⊢
      rw [internet] at other
      rw [if_neg (not_or.mpr ⟨type_known, other⟩)]
      cases checked : Name.validate name with
      | error fault => rfl
      | ok _ => simp [checked] at refused

/-- The rules reject every datagram that asks a question. -/
theorem firstRule_of_asks {packet name behind : Octets} {type qclass : UInt16}
    (h : Asks packet name type qclass behind) :
    firstRule packet =
      .reject
        (if type.toNat ∉ [1, 12] ∨ qclass.toNat ≠ 1 ∨ (headerOf packet).flags.opcode ≠ 0 then .notImp
          else .formErr)
        (headerLength + name.length + questionTail) := by
  have length := h.length_eq
  have bounds := h.bounds
  have ends : 11 + name.length + 5 = headerLength + name.length + questionTail := by
    simp only [headerLength, questionTail]
    omega
  have long : ¬ packet.length < 12 := by omega
  have whole : ¬ packet.length < 11 + name.length + 5 := by omega
  have asked : ¬ responseBit packet = 1 := by
    rw [h.asked]
    decide
  unfold firstRule
  rw [if_neg long, if_neg h.counted, if_neg asked, h.firstZero?_eq]
  dsimp only
  rw [if_neg whole, h.type_at, h.class_at, ends]
  simp only [ne_eq, opcode_headerOf_eq_zero_iff]
  split_ifs <;> rfl

/-! ## The decoder -/

/-- **The decoder follows the rules** on everything that is no query. -/
theorem verdict?_decode {packet : Octets} (refused : ∀ query, decode packet ≠ .query query) :
    (decode packet).verdict? = some (firstRule packet) := by
  rcases Nat.lt_or_ge packet.length 12 with short | long
  · rw [decode_of_short short, firstRule, if_pos short]
    rfl
  have enough : ¬ packet.length < 12 := Nat.not_lt.mpr long
  rcases eq_or_ne (questionCount packet) 0 with uncounted | counted
  · rw [decode_of_uncounted long uncounted, firstRule, if_neg enough, if_pos uncounted]
    rfl
  rcases responseBit_eq packet with asked | response
  · have query : ¬ responseBit packet = 1 := by
      rw [asked]
      decide
    cases split : splitName? (packet.drop headerLength) with
    | none =>
      rw [decode_of_endless long counted asked split, firstRule, if_neg enough, if_neg counted,
        if_neg query, firstZero?_of_endless split]
      rfl
    | some parts =>
      obtain ⟨name, behind⟩ := parts
      rcases Nat.lt_or_ge behind.length questionTail with short | whole
      · have cut : packet.length < 11 + name.length + 5 := by
          obtain ⟨front, -, rfl, body⟩ := splitName?_eq_some split
          have lengths := congrArg List.length body
          simp only [List.length_drop, List.length_append, List.length_singleton, headerLength,
            questionTail] at lengths short ⊢
          omega
        rw [decode_of_cut_short long counted asked split short, firstRule, if_neg enough,
          if_neg counted, if_neg query, firstZero?_of_split split]
        simp only [if_pos cut]
        rfl
      · obtain ⟨type, qclass, rest, asks⟩ := asks_of_split counted asked split whole
        rw [decode_of_asks asks] at refused ⊢
        rw [verdict?_judge refused, firstRule_of_asks asks]
  · rw [decode_of_response long counted response, firstRule, if_neg enough, if_neg counted,
      if_pos response]
    rfl

/-- A rejected question ends with the type and the class behind the first zero octet. -/
theorem bounds_of_reject {packet : Octets} {refusal : Refusal} {questionEnd : Nat}
    (rejected : decode packet = .reject refusal questionEnd) :
    ∃ stop, firstZero? packet = some stop ∧ questionEnd = stop + 5 ∧ 17 ≤ questionEnd ∧
      questionEnd ≤ packet.length := by
  rcases drop_or_asks packet with ⟨reason, dropped⟩ | ⟨name, type, qclass, behind, asks⟩
  · rw [dropped] at rejected
    cases rejected
  · rw [decode_of_asks asks] at rejected
    rw [judge_questionEnd rejected]
    refine ⟨_, asks.firstZero?_eq, ?_, asks.bounds⟩
    simp only [headerLength, questionTail]
    omega

/-- **The decoder accepts exactly the grammar of queries**, each in one way only, and follows the
rules, the first that applies, on every other datagram.  A rejected question ends with the four
octets behind the first zero octet. -/
theorem decode_follows_grammar (packet : Octets) :
    (∀ query, decode packet = .query query ↔
      query.header = headerOf packet ∧
        IsQuery packet query.name query.type query.questionEnd) ∧
    (∀ n t e n' t' e', IsQuery packet n t e → IsQuery packet n' t' e' → n = n' ∧ t = t' ∧ e = e') ∧
    ((∀ n t e, ¬ IsQuery packet n t e) → (decode packet).verdict? = some (firstRule packet)) ∧
    ∀ refusal questionEnd, decode packet = .reject refusal questionEnd →
      ∃ stop, firstZero? packet = some stop ∧ questionEnd = stop + 5 ∧ 17 ≤ questionEnd ∧
        questionEnd ≤ packet.length := by
  have accepts := decode_eq_query_iff_isQuery packet
  refine ⟨accepts, ?_, ?_, fun _ _ => bounds_of_reject⟩
  · intro n t e n' t' e' h h'
    have first := (accepts ⟨headerOf packet, n, t, e⟩).mpr ⟨rfl, h⟩
    rw [(accepts ⟨headerOf packet, n', t', e'⟩).mpr ⟨rfl, h'⟩] at first
    cases first
    exact ⟨rfl, rfl, rfl⟩
  · intro other
    exact verdict?_decode fun query accepted => other _ _ _ ((accepts query).mp accepted).2

end StaticDns
