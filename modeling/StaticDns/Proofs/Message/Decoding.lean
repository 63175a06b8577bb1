import StaticDns.Message.Query
import StaticDns.Proofs.Message.Fields
import StaticDns.Proofs.Name.Tiling

/-!
# StaticDns.Proofs.Message.Decoding — what is made of a datagram

A datagram that is not dropped asks a question that is all there: a name up to its first zero octet,
a type and a class.  `Asks` says so, and everything later about rejected and accepted datagrams
starts from it.

* `decode_of_asks`: the question that a datagram asks is judged.
* `drop_or_asks`: a datagram that asks none is dropped.
* `judge_eq_query_iff`: which questions are accepted.
* `Asks.bounds`: where the question ends.
-/

namespace StaticDns

open Message

/-! ## The first zero octet -/

theorem splitName?_append {front : Octets} (nonzero : ∀ octet ∈ front, octet ≠ 0)
    (behind : Octets) : splitName? (front ++ 0 :: behind) = some (front ++ [0], behind) := by
  induction front with
  | nil => rfl
  | cons octet front ih =>
    obtain ⟨first, nonzero⟩ := List.forall_mem_cons.mp nonzero
    rw [List.cons_append, splitName?, if_neg first, ih nonzero]
    rfl

theorem splitName?_eq_none_iff {octets : Octets} :
    splitName? octets = none ↔ ∀ octet ∈ octets, octet ≠ 0 := by
  induction octets with
  | nil => simp [splitName?]
  | cons octet rest ih =>
    by_cases zero : octet = 0
    · simp [splitName?, zero]
    · simp [splitName?, zero, ih]

/-! ## Datagrams that ask a question -/

/-- A datagram that is no response, counts at least one question and holds the whole of one: its
name up to the first zero octet, its type and its class. -/
structure Asks (packet name : Octets) (type qclass : UInt16) (behind : Octets) : Prop where
  counted : questionCount packet ≠ 0
  asked : responseBit packet = 0
  ended : ∃ front, (∀ octet ∈ front, octet ≠ 0) ∧ name = front ++ [0]
  body : packet.drop headerLength =
    name ++ (Octets.ofWord16 type ++ (Octets.ofWord16 qclass ++ behind))

/-- A rejected question keeps its place. -/
theorem judge_questionEnd {header : Header} {name : Octets} {type qclass : UInt16}
    {refusal : Refusal} {questionEnd : Nat}
    (h : judge header name type qclass = .reject refusal questionEnd) :
    questionEnd = headerLength + name.length + questionTail := by
  unfold judge at h
  dsimp only at h
  split at h
  · cases h
    rfl
  · split_ifs at h
    · cases h
      rfl
    · split at h
      · cases h
        rfl
      · cases h

/-- **Which questions are accepted**: those of a served type and class in a standard query whose
name is sound. -/
theorem judge_eq_query_iff {header : Header} {name : Octets} {type qclass : UInt16} {query : Query} :
    judge header name type qclass = .query query ↔
      type = query.type.code ∧ qclass = classIn ∧ header.flags.opcode = 0 ∧
        Name.validate name = .ok () ∧ query.header = header ∧ query.name = name ∧
        query.questionEnd = headerLength + name.length + questionTail := by
  unfold judge
  dsimp only
  constructor
  · intro h
    split at h
    · cases h
    · rename_i served known
      rw [RecordType.ofCode?_eq_some_iff] at known
      split_ifs at h with other
      rw [not_or, not_not, not_not] at other
      split at h
      · cases h
      · rename_i sound
        cases h
        exact ⟨known, other.1, other.2, sound, rfl, rfl, rfl⟩
  · rintro ⟨rfl, rfl, standard, sound, rfl, rfl, questionEnd⟩
    have known : RecordType.ofCode? query.type.code = some query.type :=
      RecordType.ofCode?_eq_some_iff.mpr rfl
    simp only [known, standard, sound, ne_eq, not_true_eq_false, or_self, if_false, ← questionEnd]

namespace Asks

variable {packet name behind : Octets} {type qclass : UInt16}

theorem positive (h : Asks packet name type qclass behind) : 1 ≤ name.length := by
  obtain ⟨front, -, rfl⟩ := h.ended
  simp

theorem length_eq (h : Asks packet name type qclass behind) :
    packet.length = headerLength + name.length + questionTail + behind.length := by
  have positive := h.positive
  have lengths := congrArg List.length h.body
  simp only [List.length_drop, List.length_append, Octets.length_ofWord16, headerLength,
    questionTail] at lengths ⊢
  omega

/-- The end of a question lies inside its datagram, and not before the end of the shortest one. -/
theorem bounds (h : Asks packet name type qclass behind) :
    17 ≤ headerLength + name.length + questionTail ∧
      headerLength + name.length + questionTail ≤ packet.length := by
  have positive := h.positive
  have length := h.length_eq
  simp only [headerLength, questionTail] at length ⊢
  omega

theorem header_le (h : Asks packet name type qclass behind) : headerLength ≤ packet.length := by
  have bounds := h.bounds
  omega

/-- The octets of a question are its name, its type and its class. -/
theorem question_eq (h : Asks packet name type qclass behind) :
    (packet.take (headerLength + name.length + questionTail)).drop headerLength =
      name ++ (Octets.ofWord16 type ++ Octets.ofWord16 qclass) := by
  have whole : name ++ (Octets.ofWord16 type ++ (Octets.ofWord16 qclass ++ behind)) =
      (name ++ (Octets.ofWord16 type ++ Octets.ofWord16 qclass)) ++ behind := by
    simp only [List.append_assoc]
  have length : (name ++ (Octets.ofWord16 type ++ Octets.ofWord16 qclass)).length =
      headerLength + name.length + questionTail - headerLength := by
    simp only [List.length_append, Octets.length_ofWord16, headerLength, questionTail]
    omega
  rw [List.drop_take, h.body, whole, ← length, List.take_left]

end Asks

/-! ## Every datagram -/

section Decode

variable {packet : Octets}

theorem decode_of_short (short : packet.length < headerLength) :
    decode packet = .drop .truncatedQuestion := by
  simp [decode, (Header.read?_eq_none_iff packet).mpr short]

variable (long : headerLength ≤ packet.length)
include long

theorem decode_of_uncounted (uncounted : questionCount packet = 0) :
    decode packet = .drop .noQuestions := by
  simp [decode, read?_eq_headerOf long, (questions_headerOf packet).mpr uncounted]

variable (counted : questionCount packet ≠ 0)
include counted

theorem decode_of_response (response : responseBit packet = 1) :
    decode packet = .drop .responsePacket := by
  have questions : (headerOf packet).questions ≠ 0 := mt (questions_headerOf packet).mp counted
  simp [decode, read?_eq_headerOf long, questions, (qr_headerOf packet).mpr response]

variable (asked : responseBit packet = 0)
include asked

/-- Past the header, a datagram is judged by what its first zero octet splits off. -/
theorem decode_of_query_header : decode packet =
    match splitName? (packet.drop headerLength) with
    | some (name, t₁ :: t₀ :: c₁ :: c₀ :: _) =>
      judge (headerOf packet) name (Octets.word16 t₁ t₀) (Octets.word16 c₁ c₀)
    | _ => .drop .truncatedQuestion := by
  have questions : (headerOf packet).questions ≠ 0 := mt (questions_headerOf packet).mp counted
  have query : ¬ (headerOf packet).flags.qr = true := by
    rw [qr_headerOf, asked]
    decide
  unfold decode
  rw [read?_eq_headerOf long]
  dsimp only
  exact (if_neg questions).trans (if_neg query)

theorem decode_of_endless (endless : splitName? (packet.drop headerLength) = none) :
    decode packet = .drop .truncatedQuestion := by
  rw [decode_of_query_header long counted asked, endless]

theorem decode_of_cut_short {name behind : Octets}
    (split : splitName? (packet.drop headerLength) = some (name, behind))
    (short : behind.length < questionTail) : decode packet = .drop .truncatedQuestion := by
  rw [decode_of_query_header long counted asked, split]
  simp only [questionTail] at short
  match behind, short with
  | [], _ | [_], _ | [_, _], _ | [_, _, _], _ => rfl
  | _ :: _ :: _ :: _ :: rest, short =>
    simp only [List.length_cons] at short
    omega

omit long in
theorem asks_of_split {name behind : Octets}
    (split : splitName? (packet.drop headerLength) = some (name, behind))
    (enough : questionTail ≤ behind.length) :
    ∃ type qclass rest, Asks packet name type qclass rest := by
  obtain ⟨front, nonzero, rfl, body⟩ := splitName?_eq_some split
  match behind, enough with
  | t₁ :: t₀ :: c₁ :: c₀ :: rest, _ =>
    refine ⟨Octets.word16 t₁ t₀, Octets.word16 c₁ c₀, rest, counted, asked,
      ⟨front, nonzero, rfl⟩, ?_⟩
    rw [body, Octets.ofWord16_word16, Octets.ofWord16_word16]
    rfl

end Decode

theorem splitName?_of_asks {packet name behind : Octets} {type qclass : UInt16}
    (h : Asks packet name type qclass behind) :
    splitName? (packet.drop headerLength) =
      some (name, Octets.ofWord16 type ++ (Octets.ofWord16 qclass ++ behind)) := by
  obtain ⟨front, nonzero, rfl⟩ := h.ended
  rw [h.body, List.append_assoc]
  exact splitName?_append nonzero _

/-- The question that a datagram asks is judged. -/
theorem decode_of_asks {packet name behind : Octets} {type qclass : UInt16}
    (h : Asks packet name type qclass behind) :
    decode packet = judge (headerOf packet) name type qclass := by
  rw [decode_of_query_header h.header_le h.counted h.asked, splitName?_of_asks h]
  simp only [Octets.ofWord16, List.cons_append, List.nil_append, Octets.word16_ofWord16]

/-- **Every datagram is dropped or asks a question.** -/
theorem drop_or_asks (packet : Octets) :
    (∃ reason, decode packet = .drop reason) ∨
      ∃ name type qclass behind, Asks packet name type qclass behind := by
  rcases Nat.lt_or_ge packet.length headerLength with short | long
  · exact .inl ⟨_, decode_of_short short⟩
  rcases eq_or_ne (questionCount packet) 0 with uncounted | counted
  · exact .inl ⟨_, decode_of_uncounted long uncounted⟩
  rcases responseBit_eq packet with asked | response
  · cases split : splitName? (packet.drop headerLength) with
    | none => exact .inl ⟨_, decode_of_endless long counted asked split⟩
    | some parts =>
      rcases Nat.lt_or_ge parts.2.length questionTail with short | enough
      · exact .inl ⟨_, decode_of_cut_short long counted asked split short⟩
      · exact .inr ⟨_, asks_of_split counted asked split enough⟩
  · exact .inl ⟨_, decode_of_response long counted response⟩

theorem asks_of_decode_query {packet : Octets} {query : Query} (h : decode packet = .query query) :
    ∃ type qclass behind, Asks packet query.name type qclass behind ∧
      judge (headerOf packet) query.name type qclass = .query query := by
  rcases drop_or_asks packet with ⟨reason, dropped⟩ | ⟨name, type, qclass, behind, asks⟩
  · rw [dropped] at h
    cases h
  · rw [decode_of_asks asks] at h
    obtain ⟨-, -, -, -, -, rfl, -⟩ := judge_eq_query_iff.mp h
    exact ⟨type, qclass, behind, asks, h⟩

end StaticDns
