import StaticDns.Message.Code
import StaticDns.Message.Header
import StaticDns.Name

/-!
# StaticDns.Message.Query — reading a datagram as a query

`decode` sorts a datagram into one of three: it is dropped without an answer, rejected with a
code that echoes its question, or accepted as a query. The question is found by its first zero octet,
which ends the name, and only a query that is about to be accepted has its labels checked.

* `splitName?_eq_some`: a split name ends in the only zero octet of it.
-/

namespace StaticDns

inductive DropReason where
  | noQuestions
  | responsePacket
  | truncatedQuestion
  deriving DecidableEq, Repr

def DropReason.text : DropReason → String
  | .noQuestions => "packet has 0 queries"
  | .responsePacket => "response packet"
  | .truncatedQuestion => "question section truncated"

/-- The label under which dropped datagrams are counted. -/
def DropReason.label : DropReason → String
  | .noQuestions => "no_questions"
  | .responsePacket => "response_packet"
  | .truncatedQuestion => "truncated_question"

inductive Refusal where
  /-- The type, the class or the operation is not served. -/
  | notImplemented
  /-- The name is not a sequence of labels. -/
  | malformedName (error : NameError)
  deriving DecidableEq, Repr

def Refusal.rcode : Refusal → Rcode
  | .notImplemented => .notImp
  | .malformedName _ => .formErr

/-- A query for a record of the Internet class. -/
structure Query where
  header : Header
  /-- The name as it stands on the wire, terminator included. -/
  name : Octets
  type : RecordType
  /-- The position behind the question. -/
  questionEnd : Nat
  deriving DecidableEq, Repr

/-- What a datagram is taken for. -/
inductive Decoded where
  | drop (reason : DropReason)
  | reject (refusal : Refusal) (questionEnd : Nat)
  | query (query : Query)
  deriving DecidableEq, Repr

/-- The octets up to and including the first zero octet, and the octets behind it. -/
def splitName? : Octets → Option (Octets × Octets)
  | [] => none
  | octet :: rest =>
    if octet = 0 then some ([octet], rest)
    else (splitName? rest).map fun (name, behind) => (octet :: name, behind)

/-- The number of octets of the type and the class of a question. -/
def questionTail : Nat := 4

/-- Judges a question whose name, type and class have been found. -/
def judge (header : Header) (name : Octets) (type qclass : UInt16) : Decoded :=
  let questionEnd := headerLength + name.length + questionTail
  match RecordType.ofCode? type with
  | none => .reject .notImplemented questionEnd
  | some type =>
    if qclass ≠ classIn ∨ header.flags.opcode ≠ 0 then .reject .notImplemented questionEnd
    else match Name.validate name with
    | .error error => .reject (.malformedName error) questionEnd
    | .ok () => .query { header, name, type, questionEnd }

/-- Sorts a datagram. -/
def decode (packet : Octets) : Decoded :=
  match Header.read? packet with
  | none => .drop .truncatedQuestion
  | some header =>
    if header.questions = 0 then .drop .noQuestions
    else if header.flags.qr then .drop .responsePacket
    else match splitName? (packet.drop headerLength) with
    | some (name, t₁ :: t₀ :: c₁ :: c₀ :: _) =>
      judge header name (Octets.word16 t₁ t₀) (Octets.word16 c₁ c₀)
    | _ => .drop .truncatedQuestion

/-! ## The first zero octet -/

theorem splitName?_eq_some {octets name behind : Octets}
    (h : splitName? octets = some (name, behind)) :
    ∃ front, (∀ octet ∈ front, octet ≠ 0) ∧ name = front ++ [0] ∧ octets = name ++ behind := by
  induction octets generalizing name with
  | nil => simp [splitName?] at h
  | cons octet rest ih =>
    by_cases zero : octet = 0
    · simp only [splitName?, zero, if_true, Option.some.injEq, Prod.mk.injEq] at h
      obtain ⟨rfl, rfl⟩ := h
      exact ⟨[], by simp, rfl, by simp [zero]⟩
    · simp only [splitName?, zero, if_false, Option.map_eq_some_iff] at h
      obtain ⟨⟨tail, _⟩, found, same⟩ := h
      simp only [Prod.mk.injEq] at same
      obtain ⟨rfl, rfl⟩ := same
      obtain ⟨front, nonzero, rfl, rfl⟩ := ih found
      exact ⟨octet :: front, by simpa [zero] using nonzero, rfl, rfl⟩

end StaticDns
