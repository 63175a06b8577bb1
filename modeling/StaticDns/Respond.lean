import StaticDns.Notice
import StaticDns.Settings

/-!
# StaticDns.Respond — what a server makes of one datagram

`respond` decodes a datagram, looks its question up and frames the reply. It depends on the table,
the settings and the datagram alone, and says besides the outcome what is reported on the way.

* `respond_drop`: a dropped datagram has no other outcome.
* `respond_reject`: a rejected question is settled with the ruling of its refusal.
-/

namespace StaticDns

/-- What comes of a datagram. `asked` is the record type of an accepted query, and nothing for a
rejected question. -/
inductive Outcome where
  | dropped (reason : DropReason)
  | answered (asked : Option RecordType) (rcode : Rcode) (reply : Octets)
  | unframed (asked : Option RecordType) (error : ReplyError)
  deriving DecidableEq, Repr

def Outcome.reply? : Outcome → Option Octets
  | .answered _ _ reply => some reply
  | _ => none

structure Response where
  outcome : Outcome
  notices : List Notice

/-- Frames the reply that carries a ruling, after what has been reported so far. -/
def settle (settings : Settings) (packet : Octets) (asked : Option RecordType) (questionEnd : Nat)
    (ruling : Ruling) (before : List Notice) : Response :=
  match frame packet questionEnd ruling settings.ttl with
  | .ok reply => ⟨.answered asked ruling.rcode reply, before⟩
  | .error error => ⟨.unframed asked error, before ++ [.unframed error]⟩

def Refusal.notices : Refusal → List Notice
  | .notImplemented => []
  | .malformedName error => [.malformedName error]

def matchNotices (settings : Settings) (type : RecordType) (name : String) : List Notice :=
  if settings.verbose then [.matched type name] else []

def answerQuery (table : Table) (settings : Settings) (packet : Octets) (query : Query) :
    Response :=
  let name := Name.toDotted query.name
  match table.lookup query.type query.name with
  | some answer =>
    settle settings packet query.type query.questionEnd (.success answer)
      (.queried query.type name :: matchNotices settings query.type name)
  | none =>
    settle settings packet query.type query.questionEnd .nameError [.queried query.type name]

/-- Answers a datagram from a table. -/
def respond (table : Table) (settings : Settings) (packet : Octets) : Response :=
  match decode packet with
  | .drop reason => ⟨.dropped reason, [.dropped reason]⟩
  | .reject refusal questionEnd =>
    settle settings packet none questionEnd refusal.ruling refusal.notices
  | .query query => answerQuery table settings packet query

theorem respond_drop {packet : Octets} {reason : DropReason} (h : decode packet = .drop reason)
    (table : Table) (settings : Settings) :
    respond table settings packet = ⟨.dropped reason, [.dropped reason]⟩ := by
  simp [respond, h]

theorem respond_reject {packet : Octets} {refusal : Refusal} {questionEnd : Nat}
    (h : decode packet = .reject refusal questionEnd) (table : Table) (settings : Settings) :
    respond table settings packet =
      settle settings packet none questionEnd refusal.ruling refusal.notices := by
  simp [respond, h]

end StaticDns
