import StaticDns.Message.Reply
import StaticDns.Proofs.Message.Fields

/-!
# StaticDns.Proofs.Message.Framing — what a framed reply is

A reply is built by edits that may fail one after another.  Seen as a whole it is much simpler:
sizes alone decide whether it can be built, and if so it is a header, the question of the packet,
and for a success the question once more with the lifetime, the length and the data behind it.

* `framed`: the octets of a reply.
* `frameFault?`: what keeps a reply from being built, by the sizes of packet, question and data.
* `frame_eq`: framing gives the one or fails with the other.
* `frameFault?_eq_none`: inside the limits that the server keeps, nothing does.
* `length_framed`: how long a reply is.
-/

namespace StaticDns

open Message

/-! ## Single edits -/

namespace ReplyBuffer

theorem append_eq (buffer : ReplyBuffer) (octets : Octets) :
    buffer.append octets =
      if buffer.capacity < buffer.octets.length + octets.length then
        .error (.capacity (buffer.octets.length + octets.length) buffer.capacity)
      else .ok { buffer with octets := buffer.octets ++ octets } := by
  unfold append checkRoom
  split_ifs <;> rfl

theorem start_eq (packet : Octets) (questionEnd capacity : Nat) :
    start packet questionEnd capacity =
      if questionEnd < headerLength ∨ packet.length < questionEnd then
        .error (.questionOutOfBounds questionEnd packet.length)
      else if capacity < questionEnd then .error (.capacity questionEnd capacity)
      else .ok ⟨packet.take questionEnd, capacity⟩ := by
  by_cases outside : questionEnd < headerLength ∨ packet.length < questionEnd
  · rw [if_pos outside]
    simp only [start, if_pos outside]
    rfl
  · have length : (packet.take questionEnd).length = questionEnd := by
      rw [List.length_take]
      omega
    rw [if_neg outside]
    simp only [start, if_neg outside, checkRoom, length, Nat.add_zero]
    split_ifs <;> rfl

theorem appendWithin_eq {buffer : ReplyBuffer} {first last : Nat} (forward : first ≤ last)
    (inside : last ≤ buffer.octets.length) :
    buffer.appendWithin first last = buffer.append ((buffer.octets.take last).drop first) := by
  have bounds : ¬ (last < first ∨ buffer.octets.length < last) := by omega
  simp only [appendWithin, if_neg bounds]

/-- A packet that is cut off behind its question keeps its header. -/
theorem header_take {packet : Octets} {questionEnd : Nat} (long : headerLength ≤ questionEnd)
    (inside : questionEnd ≤ packet.length) (capacity : Nat) :
    (ReplyBuffer.mk (packet.take questionEnd) capacity).header = headerOf packet := by
  have front : headerLength ≤ (packet.take questionEnd).length := by
    rw [List.length_take_of_le inside]
    exact long
  have whole := headerOf_append front (packet.drop questionEnd)
  rw [List.take_append_drop] at whole
  rw [header, read?_eq_headerOf front, whole]
  rfl

/-- The lengths that a buffer grows to while pieces are appended to it one by one. -/
def growth : Nat → List Octets → List Nat
  | _, [] => []
  | length, piece :: pieces =>
    (length + piece.length) :: growth (length + piece.length) pieces

/-- **Pieces are appended all or up to the first that does not fit**, whose length is reported. -/
theorem foldlM_append_eq (buffer : ReplyBuffer) (pieces : List Octets) :
    pieces.foldlM append buffer =
      match (growth buffer.octets.length pieces).find? (buffer.capacity < ·) with
      | some needed => .error (.capacity needed buffer.capacity)
      | none => .ok { buffer with octets := buffer.octets ++ pieces.flatten } := by
  induction pieces generalizing buffer with
  | nil => simp [growth, pure, Except.pure]
  | cons piece pieces ih =>
    rw [List.foldlM_cons, append_eq, growth, List.find?_cons]
    by_cases full : buffer.capacity < buffer.octets.length + piece.length
    · simp only [full, decide_true]
      rfl
    · simp only [full, decide_false]
      show List.foldlM append _ pieces = _
      rw [ih]
      simp only [List.length_append, List.flatten_cons, List.append_assoc]

end ReplyBuffer

/-! ## Whole replies -/

/-- The question of a packet. -/
def questionOctets (packet : Octets) (questionEnd : Nat) : Octets :=
  (packet.take questionEnd).drop headerLength

/-- What stands behind the question of a reply. -/
def answerOctets (question : Octets) (ttl : UInt32) : Ruling → Octets
  | .success answer =>
    question ++ (Octets.ofWord32 ttl ++
      (Octets.ofWord16 (UInt16.ofNat answer.rdata.length) ++ answer.rdata))
  | _ => []

/-- The number of answers that a reply announces. -/
def Ruling.answerCount : Ruling → UInt16
  | .success _ => 1
  | _ => 0

/-- The header of the reply that carries a ruling. -/
def replyHeader (packet : Octets) (ruling : Ruling) : Header :=
  (headerOf packet).forReply ruling.rcode ruling.answerCount

/-- The octets of the reply that carries a ruling. -/
def framed (packet : Octets) (questionEnd : Nat) (ruling : Ruling) (ttl : UInt32) : Octets :=
  (replyHeader packet ruling).toOctets ++
    (questionOctets packet questionEnd ++
      answerOctets (questionOctets packet questionEnd) ttl ruling)

/-- The lengths that a reply grows to while an answer with `size` octets of data is appended. -/
def answerSteps (questionEnd size : Nat) : List Nat :=
  [2 * questionEnd - headerLength, 2 * questionEnd - headerLength + 4,
    2 * questionEnd - headerLength + 6, 2 * questionEnd - headerLength + 6 + size]

/-- What keeps an answer with `size` octets of data from being appended. -/
def answerFault? (capacity questionEnd size : Nat) : Option ReplyError :=
  if UInt16.size ≤ size then some (.rdataTooLong size)
  else ((answerSteps questionEnd size).find? (capacity < ·)).map (.capacity · capacity)

/-- What keeps a reply to a packet of the given length from being built. -/
def frameFault? (length questionEnd : Nat) (ruling : Ruling) : Option ReplyError :=
  if questionEnd < headerLength ∨ length < questionEnd then
    some (.questionOutOfBounds questionEnd length)
  else if replyCapacity < questionEnd then some (.capacity questionEnd replyCapacity)
  else match ruling with
  | .success answer => answerFault? replyCapacity questionEnd answer.rdata.length
  | _ => none

theorem growth_answer {question : Octets} {questionEnd : Nat} (long : headerLength ≤ questionEnd)
    (length : question.length = questionEnd - headerLength) (ttl : UInt32) (word : UInt16)
    (data : Octets) :
    ReplyBuffer.growth questionEnd [question, Octets.ofWord32 ttl, Octets.ofWord16 word, data] =
      answerSteps questionEnd data.length := by
  simp only [ReplyBuffer.growth, answerSteps, length, Octets.length_ofWord16,
    Octets.length_ofWord32, List.cons.injEq, and_true]
  omega

/-- An answer is appended whole, or the first size that does not fit is reported. -/
theorem appendAnswer_eq {buffer : ReplyBuffer} {questionEnd : Nat}
    (length : buffer.octets.length = questionEnd) (long : headerLength ≤ questionEnd)
    (answer : Answer) (ttl : UInt32) :
    buffer.appendAnswer questionEnd answer ttl =
      match answerFault? buffer.capacity questionEnd answer.rdata.length with
      | some error => .error error
      | none => .ok { buffer with
          octets := buffer.octets ++
            answerOctets (buffer.octets.drop headerLength) ttl (.success answer) } := by
  unfold ReplyBuffer.appendAnswer answerFault?
  by_cases excessive : UInt16.size ≤ answer.rdata.length
  · simp only [if_pos excessive]
    rfl
  · have pieces := ReplyBuffer.foldlM_append_eq buffer
      [buffer.octets.drop headerLength, Octets.ofWord32 ttl,
        Octets.ofWord16 (UInt16.ofNat answer.rdata.length), answer.rdata]
    rw [length, growth_answer long (by rw [List.length_drop, length])] at pieces
    have whole : buffer.octets.take questionEnd = buffer.octets :=
      List.take_of_length_le (by omega)
    have question : buffer.appendWithin headerLength questionEnd =
        buffer.append (buffer.octets.drop headerLength) := by
      rw [ReplyBuffer.appendWithin_eq long (by omega), whole]
    simp only [List.foldlM_cons, List.foldlM_nil, bind_pure] at pieces
    simp only [if_neg excessive, question, ReplyBuffer.appendWord32, ReplyBuffer.appendWord16]
    rw [pieces]
    cases (answerSteps questionEnd answer.rdata.length).find? (buffer.capacity < ·) with
    | some needed => rfl
    | none => simp [answerOctets]

/-- **Framing fails with the first fault, and otherwise gives the framed octets.** -/
theorem frame_eq (packet : Octets) (questionEnd : Nat) (ruling : Ruling) (ttl : UInt32) :
    frame packet questionEnd ruling ttl =
      match frameFault? packet.length questionEnd ruling with
      | some error => .error error
      | none => .ok (framed packet questionEnd ruling ttl) := by
  unfold frame frameFault?
  rw [ReplyBuffer.start_eq]
  by_cases outside : questionEnd < headerLength ∨ packet.length < questionEnd
  · simp only [if_pos outside]
    rfl
  by_cases full : replyCapacity < questionEnd
  · simp only [if_neg outside, if_pos full]
    rfl
  have long : headerLength ≤ questionEnd := by omega
  have length : (packet.take questionEnd).length = questionEnd := by
    rw [List.length_take]
    omega
  have header := ReplyBuffer.header_take long (show questionEnd ≤ packet.length by omega)
    replyCapacity
  simp only [if_neg outside, if_neg full]
  cases ruling with
  | success answer =>
    show (ReplyBuffer.appendAnswer _ questionEnd answer ttl >>= _) = _
    rw [appendAnswer_eq length long]
    cases fault : answerFault? replyCapacity questionEnd answer.rdata.length with
    | some error =>
      simp only [fault]
      rfl
    | none =>
      simp only [fault]
      show Except.ok (_ ++ List.drop headerLength (_ ++ _)) = _
      rw [header, List.drop_append_of_le_length (by rw [length]; exact long)]
      rfl
  | formatError | notImplemented | nameError =>
    show Except.ok (_ ++ questionOctets packet questionEnd) =
      Except.ok (_ ++ (questionOctets packet questionEnd ++ []))
    rw [header, List.append_nil]
    rfl

/-- A question inside its packet has its end behind the header. -/
theorem bounds_of_frameFault?_eq_none {length questionEnd : Nat} {ruling : Ruling}
    (sound : frameFault? length questionEnd ruling = none) :
    headerLength ≤ questionEnd ∧ questionEnd ≤ length := by
  unfold frameFault? at sound
  split_ifs at sound with outside
  omega

/-- **Which replies are built**: the framed ruling, unless there is a fault. -/
theorem reply_eq_some_iff {packet octets : Octets} {questionEnd : Nat} {disposition : Disposition}
    {ttl : UInt32} :
    reply packet questionEnd disposition ttl = .ok (some octets) ↔
      ∃ ruling, disposition = .rule ruling ∧ frameFault? packet.length questionEnd ruling = none ∧
        octets = framed packet questionEnd ruling ttl := by
  cases disposition with
  | drop reason => simp [reply]
  | rule ruling =>
    rw [reply, frame_eq]
    cases fault : frameFault? packet.length questionEnd ruling with
    | some error => simp [Except.map, fault]
    | none => simp [Except.map, fault, eq_comm]

/-! ## Headers -/

theorem headerOf_framed (packet : Octets) (questionEnd : Nat) (ruling : Ruling) (ttl : UInt32) :
    headerOf (framed packet questionEnd ruling ttl) =
      { replyHeader packet ruling with flags := (replyHeader packet ruling).flags.trimmed } :=
  headerOf_toOctets_append _ _

/-- A reply says how the question was ruled upon. -/
theorem rcodeBits_framed (packet : Octets) (questionEnd : Nat) (ruling : Ruling) (ttl : UInt32) :
    rcodeBits (framed packet questionEnd ruling ttl) = ruling.rcode.code.toNat := by
  rw [← rcode_headerOf, headerOf_framed]
  show (ruling.rcode.code % 16).toNat = _
  cases ruling <;> rfl

/-- A reply claims authority when it answers or denies the name. -/
theorem authoritativeBit_framed (packet : Octets) (questionEnd : Nat) (ruling : Ruling)
    (ttl : UInt32) :
    authoritativeBit (framed packet questionEnd ruling ttl) = 1 ↔
      ruling.rcode = .noError ∨ ruling.rcode = .nxDomain := by
  rw [← aa_headerOf, headerOf_framed]
  show (ruling.rcode == .noError || ruling.rcode == .nxDomain) = true ↔ _
  rw [Bool.or_eq_true, beq_iff_eq, beq_iff_eq]

/-! ## Sizes -/

/-- The number of octets behind the question of a reply. -/
def answerSize (questionEnd : Nat) : Ruling → Nat
  | .success answer => questionEnd - headerLength + 6 + answer.rdata.length
  | _ => 0

theorem length_questionOctets {packet : Octets} {questionEnd : Nat}
    (inside : questionEnd ≤ packet.length) :
    (questionOctets packet questionEnd).length = questionEnd - headerLength := by
  rw [questionOctets, List.length_drop, List.length_take_of_le inside]

theorem length_framed {packet : Octets} {questionEnd : Nat} (long : headerLength ≤ questionEnd)
    (inside : questionEnd ≤ packet.length) (ruling : Ruling) (ttl : UInt32) :
    (framed packet questionEnd ruling ttl).length = questionEnd + answerSize questionEnd ruling := by
  have question := length_questionOctets inside
  rw [framed, List.length_append, List.length_append, Header.length_toOctets, question]
  cases ruling with
  | success answer =>
    simp only [answerOctets, answerSize, List.length_append, Octets.length_ofWord16,
      Octets.length_ofWord32, question]
    omega
  | formatError | notImplemented | nameError =>
    simp only [answerOctets, answerSize, List.length_nil]
    omega

/-- What stands in front of the lifetime in a reply with an answer: the header and the question,
twice. -/
def answerFront (packet : Octets) (questionEnd : Nat) (answer : Answer) : Octets :=
  (replyHeader packet (.success answer)).toOctets ++
    (questionOctets packet questionEnd ++ questionOctets packet questionEnd)

theorem length_answerFront {packet : Octets} {questionEnd : Nat} (long : headerLength ≤ questionEnd)
    (inside : questionEnd ≤ packet.length) (answer : Answer) :
    (answerFront packet questionEnd answer).length = 2 * questionEnd - headerLength := by
  rw [answerFront, List.length_append, List.length_append, Header.length_toOctets,
    length_questionOctets inside]
  omega

/-- A reply with an answer ends in the lifetime, the length of the data and the data. -/
theorem framed_success (packet : Octets) (questionEnd : Nat) (answer : Answer) (ttl : UInt32) :
    framed packet questionEnd (.success answer) ttl =
      answerFront packet questionEnd answer ++ (Octets.ofWord32 ttl ++
        (Octets.ofWord16 (.ofNat answer.rdata.length) ++ answer.rdata)) := by
  simp only [framed, answerOctets, answerFront, List.append_assoc]

/-- The data of every answer fits where the longest name does. -/
def Ruling.Bounded (ruling : Ruling) : Prop :=
  ∀ answer, ruling = .success answer → answer.rdata.length ≤ Name.maxName

/-- **Nothing keeps a reply from being built** when the packet is one that the server reads and the
data is no longer than a name: the capacity leaves room for both. -/
theorem frameFault?_eq_none {length questionEnd : Nat} {ruling : Ruling}
    (long : headerLength ≤ questionEnd) (inside : questionEnd ≤ length)
    (small : length ≤ maxPacket) (bounded : ruling.Bounded) :
    frameFault? length questionEnd ruling = none := by
  simp only [headerLength] at long
  simp only [maxPacket] at small
  have placed : ¬ (questionEnd < headerLength ∨ length < questionEnd) := by
    simp only [headerLength]
    omega
  have room : ¬ replyCapacity < questionEnd := by
    simp only [replyCapacity, maxPacket, Name.maxName]
    omega
  unfold frameFault?
  rw [if_neg placed, if_neg room]
  cases ruling with
  | success answer =>
    have data := bounded answer rfl
    simp only [Name.maxName] at data
    have counted : ¬ UInt16.size ≤ answer.rdata.length := by
      simp only [UInt16.size]
      omega
    show answerFault? replyCapacity questionEnd answer.rdata.length = none
    unfold answerFault?
    rw [if_neg counted, Option.map_eq_none_iff, List.find?_eq_none]
    intro size mem
    simp only [answerSteps, List.mem_cons, List.not_mem_nil, or_false, headerLength] at mem
    have limit : replyCapacity = 1286 := rfl
    rw [decide_eq_true_eq, limit]
    omega
  | formatError | notImplemented | nameError => rfl

end StaticDns
