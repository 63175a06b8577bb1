import StaticDns.Proofs.Message.Editing

/-!
# StaticDns.Proofs.Message.Fitting — which replies fit

Whether a reply can be built is a matter of sizes: where the question ends, how long the packet is
and how much data an answer has.  Each step of the construction may fail, in a fixed order, and each
copies octets between positions.  None of these positions ever lies outside, and no length is too
large for a machine word: the construction is written once more with every position and every sum
checked, so that a bad one would crash it, and it is shown to do the same.

* `Guarded`: a computation that may crash.
* `Guarded.reply_eq`: the guarded construction never does, and has the same result.
* `reply_by_sizes`: the outcome of every construction, by its sizes.
-/

namespace StaticDns

/-! ## Computations that may crash -/

/-- A computation that has a result or an error, or crashes. -/
abbrev Guarded (α : Type) := ExceptT ReplyError Option α

namespace Guarded

variable {α β : Type}

def crash : Guarded α := ExceptT.mk none

/-- A computation that does not crash. -/
def ofExcept (result : Except ReplyError α) : Guarded α := ExceptT.mk (some result)

/-- The octets between two positions, which have to be in order and inside. -/
def slice (octets : Octets) (first last : Nat) : Guarded Octets :=
  if first ≤ last ∧ last ≤ octets.length then pure ((octets.take last).drop first) else crash

/-- A sum of lengths, which has to fit a machine word. -/
def sum (length extra : Nat) : Guarded Nat :=
  if length + extra < UInt64.size then pure (length + extra) else crash

/-- The word at a position, where both of its octets have to be. -/
def word (octets : Octets) (position : Nat) : Guarded UInt16 := do
  match ← slice octets position (position + 2) with
  | [high, low] => return Octets.word16 high low
  | _ => crash

def checkRoom (buffer : ReplyBuffer) (extra : Nat) : Guarded Unit := do
  let needed ← sum buffer.octets.length extra
  if buffer.capacity < needed then throw (.capacity needed buffer.capacity)

def start (packet : Octets) (questionEnd capacity : Nat) : Guarded ReplyBuffer := do
  if questionEnd < headerLength ∨ packet.length < questionEnd then
    throw (.questionOutOfBounds questionEnd packet.length)
  let buffer : ReplyBuffer := ⟨← slice packet 0 questionEnd, capacity⟩
  checkRoom buffer 0
  return buffer

def append (buffer : ReplyBuffer) (octets : Octets) : Guarded ReplyBuffer := do
  checkRoom buffer octets.length
  return { buffer with octets := buffer.octets ++ octets }

def appendWithin (buffer : ReplyBuffer) (first last : Nat) : Guarded ReplyBuffer := do
  if last < first ∨ buffer.octets.length < last then
    throw (.questionOutOfBounds last buffer.octets.length)
  append buffer (← slice buffer.octets first last)

/-- Reads a header word by word. A string without room for one is not looked into. -/
def header (buffer : ReplyBuffer) : Guarded Header := do
  if buffer.octets.length < headerLength then return {}
  let octets := buffer.octets
  return {
    id := ← word octets 0
    flags := .ofWord (← word octets 2)
    questions := ← word octets 4
    answers := ← word octets 6
    authorities := ← word octets 8
    additionals := ← word octets 10 }

/-- Sets a header in the place of another, which has to be there. -/
def writeHeader (buffer : ReplyBuffer) (header : Header) : Guarded ReplyBuffer := do
  let place ← slice buffer.octets 0 headerLength
  if place.length = header.toOctets.length then return buffer.writeHeader header else crash

def appendAnswer (buffer : ReplyBuffer) (questionEnd : Nat) (answer : Answer) (ttl : UInt32) :
    Guarded ReplyBuffer := do
  if UInt16.size ≤ answer.rdata.length then throw (.rdataTooLong answer.rdata.length)
  let buffer ← appendWithin buffer headerLength questionEnd
  let buffer ← append buffer (Octets.ofWord32 ttl)
  let buffer ← append buffer (Octets.ofWord16 (UInt16.ofNat answer.rdata.length))
  append buffer answer.rdata

def frame (packet : Octets) (questionEnd : Nat) (ruling : Ruling) (ttl : UInt32) :
    Guarded Octets := do
  let buffer ← start packet questionEnd replyCapacity
  let before ← header buffer
  match ruling with
  | .success answer =>
    let whole ← appendAnswer buffer questionEnd answer ttl
    return (← writeHeader whole (before.forReply ruling.rcode 1)).octets
  | _ => return (← writeHeader buffer (before.forReply ruling.rcode 0)).octets

/-- The construction of replies with every position and every length checked. -/
def reply (packet : Octets) (questionEnd : Nat) (disposition : Disposition) (ttl : UInt32) :
    Guarded (Option Octets) :=
  match disposition with
  | .drop _ => return none
  | .rule ruling => return some (← frame packet questionEnd ruling ttl)

/-! ## No step crashes -/

/-- Computations that do not crash may be put one behind the other. -/
theorem ofExcept_bind {result : Except ReplyError α} {next : α → Except ReplyError β}
    {guarded : α → Guarded β}
    (same : ∀ value, result = .ok value → guarded value = ofExcept (next value)) :
    (ofExcept result >>= guarded) = ofExcept (result >>= next) := by
  cases result with
  | error error => rfl
  | ok value => exact same value rfl

theorem slice_eq {octets : Octets} {first last : Nat} (forward : first ≤ last)
    (inside : last ≤ octets.length) :
    slice octets first last = ofExcept (.ok ((octets.take last).drop first)) :=
  if_pos ⟨forward, inside⟩

theorem checkRoom_eq {buffer : ReplyBuffer} {extra : Nat}
    (small : buffer.octets.length + extra < UInt64.size) :
    checkRoom buffer extra = ofExcept (buffer.checkRoom extra) := by
  have fits : sum buffer.octets.length extra = pure (buffer.octets.length + extra) := if_pos small
  simp only [checkRoom, fits, pure_bind, ReplyBuffer.checkRoom]
  split_ifs <;> rfl

theorem append_eq {buffer : ReplyBuffer} {octets : Octets}
    (small : buffer.octets.length + octets.length < UInt64.size) :
    append buffer octets = ofExcept (buffer.append octets) := by
  rw [append, checkRoom_eq small]
  exact ofExcept_bind fun _ _ => rfl

theorem start_eq {packet : Octets} (small : packet.length < UInt64.size)
    (questionEnd capacity : Nat) :
    start packet questionEnd capacity =
      ofExcept (ReplyBuffer.start packet questionEnd capacity) := by
  by_cases outside : questionEnd < headerLength ∨ packet.length < questionEnd
  · simp only [start, ReplyBuffer.start, if_pos outside]
    rfl
  · have inside : questionEnd ≤ packet.length := by omega
    have front : slice packet 0 questionEnd = pure (packet.take questionEnd) :=
      slice_eq (Nat.zero_le _) inside
    have length : (packet.take questionEnd).length = questionEnd := List.length_take_of_le inside
    have room : checkRoom ⟨packet.take questionEnd, capacity⟩ 0 =
        ofExcept (ReplyBuffer.checkRoom ⟨packet.take questionEnd, capacity⟩ 0) :=
      checkRoom_eq (by rw [length]; omega)
    simp only [start, ReplyBuffer.start, if_neg outside, pure_bind, front, room]
    exact ofExcept_bind fun _ _ => rfl

theorem appendWithin_eq {buffer : ReplyBuffer} {first last : Nat}
    (small : buffer.octets.length + (last - first) < UInt64.size) :
    appendWithin buffer first last = ofExcept (buffer.appendWithin first last) := by
  by_cases outside : last < first ∨ buffer.octets.length < last
  · simp only [appendWithin, ReplyBuffer.appendWithin, if_pos outside]
    rfl
  · have part : slice buffer.octets first last =
        pure ((buffer.octets.take last).drop first) := slice_eq (by omega) (by omega)
    have length : ((buffer.octets.take last).drop first).length = last - first := by
      rw [List.length_drop, List.length_take_of_le (by omega)]
    simp only [appendWithin, ReplyBuffer.appendWithin, if_neg outside, pure_bind, part]
    exact append_eq (by rw [length]; exact small)

/-- Inside of the octets a word is read as it stands there. -/
theorem word_eq {octets : Octets} {position : Nat} (inside : position + 2 ≤ octets.length) :
    word octets position = pure (.ofNat (Message.wordAt octets position)) := by
  have part : slice octets position (position + 2) =
      pure ((octets.take (position + 2)).drop position) := slice_eq (by omega) inside
  have length : (octets.drop position).length = octets.length - position := List.length_drop
  have first : octets[position]? = (octets.drop position)[0]? := by rw [List.getElem?_drop]; rfl
  have second : octets[position + 1]? = (octets.drop position)[1]? := by rw [List.getElem?_drop]
  rw [word, part, pure_bind, List.drop_take, Nat.add_sub_cancel_left, Message.wordAt, first, second]
  match octets.drop position, length with
  | [], length | [_], length =>
    simp only [List.length_nil, List.length_singleton] at length
    omega
  | high :: low :: rest, _ => rfl

theorem header_eq (buffer : ReplyBuffer) : header buffer = ofExcept (.ok buffer.header) := by
  by_cases short : buffer.octets.length < headerLength
  · have unread : buffer.header = {} := by
      rw [ReplyBuffer.header, (Header.read?_eq_none_iff _).mpr short]
      rfl
    rw [unread]
    simp only [header, if_pos short]
    rfl
  · have long : headerLength ≤ buffer.octets.length := Nat.le_of_not_lt short
    have read : buffer.header = Message.headerOf buffer.octets := by
      rw [ReplyBuffer.header, Message.read?_eq_headerOf long]
      rfl
    simp only [headerLength] at long
    rw [read]
    simp only [header, if_neg short, pure_bind, word_eq (show 0 + 2 ≤ buffer.octets.length by omega),
      word_eq (show 2 + 2 ≤ buffer.octets.length by omega),
      word_eq (show 4 + 2 ≤ buffer.octets.length by omega),
      word_eq (show 6 + 2 ≤ buffer.octets.length by omega),
      word_eq (show 8 + 2 ≤ buffer.octets.length by omega),
      word_eq (show 10 + 2 ≤ buffer.octets.length by omega)]
    rfl

theorem writeHeader_eq {buffer : ReplyBuffer} (long : headerLength ≤ buffer.octets.length)
    (header : Header) : writeHeader buffer header = ofExcept (.ok (buffer.writeHeader header)) := by
  have place : slice buffer.octets 0 headerLength = pure (buffer.octets.take headerLength) :=
    slice_eq (Nat.zero_le _) long
  have length : (buffer.octets.take headerLength).length = header.toOctets.length := by
    rw [List.length_take_of_le long, Header.length_toOctets]
  simp only [writeHeader, place, pure_bind, if_pos length]
  rfl

/-- A reply under construction holds a header and keeps within the server's capacity. -/
structure Held (buffer : ReplyBuffer) : Prop where
  sound : buffer.Sound
  limit : buffer.capacity = replyCapacity

/-- A reply under construction is so short that nothing which passes the checks overflows. -/
theorem Held.small {buffer : ReplyBuffer} (held : Held buffer) {extra : Nat}
    (few : extra < UInt16.size) : buffer.octets.length + extra < UInt64.size := by
  have room := held.sound.room
  have capacity : replyCapacity = 1286 := rfl
  have most : UInt16.size + 1286 < UInt64.size := by decide
  rw [held.limit, capacity] at room
  omega

/-- An edit that is made leaves a reply under construction. -/
theorem Held.apply {buffer after : ReplyBuffer} (held : Held buffer) (edit : ReplyBuffer.Edit)
    (made : buffer.apply edit = .ok after) : Held after := by
  obtain ⟨sound, grown⟩ := held.sound.edit edit
  rw [ReplyBuffer.edit_of_ok made] at sound grown
  exact ⟨sound, grown.capacity.trans held.limit⟩

theorem held_start {packet : Octets} {questionEnd : Nat} {buffer : ReplyBuffer}
    (started : ReplyBuffer.start packet questionEnd replyCapacity = .ok buffer) :
    Held buffer ∧ buffer.octets.length = questionEnd := by
  obtain ⟨long, inside, room, rfl⟩ := ReplyBuffer.start_eq_ok_iff.mp started
  have length : (packet.take questionEnd).length = questionEnd := List.length_take_of_le inside
  exact ⟨⟨⟨by rw [length]; exact long, by rw [length]; exact room⟩, rfl⟩, length⟩

theorem appendAnswer_eq {buffer : ReplyBuffer} (held : Held buffer) {questionEnd : Nat}
    (inside : questionEnd ≤ buffer.octets.length) (answer : Answer) (ttl : UInt32) :
    appendAnswer buffer questionEnd answer ttl =
      ofExcept (buffer.appendAnswer questionEnd answer ttl) := by
  by_cases excessive : UInt16.size ≤ answer.rdata.length
  · simp only [appendAnswer, ReplyBuffer.appendAnswer, if_pos excessive]
    rfl
  · have few : answer.rdata.length < UInt16.size := by omega
    have room := held.sound.room
    have capacity : replyCapacity = 1286 := rfl
    rw [held.limit, capacity] at room
    have question : questionEnd - headerLength < UInt16.size := by
      have most : 1286 < UInt16.size := by decide
      omega
    have lifetime : (Octets.ofWord32 ttl).length < UInt16.size := by
      rw [Octets.length_ofWord32]
      decide
    have length : (Octets.ofWord16 (.ofNat answer.rdata.length)).length < UInt16.size := by
      rw [Octets.length_ofWord16]
      decide
    simp only [appendAnswer, ReplyBuffer.appendAnswer, if_neg excessive]
    rw [appendWithin_eq (held.small question)]
    refine ofExcept_bind fun first made => ?_
    have held := held.apply (.appendWithin headerLength questionEnd) made
    rw [append_eq (held.small lifetime)]
    refine ofExcept_bind fun second made => ?_
    have held := held.apply (.appendWord32 ttl) made
    rw [append_eq (held.small length)]
    refine ofExcept_bind fun third made => ?_
    have held := held.apply (.appendWord16 (.ofNat answer.rdata.length)) made
    exact append_eq (held.small few)

/-- An answer is put behind what stands in the buffer. -/
theorem length_le_of_appendAnswer {buffer whole : ReplyBuffer} {questionEnd : Nat} {answer : Answer}
    {ttl : UInt32} (length : buffer.octets.length = questionEnd) (long : headerLength ≤ questionEnd)
    (made : buffer.appendAnswer questionEnd answer ttl = .ok whole) :
    buffer.octets.length ≤ whole.octets.length := by
  rw [StaticDns.appendAnswer_eq length long] at made
  cases fault : answerFault? buffer.capacity questionEnd answer.rdata.length with
  | some error =>
    rw [fault] at made
    cases made
  | none =>
    rw [fault] at made
    cases made
    rw [List.length_append]
    exact Nat.le_add_right _ _

theorem frame_eq {packet : Octets} (small : packet.length < UInt64.size) (questionEnd : Nat)
    (ruling : Ruling) (ttl : UInt32) :
    frame packet questionEnd ruling ttl =
      ofExcept (StaticDns.frame packet questionEnd ruling ttl) := by
  unfold frame StaticDns.frame
  rw [start_eq small]
  refine ofExcept_bind fun buffer started => ?_
  obtain ⟨held, length⟩ := held_start started
  have long := held.sound.long
  have read : header buffer = pure buffer.header := header_eq buffer
  rw [read, pure_bind]
  cases ruling with
  | success answer =>
    dsimp only
    rw [appendAnswer_eq held (by omega)]
    refine ofExcept_bind fun whole made => ?_
    have grown := length_le_of_appendAnswer length (by omega) made
    rw [writeHeader_eq (by omega)]
    rfl
  | formatError | notImplemented | nameError =>
    dsimp only
    rw [writeHeader_eq long]
    rfl

/-- **The construction of replies never crashes**, whatever it is asked for: with every position and
every length checked it has the same result. -/
theorem reply_eq {packet : Octets} (small : packet.length < UInt64.size) (questionEnd : Nat)
    (disposition : Disposition) (ttl : UInt32) :
    reply packet questionEnd disposition ttl =
      ofExcept (StaticDns.reply packet questionEnd disposition ttl) := by
  cases disposition with
  | drop reason => rfl
  | rule ruling =>
    show (frame packet questionEnd ruling ttl >>= _) = _
    rw [frame_eq small]
    exact ofExcept_bind fun _ _ => rfl

end Guarded

/-! ## Sizes -/

section Sizes

variable {packet : Octets} {questionEnd : Nat} {ruling : Ruling} (ttl : UInt32)

theorem reply_of_fault {error : ReplyError}
    (fault : frameFault? packet.length questionEnd ruling = some error) :
    reply packet questionEnd (.rule ruling) ttl = .error error := by
  rw [reply, frame_eq, fault]
  rfl

theorem reply_of_no_fault (sound : frameFault? packet.length questionEnd ruling = none) :
    reply packet questionEnd (.rule ruling) ttl =
      .ok (some (framed packet questionEnd ruling ttl)) := by
  rw [reply, frame_eq, sound]
  rfl

end Sizes

/-- The faults of a question, whatever is ruled upon it, come before those of an answer. -/
theorem frameFault?_of_placed {length questionEnd : Nat}
    (placed : ¬ (questionEnd < 12 ∨ length < questionEnd)) (room : ¬ 1286 < questionEnd)
    (ruling : Ruling) :
    frameFault? length questionEnd ruling =
      match ruling with
      | .success answer => answerFault? 1286 questionEnd answer.rdata.length
      | _ => none :=
  (if_neg placed).trans (if_neg room)

/-- The lengths to which a reply grows that has an answer. -/
theorem answerSteps_eq {questionEnd : Nat} (long : 12 ≤ questionEnd) (size : Nat) :
    answerSteps questionEnd size =
      [2 * questionEnd - 12, 2 * questionEnd - 8, 2 * questionEnd - 6,
        2 * questionEnd - 6 + size] := by
  simp only [answerSteps, headerLength, List.cons.injEq, and_true, true_and]
  omega

/-- **Sizes decide what becomes of a reply.**  A datagram that is dropped has none.  Otherwise the
question has to end in the packet, behind the header, and within the capacity; then a reply without
an answer is as long as the packet up to there.  An answer has to have data whose length can be
written, and the first of the four lengths to which the reply grows that exceeds the capacity is
reported; if none does, the reply ends in the lifetime, the length of the data and the data.  Nothing
of this ever crashes on a packet that fits a memory. -/
theorem reply_by_sizes (packet : Octets) (questionEnd : Nat) (ttl : UInt32) :
    (∀ reason, reply packet questionEnd (.drop reason) ttl = .ok none) ∧
    (∀ ruling,
      let built := reply packet questionEnd (.rule ruling) ttl
      if questionEnd < 12 ∨ packet.length < questionEnd then
        built = .error (.questionOutOfBounds questionEnd packet.length)
      else if 1286 < questionEnd then built = .error (.capacity questionEnd 1286)
      else match ruling with
      | .success answer =>
        let size := answer.rdata.length
        if 65535 < size then built = .error (.rdataTooLong size)
        else match [2 * questionEnd - 12, 2 * questionEnd - 8, 2 * questionEnd - 6,
            2 * questionEnd - 6 + size].find? (1286 < ·) with
        | some needed => built = .error (.capacity needed 1286)
        | none => ∃ octets, built = .ok (some octets) ∧
            octets.length = 2 * questionEnd - 6 + size ∧
            octets.drop (2 * questionEnd - 12) =
              Octets.ofWord32 ttl ++ (Octets.ofWord16 (.ofNat size) ++ answer.rdata)
      | _ => ∃ octets, built = .ok (some octets) ∧ octets.length = questionEnd) ∧
    (packet.length < UInt64.size → ∀ disposition,
      (Guarded.reply packet questionEnd disposition ttl).run =
        some (reply packet questionEnd disposition ttl)) := by
  refine ⟨fun _ => rfl, ?_, fun small disposition => Guarded.reply_eq small _ disposition ttl⟩
  intro ruling built
  by_cases outside : questionEnd < 12 ∨ packet.length < questionEnd
  · rw [if_pos outside]
    exact reply_of_fault ttl (if_pos outside)
  rw [if_neg outside]
  by_cases full : 1286 < questionEnd
  · rw [if_pos full]
    exact reply_of_fault ttl ((if_neg outside).trans (if_pos full))
  rw [if_neg full]
  have long : headerLength ≤ questionEnd := by
    simp only [headerLength]
    omega
  have inside : questionEnd ≤ packet.length := by omega
  have fault := frameFault?_of_placed outside full ruling
  have length := length_framed long inside ruling ttl
  cases ruling with
  | success answer =>
    dsimp only
    simp only [answerFault?, answerSteps_eq long] at fault
    by_cases excessive : 65535 < answer.rdata.length
    · have uncounted : UInt16.size ≤ answer.rdata.length := excessive
      rw [if_pos excessive]
      rw [if_pos uncounted] at fault
      exact reply_of_fault ttl fault
    · have counted : ¬ UInt16.size ≤ answer.rdata.length := excessive
      rw [if_neg excessive]
      rw [if_neg counted] at fault
      split
      · rename_i needed exceeded
        rw [exceeded] at fault
        exact reply_of_fault ttl fault
      · rename_i fitting
        rw [fitting] at fault
        refine ⟨_, reply_of_no_fault ttl fault, ?_, ?_⟩
        · rw [length, answerSize, headerLength]
          omega
        · rw [framed_success]
          exact List.drop_left' (length_answerFront long inside answer)
  | formatError | notImplemented | nameError => exact ⟨_, reply_of_no_fault ttl fault, length⟩

/-- A packet that is longer than the server reads. -/
def widePacket : Octets := List.replicate 700 0

/-- A question that ends at 646 leaves room for a reply without data to the last octet; one that ends
at 649 leaves room for being repeated, but not for the lifetime behind it. -/
theorem widePacket_fits_until :
    widePacket.length < UInt64.size ∧
      (∃ octets, reply widePacket 646 (.rule (.success (.name []))) 120 = .ok (some octets) ∧
        octets.length = 1286) ∧
      reply widePacket 649 (.rule (.success (.name []))) 120 = .error (.capacity 1290 1286) ∧
      (Guarded.reply widePacket 649 (.rule (.success (.name []))) 120).run =
        some (.error (.capacity 1290 1286)) := by
  have length : widePacket.length = 700 := List.length_replicate
  -- of the packet nothing matters but its length
  generalize widePacket = packet at length ⊢
  have small : packet.length < UInt64.size := by
    rw [length]
    decide
  obtain ⟨-, fitting, -⟩ := reply_by_sizes packet 646 120
  obtain ⟨-, exceeding, guarded⟩ := reply_by_sizes packet 649 120
  have fitting := fitting (.success (.name []))
  have exceeding := exceeding (.success (.name []))
  rw [length, if_neg (by decide), if_neg (by decide)] at fitting exceeding
  obtain ⟨octets, built, size, -⟩ := fitting
  refine ⟨small, ⟨octets, built, size⟩, exceeding, ?_⟩
  rw [guarded small, exceeding]

end StaticDns
