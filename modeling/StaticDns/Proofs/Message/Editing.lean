import StaticDns.Proofs.Message.Framing

/-!
# StaticDns.Proofs.Message.Editing — what a session of edits leaves as it was

A reply under construction takes edits of five kinds in any order, and any of them but one may fail.
Whatever is tried, the buffer only grows: it stays within its capacity, an edit that fails leaves no
trace, and no octet behind the header changes once it is there.

* `Edit.fault?`, `Edit.payload?`: when an edit fails, and what it puts at the end if it does not.
* `edit_cases`: all that an edit can do to a buffer.
* `run_inPlace`: an edit that works in place does the same.
* `Sound.session`: what a whole session keeps.
* `session_only_grows`: the buffer in every state of every session.
-/

namespace StaticDns.ReplyBuffer

/-! ## Single edits -/

/-- What an edit puts at the end of a buffer. Setting the header puts nothing there. -/
def Edit.payload? (buffer : ReplyBuffer) : Edit → Option Octets
  | .append octets => some octets
  | .appendWord16 word => some (Octets.ofWord16 word)
  | .appendWord32 word => some (Octets.ofWord32 word)
  | .appendWithin first last => some ((buffer.octets.drop first).take (last - first))
  | .writeHeader _ => none

/-- How a buffer is too full for `extra` more octets, if it is. -/
def full? (buffer : ReplyBuffer) (extra : Nat) : Option ReplyError :=
  if buffer.capacity < buffer.octets.length + extra then
    some (.capacity (buffer.octets.length + extra) buffer.capacity)
  else none

/-- What keeps an edit from being made: first of all a range that does not lie in the buffer, then
a lack of room. -/
def Edit.fault? (buffer : ReplyBuffer) : Edit → Option ReplyError
  | .append octets => buffer.full? octets.length
  | .appendWord16 _ => buffer.full? 2
  | .appendWord32 _ => buffer.full? 4
  | .appendWithin first last =>
    if last < first ∨ buffer.octets.length < last then
      some (.questionOutOfBounds last buffer.octets.length)
    else buffer.full? (last - first)
  | .writeHeader _ => none

theorem append_eq_full? (buffer : ReplyBuffer) (octets : Octets) :
    buffer.append octets =
      match buffer.full? octets.length with
      | some error => .error error
      | none => .ok { buffer with octets := buffer.octets ++ octets } := by
  rw [append_eq, full?]
  split_ifs <;> rfl

theorem length_range {octets : Octets} {last : Nat} (inside : last ≤ octets.length) (first : Nat) :
    ((octets.drop first).take (last - first)).length = last - first := by
  rw [List.length_take, List.length_drop]
  omega

theorem appendWithin_of_outside {buffer : ReplyBuffer} {first last : Nat}
    (outside : last < first ∨ buffer.octets.length < last) :
    buffer.appendWithin first last = .error (.questionOutOfBounds last buffer.octets.length) := by
  simp only [appendWithin, if_pos outside]
  rfl

theorem appendWithin_of_inside {buffer : ReplyBuffer} {first last : Nat}
    (inside : ¬ (last < first ∨ buffer.octets.length < last)) :
    buffer.appendWithin first last =
      buffer.append ((buffer.octets.drop first).take (last - first)) := by
  have range : (buffer.octets.take last).drop first =
      (buffer.octets.drop first).take (last - first) := List.drop_take
  rw [appendWithin_eq (by omega) (by omega), range]

theorem appendWithin_eq_fault? (buffer : ReplyBuffer) (first last : Nat) :
    buffer.appendWithin first last =
      match Edit.fault? buffer (.appendWithin first last) with
      | some error => .error error
      | none =>
        .ok { buffer with
          octets := buffer.octets ++ (buffer.octets.drop first).take (last - first) } := by
  by_cases outside : last < first ∨ buffer.octets.length < last
  · rw [appendWithin_of_outside outside]
    simp only [Edit.fault?, if_pos outside]
  · have length := length_range (show last ≤ buffer.octets.length by omega) first
    rw [appendWithin_of_inside outside, append_eq_full?, length]
    simp only [Edit.fault?, if_neg outside]

/-- **An edit fails with its fault, and otherwise puts its payload at the end.** -/
theorem apply_of_payload? {buffer : ReplyBuffer} {edit : Edit} {payload : Octets}
    (h : edit.payload? buffer = some payload) :
    buffer.apply edit =
      match edit.fault? buffer with
      | some error => .error error
      | none => .ok { buffer with octets := buffer.octets ++ payload } := by
  cases edit with
  | append octets =>
    cases h
    exact append_eq_full? buffer payload
  | appendWord16 word =>
    cases h
    exact append_eq_full? buffer (Octets.ofWord16 word)
  | appendWord32 word =>
    cases h
    exact append_eq_full? buffer (Octets.ofWord32 word)
  | appendWithin first last =>
    cases h
    exact appendWithin_eq_fault? buffer first last
  | writeHeader header => cases h

theorem apply_eq_error_iff {buffer : ReplyBuffer} {edit : Edit} {error : ReplyError} :
    buffer.apply edit = .error error ↔ edit.fault? buffer = some error := by
  cases payload : edit.payload? buffer with
  | some octets =>
    rw [apply_of_payload? payload]
    cases edit.fault? buffer <;> simp
  | none =>
    cases edit with
    | writeHeader header => simp [apply, Edit.fault?]
    | _ => cases payload

theorem octets_of_apply_eq_ok {buffer after : ReplyBuffer} {edit : Edit} {payload : Octets}
    (h : edit.payload? buffer = some payload) (made : buffer.apply edit = .ok after) :
    after.octets = buffer.octets ++ payload := by
  rw [apply_of_payload? h] at made
  cases fault : edit.fault? buffer with
  | some error =>
    rw [fault] at made
    cases made
  | none =>
    rw [fault] at made
    cases made
    rfl

theorem edit_of_error {buffer : ReplyBuffer} {edit : Edit} {error : ReplyError}
    (failed : buffer.apply edit = .error error) : buffer.edit edit = buffer := by
  rw [ReplyBuffer.edit, failed]

theorem edit_of_ok {buffer after : ReplyBuffer} {edit : Edit}
    (made : buffer.apply edit = .ok after) : buffer.edit edit = after := by
  rw [ReplyBuffer.edit, made]

theorem room_of_full?_eq_none {buffer : ReplyBuffer} {extra : Nat}
    (h : buffer.full? extra = none) : buffer.octets.length + extra ≤ buffer.capacity := by
  unfold full? at h
  split_ifs at h with full
  omega

theorem room_of_fault?_eq_none {buffer : ReplyBuffer} {edit : Edit} {payload : Octets}
    (h : edit.payload? buffer = some payload) (sound : edit.fault? buffer = none) :
    buffer.octets.length + payload.length ≤ buffer.capacity := by
  cases edit with
  | append | appendWord16 | appendWord32 =>
    cases h
    exact room_of_full?_eq_none sound
  | appendWithin first last =>
    cases h
    simp only [Edit.fault?] at sound
    split_ifs at sound with outside
    have inside : last ≤ buffer.octets.length := by omega
    rw [length_range inside]
    exact room_of_full?_eq_none sound
  | writeHeader header => cases h

/-- **All that an edit can do**: nothing, putting octets at the end for which there is room, or
setting the header. -/
theorem edit_cases (buffer : ReplyBuffer) (edit : Edit) :
    buffer.edit edit = buffer ∨
      (∃ payload, buffer.octets.length + payload.length ≤ buffer.capacity ∧
        buffer.edit edit = { buffer with octets := buffer.octets ++ payload }) ∨
      ∃ header, buffer.edit edit = buffer.writeHeader header := by
  cases payload : edit.payload? buffer with
  | some octets =>
    have applied := apply_of_payload? payload
    cases fault : edit.fault? buffer with
    | some error =>
      rw [fault] at applied
      exact .inl (edit_of_error applied)
    | none =>
      rw [fault] at applied
      exact .inr (.inl ⟨octets, room_of_fault?_eq_none payload fault, edit_of_ok applied⟩)
  | none =>
    cases edit with
    | writeHeader header => exact .inr (.inr ⟨header, rfl⟩)
    | _ => cases payload

/-! ## Edits in place -/

/-- Puts octets at the end of a buffer in place. -/
def extend (octets : Octets) : EStateM ReplyError ReplyBuffer Unit := do
  let buffer ← get
  let length := buffer.octets.length + octets.length
  if buffer.capacity < length then throw (.capacity length buffer.capacity)
  set { buffer with octets := buffer.octets ++ octets }

/-- An edit as a program on a buffer in place: what it has written when it fails stays written. -/
def Edit.inPlace : Edit → EStateM ReplyError ReplyBuffer Unit
  | .append octets => extend octets
  | .appendWord16 word => extend (Octets.ofWord16 word)
  | .appendWord32 word => extend (Octets.ofWord32 word)
  | .appendWithin first last => do
    let buffer ← get
    if last < first ∨ buffer.octets.length < last then
      throw (.questionOutOfBounds last buffer.octets.length)
    extend ((buffer.octets.drop first).take (last - first))
  | .writeHeader header => modify fun buffer => buffer.writeHeader header

theorem run_extend (buffer : ReplyBuffer) (octets : Octets) :
    (extend octets).run buffer =
      match buffer.append octets with
      | .ok after => .ok () after
      | .error error => .error error buffer := by
  rw [append_eq]
  by_cases full : buffer.capacity < buffer.octets.length + octets.length
  · simp [extend, full]
  · simp [extend, full]

/-- **Nothing is written by an edit that fails**, also when it works in place. -/
theorem run_inPlace (buffer : ReplyBuffer) (edit : Edit) :
    edit.inPlace.run buffer =
      match buffer.apply edit with
      | .ok after => .ok () after
      | .error error => .error error buffer := by
  cases edit with
  | append octets => exact run_extend buffer octets
  | appendWord16 word => exact run_extend buffer (Octets.ofWord16 word)
  | appendWord32 word => exact run_extend buffer (Octets.ofWord32 word)
  | appendWithin first last =>
    by_cases outside : last < first ∨ buffer.octets.length < last
    · have applied : buffer.apply (.appendWithin first last) =
          .error (.questionOutOfBounds last buffer.octets.length) := appendWithin_of_outside outside
      rw [applied]
      simp [Edit.inPlace, outside]
    · have applied : buffer.apply (.appendWithin first last) =
          buffer.append ((buffer.octets.drop first).take (last - first)) :=
        appendWithin_of_inside outside
      rw [applied, ← run_extend]
      simp [Edit.inPlace, outside]
  | writeHeader header => rfl

/-! ## Sessions -/

/-- A buffer that holds a header and does not exceed its capacity. -/
structure Sound (buffer : ReplyBuffer) : Prop where
  long : headerLength ≤ buffer.octets.length
  room : buffer.octets.length ≤ buffer.capacity

/-- One buffer has grown into another: the capacity is the same, and all that stands behind the
header still stands there. -/
structure GrowsTo (before after : ReplyBuffer) : Prop where
  capacity : after.capacity = before.capacity
  length : before.octets.length ≤ after.octets.length
  written : before.octets.drop headerLength <+: after.octets.drop headerLength

theorem GrowsTo.refl (buffer : ReplyBuffer) : buffer.GrowsTo buffer :=
  ⟨rfl, Nat.le_refl _, List.prefix_refl _⟩

theorem GrowsTo.trans {first second third : ReplyBuffer} (h : first.GrowsTo second)
    (h' : second.GrowsTo third) : first.GrowsTo third :=
  ⟨h'.capacity.trans h.capacity, Nat.le_trans h.length h'.length, h.written.trans h'.written⟩

theorem GrowsTo.getElem?_eq {before after : ReplyBuffer} (h : before.GrowsTo after)
    {position : Nat} (behind : headerLength ≤ position)
    (inside : position < before.octets.length) :
    after.octets[position]? = before.octets[position]? := by
  have place : headerLength + (position - headerLength) = position := by omega
  have shifted (octets : Octets) :
      octets[position]? = (octets.drop headerLength)[position - headerLength]? := by
    rw [List.getElem?_drop, place]
  have there : position - headerLength < (before.octets.drop headerLength).length := by
    rw [List.length_drop]
    omega
  obtain ⟨more, same⟩ := h.written
  rw [shifted, shifted, ← same, List.getElem?_append_left there]

theorem start_eq_ok_iff {packet : Octets} {questionEnd capacity : Nat} {buffer : ReplyBuffer} :
    start packet questionEnd capacity = .ok buffer ↔
      headerLength ≤ questionEnd ∧ questionEnd ≤ packet.length ∧ questionEnd ≤ capacity ∧
        buffer = ⟨packet.take questionEnd, capacity⟩ := by
  rw [start_eq]
  split_ifs with outside full
  · constructor
    · rintro ⟨⟩
    · omega
  · constructor
    · rintro ⟨⟩
    · omega
  · rw [Except.ok.injEq]
    constructor
    · rintro rfl
      exact ⟨by omega, by omega, by omega, rfl⟩
    · rintro ⟨-, -, -, rfl⟩
      rfl

theorem Sound.writeHeader {buffer : ReplyBuffer} (sound : buffer.Sound) (header : Header) :
    (buffer.writeHeader header).octets.length = buffer.octets.length ∧
      (buffer.writeHeader header).octets.drop headerLength = buffer.octets.drop headerLength := by
  have long := sound.long
  constructor
  · rw [ReplyBuffer.writeHeader, List.length_append, List.length_drop, Header.length_toOctets]
    omega
  · exact List.drop_left' (Header.length_toOctets header)

theorem Sound.put {buffer : ReplyBuffer} (sound : buffer.Sound) {payload : Octets}
    (room : buffer.octets.length + payload.length ≤ buffer.capacity) :
    Sound { buffer with octets := buffer.octets ++ payload } ∧
      buffer.GrowsTo { buffer with octets := buffer.octets ++ payload } := by
  have long := sound.long
  have length : (buffer.octets ++ payload).length = buffer.octets.length + payload.length :=
    List.length_append
  refine ⟨⟨?_, ?_⟩, rfl, ?_, ?_⟩
  · show headerLength ≤ (buffer.octets ++ payload).length
    omega
  · show (buffer.octets ++ payload).length ≤ buffer.capacity
    omega
  · show buffer.octets.length ≤ (buffer.octets ++ payload).length
    omega
  · show _ <+: (buffer.octets ++ payload).drop headerLength
    rw [List.drop_append_of_le_length long]
    exact List.prefix_append _ _

/-- What one edit keeps. -/
theorem Sound.edit {buffer : ReplyBuffer} (sound : buffer.Sound) (edit : Edit) :
    (buffer.edit edit).Sound ∧ buffer.GrowsTo (buffer.edit edit) := by
  rcases buffer.edit_cases edit with same | ⟨payload, room, same⟩ | ⟨header, same⟩
  · rw [same]
    exact ⟨sound, .refl buffer⟩
  · rw [same]
    exact sound.put room
  · -- a header is as long as any other, so that nothing behind it moves
    obtain ⟨length, behind⟩ := sound.writeHeader header
    rw [same]
    refine ⟨⟨?_, ?_⟩, rfl, ?_, ?_⟩
    · rw [length]
      exact sound.long
    · rw [length]
      exact sound.room
    · exact Nat.le_of_eq length.symm
    · exact behind ▸ List.prefix_refl _

/-- What a session keeps. -/
theorem Sound.session {buffer : ReplyBuffer} (sound : buffer.Sound) (edits : List Edit) :
    (buffer.session edits).Sound ∧ buffer.GrowsTo (buffer.session edits) := by
  induction edits generalizing buffer with
  | nil => exact ⟨sound, .refl buffer⟩
  | cons edit edits ih =>
    obtain ⟨still, grown⟩ := sound.edit edit
    obtain ⟨reached, further⟩ := ih still
    exact ⟨reached, grown.trans further⟩

/-- **A buffer only grows.**  In every state that a session reaches, whatever has been tried before,
the length lies between that of the question and the capacity.  No later edit makes the buffer
shorter or changes an octet behind the header.  An edit fails exactly when it has a fault, and then
the buffer stays as it is, also under an edit that works in place; otherwise its payload is put at
the end, or the header is set and all behind it stays. -/
theorem session_only_grows {packet : Octets} {questionEnd capacity : Nat} {buffer : ReplyBuffer}
    (started : start packet questionEnd capacity = .ok buffer) (edits : List Edit) :
    let reached := buffer.session edits
    max 12 questionEnd ≤ reached.octets.length ∧ reached.octets.length ≤ capacity ∧
    reached.capacity = capacity ∧
    (∀ more, reached.octets.length ≤ (reached.session more).octets.length ∧
      ∀ position, 12 ≤ position → position < reached.octets.length →
        (reached.session more).octets[position]? = reached.octets[position]?) ∧
    ∀ edit,
      (∀ error, reached.apply edit = .error error ↔ edit.fault? reached = some error) ∧
      (∀ error, reached.apply edit = .error error →
        reached.edit edit = reached ∧ edit.inPlace.run reached = .error error reached) ∧
      ∀ after, reached.apply edit = .ok after →
        reached.edit edit = after ∧ edit.inPlace.run reached = .ok () after ∧
        (∀ payload, edit.payload? reached = some payload →
          after.octets = reached.octets ++ payload) ∧
        ∀ header, edit = .writeHeader header → after.octets.take 12 = header.toOctets ∧
          after.octets.length = reached.octets.length ∧
          after.octets.drop 12 = reached.octets.drop 12 := by
  intro reached
  obtain ⟨long, inside, room, rfl⟩ := start_eq_ok_iff.mp started
  have length : (packet.take questionEnd).length = questionEnd := List.length_take_of_le inside
  have fresh : (ReplyBuffer.mk (packet.take questionEnd) capacity).Sound :=
    ⟨by rw [length]; exact long, by rw [length]; exact room⟩
  obtain ⟨sound, grown⟩ := fresh.session edits
  have least : questionEnd ≤ reached.octets.length := by
    rw [← length]
    exact grown.length
  have limit : reached.capacity = capacity := grown.capacity
  refine ⟨Nat.max_le.mpr ⟨sound.long, least⟩, limit ▸ sound.room, limit, ?_, ?_⟩
  · intro more
    obtain ⟨-, further⟩ := sound.session more
    exact ⟨further.length, fun position => further.getElem?_eq⟩
  · intro edit
    refine ⟨fun error => apply_eq_error_iff, ?_, ?_⟩
    · intro error failed
      exact ⟨edit_of_error failed, by rw [run_inPlace, failed]⟩
    intro after made
    refine ⟨edit_of_ok made, by rw [run_inPlace, made], ?_, ?_⟩
    · intro payload put
      exact octets_of_apply_eq_ok put made
    · rintro header rfl
      cases made
      exact ⟨List.take_left' (Header.length_toOctets header), sound.writeHeader header⟩

/-- A packet that is nothing but a header. -/
def blankPacket : Octets := List.replicate 12 0

theorem session_copies_new_header :
    start blankPacket 12 14 = .ok ⟨blankPacket, 14⟩ ∧
      let reached := session ⟨blankPacket, 14⟩ [.writeHeader { id := 7 }, .appendWord32 1]
      reached.apply (.appendWithin 0 2) = .ok (reached.edit (.appendWithin 0 2)) ∧
        (reached.edit (.appendWithin 0 2)).octets = reached.octets ++ [0, 7] ∧
        reached.apply (.appendWord32 1) = .error (.capacity 16 14) ∧
        reached.edit (.appendWord32 1) = reached := by
  have started : start blankPacket 12 14 = .ok ⟨blankPacket, 14⟩ := rfl
  obtain ⟨-, -, -, -, edited⟩ :=
    session_only_grows started [.writeHeader { id := 7 }, .appendWord32 1]
  obtain ⟨-, -, copied⟩ := edited (.appendWithin 0 2)
  obtain ⟨-, -, put, -⟩ := copied _ rfl
  obtain ⟨fails, stays, -⟩ := edited (.appendWord32 1)
  have failed := (fails (.capacity 16 14)).mpr rfl
  exact ⟨started, rfl, put _ rfl, failed, (stays _ failed).1⟩

end StaticDns.ReplyBuffer
