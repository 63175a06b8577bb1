import StaticDns.Proofs.Message.Fields
import StaticDns.Proofs.Name.Labelwise

/-!
# StaticDns.Proofs.Message.Reader — a reader of messages

A reader that knows the message format and nothing of this server: a header of six words, then as
many questions and as many records as it counts, every name read label by label up to its zero
octet. Replies are never parsed by the program, so what a client finds in one has to be said by a
reader of its own.

* `message`: the reader.
* `name_eq_some_iff`: a name is read exactly where the wire form of valid labels stands.
* `message_toOctets_append`: a written header announces what is read behind it.
-/

namespace StaticDns.Reader

/-! ## Parts -/

/-- A 16-bit number, the high octet first. -/
def word : Octets → Option (Nat × Octets)
  | high :: low :: rest => some (high.toNat * 256 + low.toNat, rest)
  | _ => none

/-- A 32-bit number, the high word first. -/
def long (octets : Octets) : Option (Nat × Octets) := do
  let (high, octets) ← word octets
  let (low, octets) ← word octets
  return (high * 65536 + low, octets)

/-- As many octets as are asked for. -/
def block (size : Nat) (octets : Octets) : Option (Octets × Octets) :=
  if octets.length < size then none else some (octets.take size, octets.drop size)

/-- The labels of a name. A length octet of 64 or more is no length: the format keeps these values
for other uses. -/
def name : Octets → Option (List Octets × Octets)
  | [] => none
  | size :: rest =>
    if size = 0 then some ([], rest)
    else if 64 ≤ size.toNat then none
    else if rest.length < size.toNat then none
    else (name (rest.drop size.toNat)).map fun (labels, behind) =>
      (rest.take size.toNat :: labels, behind)
termination_by octets => octets.length
decreasing_by simp only [List.length_drop, List.length_cons]; omega

/-- So many items, one behind the other. -/
def many {α : Type} (item : Octets → Option (α × Octets)) :
    Nat → Octets → Option (List α × Octets)
  | 0, octets => some ([], octets)
  | count + 1, octets => do
    let (first, octets) ← item octets
    let (others, octets) ← many item count octets
    return (first :: others, octets)

/-! ## Messages -/

/-- A question as it is read. -/
structure Question where
  name : List Octets
  type : Nat
  qclass : Nat
  deriving DecidableEq, Repr

/-- A resource record as it is read, with the length that it announces for its data. -/
structure Resource where
  name : List Octets
  type : Nat
  rclass : Nat
  ttl : Nat
  dataLength : Nat
  data : Octets
  deriving DecidableEq, Repr

/-- A message as it is read: its questions and its answers, and what it counts behind them. -/
structure Message where
  id : Nat
  flags : Nat
  questions : List Question
  answers : List Resource
  authorities : Nat
  additionals : Nat
  deriving DecidableEq, Repr

/-- Reads a question. -/
def question (octets : Octets) : Option (Question × Octets) := do
  let (name, octets) ← name octets
  let (type, octets) ← word octets
  let (qclass, octets) ← word octets
  return ({ name, type, qclass }, octets)

/-- Reads a resource record. -/
def resource (octets : Octets) : Option (Resource × Octets) := do
  let (name, octets) ← name octets
  let (type, octets) ← word octets
  let (rclass, octets) ← word octets
  let (ttl, octets) ← long octets
  let (dataLength, octets) ← word octets
  let (data, octets) ← block dataLength octets
  return ({ name, type, rclass, ttl, dataLength, data }, octets)

/-- Reads a message, and gives what is left over behind it. -/
def message (octets : Octets) : Option (Message × Octets) := do
  let (id, octets) ← word octets
  let (flags, octets) ← word octets
  let (questionCount, octets) ← word octets
  let (answerCount, octets) ← word octets
  let (authorities, octets) ← word octets
  let (additionals, octets) ← word octets
  let (questions, octets) ← many question questionCount octets
  let (answers, octets) ← many resource answerCount octets
  return ({ id, flags, questions, answers, authorities, additionals }, octets)

/-! ## Reading what was written -/

@[simp] theorem word_ofWord16_append (value : UInt16) (rest : Octets) :
    word (Octets.ofWord16 value ++ rest) = some (value.toNat, rest) := by
  show some ((UInt8.ofNat (value.toNat / 256)).toNat * 256 +
    (UInt8.ofNat (value.toNat % 256)).toNat, rest) = _
  rw [← Octets.toNat_word16, Octets.word16_ofWord16]

@[simp] theorem long_ofWord32_append (value : UInt32) (rest : Octets) :
    long (Octets.ofWord32 value ++ rest) = some (value.toNat, rest) := by
  have bound := value.toNat_lt
  have parts : value.toNat / 65536 % 65536 * 65536 + value.toNat % 65536 = value.toNat := by
    omega
  rw [long, Octets.ofWord32, List.append_assoc]
  simp [parts]

theorem block_append {size : Nat} {front : Octets} (length : front.length = size)
    (rest : Octets) : block size (front ++ rest) = some (front, rest) := by
  subst length
  simp [block]

theorem name_labelWire_append {label : Octets} (valid : Name.ValidLabel label) (rest : Octets) :
    name (Name.labelWire label ++ rest) =
      (name rest).map fun (labels, behind) => (label :: labels, behind) := by
  have size := Name.toNat_length valid
  obtain ⟨positive, bound⟩ := valid
  simp only [Name.maxLabel] at bound
  have nonzero : UInt8.ofNat label.length ≠ 0 := by
    intro zero
    rw [zero] at size
    simp only [UInt8.toNat_zero] at size
    omega
  rw [Name.labelWire, List.cons_append, name, if_neg nonzero, size, if_neg (by omega),
    if_neg (by rw [List.length_append]; omega), List.take_left, List.drop_left]

/-- The wire form of valid labels is read as these labels. -/
theorem name_ofLabels_append {labels : List Octets}
    (valid : ∀ label ∈ labels, Name.ValidLabel label) (rest : Octets) :
    name (Name.ofLabels labels ++ rest) = some (labels, rest) := by
  induction labels with
  | nil =>
    show name (0 :: rest) = _
    rw [name, if_pos rfl]
  | cons label labels ih =>
    obtain ⟨first, valid⟩ := List.forall_mem_cons.mp valid
    rw [Name.ofLabels_cons, List.append_assoc, name_labelWire_append first, ih valid]
    rfl

/-- **The reader of names is exact**: it accepts the wire forms of valid labels and nothing else. -/
theorem name_eq_some_iff {octets rest : Octets} {labels : List Octets} :
    name octets = some (labels, rest) ↔
      (∀ label ∈ labels, Name.ValidLabel label) ∧ octets = Name.ofLabels labels ++ rest := by
  constructor
  · intro read
    induction octets using name.induct generalizing labels rest with
    | case1 => simp [name] at read
    | case2 behind =>
      rw [name, if_pos rfl] at read
      cases read
      exact ⟨by simp, rfl⟩
    | case3 size behind nonzero reserved => simp [name, nonzero, reserved] at read
    | case4 size behind nonzero reserved short => simp [name, nonzero, reserved, short] at read
    | case5 size behind nonzero reserved short ih =>
      rw [name, if_neg nonzero, if_neg reserved, if_neg short, Option.map_eq_some_iff] at read
      obtain ⟨⟨others, left⟩, read, same⟩ := read
      cases same
      obtain ⟨valid, tail⟩ := ih read
      have positive : size.toNat ≠ 0 := fun zero => nonzero (UInt8.toNat_inj.mp zero)
      have length : (behind.take size.toNat).length = size.toNat := by
        rw [List.length_take]
        omega
      refine ⟨List.forall_mem_cons.mpr ⟨⟨?_, ?_⟩, valid⟩, ?_⟩
      · rw [length]
        omega
      · rw [length, Name.maxLabel]
        omega
      · rw [Name.ofLabels_cons, List.append_assoc, ← tail, Name.labelWire_take_append (by omega)]
  · rintro ⟨valid, rfl⟩
    exact name_ofLabels_append valid rest

section Written

variable {labels : List Octets} (valid : ∀ label ∈ labels, Name.ValidLabel label)
  (type rclass : UInt16) (rest : Octets)
include valid

theorem question_append :
    question (Name.ofLabels labels ++ (Octets.ofWord16 type ++ (Octets.ofWord16 rclass ++ rest))) =
      some (⟨labels, type.toNat, rclass.toNat⟩, rest) := by
  simp [question, name_ofLabels_append valid]

theorem resource_append (ttl : UInt32) {size : UInt16} {data : Octets}
    (length : data.length = size.toNat) :
    resource (Name.ofLabels labels ++ (Octets.ofWord16 type ++ (Octets.ofWord16 rclass ++
      (Octets.ofWord32 ttl ++ (Octets.ofWord16 size ++ (data ++ rest)))))) =
      some (⟨labels, type.toNat, rclass.toNat, ttl.toNat, size.toNat, data⟩, rest) := by
  simp [resource, name_ofLabels_append valid, block_append length]

end Written

theorem many_one {α : Type} {item : Octets → Option (α × Octets)} {octets rest : Octets} {first : α}
    (read : item octets = some (first, rest)) : many item 1 octets = some ([first], rest) := by
  simp [many, read]

/-- A written header announces what is read behind it. -/
theorem message_toOctets_append (header : Header) {body middle rest : Octets}
    {questions : List Question} {answers : List Resource}
    (asked : many question header.questions.toNat body = some (questions, middle))
    (answered : many resource header.answers.toNat middle = some (answers, rest)) :
    message (header.toOctets ++ body) =
      some (⟨header.id.toNat, header.flags.toWord.toNat, questions, answers,
        header.authorities.toNat, header.additionals.toNat⟩, rest) := by
  simp only [Header.toOctets, List.append_assoc]
  simp [message, asked, answered]

end StaticDns.Reader
