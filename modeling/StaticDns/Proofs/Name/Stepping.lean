import StaticDns.Proofs.Name.Tiling

/-!
# StaticDns.Proofs.Name.Stepping — the labels of a name one at a time

Whoever reads a name does so by steps: a cursor stands somewhere in the octets, and a step yields the
label that begins there and moves behind it, yields the error that ends the walk, or finds the
terminator and yields nothing.  The cursor moves by what the octets say, yet what it yields is the
list of labels, item for item, and the list says everything about the name: the labels in it, each
behind its length octet, are the front of the name, and the octet behind that front alone decides how
the walk ends.

* `Cursor`, `Cursor.next`: one step.
* `Cursor.next_spec`, `Cursor.next_advance`: what a step yields, and what it yields after any number
  of steps.
* `Stops.unique`: the octets ahead decide how a walk ends.
* `validate_eq_error_iff`: what the check of a name reports.
* `labels_exact`: all of it together.
-/

namespace StaticDns.Name

/-! ## The items of a walk -/

/-- The error that a walk ends with. -/
def Ending.fault? : Ending → Option NameError
  | .terminator _ => none
  | .fault error => some error

/-- What is left to read of a walk: its labels, and then the error that ends it, if one does. -/
def Walk.items (walk : Walk) : List (Except NameError Octets) :=
  walk.labels.map .ok ++ (walk.ending.fault?.map .error).toList

theorem items_cons (label : Octets) (walk : Walk) :
    (walk.cons label).items = .ok label :: walk.items := rfl

theorem labels_eq_items (name : Octets) : labels name = (walk name).items := by
  rw [labels, Walk.items]
  cases (walk name).ending <;> rfl

/-! ## Steps -/

/-- A place in the walk over a name. -/
structure Cursor where
  name : Octets
  position : Nat
  finished : Bool
  deriving DecidableEq, Repr

namespace Cursor

def start (name : Octets) : Cursor := ⟨name, 0, false⟩

def finish (cursor : Cursor) : Cursor := { cursor with finished := true }

/-- One step of a walk: the item that it yields, and where it leads.  A walk that has found the
terminator or an error is finished, and yields nothing more. -/
def next (cursor : Cursor) : Option (Except NameError Octets) × Cursor :=
  if cursor.finished then (none, cursor)
  else match cursor.name[cursor.position]? with
  | none => (some (.error .unterminated), cursor.finish)
  | some size =>
    let length := size.toNat
    let first := cursor.position + 1
    if length = 0 then (none, cursor.finish)
    else if maxLabel < length then (some (.error (.labelTooLong length)), cursor.finish)
    else if cursor.name.length < first + length then
      (some (.error (.overrun cursor.position)), cursor.finish)
    else
      (some (.ok ((cursor.name.drop first).take length)), { cursor with position := first + length })

/-- The cursor after a number of steps. -/
def advance : Nat → Cursor → Cursor
  | 0, cursor => cursor
  | steps + 1, cursor => advance steps cursor.next.2

/-- The items that a cursor has ahead of it. -/
def ahead (cursor : Cursor) : List (Except NameError Octets) :=
  if cursor.finished then []
  else (walkFrom cursor.position (cursor.name.drop cursor.position)).items

theorem ahead_of_finished {cursor : Cursor} (h : cursor.finished = true) : cursor.ahead = [] :=
  if_pos h

theorem ahead_of_not_finished {cursor : Cursor} (h : ¬ cursor.finished = true) :
    cursor.ahead = (walkFrom cursor.position (cursor.name.drop cursor.position)).items :=
  if_neg h

theorem ahead_start (name : Octets) : (start name).ahead = labels name := by
  rw [labels_eq_items]
  rfl

theorem of_drop_eq_cons {octets rest : Octets} {position : Nat} {size : UInt8}
    (split : octets.drop position = size :: rest) :
    octets[position]? = some size ∧ octets.drop (position + 1) = rest ∧
      octets.length = position + 1 + rest.length := by
  refine ⟨?_, ?_, ?_⟩
  · rw [← List.head?_drop, split]
    rfl
  · rw [← List.drop_drop, split]
    rfl
  · have length := congrArg List.length split
    rw [List.length_drop, List.length_cons] at length
    omega

/-- **A step yields the first item ahead** and leaves the others ahead. -/
theorem next_spec (cursor : Cursor) :
    cursor.next.1 = cursor.ahead.head? ∧ cursor.next.2.ahead = cursor.ahead.tail := by
  unfold next
  by_cases finished : cursor.finished = true
  · rw [if_pos finished, ahead_of_finished finished]
    exact ⟨rfl, rfl⟩
  rw [if_neg finished, ahead_of_not_finished finished]
  cases split : cursor.name.drop cursor.position with
  | nil =>
    rw [← List.head?_drop, split, walkFrom]
    exact ⟨rfl, rfl⟩
  | cons size rest =>
    obtain ⟨read, behind, length⟩ := of_drop_eq_cons split
    rw [read, walkFrom]
    dsimp only
    -- the cursor measures what is left of the name from its front, the walk from where it stands
    split_ifs with zero long short
    · exact ⟨rfl, rfl⟩
    · exact ⟨rfl, rfl⟩
    · exact ⟨rfl, rfl⟩
    · omega
    · omega
    · -- the label stands behind its length octet, and the cursor moves behind the label
      have moved : rest.drop size.toNat = cursor.name.drop (cursor.position + 1 + size.toNat) := by
        rw [← behind, List.drop_drop]
      have offset : cursor.position + size.toNat + 1 = cursor.position + 1 + size.toNat := by omega
      rw [items_cons, behind, moved, offset]
      exact ⟨rfl, ahead_of_not_finished finished⟩

/-- After any number of steps the items ahead are those that have not been yielded. -/
theorem ahead_advance (steps : Nat) (cursor : Cursor) :
    (cursor.advance steps).ahead = cursor.ahead.drop steps := by
  induction steps generalizing cursor with
  | zero => rfl
  | succ steps ih => rw [advance, ih, (next_spec cursor).2, List.drop_tail]

theorem next_advance (steps : Nat) (cursor : Cursor) :
    (cursor.advance steps).next.1 = cursor.ahead[steps]? := by
  rw [(next_spec _).1, ahead_advance, List.head?_drop]

end Cursor

/-! ## Endings -/

/-- **The octets ahead decide** how a walk ends. -/
theorem Stops.unique {offset : Nat} {remaining : Octets} {one other : Ending}
    (h : Stops offset remaining one) (h' : Stops offset remaining other) : one = other := by
  cases h with
  | unterminated => cases h'; rfl
  | terminator rest =>
    cases h' with
    | terminator => rfl
    | labelTooLong _ long => exact absurd long (by decide)
    | overrun positive => exact absurd positive (by decide)
  | labelTooLong rest long =>
    cases h' with
    | terminator => exact absurd long (by decide)
    | labelTooLong => rfl
    | overrun _ fits => exact absurd long (Nat.not_lt.mpr fits)
  | overrun positive fits =>
    cases h' with
    | terminator => exact absurd positive (by decide)
    | labelTooLong _ long => exact absurd long (Nat.not_lt.mpr fits)
    | overrun => rfl

namespace Stops

variable {offset : Nat} {remaining : Octets} {ending : Ending} (h : Stops offset remaining ending)
include h

theorem terminator_iff {rest : Octets} : ending = .terminator rest ↔ remaining = 0 :: rest := by
  constructor
  · rintro rfl
    cases h
    rfl
  · rintro rfl
    exact h.unique (.terminator rest)

theorem unterminated_iff : ending = .fault .unterminated ↔ remaining = [] := by
  constructor
  · rintro rfl
    cases h
    rfl
  · rintro rfl
    exact h.unique .unterminated

theorem labelTooLong_iff {length : Nat} :
    ending = .fault (.labelTooLong length) ↔
      ∃ size rest, remaining = size :: rest ∧ size.toNat = length ∧ maxLabel < length := by
  constructor
  · rintro rfl
    cases h with
    | labelTooLong rest long => exact ⟨_, rest, rfl, rfl, long⟩
  · rintro ⟨size, rest, rfl, rfl, long⟩
    exact h.unique (.labelTooLong rest long)

theorem overrun_iff {position : Nat} :
    ending = .fault (.overrun position) ↔
      position = offset ∧ ∃ size rest, remaining = size :: rest ∧ 1 ≤ size.toNat ∧
        size.toNat ≤ maxLabel ∧ rest.length < size.toNat := by
  constructor
  · rintro rfl
    cases h with
    | overrun positive fits short => exact ⟨rfl, _, _, rfl, positive, fits, short⟩
  · rintro ⟨rfl, size, rest, rfl, positive, fits, short⟩
    exact h.unique (.overrun positive fits short)

/-- No other error ends a walk. -/
theorem fault?_cases :
    ending.fault? = none ∨ ending.fault? = some .unterminated ∨
      (∃ length, ending.fault? = some (.labelTooLong length)) ∨
      ∃ position, ending.fault? = some (.overrun position) := by
  cases h with
  | unterminated => exact .inr (.inl rfl)
  | terminator => exact .inl rfl
  | labelTooLong => exact .inr (.inr (.inl ⟨_, rfl⟩))
  | overrun => exact .inr (.inr (.inr ⟨_, rfl⟩))

end Stops

theorem Ending.fault?_eq_some_iff {ending : Ending} {error : NameError} :
    ending.fault? = some error ↔ ending = .fault error := by
  cases ending <;> simp [Ending.fault?]

theorem Ending.fault?_eq_none_iff {ending : Ending} :
    ending.fault? = none ↔ ∃ rest, ending = .terminator rest := by
  cases ending <;> simp [Ending.fault?]

/-! ## The check -/

theorem validate_eq_error_iff {name : Octets} {error : NameError} :
    validate name = .error error ↔
      (walk name).ending = .fault error ∨
        error = .overrun (walk name).span ∧
          ∃ rest, (walk name).ending = .terminator rest ∧ rest ≠ [] := by
  unfold validate
  cases (walk name).ending with
  | fault other => simp
  | terminator rest => by_cases nothing : rest = [] <;> simp [nothing, eq_comm]

/-! ## The whole walk -/

/-- **The walk over a name is exact**, for every octet string.  Its labels have between 1 and 63
octets, and they come first, taken step by step as well as in a list; one error may follow and
nothing after it.  With each label behind its length octet the labels are the front of the string.
What remains decides the rest: the walk ends well at a zero octet, and otherwise reports that nothing
remains, that the next octet is too large for a length, or that there are fewer octets behind it than
it says.  The check accepts the string when the zero octet is all that remains, so that its labels
written again are the string itself; otherwise it reports the walk's error, or the length of the
front where octets follow the zero octet. -/
theorem labels_exact (name : Octets) :
    (∀ steps, ((Cursor.start name).advance steps).next.1 = (labels name)[steps]?) ∧
    ∃ (good : List Octets) (fault? : Option NameError) (front remaining : Octets),
      labels name = good.map .ok ++ (fault?.map .error).toList ∧
      (∀ label ∈ good, 1 ≤ label.length ∧ label.length ≤ 63) ∧
      front = good.flatMap (fun label => UInt8.ofNat label.length :: label) ∧
      name = front ++ remaining ∧
      (fault? = none ↔ ∃ rest, remaining = 0 :: rest) ∧
      (fault? = some .unterminated ↔ remaining = []) ∧
      (∀ length, fault? = some (.labelTooLong length) ↔
        ∃ size rest, remaining = size :: rest ∧ size.toNat = length ∧ 63 < length) ∧
      (∀ position, fault? = some (.overrun position) ↔
        position = front.length ∧ ∃ size rest, remaining = size :: rest ∧
          1 ≤ size.toNat ∧ size.toNat ≤ 63 ∧ rest.length < size.toNat) ∧
      (fault? = none ∨ fault? = some .unterminated ∨
        (∃ length, fault? = some (.labelTooLong length)) ∨
        ∃ position, fault? = some (.overrun position)) ∧
      (validate name = .ok () ↔ name = front ++ [0]) ∧
      (validate name = .ok () ↔ ofLabels good = name) ∧
      ∀ error, validate name = .error error ↔
        fault? = some error ∨
          error = .overrun front.length ∧ ∃ rest, remaining = 0 :: rest ∧ rest ≠ [] := by
  obtain ⟨valid, remaining, tiled, stops⟩ := walkFrom_tiles 0 name
  rw [Nat.zero_add] at stops
  have rest_zero : name = (walk name).labels.flatMap labelWire ++ [0] ↔ remaining = [0] := by
    conv_lhs => lhs; rw [tiled]
    exact List.append_right_inj _
  refine ⟨?_, (walk name).labels, (walk name).ending.fault?, _, remaining, labels_eq_items name,
    valid, rfl, tiled, ?_, ?_, ?_, ?_, ?_, ?_, ?_, ?_⟩
  · intro steps
    rw [Cursor.next_advance, Cursor.ahead_start]
  · simp only [Ending.fault?_eq_none_iff, walk, stops.terminator_iff]
  · rw [Ending.fault?_eq_some_iff]
    exact stops.unterminated_iff
  · intro length
    rw [Ending.fault?_eq_some_iff]
    exact stops.labelTooLong_iff
  · intro position
    rw [Ending.fault?_eq_some_iff]
    exact stops.overrun_iff
  · exact stops.fault?_cases
  · rw [validate_eq_ok_iff_ending]
    exact stops.terminator_iff.trans rest_zero.symm
  · rw [validate_eq_ok_iff_ending, eq_comm (b := name)]
    exact stops.terminator_iff.trans rest_zero.symm
  · intro error
    rw [validate_eq_error_iff, Ending.fault?_eq_some_iff]
    simp only [walk, stops.terminator_iff]
    rfl

/-- A zero octet inside a label ends nothing, and the first octet that is no length does. -/
example : labels [3, 0x61, 0, 0x62, 64, 0] = [.ok [0x61, 0, 0x62], .error (.labelTooLong 64)] := by
  cbv

end StaticDns.Name
