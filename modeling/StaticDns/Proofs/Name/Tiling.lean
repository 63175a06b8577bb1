import Mathlib.Tactic.Common
import StaticDns.Name

/-!
# StaticDns.Proofs.Name.Tiling — labels tile the names they are read from

A walk cuts its octet string in two: labels behind their length octets, and a remainder at whose
first octet no further label can be read.  Which ending a walk reports is decided by that remainder
alone, and the labels written out again give back everything in front of it.

* `walkFrom_tiles`: the labels of a walk are valid, they tile the front of the string, and the
  remainder is one at which the walk has to stop.
* `validate_eq_ok_iff`: the names that pass the check are the wire forms of valid labels.
* `ofLabels_append_inj`: a wire form determines its labels, whatever follows it.
-/

namespace StaticDns.Name

/-! ## Where a walk stops -/

/-- How a walk that has reached `offset` with these octets ahead of it ends there. -/
inductive Stops (offset : Nat) : Octets → Ending → Prop where
  | unterminated : Stops offset [] (.fault .unterminated)
  | terminator (rest : Octets) : Stops offset (0 :: rest) (.terminator rest)
  | labelTooLong {size : UInt8} (rest : Octets) (long : maxLabel < size.toNat) :
      Stops offset (size :: rest) (.fault (.labelTooLong size.toNat))
  | overrun {size : UInt8} {rest : Octets} (positive : 1 ≤ size.toNat)
      (fits : size.toNat ≤ maxLabel) (short : rest.length < size.toNat) :
      Stops offset (size :: rest) (.fault (.overrun offset))

/-- An octet with as many octets behind it as it says is a label in front of a string. -/
theorem labelWire_take_append {size : UInt8} {rest : Octets} (enough : size.toNat ≤ rest.length) :
    labelWire (rest.take size.toNat) ++ rest.drop size.toNat = size :: rest := by
  have length : (rest.take size.toNat).length = size.toNat := by
    rw [List.length_take]
    omega
  rw [labelWire, length, UInt8.ofNat_toNat, List.cons_append, List.take_append_drop]

@[simp] theorem labels_cons (label : Octets) (walk : Walk) :
    (walk.cons label).labels = label :: walk.labels := rfl

@[simp] theorem ending_cons (label : Octets) (walk : Walk) :
    (walk.cons label).ending = walk.ending := rfl

theorem span_cons (label : Octets) (walk : Walk) :
    (walk.cons label).span = label.length + 1 + walk.span := by
  simp only [Walk.span, labels_cons, List.flatMap_cons, List.length_append, length_labelWire]

/-- **The walk is exact**: valid labels tile the string up to a remainder at which the walk has to
stop, and the ending is the one that this remainder calls for. -/
theorem walkFrom_tiles (offset : Nat) (name : Octets) :
    (∀ label ∈ (walkFrom offset name).labels, ValidLabel label) ∧
      ∃ remaining, name = (walkFrom offset name).labels.flatMap labelWire ++ remaining ∧
        Stops (offset + (walkFrom offset name).span) remaining (walkFrom offset name).ending := by
  induction offset, name using walkFrom.induct with
  | case1 offset =>
    rw [walkFrom]
    exact ⟨by simp, [], rfl, .unterminated⟩
  | case2 offset size rest length zero =>
    rw [walkFrom, if_pos zero]
    have size_eq : size = 0 := UInt8.toNat_inj.mp zero
    subst size_eq
    exact ⟨by simp, _, rfl, .terminator rest⟩
  | case3 offset size rest length zero long =>
    rw [walkFrom, if_neg zero, if_pos long]
    exact ⟨by simp, _, rfl, .labelTooLong rest long⟩
  | case4 offset size rest length zero long short =>
    rw [walkFrom, if_neg zero, if_neg long, if_pos short]
    exact ⟨by simp, _, rfl, .overrun (by omega) (by omega) short⟩
  | case5 offset size rest length zero long short ih =>
    obtain ⟨valid, remaining, tiled, stops⟩ := ih
    have taken : (rest.take length).length = length := by
      rw [List.length_take]
      omega
    rw [walkFrom, if_neg zero, if_neg long, if_neg short]
    refine ⟨?_, remaining, ?_, ?_⟩
    · intro label mem
      rcases List.mem_cons.mp mem with rfl | mem
      · exact ⟨by rw [taken]; omega, by rw [taken]; omega⟩
      · exact valid label mem
    · rw [labels_cons, List.flatMap_cons, List.append_assoc, ← tiled]
      exact (labelWire_take_append (by omega)).symm
    · rw [span_cons, ending_cons, taken]
      have moved : offset + (length + 1 + (walkFrom (offset + length + 1) (rest.drop length)).span) =
          offset + length + 1 + (walkFrom (offset + length + 1) (rest.drop length)).span := by
        omega
      rw [moved]
      exact stops

/-! ## Names that are labels to the end -/

/-- A walk that ends at a terminator has read the wire form of its labels. -/
theorem eq_ofLabels_of_terminator {name rest : Octets}
    (h : (walk name).ending = .terminator rest) :
    name = ofLabels (walk name).labels ++ rest := by
  obtain ⟨-, remaining, tiled, stops⟩ := walkFrom_tiles 0 name
  have ending : (walkFrom 0 name).ending = .terminator rest := h
  rw [ending] at stops
  cases stops
  rw [ofLabels, List.append_assoc]
  exact tiled

theorem valid_of_mem_walk {name label : Octets} (h : label ∈ (walk name).labels) :
    ValidLabel label :=
  (walkFrom_tiles 0 name).1 label h

theorem validate_eq_ok_iff_ending {name : Octets} :
    validate name = .ok () ↔ (walk name).ending = .terminator [] := by
  unfold validate
  cases (walk name).ending with
  | fault error => simp
  | terminator rest => by_cases nothing : rest = [] <;> simp [nothing]

/-- **The check accepts exactly the wire forms** of lists of valid labels. -/
theorem validate_eq_ok_iff {name : Octets} :
    validate name = .ok () ↔
      ∃ labels, (∀ label ∈ labels, ValidLabel label) ∧ name = ofLabels labels := by
  constructor
  · intro passed
    have ending := validate_eq_ok_iff_ending.mp passed
    refine ⟨(walk name).labels, fun label => valid_of_mem_walk, ?_⟩
    simpa using eq_ofLabels_of_terminator ending
  · rintro ⟨labels, valid, rfl⟩
    simp [validate, walk_ofLabels valid]

/-- A wire form determines its labels, and what follows it, in any octet string. -/
theorem ofLabels_append_inj {ls ms : List Octets} {r s : Octets}
    (hl : ∀ label ∈ ls, ValidLabel label) (hm : ∀ label ∈ ms, ValidLabel label)
    (h : ofLabels ls ++ r = ofLabels ms ++ s) : ls = ms ∧ r = s := by
  have left := walkFrom_ofLabels hl 0 r
  rw [h, walkFrom_ofLabels hm 0 s] at left
  simp only [Walk.mk.injEq, Ending.terminator.injEq] at left
  exact ⟨left.1.symm, left.2.symm⟩

theorem ofLabels_inj {ls ms : List Octets} (hl : ∀ label ∈ ls, ValidLabel label)
    (hm : ∀ label ∈ ms, ValidLabel label) (h : ofLabels ls = ofLabels ms) : ls = ms :=
  (ofLabels_append_inj hl hm (congrArg (· ++ []) h)).1

end StaticDns.Name
