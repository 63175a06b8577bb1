import StaticDns.Proofs.Name.Tiling
import StaticDns.Proofs.Text.Pieces

/-!
# StaticDns.Proofs.Name.Dotted — from dotted text to a name

The labels of a dotted text are the parts between its dots, as octets.  Writing a text as a name
succeeds exactly when all of them are valid and the whole fits into 255 octets, and what is written
is then the wire form of these labels and nothing else.

* `textLabels_eq_splitOn`: the labels are the parts between the dots.
* `encode_eq_ok_iff`: which texts are names, and what they are written as.
* `length_of_encode`: every written name has between 3 and 255 octets.
-/

namespace StaticDns

namespace Name

theorem textLabels_eq_splitOn (text : String) :
    textLabels text = ((dropFinalDot text.toList).splitOn '.').map Utf8.encode := by
  rw [textLabels, Text.pieces_eq_splitOn]

theorem mem_of_mem_dropFinalDot {cs : List Char} {c : Char} (mem : c ∈ dropFinalDot cs) :
    c ∈ cs := by
  unfold dropFinalDot at mem
  split_ifs at mem
  · exact (List.dropLast_subset cs) mem
  · exact mem

theorem textLabels_ne_nil (text : String) : textLabels text ≠ [] := by
  simp [textLabels, Text.pieces_ne_nil]

theorem labelFault?_eq_none_iff {label : Octets} : labelFault? label = none ↔ ValidLabel label := by
  unfold labelFault? ValidLabel
  split_ifs with empty long
  · subst empty
    simp
  · simp only [false_iff]
    omega
  · have positive : label.length ≠ 0 := fun zero => empty (List.length_eq_zero_iff.mp zero)
    simp only [true_iff]
    omega

theorem findSome?_labelFault?_eq_none_iff {labels : List Octets} :
    labels.findSome? labelFault? = none ↔ ∀ label ∈ labels, ValidLabel label := by
  simp only [List.findSome?_eq_none_iff, labelFault?_eq_none_iff]

/-- **Which texts are names**: those whose labels are valid and whose wire form is not too long. -/
theorem encode_eq_ok_iff {text : String} {name : Octets} :
    encode text = .ok name ↔
      (∀ label ∈ textLabels text, ValidLabel label) ∧ name = ofLabels (textLabels text) ∧
        name.length ≤ maxName := by
  rw [← findSome?_labelFault?_eq_none_iff]
  unfold encode
  cases faulty : (textLabels text).findSome? labelFault? with
  | some fault => simp
  | none =>
    by_cases long : maxName < (ofLabels (textLabels text)).length
    · simp only [long, if_true, reduceCtorEq, true_and, false_iff]
      rintro ⟨rfl, bound⟩
      omega
    · simp only [long, if_false, Except.ok.injEq, true_and]
      constructor
      · rintro rfl
        exact ⟨rfl, by omega⟩
      · rintro ⟨rfl, -⟩
        rfl

/-- The wire form of at least one valid label has a length octet, an octet and a terminator. -/
theorem three_le_length_ofLabels {labels : List Octets} (nonempty : labels ≠ [])
    (valid : ∀ label ∈ labels, ValidLabel label) : 3 ≤ (ofLabels labels).length := by
  cases labels with
  | nil => exact absurd rfl nonempty
  | cons label labels =>
    have positive : 1 ≤ label.length := (valid label (by simp)).1
    rw [length_ofLabels, List.flatMap_cons, List.length_append, length_labelWire]
    omega

theorem length_of_encode {text : String} {name : Octets} (h : encode text = .ok name) :
    3 ≤ name.length ∧ name.length ≤ maxName := by
  obtain ⟨valid, rfl, bound⟩ := encode_eq_ok_iff.mp h
  exact ⟨three_le_length_ofLabels (textLabels_ne_nil text) valid, bound⟩

end Name

end StaticDns
