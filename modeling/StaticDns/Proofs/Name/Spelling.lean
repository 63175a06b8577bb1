import Mathlib.Data.List.Basic
import StaticDns.Proofs.Name.Dotted
import StaticDns.Proofs.Text.Utf8

/-!
# StaticDns.Proofs.Name.Spelling — from dotted text to a name and back

A dotted text is cut at its dots and a name is read by its length octets, yet the one undoes the
other: a label holds the octets of one part of the text, whatever characters it is made of, so the
parts come back one by one, and with dots between them they are the text again.  Only one dot at the
end is lost.

* `length_ofLabels_textLabels`: a written name takes two octets more than its text.
* `toDotted_encode`, `encode_toDotted`: a written name is shown as the text that it was written
  from, and written again from what is shown.
* `Misspelt`, `encode_eq_error_iff`: why a text is not a name.
* `encode_exact`: all of it together.
-/

namespace StaticDns.Name

/-- The parts of a text between its dots, one dot at its end apart. -/
def parts (text : String) : List (List Char) := (dropFinalDot text.toList).splitOn '.'

/-- What keeps a text from being a name: the leftmost part that is no label, or the length of the
whole where all parts are labels. -/
inductive Misspelt (text : String) : NameError → Prop
  | emptyLabel {front back : List (List Char)} (cut : parts text = front ++ [] :: back)
      (good : ∀ part ∈ front, ValidLabel (Utf8.encode part)) : Misspelt text .emptyLabel
  | labelTooLong {front back : List (List Char)} {part : List Char}
      (cut : parts text = front ++ part :: back)
      (good : ∀ part ∈ front, ValidLabel (Utf8.encode part))
      (long : 63 < (Utf8.encode part).length) :
      Misspelt text (.labelTooLong (Utf8.encode part).length)
  | nameTooLong (good : ∀ part ∈ parts text, ValidLabel (Utf8.encode part))
      (long : 255 < (Utf8.encode (dropFinalDot text.toList)).length + 2) :
      Misspelt text (.nameTooLong ((Utf8.encode (dropFinalDot text.toList)).length + 2))

theorem textLabels_eq_map_parts (text : String) : textLabels text = (parts text).map Utf8.encode :=
  textLabels_eq_splitOn text

/-! ## Length -/

/-- The length octet of each part but the first takes the place of a dot. -/
theorem length_flatMap_pieces (cs : List Char) :
    (((Text.pieces (· == '.') cs).map Utf8.encode).flatMap labelWire).length =
      (Utf8.encode cs).length + 1 := by
  induction cs with
  | nil => rfl
  | cons c cs ih =>
    rw [Utf8.encode_cons, List.length_append]
    by_cases dot : c = '.'
    · subst dot
      have octet : (String.utf8EncodeChar '.').length = 1 := by decide
      rw [Text.pieces_cons_of_sep rfl, List.map_cons, List.flatMap_cons, List.length_append, ih,
        length_labelWire, Utf8.encode_nil, List.length_nil, octet]
      omega
    · have cut : Text.pieces (· == '.') (c :: cs) =
          (c :: (Text.cutAll (· == '.') cs).1) :: (Text.cutAll (· == '.') cs).2 :=
        Text.pieces_cons_of_not (by simpa using dot) cs
      rw [Text.pieces, List.map_cons, List.flatMap_cons, List.length_append, length_labelWire] at ih
      rw [cut, List.map_cons, List.flatMap_cons, List.length_append,
        length_labelWire, Utf8.encode_cons, List.length_append]
      omega

theorem length_ofLabels_textLabels (text : String) :
    (ofLabels (textLabels text)).length = (Utf8.encode (dropFinalDot text.toList)).length + 2 := by
  rw [length_ofLabels, textLabels, length_flatMap_pieces]

/-! ## Reading back -/

section ReadBack

variable {ls : List Octets} (valid : ∀ label ∈ ls, ValidLabel label)
include valid

theorem validate_ofLabels : validate (ofLabels ls) = .ok () :=
  validate_eq_ok_iff.mpr ⟨ls, valid, rfl⟩

theorem labels_ofLabels : labels (ofLabels ls) = ls.map .ok := by
  rw [labels, walk_ofLabels valid]
  exact List.append_nil _

theorem toDotted_ofLabels (nonempty : ls ≠ []) :
    toDotted (ofLabels ls) =
      String.ofList (List.intercalate ['.'] (ls.map Utf8.decodeLossy)) := by
  rw [toDotted, walk_ofLabels valid]
  dsimp only
  rw [List.append_nil, if_neg (by simpa using nonempty)]

end ReadBack

theorem map_decodeLossy_textLabels (text : String) :
    (textLabels text).map Utf8.decodeLossy = parts text := by
  rw [textLabels_eq_map_parts, List.map_map]
  conv_rhs => rw [← List.map_id (parts text)]
  exact List.map_congr_left fun part _ => Utf8.decodeLossy_encode part

/-- **A written name is shown as its text**, without one dot at its end. -/
theorem toDotted_encode {text : String} {name : Octets} (encoded : encode text = .ok name) :
    toDotted name = String.ofList (dropFinalDot text.toList) := by
  obtain ⟨valid, rfl, -⟩ := encode_eq_ok_iff.mp encoded
  rw [toDotted_ofLabels valid (textLabels_ne_nil text), map_decodeLossy_textLabels, parts,
    List.intercalate_splitOn]

/-- A text whose parts are labels is not empty, and has no dot at its end but the one that is
dropped. -/
theorem dropFinalDot_dropFinalDot {text : String}
    (valid : ∀ label ∈ textLabels text, ValidLabel label) :
    dropFinalDot (dropFinalDot text.toList) = dropFinalDot text.toList := by
  have last : (dropFinalDot text.toList).getLast? ≠ some '.' := by
    intro dot
    obtain ⟨front, same⟩ := List.getLast?_eq_some_iff.mp dot
    have bare : [] ∈ textLabels text := by
      rw [textLabels, same, Text.pieces_append_of_sep rfl]
      simp
    exact absurd (valid [] bare).1 (by decide)
  exact if_neg last

/-- **A name is written from the text that it is shown as.** -/
theorem encode_toDotted {text : String} {name : Octets} (encoded : encode text = .ok name) :
    encode (toDotted name) = .ok name := by
  have shown := toDotted_encode encoded
  obtain ⟨valid, written, bound⟩ := encode_eq_ok_iff.mp encoded
  have same : textLabels (toDotted name) = textLabels text := by
    rw [shown, textLabels, String.toList_ofList, dropFinalDot_dropFinalDot valid, textLabels]
  rw [encode_eq_ok_iff, same]
  exact ⟨valid, written, bound⟩

theorem toDotted_ne_empty {text : String} {name : Octets} (encoded : encode text = .ok name) :
    (toDotted name).toList ≠ [] := by
  intro empty
  obtain ⟨valid, -, -⟩ := encode_eq_ok_iff.mp (encode_toDotted encoded)
  have bare : [] ∈ textLabels (toDotted name) := by
    rw [textLabels, empty]
    exact List.mem_singleton_self []
  exact absurd (valid [] bare).1 (by decide)

theorem eq_dropFinalDot_or (cs : List Char) :
    cs = dropFinalDot cs ∨ cs = dropFinalDot cs ++ ['.'] := by
  unfold dropFinalDot
  split_ifs with dot
  · exact .inr (List.dropLast_append_getLast? '.' dot).symm
  · exact .inl rfl

/-- Texts that are written alike differ by a dot at the end, or not at all. -/
theorem eq_or_of_encode_eq {text other : String} {name : Octets} (encoded : encode text = .ok name)
    (again : encode other = .ok name) : other = text ∨ other = text ++ "." ∨ text = other ++ "." := by
  have shown := (toDotted_encode encoded).symm.trans (toDotted_encode again)
  have same : dropFinalDot text.toList = dropFinalDot other.toList := String.ofList_injective shown
  have dot : ".".toList = ['.'] := rfl
  simp only [← String.toList_inj, String.toList_append, dot]
  rcases eq_dropFinalDot_or text.toList with left | left <;>
    rcases eq_dropFinalDot_or other.toList with right | right
  · exact .inl (by rw [right, ← same, ← left])
  · exact .inr (.inl (by rw [right, ← same, ← left]))
  · exact .inr (.inr (by rw [left, same, ← right]))
  · exact .inl (by rw [right, ← same, ← left])

/-! ## Errors -/

theorem labelFault?_eq_some_iff {label : Octets} {error : NameError} :
    labelFault? label = some error ↔
      label = [] ∧ error = .emptyLabel ∨
        63 < label.length ∧ error = .labelTooLong label.length := by
  unfold labelFault?
  simp only [maxLabel]
  split_ifs with empty long
  · subst empty
    simp [eq_comm]
  · simp [empty, long, eq_comm]
  · simp [empty, long]

/-- The fault of a text: that of its leftmost bad label, or else its length. -/
theorem encode_eq_error_iff_find {text : String} {error : NameError} :
    encode text = .error error ↔
      (textLabels text).findSome? labelFault? = some error ∨
        (∀ label ∈ textLabels text, ValidLabel label) ∧
          255 < (ofLabels (textLabels text)).length ∧
          error = .nameTooLong (ofLabels (textLabels text)).length := by
  rw [← findSome?_labelFault?_eq_none_iff]
  unfold encode
  cases faulty : (textLabels text).findSome? labelFault? with
  | some fault => simp
  | none =>
    by_cases long : 255 < (ofLabels (textLabels text)).length
    · simp [maxName, long, eq_comm]
    · simp [maxName, long]

/-- **Why a text is not a name.** -/
theorem encode_eq_error_iff {text : String} {error : NameError} :
    encode text = .error error ↔ Misspelt text error := by
  rw [encode_eq_error_iff_find, length_ofLabels_textLabels, textLabels_eq_map_parts,
    List.findSome?_map, List.findSome?_eq_some_iff, List.forall_mem_map]
  have good : ∀ part, (labelFault? ∘ Utf8.encode) part = none ↔ ValidLabel (Utf8.encode part) :=
    fun part => labelFault?_eq_none_iff
  simp only [good]
  constructor
  · rintro (⟨front, part, back, cut, fault, valid⟩ | ⟨valid, long, rfl⟩)
    · rcases labelFault?_eq_some_iff.mp fault with ⟨empty, rfl⟩ | ⟨long, rfl⟩
      · obtain rfl : part = [] := Utf8.encode_inj empty
        exact .emptyLabel cut valid
      · exact .labelTooLong cut valid long
    · exact .nameTooLong valid long
  · intro misspelt
    cases misspelt with
    | @emptyLabel front back cut valid =>
      exact .inl ⟨front, [], back, cut, rfl, valid⟩
    | @labelTooLong front back part cut valid long =>
      exact .inl ⟨front, part, back, cut, labelFault?_eq_some_iff.mpr (.inr ⟨long, rfl⟩), valid⟩
    | nameTooLong valid long => exact .inr ⟨valid, long, rfl⟩

theorem exists_encode_eq_ok_iff (text : String) :
    (∃ name, encode text = .ok name) ↔
      (∀ part ∈ parts text, ValidLabel (Utf8.encode part)) ∧
        (Utf8.encode (dropFinalDot text.toList)).length + 2 ≤ maxName := by
  simp only [encode_eq_ok_iff, ← length_ofLabels_textLabels]
  rw [textLabels_eq_map_parts, List.forall_mem_map]
  constructor
  · rintro ⟨name, valid, rfl, bound⟩
    exact ⟨valid, bound⟩
  · rintro ⟨valid, bound⟩
    exact ⟨_, valid, rfl, bound⟩

/-- **Writing names is exact.**  A text is a name if its parts have 1 to 63 octets each and the
whole, with two octets more, has at most 255.  The name is as long as that, its labels are the
parts, and it is shown as the text; so texts written alike differ by a dot at the end at most.  Of
a text that is no name the leftmost bad part decides the error, and the length if there is none. -/
theorem encode_exact (text : String) :
    ((∃ name, encode text = .ok name) ↔
      (∀ part ∈ parts text, 1 ≤ (Utf8.encode part).length ∧ (Utf8.encode part).length ≤ 63) ∧
        (Utf8.encode (dropFinalDot text.toList)).length + 2 ≤ 255) ∧
    (∀ name, encode text = .ok name →
      name.length = (Utf8.encode (dropFinalDot text.toList)).length + 2 ∧
        validate name = .ok () ∧
        labels name = (parts text).map (fun part => .ok (Utf8.encode part)) ∧
        toDotted name = String.ofList (dropFinalDot text.toList)) ∧
    (∀ name other, encode text = .ok name → encode other = .ok name →
      other = text ∨ other = text ++ "." ∨ text = other ++ ".") ∧
    ∀ error, encode text = .error error ↔ Misspelt text error := by
  refine ⟨exists_encode_eq_ok_iff text, ?_, fun _ _ => eq_or_of_encode_eq,
    fun _ => encode_eq_error_iff⟩
  intro name encoded
  obtain ⟨valid, written, -⟩ := encode_eq_ok_iff.mp encoded
  refine ⟨?_, ?_, ?_, toDotted_encode encoded⟩
  · rw [written, length_ofLabels_textLabels]
  · rw [written, validate_ofLabels valid]
  · rw [written, labels_ofLabels valid, textLabels_eq_map_parts, List.map_map]
    rfl

end StaticDns.Name
