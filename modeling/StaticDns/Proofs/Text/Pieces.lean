import Mathlib.Tactic.Common
import StaticDns.Text.Split

/-!
# StaticDns.Proofs.Text.Pieces — what cutting a text keeps

Lines, fields, labels and the numbers of an address are all pieces of a text between separators.
Cutting loses the separators and nothing else, so a text without separators is its only piece, and
fields, the pieces that are not empty, do not depend on how many separators stand between them.

* `pieces_eq_splitOn`: cutting at one character is the library's splitting of a list.
* `of_mem_pieces`: what the characters of a piece are.
* `pieces_flatMap_ended`: texts that were put together are found again.
* `fields_append_of_seps`, `fields_of_solid`, `fields_append_cons`: the fields of a text that begins
  with separators, or with a field.
-/

namespace StaticDns.Text

variable {isSep : Char → Bool}

theorem pieces_eq_splitOnP (isSep : Char → Bool) (cs : List Char) :
    pieces isSep cs = cs.splitOnP isSep := by
  induction cs with
  | nil => rfl
  | cons c cs ih =>
    rw [List.splitOnP_cons_eq_if_modifyHead, ← ih]
    by_cases sep : isSep c = true
    · rw [pieces_cons_of_sep sep, if_pos sep]
    · rw [pieces_cons_of_not (by simpa using sep), if_neg sep]
      rfl

theorem pieces_eq_splitOn (sep : Char) (cs : List Char) : pieces (· == sep) cs = cs.splitOn sep := by
  rw [pieces_eq_splitOnP, List.splitOn_eq_splitOnP]

/-- The characters of a piece come from the text that is cut, and no separator is among them. -/
theorem of_mem_pieces {cs piece : List Char} {c : Char} (cut : piece ∈ pieces isSep cs)
    (mem : c ∈ piece) : c ∈ cs ∧ isSep c = false := by
  induction cs generalizing piece with
  | nil =>
    obtain rfl := List.mem_singleton.mp cut
    cases mem
  | cons x xs ih =>
    by_cases sep : isSep x = true
    · rw [pieces_cons_of_sep sep] at cut
      rcases List.mem_cons.mp cut with rfl | cut
      · cases mem
      · exact ⟨List.mem_cons_of_mem x (ih cut mem).1, (ih cut mem).2⟩
    · have solid : isSep x = false := by simpa using sep
      rw [pieces_cons_of_not solid] at cut
      rcases List.mem_cons.mp cut with rfl | cut
      · rcases List.mem_cons.mp mem with rfl | mem
        · exact ⟨List.mem_cons_self, solid⟩
        · have inside := ih List.mem_cons_self mem
          exact ⟨List.mem_cons_of_mem x inside.1, inside.2⟩
      · have inside := ih (List.mem_cons_of_mem _ cut) mem
        exact ⟨List.mem_cons_of_mem x inside.1, inside.2⟩

theorem pieces_of_solid {cs : List Char} (solid : ∀ c ∈ cs, isSep c = false) :
    pieces isSep cs = [cs] := by
  rw [pieces_eq_splitOnP, List.splitOnP_eq_singleton solid]

theorem length_pieces (cs : List Char) : (pieces isSep cs).length = cs.countP isSep + 1 := by
  induction cs with
  | nil => rfl
  | cons c cs ih =>
    by_cases sep : isSep c = true
    · rw [pieces_cons_of_sep sep, List.length_cons, ih, List.countP_cons_of_pos sep]
    · rw [pieces_cons_of_not (by simpa using sep), List.countP_cons_of_neg sep, ← ih]
      rfl

/-- Texts that each end at a separator are cut there, with nothing behind the last. -/
theorem pieces_flatMap_ended {sep : Char} (ends : isSep sep = true) {texts : List (List Char)}
    (solid : ∀ text ∈ texts, ∀ c ∈ text, isSep c = false) :
    pieces isSep (texts.flatMap (· ++ [sep])) = texts ++ [[]] := by
  induction texts with
  | nil => rfl
  | cons text texts ih =>
    obtain ⟨first, solid⟩ := List.forall_mem_cons.mp solid
    rw [List.flatMap_cons, List.append_assoc, List.singleton_append, pieces_append_of_sep ends,
      pieces_of_solid first, ih solid]
    rfl

/-! ## Fields -/

theorem fields_cons_of_sep {c : Char} (sep : isSep c = true) (cs : List Char) :
    fields isSep (c :: cs) = fields isSep cs := by
  simp [fields, pieces_cons_of_sep sep]

theorem fields_append_of_seps {blanks : List Char} (seps : ∀ c ∈ blanks, isSep c = true)
    (cs : List Char) : fields isSep (blanks ++ cs) = fields isSep cs := by
  induction blanks with
  | nil => rfl
  | cons c blanks ih =>
    obtain ⟨first, seps⟩ := List.forall_mem_cons.mp seps
    rw [List.cons_append, fields_cons_of_sep first, ih seps]

theorem fields_of_solid {field : List Char} (nonempty : field ≠ [])
    (solid : ∀ c ∈ field, isSep c = false) : fields isSep field = [field] := by
  simp [fields, pieces_of_solid solid, nonempty]

theorem fields_append_cons {field : List Char} (nonempty : field ≠ [])
    (solid : ∀ c ∈ field, isSep c = false) {c : Char} (sep : isSep c = true) (cs : List Char) :
    fields isSep (field ++ c :: cs) = field :: fields isSep cs := by
  simp [fields, pieces_append_of_sep sep, pieces_of_solid solid, nonempty]

end StaticDns.Text
