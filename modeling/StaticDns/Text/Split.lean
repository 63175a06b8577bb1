/-!
# StaticDns.Text.Split — cutting text at separators

`pieces p cs` cuts `cs` at every character that satisfies `p`. The separators are dropped and
nothing else is: a text with `n` separators has `n + 1` pieces, some of which may be empty. Lines,
blank-separated fields, dotted names and dotted addresses are all read through it.

* `pieces_cons_of_sep`, `pieces_cons_of_not`: the two equations that determine `pieces`.
* `pieces_append_of_sep`: the pieces on both sides of a separator do not interact.
-/

namespace StaticDns.Text

/-- One more character in front of a text that is already cut. -/
def piecesStep (isSep : Char → Bool) (c : Char) (cut : List Char × List (List Char)) :
    List Char × List (List Char) :=
  if isSep c then ([], cut.1 :: cut.2) else (c :: cut.1, cut.2)

def cutAll (isSep : Char → Bool) (cs : List Char) : List Char × List (List Char) :=
  cs.foldr (piecesStep isSep) ([], [])

/-- The pieces of a text between its separators. -/
def pieces (isSep : Char → Bool) (cs : List Char) : List (List Char) :=
  (cutAll isSep cs).1 :: (cutAll isSep cs).2

variable {isSep : Char → Bool}

@[simp] theorem pieces_nil : pieces isSep [] = [[]] := rfl

theorem pieces_cons_of_sep {c : Char} (h : isSep c = true) (cs : List Char) :
    pieces isSep (c :: cs) = [] :: pieces isSep cs := by
  simp [pieces, cutAll, piecesStep, h]

theorem pieces_cons_of_not {c : Char} (h : isSep c = false) (cs : List Char) :
    pieces isSep (c :: cs) =
      (c :: (cutAll isSep cs).1) :: (cutAll isSep cs).2 := by
  simp [pieces, cutAll, piecesStep, h]

theorem pieces_ne_nil (cs : List Char) : pieces isSep cs ≠ [] := by
  simp [pieces]

/-- A separator ends the piece before it, whatever comes after. -/
theorem pieces_append_of_sep {c : Char} (h : isSep c = true) (front back : List Char) :
    pieces isSep (front ++ c :: back) = pieces isSep front ++ pieces isSep back := by
  induction front with
  | nil => simp [pieces_cons_of_sep h]
  | cons x xs ih =>
    by_cases hx : isSep x = true
    · simp [pieces_cons_of_sep hx, ih]
    · have hx : isSep x = false := by simpa using hx
      rw [List.cons_append, pieces_cons_of_not hx, pieces_cons_of_not hx]
      simp only [pieces, List.cons_append, List.cons.injEq] at ih
      simp [ih.1, ih.2, pieces]

/-- The non-empty pieces of a text, its fields. -/
def fields (isSep : Char → Bool) (cs : List Char) : List (List Char) :=
  (pieces isSep cs).filter (fun piece => !piece.isEmpty)

end StaticDns.Text
