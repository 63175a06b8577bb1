import StaticDns.Proofs.RecordFile.LineGrammar

/-!
# StaticDns.Proofs.RecordFile.Composition — record files put together

Two record files may be put one behind the other as long as the first ends with a newline.  No line
of the one then runs into a line of the other, so the file that comes out has the records of both
and is reported on as both are, only that the lines of the second have moved down.

* `exists_lines_append`: the lines of two files.
* `Notice.moved`: a report on a line that has moved.
* `loading_append`: the table, the reports and the answers of two files.
-/

namespace StaticDns

/-- What is reported about a line when it stands `offset` lines further down. -/
def Notice.moved (offset : Nat) : Notice → Notice
  | .lineSkipped line fault => .lineSkipped (line + offset) fault
  | notice => notice

namespace RecordFile

/-- A text that is empty or ends with a newline ends with an empty line, and what is put behind it
starts in this line. -/
theorem exists_lines_append {front : String} (ends : front = "" ∨ ∃ body, front = body ++ "\n") :
    ∃ above : List (List Char), above.length = front.toList.count '\n' ∧
      lines front = above ++ [[]] ∧ ∀ back, lines (front ++ back) = above ++ lines back := by
  rcases ends with rfl | ⟨body, rfl⟩
  · exact ⟨[], rfl, rfl, fun back => by simp [lines]⟩
  · have newline : "\n".toList = ['\n'] := rfl
    refine ⟨lines body, ?_, ?_, ?_⟩
    · have counted : (Text.pieces (· == '\n') body.toList).length =
          body.toList.countP (· == '\n') + 1 := Text.length_pieces _
      rw [String.toList_append, newline, List.count_append, List.count_singleton_self, lines, counted]
      rfl
    · rw [lines, String.toList_append, newline, Text.pieces_append_of_sep rfl]
      rfl
    · intro back
      rw [lines, String.toList_append, String.toList_append, newline, List.append_assoc,
        List.singleton_append, Text.pieces_append_of_sep rfl]
      rfl

/-! ## Reports -/

theorem noticesOf_add (settings : Settings) (reading : LineReading) (number offset : Nat) :
    noticesOf settings (reading, number + offset) =
      (noticesOf settings (reading, number)).map (Notice.moved offset) := by
  unfold noticesOf
  cases reading with
  | silent => rfl
  | entry field record =>
    dsimp only
    split <;> rfl
  | fault fault => rfl

theorem flatMap_noticesOf_zipIdx (settings : Settings) (readings : List LineReading)
    (first offset : Nat) :
    (readings.zipIdx (first + offset)).flatMap (noticesOf settings) =
      ((readings.zipIdx first).flatMap (noticesOf settings)).map (Notice.moved offset) := by
  induction readings generalizing first with
  | nil => rfl
  | cons reading readings ih =>
    have next : first + offset + 1 = first + 1 + offset := by omega
    rw [List.zipIdx_cons, List.zipIdx_cons, List.flatMap_cons, List.flatMap_cons, List.map_append,
      noticesOf_add, next, ih]

/-! ## Two files -/

/-- An empty line is silent. -/
theorem readLine_nil : readLine [] = .silent := rfl

/-- **Record files compose.**  A file that is empty or ends with a newline, with another behind it,
has the records of the one and then those of the other.  It is reported on as the two are, with the
lines of the second further down by the newlines of the first, and it answers as the first does and
where that has no answer as the second. -/
theorem loading_append (settings : Settings) {front : String}
    (ends : front = "" ∨ ∃ body, front = body ++ "\n") (back : String) :
    (table (front ++ back)).records = (table front).records ++ (table back).records ∧
      notices settings (front ++ back) =
        notices settings front ++
          (notices settings back).map (Notice.moved (front.toList.count '\n')) ∧
      ∀ type name, (table (front ++ back)).lookup type name =
        ((table front).lookup type name).or ((table back).lookup type name) := by
  obtain ⟨above, counted, frontLines, bothLines⟩ := exists_lines_append ends
  have records : (table (front ++ back)).records =
      (table front).records ++ (table back).records := by
    rw [records_eq, records_eq, records_eq, frontLines, bothLines, List.filterMap_append,
      List.filterMap_append]
    simp [readLine_nil, LineReading.record?]
  refine ⟨records, ?_, ?_⟩
  · have last : noticesOf settings (readLine [], 1 + above.length) = [] := rfl
    simp only [notices, readings, frontLines, bothLines, List.map_append, List.zipIdx_append,
      List.flatMap_append, List.length_map, List.map_cons, List.map_nil, List.zipIdx_singleton,
      List.flatMap_singleton, last, List.append_nil]
    rw [flatMap_noticesOf_zipIdx, counted]
  · intro type name
    have both : table (front ++ back) = table front ++ table back := Table.ext records
    rw [both, Table.lookup_append]

/-- A file with a bad line in front of a good one. -/
def mixedFront : String := "a..b 192.0.2.9\na 192.0.2.1\r\n"

/-- A file with a bad line in front of a wildcard, and no newline at its end. -/
def openBack : String := "b\n* 192.0.2.2"

theorem mixedFront_openBack_load :
    (mixedFront = "" ∨ ∃ body, mixedFront = body ++ "\n") ∧
      notices {} (mixedFront ++ openBack) =
        [.lineSkipped 1 (.badName "a..b" .emptyLabel), .lineSkipped 3 (.fieldCount 1)] ∧
      (table (mixedFront ++ openBack)).lookup .a [1, 0x41, 0] =
        some (.address ⟨192, 0, 2, 1⟩) ∧
      (table (mixedFront ++ openBack)).lookup .a [1, 0x62, 0] =
        some (.address ⟨192, 0, 2, 2⟩) := by
  have ends : mixedFront = "" ∨ ∃ body, mixedFront = body ++ "\n" :=
    .inr ⟨"a..b 192.0.2.9\na 192.0.2.1\r", rfl⟩
  obtain ⟨-, reports, answers⟩ := loading_append {} ends openBack
  refine ⟨ends, ?_, ?_, ?_⟩
  · rw [reports]
    rfl
  · rw [answers]
    rfl
  · rw [answers]
    rfl

end RecordFile

end StaticDns
