import StaticDns.Proofs.Name.Spelling
import StaticDns.Proofs.RecordFile.LineGrammar

/-!
# StaticDns.Proofs.RecordFile.Dumping — a table written out as a record file

A table that was loaded can be written out again, one line for each record, and the file loads as
the same table.  A name is shown as the text that it was written from, and since that text was a
field of a line, it holds no blank, no `#` and no newline.

* `Record.fileEntry`, `Table.fileText`: records and tables as text.
* `grants_fileEntry`: a line that was written gives its record.
* `table_fileText`: the round trip.
-/

namespace StaticDns

/-- A record as a line, without the newline. -/
def Record.fileEntry (record : Record) : String :=
  Name.toDotted record.name ++ " " ++ record.address.text

/-- A table as a record file. -/
def Table.fileText (table : Table) : String :=
  String.join (table.records.map fun record => record.fileEntry ++ "\n")

namespace RecordFile

theorem toList_fileEntry (record : Record) :
    record.fileEntry.toList =
      (Name.toDotted record.name).toList ++ [' '] ++ record.address.chars := by
  simp [Record.fileEntry, Ipv4.text]

theorem isField_chars (address : Ipv4) : IsField address.chars where
  nonempty := address.chars_ne_nil
  solid c mem := by
    rcases Ipv4.of_mem_chars mem with digit | rfl
    · intro separator
      simp only [List.mem_cons, List.not_mem_nil, or_false] at separator
      rcases separator with rfl | rfl | rfl | rfl <;> exact absurd digit (by decide)
    · decide

section Loaded

variable {text : String} {record : Record} (mem : record ∈ (table text).records)
include mem

/-- The characters of a name that was loaded are those of a field. -/
theorem isField_toDotted : IsField (Name.toDotted record.name).toList ∧
    '\n' ∉ (Name.toDotted record.name).toList := by
  obtain ⟨name, field, encoded, inside⟩ := of_mem_table mem
  have shown := Name.toDotted_encode encoded
  have kept : ∀ c ∈ (Name.toDotted record.name).toList, c ∈ name := by
    intro c mem
    rw [shown, String.toList_ofList, String.toList_ofList] at mem
    exact Name.mem_of_mem_dropFinalDot mem
  refine ⟨⟨Name.toDotted_ne_empty encoded, fun c mem => field.solid c (kept c mem)⟩, ?_⟩
  intro newline
  exact (inside '\n' (kept _ newline)).2 rfl

theorem newline_not_mem_fileEntry : '\n' ∉ record.fileEntry.toList := by
  rw [toList_fileEntry, List.mem_append, List.mem_append]
  rintro ((name | blank) | address)
  · exact (isField_toDotted mem).2 name
  · exact absurd blank (by decide)
  · rcases Ipv4.of_mem_chars address with digit | dot
    · exact absurd digit (by decide)
    · exact absurd dot (by decide)

/-- **A line that was written gives its record.** -/
theorem grants_fileEntry : Grants record.fileEntry.toList record := by
  obtain ⟨name, -, encoded, -⟩ := of_mem_table mem
  refine ⟨(Name.toDotted record.name).toList, ?_, ?_⟩
  · refine ⟨(isField_toDotted mem).1, isField_chars record.address, [], [' '], [], [], ?_⟩
    refine ⟨?_, List.forall_mem_nil _, by simp [Blanks], List.cons_ne_nil _ _,
      List.forall_mem_nil _, fun c front => nomatch front⟩
    rw [toList_fileEntry]
    simp
  · rw [String.ofList_toList]
    exact Name.encode_toDotted encoded

end Loaded

theorem lines_fileText (text : String) :
    lines (table text).fileText =
      (table text).records.map (fun record => record.fileEntry.toList) ++ [[]] := by
  have newline : "\n".toList = ['\n'] := rfl
  have written : (table text).fileText.toList =
      ((table text).records.map fun record => record.fileEntry.toList).flatMap (· ++ ['\n']) := by
    simp only [Table.fileText, String.toList_join, List.flatMap_map, String.toList_append, newline]
  rw [lines, written]
  refine Text.pieces_flatMap_ended rfl ?_
  rw [List.forall_mem_map]
  intro record mem c inside
  have other : c ≠ '\n' := by
    rintro rfl
    exact newline_not_mem_fileEntry mem inside
  simpa using other

/-- Nothing is wrong with a line that gives a record. -/
theorem severity_ne_warn {settings : Settings} {line : List Char} {number : Nat} {record : Record}
    (given : (readLine line).record? = some record) {notice : Notice}
    (told : notice ∈ noticesOf settings (readLine line, number)) : notice.severity ≠ .warn := by
  intro warned
  have kept : notice ∈ (noticesOf settings (readLine line, number)).filter
      fun notice => notice.severity = .warn := List.mem_filter.mpr ⟨told, decide_eq_true warned⟩
  obtain ⟨field, read⟩ := LineReading.record?_eq_some_iff.mp given
  rw [filter_noticesOf, read] at kept
  cases kept

/-- **Written tables load again.**  The file that is written for the table of a text loads as the
same table, and nothing in it is warned of. -/
theorem table_fileText (settings : Settings) (text : String) :
    table (table text).fileText = table text ∧
      ∀ notice ∈ notices settings (table text).fileText, notice.severity ≠ .warn := by
  have given : ∀ record ∈ (table text).records,
      (readLine record.fileEntry.toList).record? = some record :=
    fun record mem => record?_readLine_eq_some_iff.mpr (grants_fileEntry mem)
  constructor
  · refine Table.ext ?_
    have last : [[]].filterMap (fun line => (readLine line).record?) = [] := rfl
    rw [records_eq, lines_fileText, List.filterMap_append, List.filterMap_map, last,
      List.append_nil]
    calc _ = (table text).records.filterMap some := List.filterMap_congr given
      _ = (table text).records := List.filterMap_some
  · intro notice told
    rw [notices_eq, ← lines_eq_splitOn, lines_fileText] at told
    obtain ⟨⟨line, number⟩, numbered, told⟩ := List.mem_flatMap.mp told
    have cut := List.fst_mem_of_mem_zipIdx numbered
    rcases List.mem_append.mp cut with written | last
    · obtain ⟨record, mem, rfl⟩ := List.mem_map.mp written
      exact severity_ne_warn (given record mem) told
    · obtain rfl := List.mem_singleton.mp last
      cases told

end RecordFile

end StaticDns
