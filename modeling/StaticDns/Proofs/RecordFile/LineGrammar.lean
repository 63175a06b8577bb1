import StaticDns.Proofs.Net.DottedQuad
import StaticDns.Proofs.Table.Matching
import StaticDns.RecordFile

/-!
# StaticDns.Proofs.RecordFile.LineGrammar — what a line of a record file may look like

A line is cut twice, at its first `#` and then at its blanks.  Here the same lines are described
from left to right, as blanks and fields up to a comment.  A line gives a record exactly when it is
`b₀ n b₁ a b₂ r`, where the `b`s are blanks, `n` is a field that can be written as a name, `a` is
the text of an address and `r` is empty or a comment; every other line with a field has one fault.

* `Spells`, `fieldsOf_eq_iff`: the fields of a line.
* `Grants`, `record?_readLine_eq_some_iff`: the lines that give a record.
* `HasFault`, `readLine_eq_fault_iff`: the fault of every other line.
* `of_mem_table`: what the records of a table were read from.
* `loading_follows_line_grammar`: the table and the reports of a whole file.
-/

namespace StaticDns.RecordFile

/-! ## The grammar -/

/-- Characters between fields. -/
def Blanks (cs : List Char) : Prop := ∀ c ∈ cs, c ∈ [' ', '\t', '\r']

/-- The rest of a line from the first `#` on, if there is one. -/
def IsComment (cs : List Char) : Prop := ∀ c ∈ cs.head?, c = '#'

structure IsField (cs : List Char) : Prop where
  nonempty : cs ≠ []
  solid : ∀ c ∈ cs, c ∉ [' ', '\t', '\r', '#']

/-- What may stand behind a field: nothing more, or a blank, or a comment. -/
def Ends (cs : List Char) : Prop := ∀ c ∈ cs.head?, c ∈ [' ', '\t', '\r', '#']

/-- Which fields a line has. -/
inductive Spells : List Char → List (List Char) → Prop
  | nothing {blanks comment : List Char} (between : Blanks blanks) (behind : IsComment comment) :
      Spells (blanks ++ comment) []
  | field {blanks field rest : List Char} {fields : List (List Char)} (between : Blanks blanks)
      (first : IsField field) (ends : Ends rest) (behind : Spells rest fields) :
      Spells (blanks ++ field ++ rest) (field :: fields)

/-- A line of the form `b₀ name b₁ address b₂ r`. -/
def IsPair (line name address : List Char) : Prop :=
  IsField name ∧ IsField address ∧ ∃ b₀ b₁ b₂ r,
    line = b₀ ++ name ++ b₁ ++ address ++ b₂ ++ r ∧
      Blanks b₀ ∧ Blanks b₁ ∧ b₁ ≠ [] ∧ Blanks b₂ ∧ IsComment r

/-- The lines that give a record: a name and the text of an address. -/
def Grants (line : List Char) (record : Record) : Prop :=
  ∃ name, IsPair line name record.address.chars ∧
    Name.encode (String.ofList name) = .ok record.name

/-- The fault of a line: the number of its fields, or else its address, or else its name. -/
inductive HasFault (line : List Char) : LineFault → Prop
  | fieldCount {fields : List (List Char)} (spelled : Spells line fields) (some : fields ≠ [])
      (other : fields.length ≠ 2) : HasFault line (.fieldCount fields.length)
  | badAddress {name address : List Char} (spelled : Spells line [name, address])
      (unread : ∀ host : Ipv4, address ≠ host.chars) : HasFault line .badAddress
  | badName {name : List Char} {host : Ipv4} {error : NameError}
      (spelled : Spells line [name, host.chars])
      (refused : Name.encode (String.ofList name) = .error error) :
      HasFault line (.badName (String.ofList name) error)

/-! ## Fields -/

theorem isBlank_iff {c : Char} : isBlank c = true ↔ c ∈ [' ', '\t', '\r'] := by
  simp [isBlank, or_assoc]

theorem isBlank_of_not_mem {c : Char} (solid : c ∉ [' ', '\t', '\r', '#']) : isBlank c = false := by
  rw [Bool.eq_false_iff, ne_eq, isBlank_iff]
  intro blank
  exact solid (List.mem_append_left ['#'] blank)

theorem ne_hash_of_blank {c : Char} (blank : c ∈ [' ', '\t', '\r']) : c ≠ '#' := by
  rintro rfl
  exact absurd blank (by decide)

theorem ne_hash_of_not_mem {c : Char} (solid : c ∉ [' ', '\t', '\r', '#']) : c ≠ '#' := by
  rintro rfl
  exact solid (by decide)

theorem uncommented_append {front : List Char} (plain : ∀ c ∈ front, c ≠ '#') (rest : List Char) :
    uncommented (front ++ rest) = front ++ uncommented rest :=
  List.takeWhile_append_of_pos fun c mem => by simpa using plain c mem

theorem uncommented_comment {comment : List Char} (h : IsComment comment) :
    uncommented comment = [] := by
  cases comment with
  | nil => rfl
  | cons c comment =>
    obtain rfl : c = '#' := h c rfl
    rfl

theorem fieldsOf_blanks_append {blanks : List Char} (between : Blanks blanks) (rest : List Char) :
    fieldsOf (blanks ++ rest) = fieldsOf rest := by
  rw [fieldsOf, uncommented_append fun c mem => ne_hash_of_blank (between c mem)]
  exact Text.fields_append_of_seps (fun c mem => isBlank_iff.mpr (between c mem)) _

theorem fieldsOf_field_append {field : List Char} (h : IsField field) {rest : List Char}
    (ends : Ends rest) : fieldsOf (field ++ rest) = field :: fieldsOf rest := by
  have solid : ∀ c ∈ field, isBlank c = false := fun c mem => isBlank_of_not_mem (h.solid c mem)
  rw [fieldsOf, uncommented_append fun c mem => ne_hash_of_not_mem (h.solid c mem), fieldsOf]
  by_cases finished : uncommented rest = []
  · rw [finished, List.append_nil, Text.fields_of_solid h.nonempty solid]
    rfl
  · -- what follows the field is neither the end of the line nor its comment, so it is a blank
    cases rest with
    | nil => exact absurd rfl finished
    | cons c rest =>
      have plain : c ≠ '#' := by
        rintro rfl
        exact finished rfl
      have blank : isBlank c = true := by
        rw [isBlank_iff]
        have mem := ends c rfl
        simp only [List.mem_cons, List.not_mem_nil, or_false, plain] at mem ⊢
        exact mem
      have split : uncommented (c :: rest) = c :: uncommented rest := by
        simp [uncommented, plain]
      rw [split, Text.fields_append_cons h.nonempty solid blank, Text.fields_cons_of_sep blank]

theorem fieldsOf_of_spells {line : List Char} {fields : List (List Char)}
    (spelled : Spells line fields) : fieldsOf line = fields := by
  induction spelled with
  | nothing between behind =>
    rw [fieldsOf_blanks_append between, fieldsOf, uncommented_comment behind]
    rfl
  | field between first ends _ ih =>
    rw [List.append_assoc, fieldsOf_blanks_append between, fieldsOf_field_append first ends, ih]

theorem ends_of_comment {comment : List Char} (behind : IsComment comment) : Ends comment := by
  intro c front
  rw [behind c front]
  decide

theorem ends_of_blanks {blanks : List Char} (between : Blanks blanks) (some : blanks ≠ [])
    (rest : List Char) : Ends (blanks ++ rest) := by
  cases blanks with
  | nil => exact absurd rfl some
  | cons b blanks =>
    intro c front
    obtain rfl : b = c := Option.some.inj front
    exact List.mem_append_left ['#'] (between b List.mem_cons_self)

theorem ends_blanks_append {blanks rest : List Char} (between : Blanks blanks) (ends : Ends rest) :
    Ends (blanks ++ rest) := by
  by_cases some : blanks = []
  · rw [some]
    exact ends
  · exact ends_of_blanks between some rest

namespace Spells

theorem comment {comment : List Char} (behind : IsComment comment) : Spells comment [] :=
  @nothing [] comment (List.forall_mem_nil _) behind

theorem front {field rest : List Char} {fields : List (List Char)} (first : IsField field)
    (ends : Ends rest) (behind : Spells rest fields) : Spells (field ++ rest) (field :: fields) :=
  @Spells.field [] field rest fields (List.forall_mem_nil _) first ends behind

theorem cons_blank {c : Char} (blank : c ∈ [' ', '\t', '\r']) {line : List Char}
    {fields : List (List Char)} (spelled : Spells line fields) : Spells (c :: line) fields := by
  cases spelled with
  | nothing between behind =>
    exact .nothing (List.forall_mem_cons.mpr ⟨blank, between⟩) behind
  | field between first ends behind =>
    exact .field (List.forall_mem_cons.mpr ⟨blank, between⟩) first ends behind

/-- A character that is neither a blank nor the start of a comment begins a field, or joins it. -/
theorem exists_cons_solid {c : Char} (solid : c ∉ [' ', '\t', '\r', '#']) {line : List Char}
    {fields : List (List Char)} (spelled : Spells line fields) :
    ∃ fields, Spells (c :: line) fields := by
  have alone : IsField [c] := ⟨List.cons_ne_nil c [], by simpa using solid⟩
  have kept := spelled
  cases spelled with
  | nothing between behind =>
    exact ⟨_, front alone (ends_blanks_append between (ends_of_comment behind)) kept⟩
  | @field blanks field rest fields between first ends behind =>
    by_cases joins : blanks = []
    · subst joins
      have joined : IsField (c :: field) :=
        ⟨List.cons_ne_nil c field, List.forall_mem_cons.mpr ⟨solid, first.solid⟩⟩
      exact ⟨_, front joined ends behind⟩
    · rw [List.append_assoc] at kept ⊢
      exact ⟨_, front alone (ends_of_blanks between joins _) kept⟩

end Spells

/-- Every line has fields in the sense of the grammar. -/
theorem exists_spells (line : List Char) : ∃ fields, Spells line fields := by
  induction line with
  | nil => exact ⟨[], .comment fun c front => nomatch front⟩
  | cons c line ih =>
    obtain ⟨fields, spelled⟩ := ih
    by_cases blank : c ∈ [' ', '\t', '\r']
    · exact ⟨fields, spelled.cons_blank blank⟩
    · by_cases hash : c = '#'
      · refine ⟨[], .comment fun d front => ?_⟩
        exact (Option.some.inj front).symm.trans hash
      · refine Spells.exists_cons_solid ?_ spelled
        intro mem
        have mem : c ∈ [' ', '\t', '\r'] ++ ['#'] := mem
        rcases List.mem_append.mp mem with mem | mem
        · exact blank mem
        · exact hash (List.mem_singleton.mp mem)

/-- **The fields of a line** are those that the grammar finds in it. -/
theorem fieldsOf_eq_iff {line : List Char} {fields : List (List Char)} :
    fieldsOf line = fields ↔ Spells line fields := by
  constructor
  · rintro rfl
    obtain ⟨fields, spelled⟩ := exists_spells line
    rw [fieldsOf_of_spells spelled]
    exact spelled
  · exact fieldsOf_of_spells

/-- Two fields are a name and an address with blanks between them. -/
theorem spells_pair_iff {line name address : List Char} :
    Spells line [name, address] ↔ IsPair line name address := by
  constructor
  · intro spelled
    cases spelled with
    | @field b₀ _ rest _ before named ends behind =>
      cases behind with
      | @field b₁ _ rest _ between addressed _ behind =>
        cases behind with
        | @nothing b₂ r after comment =>
          refine ⟨named, addressed, b₀, b₁, b₂, r, by simp, before, between, ?_, after, comment⟩
          -- without a blank between them the address would go on with the name
          rintro rfl
          obtain ⟨c, address, rfl⟩ := List.exists_cons_of_ne_nil addressed.nonempty
          exact addressed.solid c List.mem_cons_self (ends c rfl)
  · rintro ⟨named, addressed, b₀, b₁, b₂, r, rfl, before, between, some, after, comment⟩
    have address_ends := ends_blanks_append after (ends_of_comment comment)
    have name_ends := ends_of_blanks between some (address ++ (b₂ ++ r))
    have spelled : Spells (b₀ ++ name ++ (b₁ ++ address ++ (b₂ ++ r))) [name, address] := by
      refine .field before named ?_ (.field between addressed address_ends (.nothing after comment))
      simpa using name_ends
    simpa using spelled

/-! ## What two fields say -/

theorem readFields_ne_silent (name address : List Char) : readFields name address ≠ .silent := by
  intro read
  unfold readFields at read
  split at read
  · cases read
  · split at read <;> cases read

/-- Two fields give a record if the second is the text of an address and the first a name. -/
theorem readFields_eq_entry_iff {name address : List Char} {field : String} {record : Record} :
    readFields name address = .entry field record ↔
      address = record.address.chars ∧ Name.encode (String.ofList name) = .ok record.name ∧
        field = String.ofList name := by
  constructor
  · intro read
    unfold readFields at read
    split at read
    · cases read
    · rename_i host known
      split at read
      · rename_i made accepted
        cases read
        obtain ⟨encoded, rfl⟩ := Record.ofText_eq_ok_iff.mp accepted
        exact ⟨Ipv4.read?_eq_some_iff.mp known, encoded, rfl⟩
      · cases read
  · rintro ⟨rfl, encoded, rfl⟩
    have known : Ipv4.read? record.address.chars = some record.address :=
      Ipv4.read?_eq_some_iff.mpr rfl
    have made : Record.ofText (String.ofList name) record.address = .ok record :=
      Record.ofText_eq_ok_iff.mpr ⟨encoded, rfl⟩
    simp only [readFields, known, made]

/-- What is wrong with two fields: the second is no address, or else the first is no name. -/
theorem readFields_eq_fault_iff {name address : List Char} {fault : LineFault} :
    readFields name address = .fault fault ↔
      (∀ host : Ipv4, address ≠ host.chars) ∧ fault = .badAddress ∨
        ∃ host error, address = Ipv4.chars host ∧
          Name.encode (String.ofList name) = .error error ∧
          fault = .badName (String.ofList name) error := by
  unfold readFields
  cases known : Ipv4.read? address with
  | none =>
    have unread : ∀ host : Ipv4, address ≠ host.chars := by
      intro host same
      rw [Ipv4.read?_eq_some_iff.mpr same] at known
      cases known
    simp [unread, eq_comm]
  | some host =>
    obtain rfl := Ipv4.read?_eq_some_iff.mp known
    have read : ¬ ∀ other : Ipv4, host.chars ≠ other.chars := fun unread => unread host rfl
    dsimp only
    cases made : Record.ofText (String.ofList name) host with
    | ok record =>
      obtain ⟨encoded, -⟩ := Record.ofText_eq_ok_iff.mp made
      simp [read, encoded]
    | error error =>
      have refused := Record.ofText_eq_error_iff.mp made
      simp only [LineReading.fault.injEq, read, false_and, false_or, refused, Except.error.injEq]
      constructor
      · rintro rfl
        exact ⟨host, error, rfl, rfl, rfl⟩
      · rintro ⟨-, error, -, rfl, rfl⟩
        rfl

/-! ## Records -/

theorem LineReading.record?_eq_some_iff {reading : LineReading} {record : Record} :
    reading.record? = some record ↔ ∃ field, reading = .entry field record := by
  cases reading <;> simp [LineReading.record?]

/-- **The lines that give a record** are a name and the text of an address, with blanks around them
and perhaps a comment behind. -/
theorem record?_readLine_eq_some_iff {line : List Char} {record : Record} :
    (readLine line).record? = some record ↔ Grants line record := by
  constructor
  · intro given
    obtain ⟨field, read⟩ := LineReading.record?_eq_some_iff.mp given
    unfold readLine at read
    split at read
    · cases read
    · rename_i name address cut
      obtain ⟨rfl, encoded, -⟩ := readFields_eq_entry_iff.mp read
      exact ⟨name, spells_pair_iff.mp (fieldsOf_eq_iff.mp cut), encoded⟩
    · cases read
  · rintro ⟨name, pair, encoded⟩
    have cut : fieldsOf line = [name, record.address.chars] :=
      fieldsOf_eq_iff.mpr (spells_pair_iff.mpr pair)
    refine LineReading.record?_eq_some_iff.mpr ⟨String.ofList name, ?_⟩
    rw [readLine, cut]
    exact readFields_eq_entry_iff.mpr ⟨rfl, encoded, rfl⟩

theorem IsPair.mem_of_mem_name {line name address : List Char} (h : IsPair line name address)
    {c : Char} (mem : c ∈ name) : c ∈ line := by
  obtain ⟨-, -, b₀, b₁, b₂, r, rfl, -⟩ := h
  simp [mem]

/-- **What the records of a table were read from**: each name was written from a field of a line. -/
theorem of_mem_table {text : String} {record : Record} (mem : record ∈ (table text).records) :
    ∃ name, IsField name ∧ Name.encode (String.ofList name) = .ok record.name ∧
      ∀ c ∈ name, c ∈ text.toList ∧ c ≠ '\n' := by
  rw [records_eq] at mem
  obtain ⟨line, cut, read⟩ := List.mem_filterMap.mp mem
  obtain ⟨name, pair, encoded⟩ := record?_readLine_eq_some_iff.mp read
  refine ⟨name, pair.1, encoded, fun c inside => ?_⟩
  obtain ⟨mem, solid⟩ := Text.of_mem_pieces cut (pair.mem_of_mem_name inside)
  exact ⟨mem, by simpa using solid⟩

/-! ## Faults -/

theorem readLine_eq_silent_iff {line : List Char} : readLine line = .silent ↔ Spells line [] := by
  rw [← fieldsOf_eq_iff]
  unfold readLine
  constructor
  · intro read
    split at read
    · assumption
    · exact absurd read (readFields_ne_silent _ _)
    · cases read
  · intro cut
    rw [cut]

/-- **The fault of a line that gives nothing.** -/
theorem readLine_eq_fault_iff {line : List Char} {fault : LineFault} :
    readLine line = .fault fault ↔ HasFault line fault := by
  constructor
  · intro read
    unfold readLine at read
    split at read
    · cases read
    · rename_i name address cut
      have spelled := fieldsOf_eq_iff.mp cut
      rcases readFields_eq_fault_iff.mp read with ⟨unread, rfl⟩ | ⟨host, error, rfl, refused, rfl⟩
      · exact .badAddress spelled unread
      · exact .badName spelled refused
    · rename_i some other
      cases read
      refine .fieldCount (fieldsOf_eq_iff.mp rfl) some fun two => ?_
      obtain ⟨name, address, cut⟩ := List.length_eq_two.mp two
      exact other name address cut
  · intro faulty
    cases faulty with
    | @fieldCount fields spelled some other =>
      have cut := fieldsOf_of_spells spelled
      unfold readLine
      rw [cut]
      split
      · exact absurd rfl some
      · exact absurd rfl other
      · rfl
    | badAddress spelled unread =>
      rw [readLine, fieldsOf_of_spells spelled]
      exact readFields_eq_fault_iff.mpr (.inl ⟨unread, rfl⟩)
    | badName spelled refused =>
      rw [readLine, fieldsOf_of_spells spelled]
      exact readFields_eq_fault_iff.mpr (.inr ⟨_, _, rfl, refused, rfl⟩)

/-! ## Whole files -/

theorem lines_eq_splitOn (text : String) : lines text = text.toList.splitOn '\n' :=
  Text.pieces_eq_splitOn '\n' _

theorem notices_eq (settings : Settings) (text : String) :
    notices settings text =
      ((text.toList.splitOn '\n').zipIdx 1).flatMap fun numbered =>
        noticesOf settings (readLine numbered.1, numbered.2) := by
  rw [notices, readings, lines_eq_splitOn, List.zipIdx_map, List.flatMap_map]
  rfl

/-- The only warning about a line is its fault. -/
theorem filter_noticesOf (settings : Settings) (line : List Char) (number : Nat) :
    (noticesOf settings (readLine line, number)).filter (fun notice => notice.severity = .warn) =
      Option.toList (match readLine line with
        | .fault fault => some (.lineSkipped number fault)
        | _ => none) := by
  unfold noticesOf
  cases readLine line with
  | silent => rfl
  | entry field record =>
    dsimp only
    split <;> rfl
  | fault fault => rfl

/-- **A file is read by the grammar of its lines.**  The table holds the records of the lines that
give one, in the order of the lines.  Each other line with a field has one fault and is warned of
once, with its number; a line without a field is passed over in silence. -/
theorem loading_follows_line_grammar (settings : Settings) (text : String) :
    (∀ line record, (readLine line).record? = some record ↔ Grants line record) ∧
    (∀ line fault, readLine line = .fault fault ↔ HasFault line fault) ∧
    (∀ line, readLine line = .silent ↔ Spells line []) ∧
    (∀ line, ¬ Spells line [] → (∀ record, ¬ Grants line record) →
      ∃ fault, readLine line = .fault fault) ∧
    (table text).records =
      (text.toList.splitOn '\n').filterMap (fun line => (readLine line).record?) ∧
    (notices settings text).filter (fun notice => notice.severity = .warn) =
      ((text.toList.splitOn '\n').zipIdx 1).filterMap (fun numbered =>
        match readLine numbered.1 with
        | .fault fault => some (.lineSkipped numbered.2 fault)
        | _ => none) ∧
    notices settings text =
      ((text.toList.splitOn '\n').zipIdx 1).flatMap (fun numbered =>
        match readLine numbered.1 with
        | .silent => []
        | .entry field record =>
          if settings.verbose then [.recordRead field record.address] else []
        | .fault fault => [.lineSkipped numbered.2 fault]) := by
  refine ⟨fun _ _ => record?_readLine_eq_some_iff, fun _ _ => readLine_eq_fault_iff,
    fun _ => readLine_eq_silent_iff, ?_, ?_, ?_, ?_⟩
  · intro line bare grantless
    cases read : readLine line with
    | silent => exact absurd (readLine_eq_silent_iff.mp read) bare
    | entry field record =>
      have given := LineReading.record?_eq_some_iff.mpr ⟨field, read⟩
      exact absurd (record?_readLine_eq_some_iff.mp given) (grantless record)
    | fault fault => exact ⟨fault, rfl⟩
  · rw [records_eq, lines_eq_splitOn]
  · rw [notices_eq, List.filter_flatMap, List.filterMap_eq_flatMap_toList]
    exact List.flatMap_congr fun numbered _ => filter_noticesOf settings numbered.1 numbered.2
  · rw [notices_eq]
    refine List.flatMap_congr fun numbered _ => ?_
    unfold noticesOf
    cases readLine numbered.1 <;> rfl

end StaticDns.RecordFile
