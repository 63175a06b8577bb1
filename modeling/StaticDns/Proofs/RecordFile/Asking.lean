import StaticDns.Proofs.Message.Grammar
import StaticDns.Proofs.RecordFile.LineGrammar
import StaticDns.Proofs.Respond.Answering
import StaticDns.Proofs.Text.Utf8

/-!
# StaticDns.Proofs.RecordFile.Asking — asking for a record that was loaded

A record file and a datagram do not mean the same by a name.  In the file a name is text between
dots, and a label may hold any character that is no dot and no blank; in a datagram the first zero
octet ends it.  So a record can be asked for by the name that it was stored under exactly when that
name has no zero octet in front of its terminator, and this is so for all records of a file without
the character of number zero.

* `plain_iff`: the labels of a name are plain exactly when only its terminator is zero.
* `accepted_of_success`: only an accepted query is answered with success.
* `loaded_address_given_iff`: which records can be asked for.
-/

namespace StaticDns

open Message

/-! ## From the text of a file to the names of its records -/

/-- A zero octet in a label of a text is written for the character of number zero. -/
theorem Name.nul_mem_of_zero_mem {text : String} {label : Octets}
    (mem : label ∈ Name.textLabels text) (zero : 0 ∈ label) : '\x00' ∈ text.toList := by
  obtain ⟨piece, cut, rfl⟩ := List.mem_map.mp mem
  have nul : '\x00' ∈ piece := Utf8.zero_mem_encode_iff.mp zero
  exact Name.mem_of_mem_dropFinalDot (Text.of_mem_pieces cut nul).1

/-! ## Names that end at their first zero octet -/

/-- The labels of a name are plain exactly when no octet in front of its terminator is zero. -/
theorem plain_iff {labels : List Octets} (valid : ∀ label ∈ labels, Name.ValidLabel label) :
    (∀ label ∈ labels, PlainLabel label) ↔ 0 ∉ (Name.ofLabels labels).dropLast := by
  have front : (Name.ofLabels labels).dropLast = labels.flatMap Name.labelWire :=
    List.dropLast_concat
  rw [front]
  constructor
  · intro plain zero
    exact ne_zero_of_mem_wire plain 0 zero rfl
  · intro nonzero label mem
    refine ⟨(valid label mem).1, (valid label mem).2, ?_⟩
    rintro octet inside rfl
    exact nonzero (List.mem_flatMap.mpr ⟨label, mem, List.mem_cons_of_mem _ inside⟩)

/-- A file without the character of number zero stores no name with a zero octet inside. -/
theorem RecordFile.zero_not_mem_name {text : String} {record : Record}
    (mem : record ∈ (RecordFile.table text).records) (clean : '\x00' ∉ text.toList) :
    0 ∉ record.name.dropLast := by
  obtain ⟨name, -, encoded, inside⟩ := RecordFile.of_mem_table mem
  obtain ⟨valid, written, -⟩ := Name.encode_eq_ok_iff.mp encoded
  rw [written, ← plain_iff valid]
  intro label member
  refine ⟨(valid label member).1, (valid label member).2, ?_⟩
  rintro octet zero rfl
  have nul := Name.nul_mem_of_zero_mem member zero
  rw [String.toList_ofList] at nul
  exact clean (inside _ nul).1

/-! ## Queries for the address of a name -/

/-- A header and a question for the address of a name. -/
def addressQuery (header name : Octets) : Octets := header ++ name ++ typeOctets .a ++ [0, 1]

theorem isQuery_addressQuery {header : Octets} (asking : IsAskingHeader header)
    {labels : List Octets} (plain : ∀ label ∈ labels, PlainLabel label) :
    IsQuery (addressQuery header (Name.ofLabels labels)) (Name.ofLabels labels) .a
      (12 + (Name.ofLabels labels).length + 4) where
  parts := ⟨header, [], asking, (List.append_nil _).symm⟩
  plain := ⟨labels, plain, rfl⟩
  ends := rfl

/-- An accepted question is for the name that was written, and its labels are plain. -/
theorem plain_of_decode_addressQuery {header : Octets} (asking : IsAskingHeader header)
    {labels : List Octets} (valid : ∀ label ∈ labels, Name.ValidLabel label) {query : Query}
    (accepted : decode (addressQuery header (Name.ofLabels labels)) = .query query) :
    ∀ label ∈ labels, PlainLabel label := by
  obtain ⟨-, isQuery⟩ := (decode_eq_query_iff_isQuery _ query).mp accepted
  obtain ⟨⟨front, rest, asked, same⟩, ⟨others, plain, name⟩, -⟩ := isQuery
  rw [name, addressQuery] at same
  -- both readings begin with twelve octets of header, and a wire form determines its labels
  simp only [List.append_assoc] at same
  obtain ⟨-, same⟩ := List.append_inj same (asking.length.trans asked.length.symm)
  obtain ⟨rfl, -⟩ :=
    Name.ofLabels_append_inj valid (fun label mem => (plain label mem).valid) same
  exact plain

/-- **Only an accepted query is answered with success**: no refusal has the code zero. -/
theorem accepted_of_success {table : Table} {settings : Settings} {packet reply : Octets}
    (sent : (respond table settings packet).outcome.reply? = some reply)
    (success : rcodeBits reply = 0) : ∃ query, decode packet = .query query := by
  cases decoded : decode packet with
  | query query => exact ⟨query, rfl⟩
  | drop reason =>
    rw [respond_drop decoded] at sent
    cases sent
  | reject refusal questionEnd =>
    rw [respond_reject decoded] at sent
    rw [rcodeBits_of_settle sent] at success
    cases refusal <;> cases success

/-! ## The first record of a name -/

/-- A record that neither is a wildcard nor has a given name does not stand in the way of it. -/
theorem Record.not_matchesQuery {record : Record} {name : Octets}
    (tame : record.isWildcard = false) (other : Octets.fold record.name ≠ Octets.fold name) :
    record.matchesQuery .a name = false := by
  simp [Record.matchesQuery, tame, other]

theorem Record.matchesQuery_name (record : Record) : record.matchesQuery .a record.name = true := by
  simp [Record.matchesQuery]

/-- A record that no earlier one hides is found under its own name. -/
theorem Table.ruling_of_first {table : Table} {front back : List Record} {record : Record}
    (order : table.records = front ++ record :: back)
    (first : ∀ earlier ∈ front,
      earlier.isWildcard = false ∧ Octets.fold earlier.name ≠ Octets.fold record.name)
    {query : Query} (type : query.type = .a) (name : query.name = record.name) :
    table.ruling query = .success (.address record.address) := by
  have passed : front.find? (fun earlier => earlier.matchesQuery .a record.name) = none := by
    rw [List.find?_eq_none]
    intro earlier mem
    obtain ⟨tame, other⟩ := first earlier mem
    rw [Record.not_matchesQuery tame other]
    exact Bool.false_ne_true
  unfold Table.ruling
  rw [order, type, name, List.find?_append, passed, Option.none_or, List.find?_cons,
    record.matchesQuery_name]
  rfl

/-! ## Asking for a loaded record -/

/-- A response that gives an address: its one answer has the octets of the address for its data. -/
def Response.Gives (response : Response) (address : Ipv4) : Prop :=
  response.Carries address.octets

/-- A name that is not plain is never taken for the name of a query. -/
theorem not_gives_of_zero_mem {header : Octets} (asking : IsAskingHeader header) {record : Record}
    (zero : 0 ∈ record.name.dropLast) (table : Table) (settings : Settings) (address : Ipv4) :
    ¬ (respond table settings (addressQuery header record.name)).Gives address := by
  rintro ⟨reply, message, answer, sent, success, -⟩
  obtain ⟨query, accepted⟩ := accepted_of_success sent success
  obtain ⟨text, encoded⟩ := record.encoded
  obtain ⟨valid, written, -⟩ := Name.encode_eq_ok_iff.mp encoded
  rw [written] at accepted zero
  exact (plain_iff valid).mp (plain_of_decode_addressQuery asking valid accepted) zero

/-- A record with a plain name is given to whoever asks for it, unless an earlier one hides it. -/
theorem gives_of_zero_not_mem {header : Octets} (asking : IsAskingHeader header) {table : Table}
    {front back : List Record} {record : Record}
    (order : table.records = front ++ record :: back)
    (first : ∀ earlier ∈ front,
      earlier.isWildcard = false ∧ Octets.fold earlier.name ≠ Octets.fold record.name)
    (nonzero : 0 ∉ record.name.dropLast) (settings : Settings) :
    (respond table settings (addressQuery header record.name)).Gives record.address := by
  obtain ⟨text, encoded⟩ := record.encoded
  obtain ⟨valid, written, bound⟩ := Name.encode_eq_ok_iff.mp encoded
  have plain := (plain_iff valid).mpr (written ▸ nonzero)
  have small : (addressQuery header record.name).length ≤ maxPacket := by
    have long := asking.length
    have size : (typeOctets .a).length = 2 := rfl
    simp only [Name.maxName] at bound
    simp only [addressQuery, List.length_append, List.length_cons, List.length_nil, maxPacket]
    omega
  let query : Query :=
    ⟨headerOf (addressQuery header record.name), record.name, .a, 12 + record.name.length + 4⟩
  have accepted : decode (addressQuery header record.name) = .query query := by
    refine (decode_eq_query_iff_isQuery _ query).mpr ⟨rfl, ?_⟩
    have isQuery := isQuery_addressQuery asking plain
    rw [← written] at isQuery
    exact isQuery
  obtain ⟨reply, message, sent, read, rcode, -, answers⟩ :=
    sent_of_decode_query small accepted valid written table settings
  rw [Table.ruling_of_first order first rfl rfl] at rcode answers
  exact ⟨reply, message, _, sent, rcode, read, answers, rfl⟩

/-- **Which records of a file can be asked for**: those whose name has no zero octet in front of its
terminator, unless an earlier record hides them, and so all records of a file without the character
of number zero. -/
theorem loaded_address_given_iff (text : String) (settings : Settings) {front back : List Record}
    {record : Record} (order : (RecordFile.table text).records = front ++ record :: back)
    (first : ∀ earlier ∈ front,
      earlier.isWildcard = false ∧ Octets.fold earlier.name ≠ Octets.fold record.name)
    {header : Octets} (asking : IsAskingHeader header) :
    ((respond (RecordFile.table text) settings (addressQuery header record.name)).Gives
        record.address ↔ 0 ∉ record.name.dropLast) ∧
      ('\x00' ∉ text.toList →
        (respond (RecordFile.table text) settings (addressQuery header record.name)).Gives
          record.address) := by
  refine ⟨⟨?_, ?_⟩, ?_⟩
  · intro given zero
    exact not_gives_of_zero_mem asking zero _ settings record.address given
  · intro nonzero
    exact gives_of_zero_not_mem asking order first nonzero settings
  · intro clean
    have mem : record ∈ (RecordFile.table text).records := by
      rw [order]
      exact List.mem_append_right front List.mem_cons_self
    exact gives_of_zero_not_mem asking order first (RecordFile.zero_not_mem_name mem clean) settings

/-- A header that asks one question. -/
def askingHeader : Octets := [0x12, 0x34, 1, 0, 0, 1, 0, 0, 0, 0, 0, 0]

theorem isAskingHeader_askingHeader : IsAskingHeader askingHeader where
  length := rfl
  query := by decide
  standard := by decide
  counted := by decide

/-- A file with a record in front of that of the name `a` and a wildcard behind it. -/
def hostsText : String := "b 192.0.2.7\na 192.0.2.1\n*.b 192.0.2.9\n"

/-- The record in front. -/
def frontRecord : Record where
  name := [1, 0x62, 0]
  address := ⟨192, 0, 2, 7⟩
  encoded := ⟨"b", rfl⟩

/-- The wildcard behind. -/
def backRecord : Record where
  name := [1, 0x2A, 1, 0x62, 0]
  address := ⟨192, 0, 2, 9⟩
  encoded := ⟨"*.b", rfl⟩

theorem host_address_given :
    (RecordFile.table hostsText).records = [frontRecord] ++ hostRecord :: [backRecord] ∧
      (∀ earlier ∈ [frontRecord],
        earlier.isWildcard = false ∧ Octets.fold earlier.name ≠ Octets.fold hostRecord.name) ∧
      IsAskingHeader askingHeader ∧ 0 ∉ hostRecord.name.dropLast ∧ '\x00' ∉ hostsText.toList ∧
      (respond (RecordFile.table hostsText) {}
        (addressQuery askingHeader hostRecord.name)).Gives hostRecord.address := by
  have order : (RecordFile.table hostsText).records =
      [frontRecord] ++ hostRecord :: [backRecord] := rfl
  have first : ∀ earlier ∈ [frontRecord],
      earlier.isWildcard = false ∧ Octets.fold earlier.name ≠ Octets.fold hostRecord.name := by
    decide
  have nonzero : 0 ∉ hostRecord.name.dropLast := by decide
  have clean : '\x00' ∉ hostsText.toList := by decide
  obtain ⟨given, -⟩ := loaded_address_given_iff hostsText {} order first isAskingHeader_askingHeader
  exact ⟨order, first, isAskingHeader_askingHeader, nonzero, clean, given.mpr nonzero⟩

/-- A file whose only name has the character of number zero in its only label. -/
def nulText : String := "a\x00b 10.0.0.1\n"

/-- The record of this file. -/
def nulRecord : Record where
  name := [3, 0x61, 0, 0x62, 0]
  address := ⟨10, 0, 0, 1⟩
  encoded := ⟨"a\x00b", rfl⟩

/-- The record of `nulText` is loaded, nothing hides it, and yet its address is not given. -/
theorem nul_address_not_given :
    (RecordFile.table nulText).records = [nulRecord] ∧ IsAskingHeader askingHeader ∧
      ¬ (respond (RecordFile.table nulText) {} (addressQuery askingHeader nulRecord.name)).Gives
        nulRecord.address := by
  refine ⟨rfl, isAskingHeader_askingHeader, ?_⟩
  exact not_gives_of_zero_mem isAskingHeader_askingHeader (by decide) _ {} nulRecord.address

end StaticDns
