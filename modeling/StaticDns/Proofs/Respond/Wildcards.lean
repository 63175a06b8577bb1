import StaticDns.Proofs.Name.Spelling
import StaticDns.Proofs.Respond.Layout
import StaticDns.Proofs.Table.Meeting

/-!
# StaticDns.Proofs.Respond.Wildcards — a wildcard closes a table

A wildcard matches every query, so no query gets past the first one of a table: the records behind
it might as well not be there, no name is denied, and the wildcard itself answers what no record in
front of it does.  Order alone decides; that a later record has the very name of a query counts for
nothing.

* `Record.isWildcard_iff_isStar`: wildcards are told by their first label.
* `Table.place?`: which record answers a query.
* `respond_congr`: a response depends on a table through its lookups.
* `wildcard_closes_table`: what a table with a wildcard answers, and from which record.
-/

namespace StaticDns

open Message

/-! ## Wildcards -/

/-- The first label of the record's name is exactly `*`. -/
def Record.IsStar (record : Record) : Prop :=
  (Name.labels record.name).head? = some (.ok (Utf8.encode ['*']))

/-- **Wildcards are told by their first label**: neither `**` nor `a*` is one, and `*.a` is. -/
theorem Record.isWildcard_iff_isStar {record : Record} :
    record.isWildcard = true ↔ record.IsStar := by
  obtain ⟨text, encoded⟩ := record.encoded
  obtain ⟨valid, name, -⟩ := Name.encode_eq_ok_iff.mp encoded
  unfold isWildcard IsStar
  rw [name, List.isPrefixOf_iff_prefix, wildcard_prefix_iff valid, Name.labels_ofLabels valid,
    List.head?_map, Option.map_eq_some_iff]
  simp

theorem Record.matchesQuery_of_isWildcard {record : Record} (wild : record.isWildcard = true)
    (type : RecordType) (name : Octets) : record.matchesQuery type name = true :=
  matchesQuery_iff_meets.mpr (.inl wild)

/-! ## The record that answers -/

/-- The position of the record that answers a query: that of the first one that matches. -/
def Table.place? (table : Table) (type : RecordType) (name : Octets) : Option Nat :=
  table.records.findIdx? fun record => record.matchesQuery type name

/-- The table's ruling is the answer of the record at that position. -/
theorem Table.ruling_of_place {table : Table} {query : Query} {place : Nat}
    (found : table.place? query.type query.name = some place) :
    ∃ record, table.records[place]? = some record ∧
      table.ruling query = .success (record.answer query.type) := by
  obtain ⟨inside, -, -⟩ := List.findIdx?_eq_some_iff_getElem.mp found
  have here := List.getElem?_eq_getElem inside
  refine ⟨_, here, ?_⟩
  unfold place? at found
  unfold ruling
  rw [List.find?_eq_bind_findIdx?_getElem?, found, Option.bind_some, here]

/-- A response depends on a table through its lookups. -/
theorem respond_congr {table other : Table}
    (same : ∀ type name, other.lookup type name = table.lookup type name) (settings : Settings)
    (packet : Octets) : respond other settings packet = respond table settings packet := by
  simp only [respond, answerQuery, same]

/-! ## Behind a wildcard -/

section Closed

variable {table : Table} {front back : List Record} {star : Record}
  (order : table.records = front ++ star :: back) (wild : star.isWildcard = true)
include order wild

/-- No lookup gets past a wildcard. -/
theorem Table.lookup_of_wildcard (type : RecordType) (name : Octets) :
    (Table.mk (front ++ [star])).lookup type name = table.lookup type name := by
  have split : table = Table.mk (front ++ [star]) ++ Table.mk back := by
    apply Table.ext
    rw [order, records_append, List.append_assoc, List.singleton_append]
  have answered : ((Table.mk (front ++ [star])).lookup type name).isSome = true := by
    rw [lookup, Option.isSome_map, List.find?_isSome]
    exact ⟨star, by simp, Record.matchesQuery_of_isWildcard wild type name⟩
  obtain ⟨answer, given⟩ := Option.isSome_iff_exists.mp answered
  rw [split, lookup_append, given, Option.some_or]

/-- A query is answered from the front of the table, and else from its wildcard. -/
theorem Table.place?_of_wildcard (type : RecordType) (name : Octets) :
    ∃ place, table.place? type name = some place ∧ place ≤ front.length ∧
      (place = front.length ↔ ∀ earlier ∈ front, earlier.matchesQuery type name = false) := by
  have caught := Record.matchesQuery_of_isWildcard wild type name
  unfold place?
  rw [order, List.findIdx?_append, List.findIdx?_cons, caught]
  cases found : front.findIdx? fun record => record.matchesQuery type name with
  | some place =>
    obtain ⟨inside, matched, -⟩ := List.findIdx?_eq_some_iff_getElem.mp found
    refine ⟨place, rfl, Nat.le_of_lt inside, ⟨fun same => ?_, fun silent => ?_⟩⟩
    · omega
    · rw [silent _ (List.getElem_mem inside)] at matched
      cases matched
  | none =>
    refine ⟨front.length, by simp, Nat.le_refl _, ⟨fun _ => ?_, fun _ => rfl⟩⟩
    exact List.findIdx?_eq_none_iff.mp found

/-- No name is denied. -/
theorem rcodeBits_of_wildcard {settings : Settings} {packet reply : Octets}
    (sent : (respond table settings packet).outcome.reply? = some reply) : rcodeBits reply ≠ 3 := by
  cases decoded : decode packet with
  | drop reason =>
    rw [respond_drop decoded] at sent
    cases sent
  | reject refusal questionEnd =>
    rw [respond_reject decoded] at sent
    rw [rcodeBits_of_settle sent]
    cases refusal with
    | notImplemented =>
      show Rcode.notImp.code.toNat ≠ 3
      decide
    | malformedName error =>
      show Rcode.formErr.code.toNat ≠ 3
      decide
  | query query =>
    obtain ⟨before, settled⟩ := respond_query decoded table settings
    obtain ⟨place, found, -, -⟩ := Table.place?_of_wildcard order wild query.type query.name
    obtain ⟨record, -, ruled⟩ := Table.ruling_of_place found
    rw [settled, ruled] at sent
    rw [rcodeBits_of_settle sent]
    show Rcode.noError.code.toNat ≠ 3
    decide

end Closed

/-- **A wildcard closes its table.**  Whatever stands behind the first wildcard of a table, the table
responds to every datagram as if it ended there, and it denies no name.  An accepted query is
answered from some record up to the wildcard, and from the wildcard exactly if no record in front of
it has the name that is asked for, or the address that a reverse query begins with. -/
theorem wildcard_closes_table {table : Table} {front back : List Record} {star : Record}
    (order : table.records = front ++ star :: back) (wild : star.IsStar)
    (first : ∀ earlier ∈ front, ¬ earlier.IsStar) (settings : Settings) (packet : Octets) :
    respond ⟨front ++ [star]⟩ settings packet = respond table settings packet ∧
      (∀ reply, (respond table settings packet).outcome.reply? = some reply →
        rcodeBits reply ≠ 3) ∧
      ∀ query, decode packet = .query query → ∃ place record before,
        table.place? query.type query.name = some place ∧ place ≤ front.length ∧
        table.records[place]? = some record ∧
        respond table settings packet = settle settings packet query.type query.questionEnd
          (.success (record.answer query.type)) before ∧
        (place = front.length ↔ ∀ earlier ∈ front, ¬ earlier.Meets query.type query.name) := by
  rw [← Record.isWildcard_iff_isStar] at wild
  refine ⟨?_, fun reply => rcodeBits_of_wildcard order wild, fun query accepted => ?_⟩
  · exact respond_congr (Table.lookup_of_wildcard order wild) settings packet
  · obtain ⟨place, found, within, last⟩ :=
      Table.place?_of_wildcard order wild query.type query.name
    obtain ⟨record, here, ruled⟩ := Table.ruling_of_place found
    obtain ⟨before, settled⟩ := respond_query accepted table settings
    rw [ruled] at settled
    refine ⟨place, record, before, found, within, here, settled, last.trans ?_⟩
    -- in front of the first wildcard a record matches a query only by its own name or address
    refine forall₂_congr fun earlier mem => ?_
    have tame : earlier.isWildcard = false := by
      rw [← Bool.not_eq_true, Record.isWildcard_iff_isStar]
      exact first earlier mem
    rw [← Bool.not_eq_true, Record.matchesQuery_iff_of_tame tame]

/-- The name `*` with an address. -/
def starRecord : Record where
  name := [1, 0x2A, 0]
  address := ⟨127, 0, 0, 1⟩
  encoded := ⟨"*", rfl⟩

/-- Two names that look like wildcards and are none, a wildcard, and the name `a` behind it. -/
def starredTable : Table where
  records :=
    [⟨[2, 0x2A, 0x2A, 0], ⟨10, 0, 0, 1⟩, "**", rfl⟩,
      ⟨[2, 0x61, 0x2A, 0], ⟨10, 0, 0, 2⟩, "a*", rfl⟩, starRecord, hostRecord]

/-- The wildcard answers for the name `a`, whose own record comes too late. -/
theorem starredTable_closes :
    (∃ front back, starredTable.records = front ++ starRecord :: back ∧ starRecord.IsStar ∧
      ∀ earlier ∈ front, ¬ earlier.IsStar) ∧
    decode hostPacket = .query hostQuery ∧
    starredTable.place? .a [1, 0x61, 0] = some 2 ∧
    ∃ before, respond starredTable {} hostPacket =
      settle {} hostPacket (some .a) 19 (.success (.address ⟨127, 0, 0, 1⟩)) before := by
  have order :
      starredTable.records = starredTable.records.take 2 ++ starRecord :: [hostRecord] := rfl
  have wild : starRecord.IsStar := Record.isWildcard_iff_isStar.mp rfl
  have first : ∀ earlier ∈ starredTable.records.take 2, ¬ earlier.IsStar := by
    simp only [← Record.isWildcard_iff_isStar]
    decide
  have accepted : decode hostPacket = .query hostQuery := by decide +kernel
  obtain ⟨-, -, answered⟩ := wildcard_closes_table order wild first {} hostPacket
  obtain ⟨place, record, before, found, -, here, settled, last⟩ := answered hostQuery accepted
  have silent : ∀ earlier ∈ starredTable.records.take 2,
      ¬ earlier.Meets hostQuery.type hostQuery.name := by
    decide
  obtain rfl : place = 2 := last.mpr silent
  obtain rfl : starRecord = record := Option.some.inj here
  exact ⟨⟨_, _, order, wild, first⟩, accepted, found, before, settled⟩

end StaticDns
