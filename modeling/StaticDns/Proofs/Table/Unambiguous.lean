import Mathlib.Data.List.Pairwise
import StaticDns.Proofs.Table.Meeting

/-!
# StaticDns.Proofs.Table.Unambiguous — tables with one answer to a query

The first record that matches a query answers it, so the order of a table can matter.  It does not
where no record is a wildcard and all names and addresses differ: then one record at most matches any
query, sound or not, and looking a name up and looking its address up lead back to each other.

* `find?_eq_some_iff_of_apart`: a search finds the only element there is to find.
* `Table.DistinctNames.apart_a`, `Table.DistinctNames.apart_ptr`: no two records match one query.
* `Table.lookup_eq_some_iff`: what is answered then, without a word on order.
* `Table.lookup_of_reordered`: any order of the records gives the same answers.
* `Table.lookups_confirm`: forward and reverse lookups confirm each other.
-/

namespace StaticDns

/-! ## Searching for the only one -/

section Apart

variable {α : Type} {p : α → Bool} {as : List α}
  (apart : as.Pairwise fun a b => ¬ (p a = true ∧ p b = true))
include apart

theorem eq_of_apart {a b : α} (ha : a ∈ as) (hb : b ∈ as) (one : p a = true) (two : p b = true) :
    a = b := by
  have symmetric : Std.Symm fun a b => ¬ (p a = true ∧ p b = true) :=
    ⟨fun _ _ apart both => apart both.symm⟩
  by_contra different
  exact apart.forall ha hb different ⟨one, two⟩

theorem countP_le_one_of_apart : as.countP p ≤ 1 := by
  induction as with
  | nil => simp
  | cons a as ih =>
    obtain ⟨first, apart⟩ := List.pairwise_cons.mp apart
    by_cases found : p a = true
    · have others : as.countP p = 0 :=
        List.countP_eq_zero.mpr fun b mem other => first b mem ⟨found, other⟩
      have counted : (a :: as).countP p = as.countP p + 1 := List.countP_cons_of_pos found
      omega
    · rw [List.countP_cons_of_neg found]
      exact ih apart

theorem find?_eq_some_iff_of_apart {a : α} : as.find? p = some a ↔ a ∈ as ∧ p a = true := by
  constructor
  · exact fun found => ⟨List.mem_of_find?_eq_some found, List.find?_some found⟩
  · rintro ⟨mem, one⟩
    obtain ⟨b, found⟩ := Option.isSome_iff_exists.mp (List.find?_isSome.mpr ⟨a, mem, one⟩)
    rw [found, eq_of_apart apart mem (List.mem_of_find?_eq_some found) one (List.find?_some found)]

end Apart

/-! ## Tables -/

namespace Table

variable {table other : Table} {type : RecordType} {name : Octets}

/-- No record is a wildcard, and no two names are the same but for the case of letters. -/
structure DistinctNames (table : Table) : Prop where
  tame : ∀ record ∈ table.records, record.isWildcard = false
  names : table.records.Pairwise fun record other =>
    Octets.fold record.name ≠ Octets.fold other.name

def DistinctAddresses (table : Table) : Prop :=
  table.records.Pairwise fun record other => record.address ≠ other.address

/-- No two records match the query. -/
def Apart (table : Table) (type : RecordType) (name : Octets) : Prop :=
  table.records.Pairwise fun record other =>
    ¬ (record.matchesQuery type name = true ∧ other.matchesQuery type name = true)

/-- Names that a query is equal to are equal to each other. -/
theorem DistinctNames.apart_a (named : table.DistinctNames) (name : Octets) :
    table.Apart .a name := by
  refine named.names.imp_of_mem fun {record other} mem mem' different both => ?_
  rw [Record.matchesQuery_iff_of_tame (named.tame record mem),
    Record.matchesQuery_iff_of_tame (named.tame other mem')] at both
  exact different (both.1.trans both.2.symm)

/-- A query begins with one address at most. -/
theorem DistinctNames.apart_ptr (named : table.DistinctNames) (located : table.DistinctAddresses)
    (name : Octets) : table.Apart .ptr name := by
  refine located.imp_of_mem fun {record other} mem mem' different both => ?_
  rw [Record.matchesQuery_iff_of_tame (named.tame record mem),
    Record.matchesQuery_iff_of_tame (named.tame other mem')] at both
  exact different (Ipv4.reversedWire_prefix_unique both.1 both.2)

theorem DistinctNames.apart (named : table.DistinctNames) (located : table.DistinctAddresses)
    (type : RecordType) (name : Octets) : table.Apart type name := by
  cases type with
  | a => exact named.apart_a name
  | ptr => exact named.apart_ptr located name

/-- Every answer is that of a record which matches. -/
theorem exists_of_lookup_eq_some {answer : Answer} (answered : table.lookup type name = some answer) :
    ∃ record ∈ table.records, record.matchesQuery type name = true ∧ record.answer type = answer := by
  obtain ⟨record, found, rfl⟩ := Option.map_eq_some_iff.mp answered
  have matched := List.find?_some found
  exact ⟨record, List.mem_of_find?_eq_some found, matched, rfl⟩

/-- **The only record that matches answers**, wherever it stands. -/
theorem lookup_eq_some_iff (apart : table.Apart type name) {answer : Answer} :
    table.lookup type name = some answer ↔
      ∃ record ∈ table.records, record.matchesQuery type name = true ∧
        record.answer type = answer := by
  refine ⟨exists_of_lookup_eq_some, ?_⟩
  rintro ⟨record, mem, matched, rfl⟩
  rw [lookup, (find?_eq_some_iff_of_apart apart).mpr ⟨mem, matched⟩, Option.map_some]

theorem lookup_of_perm (apart : table.Apart type name)
    (reordered : table.records.Perm other.records) :
    other.lookup type name = table.lookup type name := by
  have apart' : other.Apart type name :=
    (reordered.pairwise_iff fun apart both => apart both.symm).mp apart
  refine Option.ext fun answer => ?_
  rw [lookup_eq_some_iff apart', lookup_eq_some_iff apart]
  simp only [reordered.mem_iff]

/-- **The order of an unambiguous table does not matter.**  Its records may be permuted without any
lookup giving another result, because one of them at most matches a query, whatever octets that is
made of; in particular no octets begin with the reversed forms of two addresses. -/
theorem lookup_of_reordered (named : table.DistinctNames) (located : table.DistinctAddresses)
    (reordered : table.records.Perm other.records) :
    (∀ type name, other.lookup type name = table.lookup type name) ∧
      (∀ type name, table.records.countP (fun record => record.matchesQuery type name) ≤ 1) ∧
      ∀ (octets : Octets) (address another : Ipv4), address ≠ another →
        ¬ (address.reversedWire <+: octets ∧ another.reversedWire <+: octets) := by
  refine ⟨fun type name => ?_, fun type name => ?_, fun octets address another different both => ?_⟩
  · exact lookup_of_perm (named.apart located type name) reordered
  · exact countP_le_one_of_apart (named.apart located type name)
  · exact different (Ipv4.reversedWire_prefix_unique both.1 both.2)

/-- Three hosts: the reversed addresses of the first two begin alike, and that of the third has the
same numbers in another order. -/
def threeHosts : Table where
  records :=
    [⟨[1, 0x78, 0], ⟨10, 0, 0, 5⟩, "x", rfl⟩, ⟨[1, 0x79, 0], ⟨10, 0, 0, 50⟩, "y", rfl⟩,
      ⟨[1, 0x7A, 0], ⟨50, 0, 0, 10⟩, "z", rfl⟩]

theorem distinctNames_threeHosts : threeHosts.DistinctNames where
  tame := by decide
  names := by decide

theorem distinctAddresses_threeHosts : threeHosts.DistinctAddresses := by
  unfold DistinctAddresses
  decide

/-- The reverse query for the second of the three hosts. -/
def secondReversed : Octets := [2, 0x35, 0x30, 1, 0x30, 1, 0x30, 2, 0x31, 0x30, 0]

theorem threeHosts_reversed :
    threeHosts.DistinctNames ∧ threeHosts.DistinctAddresses ∧
      threeHosts.records.Perm threeHosts.records.reverse ∧
      (Table.mk threeHosts.records.reverse).lookup .ptr secondReversed =
        some (.name [1, 0x79, 0]) := by
  have reordered : threeHosts.records.Perm (Table.mk threeHosts.records.reverse).records :=
    (List.reverse_perm _).symm
  obtain ⟨same, -, -⟩ :=
    lookup_of_reordered distinctNames_threeHosts distinctAddresses_threeHosts reordered
  refine ⟨distinctNames_threeHosts, distinctAddresses_threeHosts, reordered, ?_⟩
  rw [same]
  decide +kernel

/-- **Forward and reverse lookups confirm each other.**  With distinct names, a name that is given
for a reverse query has an address that the query begins with.  With distinct addresses as well, an
address that is given for a name has that name, whatever a reverse query for it ends with. -/
theorem lookups_confirm (named : table.DistinctNames) :
    (∀ query answer, table.lookup .ptr query = some answer → ∃ name address,
      answer = .name name ∧ table.lookup .a name = some (.address address) ∧
        address.reversedWire <+: query) ∧
    (table.DistinctAddresses → ∀ query answer, table.lookup .a query = some answer → ∃ address,
      answer = .address address ∧ ∀ behind, ∃ name,
        table.lookup .ptr (address.reversedWire ++ behind) = some (.name name) ∧
          Octets.fold name = Octets.fold query) := by
  constructor
  · intro query answer answered
    obtain ⟨record, mem, matched, rfl⟩ := exists_of_lookup_eq_some answered
    rw [Record.matchesQuery_iff_of_tame (named.tame record mem)] at matched
    refine ⟨record.name, record.address, rfl, ?_, matched⟩
    exact (lookup_eq_some_iff (named.apart_a record.name)).mpr
      ⟨record, mem, Record.matchesQuery_iff_meets.mpr (.inr rfl), rfl⟩
  · intro located query answer answered
    obtain ⟨record, mem, matched, rfl⟩ := exists_of_lookup_eq_some answered
    rw [Record.matchesQuery_iff_of_tame (named.tame record mem)] at matched
    refine ⟨record.address, rfl, fun behind => ⟨record.name, ?_, matched⟩⟩
    have begins : record.Meets .ptr (record.address.reversedWire ++ behind) :=
      List.prefix_append _ _
    exact (lookup_eq_some_iff (named.apart_ptr located _)).mpr
      ⟨record, mem, Record.matchesQuery_iff_meets.mpr (.inr begins), rfl⟩

theorem threeHosts_confirm :
    threeHosts.DistinctNames ∧ threeHosts.DistinctAddresses ∧
      threeHosts.lookup .ptr secondReversed = some (.name [1, 0x79, 0]) ∧
      (∃ address, threeHosts.lookup .a [1, 0x79, 0] = some (.address address) ∧
        address.reversedWire <+: secondReversed) ∧
      threeHosts.lookup .a [1, 0x59, 0] = some (.address ⟨10, 0, 0, 50⟩) ∧
      ∀ behind, ∃ name,
        threeHosts.lookup .ptr (Ipv4.reversedWire ⟨10, 0, 0, 50⟩ ++ behind) = some (.name name) ∧
          Octets.fold name = [1, 0x79, 0] := by
  obtain ⟨forward, reverse⟩ := lookups_confirm distinctNames_threeHosts
  have named : threeHosts.lookup .ptr secondReversed = some (.name [1, 0x79, 0]) := by
    decide +kernel
  have located : threeHosts.lookup .a [1, 0x59, 0] = some (.address ⟨10, 0, 0, 50⟩) := by
    decide +kernel
  obtain ⟨name, address, same, given, begins⟩ := forward _ _ named
  obtain rfl : [1, 0x79, 0] = name := Answer.name.inj same
  obtain ⟨host, same, back⟩ := reverse distinctAddresses_threeHosts _ _ located
  obtain rfl : ⟨10, 0, 0, 50⟩ = host := Answer.address.inj same
  exact ⟨distinctNames_threeHosts, distinctAddresses_threeHosts, named, ⟨address, given, begins⟩,
    located, back⟩

end Table

end StaticDns
