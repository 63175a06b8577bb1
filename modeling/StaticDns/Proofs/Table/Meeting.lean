import StaticDns.Proofs.Table.Matching
import StaticDns.Proofs.Text.Decimal
import StaticDns.Proofs.Text.Utf8

/-!
# StaticDns.Proofs.Table.Meeting — the queries that meet a record

A record that is no wildcard answers two kinds of queries: those for its name, whatever the case of
letters, and those that begin with its reversed address.  Each number of a reversed address stands
behind its length, so no string begins with two addresses, not even with the reversed forms of
`10.0.0.5` and `10.0.0.50`, and none of its octets is a letter.

* `Ipv4.reversedWire_prefix_unique`: a string begins with the reversed form of one address at most.
* `Record.Meets`, `Record.matchesQuery_iff_meets`: what a record matches besides being a wildcard.
* `Record.matchesQuery_of_fold_eq`: queries of either type are matched whatever their case.
-/

namespace StaticDns

open Name

/-! ## Reversed addresses -/

theorem decimalLabel_inj {octet other : UInt8} (same : decimalLabel octet = decimalLabel other) :
    octet = other := by
  have digits : octet.toNat.repr.toList = other.toNat.repr.toList := Utf8.encode_inj same
  rw [Nat.toList_repr, Nat.toList_repr] at digits
  have value := congrArg (Nat.ofDigitChars 10 · 0) digits
  rw [Nat.ofDigitChars_ten_toDigits, Nat.ofDigitChars_ten_toDigits] at value
  exact UInt8.toNat_inj.mp value

theorem Ipv4.reversedLabels_inj {address other : Ipv4}
    (same : address.reversedLabels = other.reversedLabels) : address = other := by
  rw [reversedLabels_eq, reversedLabels_eq] at same
  simp only [List.map_cons, List.map_nil, List.cons.injEq, and_true] at same
  obtain ⟨d, c, b, a⟩ := same
  obtain ⟨a₁, b₁, c₁, d₁⟩ := address
  obtain ⟨a₂, b₂, c₂, d₂⟩ := other
  rw [Ipv4.mk.injEq]
  exact ⟨decimalLabel_inj a, decimalLabel_inj b, decimalLabel_inj c, decimalLabel_inj d⟩

/-- **Reversed addresses are no prefixes of each other**: whatever a string begins with, it is the
reversed form of one address at most. -/
theorem Ipv4.reversedWire_prefix_unique {address other : Ipv4} {octets : Octets}
    (one : address.reversedWire <+: octets) (two : other.reversedWire <+: octets) :
    address = other := by
  obtain ⟨behind, rfl⟩ := one
  obtain ⟨rest, same⟩ := two
  have four (host : Ipv4) : host.reversedLabels.length = 4 := rfl
  exact (Ipv4.reversedLabels_inj (flatMap_labelWire_append_inj
    (fun _ => valid_of_mem_reversedLabels) (fun _ => valid_of_mem_reversedLabels)
    ((four other).trans (four address).symm) same)).symm

theorem utf8EncodeChar_of_isDigit {c : Char} (digit : c.isDigit = true) :
    String.utf8EncodeChar c = [UInt8.ofNat c.toNat] ∧ c.toNat ≤ 57 := by
  have bounds := Decimal.isDigit_iff.mp digit
  have value : (UInt8.ofNat c.toNat).toNat = c.toNat := by
    rw [UInt8.toNat_ofNat']
    omega
  have written := Utf8.utf8EncodeChar_one (a := UInt8.ofNat c.toNat) (by omega)
  rw [value, Char.ofNat_toNat] at written
  exact ⟨written, bounds.2⟩

/-- The octets of a reversed address are lengths and digits. -/
theorem Ipv4.letterless_of_mem_reversedWire {address : Ipv4} {octet : UInt8}
    (mem : octet ∈ address.reversedWire) : octet.toNat ≤ maxLabel := by
  obtain ⟨label, among, mem⟩ := List.mem_flatMap.mp mem
  have valid := valid_of_mem_reversedLabels among
  rw [reversedLabels_eq] at among
  obtain ⟨number, -, rfl⟩ := List.mem_map.mp among
  rcases List.mem_cons.mp mem with rfl | mem
  · rw [toNat_length valid]
    exact valid.2
  · rw [decimalLabel, Nat.toList_repr] at mem
    obtain ⟨c, spelled, mem⟩ := List.mem_flatMap.mp mem
    obtain ⟨written, small⟩ :=
      utf8EncodeChar_of_isDigit (Nat.isDigit_of_mem_toDigits (by decide) (by decide) spelled)
    rw [written, List.mem_singleton] at mem
    rw [mem, UInt8.toNat_ofNat', maxLabel]
    omega

/-! ## Meeting -/

/-- Whether a query asks for a record itself: an address query for its name, whatever the case of
letters, or a reverse query that begins with its address, the last number first. -/
def Record.Meets (record : Record) (type : RecordType) (name : Octets) : Prop :=
  match type with
  | .a => Octets.fold record.name = Octets.fold name
  | .ptr => record.address.reversedWire <+: name

instance (record : Record) (type : RecordType) (name : Octets) :
    Decidable (record.Meets type name) :=
  match type with
  | .a => inferInstanceAs (Decidable (_ = _))
  | .ptr => inferInstanceAs (Decidable (_ <+: _))

theorem Record.matchesQuery_iff_meets {record : Record} {type : RecordType} {name : Octets} :
    record.matchesQuery type name = true ↔ record.isWildcard = true ∨ record.Meets type name := by
  unfold Record.matchesQuery
  rw [Bool.or_eq_true]
  refine or_congr_right ?_
  cases type with
  | a => exact beq_iff_eq
  | ptr => exact List.isPrefixOf_iff_prefix

theorem Record.matchesQuery_iff_of_tame {record : Record} (tame : record.isWildcard = false)
    {type : RecordType} {name : Octets} :
    record.matchesQuery type name = true ↔ record.Meets type name := by
  simp [matchesQuery_iff_meets, tame]

/-- Names that differ in case meet the same records. -/
theorem Record.meets_iff_of_fold_eq {name other : Octets}
    (same : Octets.fold other = Octets.fold name) (record : Record) (type : RecordType) :
    record.Meets type other ↔ record.Meets type name := by
  cases type with
  | a =>
    show Octets.fold record.name = Octets.fold other ↔ Octets.fold record.name = Octets.fold name
    rw [same]
  | ptr => exact prefix_iff_of_fold_eq (fun _ => Ipv4.letterless_of_mem_reversedWire) same

/-- **The case of a query does not count**, be it for an address or for a name. -/
theorem Record.matchesQuery_of_fold_eq {name other : Octets}
    (same : Octets.fold other = Octets.fold name) (record : Record) (type : RecordType) :
    record.matchesQuery type other = record.matchesQuery type name := by
  rw [Bool.eq_iff_iff, matchesQuery_iff_meets, matchesQuery_iff_meets,
    meets_iff_of_fold_eq same]

end StaticDns
