import Mathlib.Data.List.Forall2
import StaticDns.Proofs.Name.Dotted
import StaticDns.Proofs.Name.Labelwise
import StaticDns.Table

/-!
# StaticDns.Proofs.Table.Matching — which records answer a query

A record file is written in dotted names and addresses, and what its author means by a line is said
in labels.  The table compares octet strings.  Here `Serves` says what is meant, from the text
alone, and a record is shown to match exactly the queries that its text and its address are meant to
answer.

* `Serves`: which queries a name and an address are meant to answer.
* `matchesQuery_iff_serves`: a record matches just these.
* `find?_records`: the first record that matches is that of the first pair that serves.
-/

namespace StaticDns

open Name

/-! ## What is meant -/

/-- The labels of a text: what stands between its dots, one dot at its end apart, as octets. -/
def dottedLabels (text : String) : List Octets :=
  ((dropFinalDot text.toList).splitOn '.').map Utf8.encode

/-- The decimal text of an octet as a label. -/
def decimalLabel (octet : UInt8) : Octets := Utf8.encode octet.toNat.repr.toList

/-- Whether a text with an address is meant to answer queries of a type for a name of these labels:
a text whose first label is `*` answers everything, and otherwise an address query has to ask for
the same labels up to the case of letters, and a reverse query has to begin with the four numbers of
the address, the last one first. -/
def Serves (text : String) (address : Ipv4) (type : RecordType) (labels : List Octets) : Prop :=
  (dottedLabels text).head? = some (Utf8.encode ['*']) ∨
    match type with
    | .a => (dottedLabels text).map Octets.fold = labels.map Octets.fold
    | .ptr => labels.take 4 = [address.d, address.c, address.b, address.a].map decimalLabel

instance (text : String) (address : Ipv4) (type : RecordType) (labels : List Octets) :
    Decidable (Serves text address type labels) :=
  match type with
  | .a => inferInstanceAs (Decidable (_ ∨ _))
  | .ptr => inferInstanceAs (Decidable (_ ∨ _))

/-! ## Numbers as labels -/

theorem utf8Size_of_isDigit {c : Char} (digit : c.isDigit = true) : c.utf8Size = 1 := by
  rw [Char.utf8Size_eq_one_iff]
  simp only [Char.isDigit, Bool.and_eq_true, decide_eq_true_eq] at digit
  have above : c.val.toNat ≤ 57 := UInt32.le_iff_toNat_le.mp digit.2
  rw [UInt32.le_iff_toNat_le]
  exact Nat.le_trans above (by decide)

theorem length_encode_of_isDigit {cs : List Char} (digits : ∀ c ∈ cs, c.isDigit = true) :
    (Utf8.encode cs).length = cs.length := by
  induction cs with
  | nil => rfl
  | cons c cs ih =>
    obtain ⟨first, digits⟩ := List.forall_mem_cons.mp digits
    rw [Utf8.encode_cons, List.length_append, String.length_utf8EncodeChar,
      utf8Size_of_isDigit first, ih digits, List.length_cons]
    omega

/-- The decimal text of an octet has one to three digits. -/
theorem validLabel_decimalLabel (octet : UInt8) : ValidLabel (decimalLabel octet) := by
  have bound := octet.toNat_lt
  have digits : ∀ c ∈ Nat.toDigits 10 octet.toNat, c.isDigit = true :=
    fun c mem => Nat.isDigit_of_mem_toDigits (by decide) (by decide) mem
  have length : (decimalLabel octet).length = (Nat.toDigits 10 octet.toNat).length := by
    rw [decimalLabel, Nat.toList_repr, length_encode_of_isDigit digits]
  have positive : 0 < (Nat.toDigits 10 octet.toNat).length := Nat.length_toDigits_pos
  have short : (Nat.toDigits 10 octet.toNat).length ≤ 3 :=
    (Nat.length_toDigits_le_iff (by decide) (by decide)).mpr (by omega)
  refine ⟨?_, ?_⟩
  · rw [length]
    exact positive
  · rw [length, maxLabel]
    omega

theorem reversedLabels_eq (address : Ipv4) :
    address.reversedLabels = [address.d, address.c, address.b, address.a].map decimalLabel := by
  have digits : decimalLabel = fun octet => Utf8.encode (Ipv4.octetDigits octet) := by
    funext octet
    rw [decimalLabel, Nat.toList_repr]
    rfl
  rw [digits]
  rfl

theorem valid_of_mem_reversedLabels {address : Ipv4} {label : Octets}
    (mem : label ∈ address.reversedLabels) : ValidLabel label := by
  rw [reversedLabels_eq] at mem
  obtain ⟨octet, -, rfl⟩ := List.mem_map.mp mem
  exact validLabel_decimalLabel octet

/-! ## What the table compares -/

/-- A name begins with the octets of a wildcard exactly when its first label is `*`. -/
theorem wildcard_prefix_iff {labels : List Octets} (valid : ∀ label ∈ labels, ValidLabel label) :
    [1, 0x2A] <+: ofLabels labels ↔ labels.head? = some (Utf8.encode ['*']) := by
  have wire : [[0x2A]].flatMap labelWire = [1, 0x2A] := rfl
  have star : ∀ label ∈ ([[0x2A]] : List Octets), ValidLabel label := by decide
  rw [← wire, flatMap_labelWire_prefix_iff star valid]
  cases labels with
  | nil => simp
  | cons label labels =>
    have text : Utf8.encode ['*'] = [0x2A] := by decide
    rw [List.cons_prefix_cons, List.head?_cons, Option.some.injEq, text]
    exact ⟨fun same => same.1.symm, fun same => ⟨same.symm, List.nil_prefix⟩⟩

/-- A name begins with a reversed address exactly when its first four labels are the numbers of the
address, the last one first. -/
theorem reversed_prefix_iff {labels : List Octets} (valid : ∀ label ∈ labels, ValidLabel label)
    (address : Ipv4) :
    address.reversedWire <+: ofLabels labels ↔
      labels.take 4 = [address.d, address.c, address.b, address.a].map decimalLabel := by
  rw [Ipv4.reversedWire,
    flatMap_labelWire_prefix_iff (fun label mem => valid_of_mem_reversedLabels mem) valid,
    List.prefix_iff_eq_take, reversedLabels_eq]
  exact eq_comm

theorem dottedLabels_eq (text : String) : dottedLabels text = textLabels text :=
  (textLabels_eq_splitOn text).symm

/-- Which record is made from a text and an address. -/
theorem Record.ofText_eq_ok_iff {text : String} {address : Ipv4} {record : Record} :
    Record.ofText text address = .ok record ↔
      Name.encode text = .ok record.name ∧ record.address = address := by
  obtain ⟨name, host, encoded⟩ := record
  unfold Record.ofText
  split
  · rename_i fault failed
    simp [failed]
  · rename_i written succeeded
    simp only [succeeded, Except.ok.injEq, Record.mk.injEq]
    exact and_congr_right fun _ => eq_comm

theorem Record.ofText_eq_error_iff {text : String} {address : Ipv4} {error : NameError} :
    Record.ofText text address = .error error ↔ Name.encode text = .error error := by
  unfold Record.ofText
  split
  · rename_i fault failed
    simp [failed]
  · rename_i written succeeded
    simp [succeeded]

/-- **A record matches what it is meant to answer**: comparing flat octet strings comes to the same
as comparing labels. -/
theorem matchesQuery_iff_serves {text : String} {address : Ipv4} {record : Record}
    (made : Record.ofText text address = .ok record) (type : RecordType) {labels : List Octets}
    (valid : ∀ label ∈ labels, ValidLabel label) :
    record.matchesQuery type (ofLabels labels) = true ↔ Serves text address type labels := by
  obtain ⟨encoded, rfl⟩ := Record.ofText_eq_ok_iff.mp made
  obtain ⟨sound, name, -⟩ := encode_eq_ok_iff.mp encoded
  unfold Record.matchesQuery Record.isWildcard Serves
  rw [Bool.or_eq_true, name, List.isPrefixOf_iff_prefix, wildcard_prefix_iff sound,
    dottedLabels_eq]
  refine or_congr_right ?_
  cases type with
  | a => exact beq_iff_eq.trans (fold_ofLabels_eq_iff sound valid)
  | ptr => exact List.isPrefixOf_iff_prefix.trans (reversed_prefix_iff valid record.address)

/-! ## The first match -/

theorem find?_forall₂ {α β : Type} {R : α → β → Prop} {p : α → Bool} {q : β → Bool} {as : List α}
    {bs : List β} (related : List.Forall₂ R as bs) (agree : ∀ a b, R a b → p a = q b) :
    Option.Rel R (as.find? p) (bs.find? q) := by
  induction related with
  | nil => exact .none
  | @cons a b as bs head tail ih =>
    rw [List.find?_cons, List.find?_cons, agree a b head]
    cases q b with
    | true => exact .some head
    | false => exact ih

/-- **The first match is kept**: a table made from pairs in order is searched as the pairs are. -/
theorem find?_records {pairs : List (String × Ipv4)} {records : List Record}
    (made : List.Forall₂ (fun pair record => Record.ofText pair.1 pair.2 = .ok record) pairs records)
    (type : RecordType) {labels : List Octets} (valid : ∀ label ∈ labels, ValidLabel label) :
    Option.Rel (fun pair record => Record.ofText pair.1 pair.2 = .ok record)
      (pairs.find? fun pair => Serves pair.1 pair.2 type labels)
      (records.find? fun record => record.matchesQuery type (ofLabels labels)) := by
  refine find?_forall₂ made fun pair record one => ?_
  rw [Bool.eq_iff_iff, decide_eq_true_eq]
  exact (matchesQuery_iff_serves one type valid).symm

end StaticDns
