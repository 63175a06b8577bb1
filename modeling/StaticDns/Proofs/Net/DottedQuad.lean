import StaticDns.Net.Ipv4
import StaticDns.Proofs.Text.Decimal
import StaticDns.Proofs.Text.Pieces

/-!
# StaticDns.Proofs.Net.DottedQuad — the one text of an address

The reader of addresses is strict: it takes four numbers of at most three digits between dots, with
no zero in front and nothing around them.  So an address is read from the text that is written for
it, and from no other.

* `readOctet?_eq_some_iff`: the same for one number.
* `read?_eq_some_iff`: an address and its text determine each other.
-/

namespace StaticDns.Ipv4

/-- An octet is read from its decimal digits alone. -/
theorem readOctet?_eq_some_iff {cs : List Char} {octet : UInt8} :
    readOctet? cs = some octet ↔ cs = octetDigits octet := by
  constructor
  · intro read
    unfold readOctet? at read
    split_ifs at read with size lead
    split at read
    · rename_i n spelled
      cases read
      obtain ⟨digits, value, small⟩ := Decimal.readDigits_eq_ok_iff.mp spelled
      have nonempty : cs ≠ [] := by
        rintro rfl
        exact size (.inl rfl)
      have plain : cs.head? = some '0' → cs.length = 1 := by
        intro zero
        have short : ¬ 1 < cs.length := fun long => lead ⟨zero, long⟩
        omega
      have kept : (UInt8.ofNat n).toNat = n := by
        rw [UInt8.toNat_ofNat']
        omega
      rw [octetDigits, Decimal.digits, kept, value,
        Decimal.toDigits_ofDigitChars digits nonempty plain]
    · cases read
  · rintro rfl
    have bound := octet.toNat_lt
    have positive : 0 < (octetDigits octet).length := Nat.length_toDigits_pos
    have short : (octetDigits octet).length ≤ 3 :=
      (Nat.length_toDigits_le_iff (by decide) (by decide)).mpr (by omega)
    have plain : ¬ ((octetDigits octet).head? = some '0' ∧ 1 < (octetDigits octet).length) := by
      rintro ⟨zero, long⟩
      have none : octet.toNat = 0 := Decimal.eq_zero_of_head?_digits zero
      rw [octetDigits, none] at long
      exact absurd long (by decide)
    have spelled : Decimal.readDigits 255 .tooLarge (octetDigits octet) = .ok octet.toNat :=
      Decimal.readDigits_digits (by omega)
    rw [readOctet?, if_neg (by omega), if_neg plain, spelled]
    simp

theorem map_readOctet?_eq_iff {parts : List (List Char)} {octets : Octets} :
    parts.map readOctet? = octets.map some ↔ parts = octets.map octetDigits := by
  induction parts generalizing octets with
  | nil => cases octets <;> simp
  | cons part parts ih =>
    cases octets with
    | nil => simp
    | cons octet octets => simp [readOctet?_eq_some_iff, ih]

theorem read?_eq_some_iff_map {cs : List Char} {address : Ipv4} :
    read? cs = some address ↔
      (Text.pieces (· == '.') cs).map readOctet? = address.octets.map some := by
  unfold read?
  constructor
  · intro read
    split at read
    · rename_i parts
      cases read
      exact parts
    · cases read
  · intro parts
    rw [parts]
    rfl

theorem isDigit_of_mem_octetDigits {octet : UInt8} {c : Char} (mem : c ∈ octetDigits octet) :
    c.isDigit = true :=
  Decimal.isDigit_of_mem_digits mem

theorem dot_not_mem_octetDigits (octet : UInt8) : '.' ∉ octetDigits octet :=
  fun mem => absurd (isDigit_of_mem_octetDigits mem) (by decide)

/-- **Which texts are addresses**: each address is read from its own text, and from no other. -/
theorem read?_eq_some_iff {cs : List Char} {address : Ipv4} :
    read? cs = some address ↔ cs = address.chars := by
  rw [read?_eq_some_iff_map, map_readOctet?_eq_iff, Text.pieces_eq_splitOn, chars]
  constructor
  · intro parts
    rw [← parts, List.intercalate_splitOn]
  · rintro rfl
    refine List.splitOn_intercalate '.' ?_ (by simp [octets])
    intro part mem
    obtain ⟨octet, -, rfl⟩ := List.mem_map.mp mem
    exact dot_not_mem_octetDigits octet

/-! ## The characters of an address -/

theorem of_mem_chars {address : Ipv4} {c : Char} (mem : c ∈ address.chars) :
    c.isDigit = true ∨ c = '.' := by
  simp only [chars, octets, List.map_cons, List.map_nil, List.intercalate_cons_cons,
    List.intercalate_singleton, List.mem_append, List.mem_singleton] at mem
  rcases mem with (digit | dot) | (digit | dot) | (digit | dot) | digit
  · exact .inl (isDigit_of_mem_octetDigits digit)
  · exact .inr dot
  · exact .inl (isDigit_of_mem_octetDigits digit)
  · exact .inr dot
  · exact .inl (isDigit_of_mem_octetDigits digit)
  · exact .inr dot
  · exact .inl (isDigit_of_mem_octetDigits digit)

theorem chars_ne_nil (address : Ipv4) : address.chars ≠ [] := by
  intro empty
  have read : read? [] = some address := read?_eq_some_iff.mpr empty.symm
  cases read

end StaticDns.Ipv4
