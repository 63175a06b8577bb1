import StaticDns.Proofs.Message.Fields

/-!
# StaticDns.Proofs.Message.Codec — headers and their twelve octets

The flags word is read and written by arithmetic, and it can be read and written by masks as well:
each flag stands under a mask of its own, and a wider field is shifted to its mask and cut there.
Both ways are the same for every word and for all flags, those that do not fit their places included.
A header is then as good as its twelve octets.  What is read is written back as it was, what is
written is read back with the flags cut to their places, and nothing that does not fit reaches a
neighbour.

* `Flags.ofMasks`, `Flags.toMasks`: the flags word by masks.
* `Flags.toNat_land_mask`, `Flags.lor_eq_add`: a masked word is a field, and words that share no bits
  add up.
* `Flags.ofWord_eq_ofMasks`, `Flags.toWord_eq_toMasks`: masks agree with the arithmetic.
* `Flags.trimmed_eq_self_iff`: the flags that fit their places.
* `header_codec_exact`: strings of twelve octets and headers with flags that fit are the same thing.
-/

namespace StaticDns

/-! ## Masks of the flags word -/

namespace Flags

/-- Whether the bit under a mask is set. -/
def bitUnder (mask word : UInt16) : Bool := (word &&& mask) != 0

/-- What stands under a mask, shifted down to the lowest bit. -/
def fieldUnder (mask shift word : UInt16) : UInt8 := ((word &&& mask) >>> shift).toUInt8

/-- The flags of a word, each from under its mask. -/
def ofMasks (word : UInt16) : Flags where
  qr := bitUnder 0x8000 word
  opcode := fieldUnder 0x7800 11 word
  aa := bitUnder 0x0400 word
  tc := bitUnder 0x0200 word
  rd := bitUnder 0x0100 word
  ra := bitUnder 0x0080 word
  z := fieldUnder 0x0070 4 word
  rcode := fieldUnder 0x000F 0 word

/-- The bits that a flag sets. -/
def setBit (mask : UInt16) (flag : Bool) : UInt16 := if flag then mask else 0

/-- A value shifted to its place and cut by the mask there.  What the shift pushes out of the word is
lost, and the mask takes off what it pushes onto the neighbours. -/
def setField (mask shift : UInt16) (value : UInt8) : UInt16 := value.toUInt16 <<< shift &&& mask

/-- The word in which each of the flags sets its bits. -/
def toMasks (flags : Flags) : UInt16 :=
  setBit 0x8000 flags.qr ||| setField 0x7800 11 flags.opcode ||| setBit 0x0400 flags.aa
    ||| setBit 0x0200 flags.tc ||| setBit 0x0100 flags.rd ||| setBit 0x0080 flags.ra
    ||| setField 0x0070 4 flags.z ||| setField 0x000F 0 flags.rcode

section Masks

variable {mask shift : UInt16} {k j : Nat}

/-- Under a mask of `j` bits from the bit `k` on, a word is the field at that place. -/
theorem toNat_land_mask (word : UInt16) (covers : mask.toNat = (2 ^ j - 1) * 2 ^ k) :
    (word &&& mask).toNat = field word.toNat (2 ^ k) (2 ^ j) * 2 ^ k := by
  have quotient : (word.toNat &&& mask.toNat) / 2 ^ k = field word.toNat (2 ^ k) (2 ^ j) := by
    rw [Nat.and_div_two_pow, covers, Nat.mul_div_cancel _ (Nat.two_pow_pos k),
      Nat.and_two_pow_sub_one_eq_mod, field]
  have remainder : (word.toNat &&& mask.toNat) % 2 ^ k = 0 := by
    rw [Nat.and_mod_two_pow, covers, Nat.mul_mod_left, Nat.and_zero]
  rw [UInt16.toNat_and, ← quotient, Nat.div_mul_cancel (Nat.dvd_of_mod_eq_zero remainder)]

theorem bitUnder_eq (word : UInt16) (covers : mask.toNat = (2 ^ 1 - 1) * 2 ^ k) :
    bitUnder mask word = (field word.toNat (2 ^ k) 2 == 1) := by
  have masked : (word &&& mask).toNat = field word.toNat (2 ^ k) 2 * 2 ^ k :=
    toNat_land_mask word covers
  have small : field word.toNat (2 ^ k) 2 < 2 := Nat.mod_lt _ (by decide)
  rw [bitUnder, Bool.eq_iff_iff, bne_iff_ne, beq_iff_eq, ne_eq, ← UInt16.toNat_inj, masked]
  obtain zero | one : field word.toNat (2 ^ k) 2 = 0 ∨ field word.toNat (2 ^ k) 2 = 1 := by omega
  · simp [zero]
  · simp [one]

theorem fieldUnder_eq (word : UInt16) (place : shift.toNat = k) (inside : k < 16)
    (covers : mask.toNat = (2 ^ j - 1) * 2 ^ k) :
    fieldUnder mask shift word = UInt8.ofNat (field word.toNat (2 ^ k) (2 ^ j)) := by
  apply UInt8.toNat_inj.mp
  rw [fieldUnder, UInt16.toNat_toUInt8, UInt16.toNat_shiftRight, toNat_land_mask word covers, place,
    Nat.mod_eq_of_lt inside, Nat.shiftRight_eq_div_pow, Nat.mul_div_cancel _ (Nat.two_pow_pos k),
    UInt8.toNat_ofNat']

theorem toNat_setBit (mask : UInt16) (flag : Bool) :
    (setBit mask flag).toNat = bit flag * mask.toNat := by
  cases flag <;> simp [setBit, bit]

/-- A value that is written under a mask is cut to the bits of the mask. -/
theorem toNat_setField (value : UInt8) (place : shift.toNat = k) (inside : k < 16)
    (room : k + j ≤ 16) (covers : mask.toNat = (2 ^ j - 1) * 2 ^ k) :
    (setField mask shift value).toNat = field value.toNat 1 (2 ^ j) * 2 ^ k := by
  have word : 2 ^ 16 = 2 ^ k * 2 ^ (16 - k) := by
    rw [← Nat.pow_add, Nat.add_sub_cancel' (by omega)]
  have shifted : (value.toUInt16 <<< shift).toNat = value.toNat * 2 ^ k % (2 ^ k * 2 ^ (16 - k)) := by
    rw [UInt16.toNat_shiftLeft, UInt8.toNat_toUInt16, place, Nat.mod_eq_of_lt inside,
      Nat.shiftLeft_eq, word]
  have wider : 2 ^ j ∣ 2 ^ (16 - k) := Nat.pow_dvd_pow 2 (by omega)
  rw [setField, toNat_land_mask _ covers, shifted, field, Nat.mod_mul_right_div_self,
    Nat.mul_div_cancel _ (Nat.two_pow_pos k), Nat.mod_mod_of_dvd _ wider, field, Nat.div_one]

/-- Words that share no bits add up. -/
theorem lor_eq_add {high low : Nat} (above : 2 ^ k ∣ high) (below : low < 2 ^ k) :
    high ||| low = high + low := by
  obtain ⟨n, rfl⟩ := above
  exact (Nat.two_pow_add_eq_or_of_lt below n).symm

end Masks

/-- **Flags are read** as under their masks. -/
theorem ofWord_eq_ofMasks (word : UInt16) : ofWord word = ofMasks word := by
  have qr : bitUnder 0x8000 word = _ := bitUnder_eq (k := 15) word rfl
  have opcode : fieldUnder 0x7800 11 word = _ :=
    fieldUnder_eq (k := 11) (j := 4) word rfl (by decide) rfl
  have aa : bitUnder 0x0400 word = _ := bitUnder_eq (k := 10) word rfl
  have tc : bitUnder 0x0200 word = _ := bitUnder_eq (k := 9) word rfl
  have rd : bitUnder 0x0100 word = _ := bitUnder_eq (k := 8) word rfl
  have ra : bitUnder 0x0080 word = _ := bitUnder_eq (k := 7) word rfl
  have z : fieldUnder 0x0070 4 word = _ := fieldUnder_eq (k := 4) (j := 3) word rfl (by decide) rfl
  have rcode : fieldUnder 0x000F 0 word = _ :=
    fieldUnder_eq (k := 0) (j := 4) word rfl (by decide) rfl
  rw [ofMasks, qr, opcode, aa, tc, rd, ra, z, rcode]
  rfl

/-- **Flags are written** as under their masks, however large `opcode`, `z` and `rcode` are. -/
theorem toWord_eq_toMasks (flags : Flags) : flags.toWord = flags.toMasks := by
  have qr : (setBit 0x8000 flags.qr).toNat = bit flags.qr * 0x8000 := toNat_setBit _ _
  have opcode : (setField 0x7800 11 flags.opcode).toNat = field flags.opcode.toNat 1 16 * 0x0800 :=
    toNat_setField (k := 11) (j := 4) _ rfl (by decide) (by decide) rfl
  have aa : (setBit 0x0400 flags.aa).toNat = bit flags.aa * 0x0400 := toNat_setBit _ _
  have tc : (setBit 0x0200 flags.tc).toNat = bit flags.tc * 0x0200 := toNat_setBit _ _
  have rd : (setBit 0x0100 flags.rd).toNat = bit flags.rd * 0x0100 := toNat_setBit _ _
  have ra : (setBit 0x0080 flags.ra).toNat = bit flags.ra * 0x0080 := toNat_setBit _ _
  have z : (setField 0x0070 4 flags.z).toNat = field flags.z.toNat 1 8 * 0x0010 :=
    toNat_setField (k := 4) (j := 3) _ rfl (by decide) (by decide) rfl
  have rcode : (setField 0x000F 0 flags.rcode).toNat = field flags.rcode.toNat 1 16 :=
    (toNat_setField (k := 0) (j := 4) _ rfl (by decide) (by decide) rfl).trans (Nat.mul_one _)
  have hq := bit_le_one flags.qr
  have ha := bit_le_one flags.aa
  have ht := bit_le_one flags.tc
  have hd := bit_le_one flags.rd
  have hr := bit_le_one flags.ra
  have ho : field flags.opcode.toNat 1 16 < 16 := Nat.mod_lt _ (by decide)
  have hz : field flags.z.toNat 1 8 < 8 := Nat.mod_lt _ (by decide)
  have hc : field flags.rcode.toNat 1 16 < 16 := Nat.mod_lt _ (by decide)
  apply UInt16.toNat_inj.mp
  rw [toNat_toWord, Nat.mod_eq_of_lt (by omega), toMasks]
  simp only [UInt16.toNat_or, qr, opcode, aa, tc, rd, ra, z, rcode]
  -- every flag stands below all that are set before it
  simp (disch := omega) only [lor_eq_add (k := 15), lor_eq_add (k := 11), lor_eq_add (k := 10),
    lor_eq_add (k := 9), lor_eq_add (k := 8), lor_eq_add (k := 7), lor_eq_add (k := 4)]

/-! ## Flags that fit -/

theorem mod_eq_self_iff {value n : UInt8} (positive : n.toNat ≠ 0) :
    value % n = value ↔ value < n := by
  rw [← UInt8.toNat_inj, UInt8.toNat_mod, Nat.mod_eq_iff_lt positive, UInt8.lt_iff_toNat_lt]

/-- Flags stay as they are when each of them fits its place. -/
theorem trimmed_eq_self_iff (flags : Flags) :
    flags.trimmed = flags ↔ flags.opcode < 16 ∧ flags.z < 8 ∧ flags.rcode < 16 := by
  obtain ⟨qr, opcode, aa, tc, rd, ra, z, rcode⟩ := flags
  simp only [trimmed, Flags.mk.injEq, true_and,
    mod_eq_self_iff (n := 16) (by decide), mod_eq_self_iff (n := 8) (by decide)]

end Flags

/-! ## Headers -/

namespace Header

/-- **What is read is written back** as it stood at the front of the string. -/
theorem map_toOctets_read? (octets : Octets) :
    (read? octets).map toOctets =
      if octets.length < headerLength then none else some (octets.take headerLength) := by
  split_ifs with short
  · rw [(read?_eq_none_iff octets).mpr short]
    rfl
  · obtain ⟨i₁, i₀, f₁, f₀, q₁, q₀, a₁, a₀, n₁, n₀, r₁, r₀, rest, rfl⟩ :=
      Message.exists_header_octets (Nat.not_lt.mp short)
    simp only [read?, Option.map_some, toOctets, Flags.toWord_ofWord, Octets.ofWord16_word16]
    rfl

/-- **What is written is read back**, with the flags cut to their places. -/
theorem read?_toOctets (header : Header) :
    read? header.toOctets = some { header with flags := header.flags.trimmed } := by
  have read := Message.read?_toOctets_append header []
  rwa [List.append_nil] at read

theorem trimmed_of_read? {octets : Octets} {header : Header} (read : read? octets = some header) :
    header.flags.trimmed = header.flags := by
  rcases Nat.lt_or_ge octets.length headerLength with short | long
  · rw [(read?_eq_none_iff octets).mpr short] at read
    cases read
  · rw [Message.read?_eq_headerOf long] at read
    cases read
    exact Flags.trimmed_ofWord _

/-- **Reading and writing are inverse** between the strings of twelve octets and the headers whose
flags fit. -/
theorem read?_eq_some_iff_toOctets {octets : Octets} {header : Header} :
    octets.length = headerLength ∧ read? octets = some header ↔
      octets = header.toOctets ∧ header.flags.trimmed = header.flags := by
  constructor
  · rintro ⟨length, read⟩
    have written := map_toOctets_read? octets
    rw [read, if_neg (by omega), ← length, List.take_length] at written
    exact ⟨(Option.some.inj written).symm, trimmed_of_read? read⟩
  · rintro ⟨rfl, fits⟩
    refine ⟨length_toOctets header, ?_⟩
    rw [read?_toOctets, fits]

end Header

/-- **A header is its twelve octets.**  A string too short for a header has none, and the header of
any other is written as the first twelve octets of the string, whatever they are.  A header is read
back from its octets as it was, but for `opcode`, `z` and `rcode`, which are cut to four, three and four
bits without a trace in any other field; so the strings of twelve octets and the headers whose flags
fit are in a one-to-one correspondence.  The flags word that is read and written is the one of masks
and shifts. -/
theorem header_codec_exact (octets : Octets) (header : Header) :
    (Header.read? octets).map Header.toOctets =
        (if octets.length < 12 then none else some (octets.take 12)) ∧
      Header.read? header.toOctets =
        some { header with
          flags := { header.flags with
            opcode := header.flags.opcode % 16
            z := header.flags.z % 8
            rcode := header.flags.rcode % 16 } } ∧
      (octets.length = 12 ∧ Header.read? octets = some header ↔
        octets = header.toOctets ∧
          header.flags.opcode < 16 ∧ header.flags.z < 8 ∧ header.flags.rcode < 16) ∧
      (∀ word, Flags.ofWord word = Flags.ofMasks word) ∧
      header.flags.toWord = header.flags.toMasks := by
  refine ⟨Header.map_toOctets_read? octets, Header.read?_toOctets header, ?_,
    Flags.ofWord_eq_ofMasks, Flags.toWord_eq_toMasks header.flags⟩
  rw [← Flags.trimmed_eq_self_iff]
  exact Header.read?_eq_some_iff_toOctets

/-- Sub-fields that are too large lose their high bits, and their neighbours stay clear. -/
example : Header.read? (Header.toOctets { flags := { opcode := 0xF5, z := 0x0A, rcode := 0x33 } }) =
    some { flags := { opcode := 5, z := 2, rcode := 3 } } := by
  decide

end StaticDns
