import StaticDns.Octets

/-!
# StaticDns.Message.Header — the twelve octets in front of every message

A header is an identifier, a word of flags and four counts. The flags word is read and written by
arithmetic on its value: a field is the quotient by what its lowest bit is worth, reduced modulo the
number of its values, so a field that is too large for its place is cut to it and never reaches a
neighbour.

* `Flags.ofWord_toWord`: flags read back from their word, each sub-field cut to its width.
* `Flags.toWord_ofWord`: every word of flags is written back as it was read.
* `Header.read?_eq_none_iff`: only a string of fewer than twelve octets has no header.
-/

namespace StaticDns

def headerLength : Nat := 12

/-! ## Flags -/

/-- The flags of a message. On the wire `opcode`, `z` and `rcode` have four, three and four bits. -/
structure Flags where
  qr : Bool := false
  opcode : UInt8 := 0
  aa : Bool := false
  tc : Bool := false
  rd : Bool := false
  ra : Bool := false
  z : UInt8 := 0
  rcode : UInt8 := 0
  deriving DecidableEq, Repr

namespace Flags

/-- The field of a number whose lowest bit is worth `weight` and which takes `size` values. -/
def field (n weight size : Nat) : Nat := n / weight % size

def bit (flag : Bool) : Nat := if flag then 1 else 0

/-- The flags that a word holds. -/
def ofWord (word : UInt16) : Flags :=
  let n := word.toNat
  { qr := field n 0x8000 2 == 1
    opcode := UInt8.ofNat (field n 0x0800 16)
    aa := field n 0x0400 2 == 1
    tc := field n 0x0200 2 == 1
    rd := field n 0x0100 2 == 1
    ra := field n 0x0080 2 == 1
    z := UInt8.ofNat (field n 0x0010 8)
    rcode := UInt8.ofNat (field n 1 16) }

/-- The word that holds the given flags. -/
def toWord (flags : Flags) : UInt16 :=
  UInt16.ofNat
    (bit flags.qr * 0x8000 + field flags.opcode.toNat 1 16 * 0x0800 + bit flags.aa * 0x0400
      + bit flags.tc * 0x0200 + bit flags.rd * 0x0100 + bit flags.ra * 0x0080
      + field flags.z.toNat 1 8 * 0x0010 + field flags.rcode.toNat 1 16)

/-- The flags with `opcode`, `z` and `rcode` cut to the bits they have on the wire. -/
def trimmed (flags : Flags) : Flags :=
  { flags with opcode := flags.opcode % 16, z := flags.z % 8, rcode := flags.rcode % 16 }

/-! ## Flags and words -/

theorem bit_le_one (flag : Bool) : bit flag ≤ 1 := by cases flag <;> simp [bit]

theorem eq_flag_of_eq_bit {n : Nat} {flag : Bool} (h : n = bit flag) : (n == 1) = flag := by
  subst h; cases flag <;> rfl

theorem bit_field (n weight : Nat) : bit (field n weight 2 == 1) = field n weight 2 := by
  have small : field n weight 2 < 2 := Nat.mod_lt _ (by decide)
  obtain h | h : field n weight 2 = 0 ∨ field n weight 2 = 1 := by omega
  all_goals rw [h]; rfl

theorem ofWord_toWord (flags : Flags) : ofWord flags.toWord = flags.trimmed := by
  obtain ⟨qr, opcode, aa, tc, rd, ra, z, rcode⟩ := flags
  have hq := bit_le_one qr
  have ha := bit_le_one aa
  have ht := bit_le_one tc
  have hd := bit_le_one rd
  have hr := bit_le_one ra
  simp only [ofWord, toWord, trimmed, field, UInt16.toNat_ofNat', Flags.mk.injEq]
  refine ⟨eq_flag_of_eq_bit (by omega), UInt8.toNat_inj.mp ?_, eq_flag_of_eq_bit (by omega),
    eq_flag_of_eq_bit (by omega), eq_flag_of_eq_bit (by omega), eq_flag_of_eq_bit (by omega),
    UInt8.toNat_inj.mp ?_, UInt8.toNat_inj.mp ?_⟩
  all_goals simp only [UInt8.toNat_ofNat', UInt8.toNat_mod, UInt8.reduceToNat]; omega

/-- Splitting a number at a field: the part above the field moves down by its size. -/
theorem div_eq_field_add (n weight size : Nat) :
    n / weight = field n weight size + size * (n / (weight * size)) := by
  rw [field, ← Nat.div_div_eq_div_mul]
  exact (Nat.mod_add_div _ _).symm

theorem field_field {n weight size : Nat} (positive : 0 < size) (h : size ≤ 256) :
    field (field n weight size % 256) 1 size = field n weight size := by
  have small : field n weight size < size := Nat.mod_lt _ positive
  rw [Nat.mod_eq_of_lt (Nat.lt_of_lt_of_le small h), field, Nat.div_one, Nat.mod_eq_of_lt small]

theorem sum_fields {n : Nat} (h : n < 0x10000) :
    field n 0x8000 2 * 0x8000 + field n 0x0800 16 * 0x0800 + field n 0x0400 2 * 0x0400
      + field n 0x0200 2 * 0x0200 + field n 0x0100 2 * 0x0100 + field n 0x0080 2 * 0x0080
      + field n 0x0010 8 * 0x0010 + field n 1 16 = n := by
  have h₀ := div_eq_field_add n 1 16
  have h₄ := div_eq_field_add n 0x0010 8
  have h₇ := div_eq_field_add n 0x0080 2
  have h₈ := div_eq_field_add n 0x0100 2
  have h₉ := div_eq_field_add n 0x0200 2
  have h₁₀ := div_eq_field_add n 0x0400 2
  have h₁₁ := div_eq_field_add n 0x0800 16
  have h₁₅ := div_eq_field_add n 0x8000 2
  have top : n / 0x10000 = 0 := Nat.div_eq_of_lt h
  simp only [Nat.reduceMul, Nat.div_one, top] at *
  omega

theorem toNat_toWord (flags : Flags) : flags.toWord.toNat =
    (bit flags.qr * 0x8000 + field flags.opcode.toNat 1 16 * 0x0800 + bit flags.aa * 0x0400
      + bit flags.tc * 0x0200 + bit flags.rd * 0x0100 + bit flags.ra * 0x0080
      + field flags.z.toNat 1 8 * 0x0010 + field flags.rcode.toNat 1 16) % 0x10000 :=
  UInt16.toNat_ofNat'

theorem toWord_ofWord (word : UInt16) : (ofWord word).toWord = word := by
  apply UInt16.toNat_inj.mp
  rw [toNat_toWord]
  simp only [ofWord, bit_field, UInt8.toNat_ofNat', Nat.reducePow]
  rw [field_field (by decide) (by decide), field_field (by decide) (by decide),
    field_field (by decide) (by decide), sum_fields word.toNat_lt, Nat.mod_eq_of_lt word.toNat_lt]

end Flags

/-! ## Headers -/

structure Header where
  id : UInt16 := 0
  flags : Flags := {}
  questions : UInt16 := 0
  answers : UInt16 := 0
  authorities : UInt16 := 0
  additionals : UInt16 := 0
  deriving DecidableEq, Repr

namespace Header

def read? : Octets → Option Header
  | i₁ :: i₀ :: f₁ :: f₀ :: q₁ :: q₀ :: a₁ :: a₀ :: n₁ :: n₀ :: r₁ :: r₀ :: _ =>
    some
      { id := Octets.word16 i₁ i₀
        flags := .ofWord (Octets.word16 f₁ f₀)
        questions := Octets.word16 q₁ q₀
        answers := Octets.word16 a₁ a₀
        authorities := Octets.word16 n₁ n₀
        additionals := Octets.word16 r₁ r₀ }
  | _ => none

def toOctets (header : Header) : Octets :=
  Octets.ofWord16 header.id ++ Octets.ofWord16 header.flags.toWord
    ++ Octets.ofWord16 header.questions ++ Octets.ofWord16 header.answers
    ++ Octets.ofWord16 header.authorities ++ Octets.ofWord16 header.additionals

@[simp] theorem length_toOctets (header : Header) : header.toOctets.length = headerLength := rfl

theorem read?_eq_none_iff (packet : Octets) :
    read? packet = none ↔ packet.length < headerLength := by
  constructor
  · intro h
    unfold read? at h
    split at h
    · simp at h
    · rename_i short
      apply Nat.lt_of_not_le
      intro long
      match packet, long with
      | i₁ :: i₀ :: f₁ :: f₀ :: q₁ :: q₀ :: a₁ :: a₀ :: n₁ :: n₀ :: r₁ :: r₀ :: rest, _ =>
        exact short _ _ _ _ _ _ _ _ _ _ _ _ _ rfl
  · intro h
    unfold read?
    split
    · simp only [headerLength, List.length_cons] at h; omega
    · rfl

end Header

end StaticDns
