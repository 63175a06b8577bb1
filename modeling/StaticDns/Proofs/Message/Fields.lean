import Mathlib.Algebra.Ring.Nat
import Mathlib.Tactic.Common
import StaticDns.Message.Header

/-!
# StaticDns.Proofs.Message.Fields — the fields of a message by their positions

A message can be looked at without taking it apart: each of its words stands at a fixed position,
and each flag is a bit of the second word.  These are the fields as the format defines them, and
reading a header is shown to agree with them.

* `wordAt`, `responseBit`, `opcodeBits`, `authoritativeBit`, `rcodeBits`, `questionCount`: the fields.
* `read?_eq_headerOf`: a header that is read holds the fields at their positions.
* `headerOf_toOctets_append`: a header that is written has its fields there.
* `Flags.field_land`: what a mask leaves of a field.
-/

namespace StaticDns

/-! ## Words -/

namespace Octets

theorem toNat_word16 (high low : UInt8) :
    (word16 high low).toNat = high.toNat * 256 + low.toNat := by
  have h := high.toNat_lt
  have l := low.toNat_lt
  rw [word16, UInt16.toNat_ofNat']
  omega

theorem ofWord16_word16 (high low : UInt8) : ofWord16 (word16 high low) = [high, low] := by
  have l := low.toNat_lt
  rw [ofWord16, toNat_word16]
  have quotient : (high.toNat * 256 + low.toNat) / 256 = high.toNat := by omega
  have remainder : (high.toNat * 256 + low.toNat) % 256 = low.toNat := by omega
  rw [quotient, remainder, UInt8.ofNat_toNat, UInt8.ofNat_toNat]

end Octets

namespace Flags

/-- Flags that stand in a word fit their places. -/
theorem trimmed_ofWord (word : UInt16) : (ofWord word).trimmed = ofWord word := by
  rw [← ofWord_toWord, toWord_ofWord]

/-! ## Masks -/

variable {mask k j : Nat}

/-- Under a mask a field of a number is masked by the mask's own field. -/
theorem field_land (n mask k j : Nat) :
    field (n &&& mask) (2 ^ k) (2 ^ j) = field n (2 ^ k) (2 ^ j) &&& field mask (2 ^ k) (2 ^ j) := by
  rw [field, Nat.and_div_two_pow, Nat.and_mod_two_pow]
  rfl

/-- A field that a mask covers stays as it is under the mask. -/
theorem field_land_of_covered (covered : field mask (2 ^ k) (2 ^ j) = 2 ^ j - 1) (n : Nat) :
    field (n &&& mask) (2 ^ k) (2 ^ j) = field n (2 ^ k) (2 ^ j) := by
  rw [field_land, covered, Nat.and_two_pow_sub_one_eq_mod, field, Nat.mod_mod]

/-- A field that a mask leaves out is zero under the mask. -/
theorem field_land_of_left_out (out : field mask (2 ^ k) (2 ^ j) = 0) (n : Nat) :
    field (n &&& mask) (2 ^ k) (2 ^ j) = 0 := by
  rw [field_land, out, Nat.and_zero]

end Flags

namespace Message

/-- The number in the two octets at a position of a message, the high one first.  Behind the end of
a message every octet counts as zero. -/
def wordAt (message : Octets) (position : Nat) : Nat :=
  (message[position]?.getD 0).toNat * 256 + (message[position + 1]?.getD 0).toNat

theorem wordAt_lt (message : Octets) (position : Nat) : wordAt message position < 0x10000 := by
  have h := (message[position]?.getD 0).toNat_lt
  have l := (message[position + 1]?.getD 0).toNat_lt
  unfold wordAt
  omega

theorem wordAt_append_left {front : Octets} {position : Nat} (inside : position + 1 < front.length)
    (back : Octets) : wordAt (front ++ back) position = wordAt front position := by
  unfold wordAt
  rw [List.getElem?_append_left inside, List.getElem?_append_left (by omega)]

theorem wordAt_take {message : Octets} {position length : Nat} (inside : position + 1 < length) :
    wordAt (message.take length) position = wordAt message position := by
  unfold wordAt
  rw [List.getElem?_take_of_lt (by omega), List.getElem?_take_of_lt inside]

theorem wordAt_append_add {front : Octets} {length : Nat} (h : front.length = length)
    (back : Octets) (position : Nat) :
    wordAt (front ++ back) (length + position) = wordAt back position := by
  subst h
  unfold wordAt
  rw [Nat.add_assoc, List.getElem?_append_right (by omega), List.getElem?_append_right (by omega),
    Nat.add_sub_cancel_left, Nat.add_sub_cancel_left]

theorem wordAt_ofWord16_append (word : UInt16) (rest : Octets) :
    wordAt (Octets.ofWord16 word ++ rest) 0 = word.toNat := by
  rw [← Octets.word16_ofWord16 word, Octets.toNat_word16, Octets.word16_ofWord16]
  rfl

theorem toNat_ofNat_wordAt (message : Octets) (position : Nat) :
    (UInt16.ofNat (wordAt message position)).toNat = wordAt message position := by
  have bound := wordAt_lt message position
  rw [UInt16.toNat_ofNat']
  omega

/-! ## Flags and counts -/

/-- One in a response, zero in a query. -/
def responseBit (message : Octets) : Nat := wordAt message 2 / 0x8000 % 2

theorem responseBit_eq (message : Octets) : responseBit message = 0 ∨ responseBit message = 1 := by
  unfold responseBit
  omega

/-- The kind of query. -/
def opcodeBits (message : Octets) : Nat := wordAt message 2 / 0x0800 % 16

/-- One where the server answers with authority. -/
def authoritativeBit (message : Octets) : Nat := wordAt message 2 / 0x0400 % 2

/-- The response code. -/
def rcodeBits (message : Octets) : Nat := wordAt message 2 % 16

/-- The number of questions that a message says it has. -/
def questionCount (message : Octets) : Nat := wordAt message 4

/-- The header whose fields stand at the front of a message. -/
def headerOf (message : Octets) : Header where
  id := .ofNat (wordAt message 0)
  flags := .ofWord (.ofNat (wordAt message 2))
  questions := .ofNat (wordAt message 4)
  answers := .ofNat (wordAt message 6)
  authorities := .ofNat (wordAt message 8)
  additionals := .ofNat (wordAt message 10)

theorem flags_headerOf (message : Octets) :
    (headerOf message).flags = .ofWord (.ofNat (wordAt message 2)) := rfl

theorem qr_headerOf (message : Octets) :
    (headerOf message).flags.qr = true ↔ responseBit message = 1 := by
  simp only [flags_headerOf, Flags.ofWord, Flags.field, toNat_ofNat_wordAt, responseBit,
    beq_iff_eq]

theorem aa_headerOf (message : Octets) :
    (headerOf message).flags.aa = true ↔ authoritativeBit message = 1 := by
  simp only [flags_headerOf, Flags.ofWord, Flags.field, toNat_ofNat_wordAt, authoritativeBit,
    beq_iff_eq]

theorem opcode_headerOf (message : Octets) :
    (headerOf message).flags.opcode.toNat = opcodeBits message := by
  simp only [flags_headerOf, Flags.ofWord, Flags.field, toNat_ofNat_wordAt, opcodeBits,
    UInt8.toNat_ofNat']
  omega

theorem opcode_headerOf_eq_zero_iff (message : Octets) :
    (headerOf message).flags.opcode = 0 ↔ opcodeBits message = 0 := by
  rw [← opcode_headerOf, ← UInt8.toNat_inj]
  rfl

theorem rcode_headerOf (message : Octets) :
    (headerOf message).flags.rcode.toNat = rcodeBits message := by
  simp only [flags_headerOf, Flags.ofWord, Flags.field, toNat_ofNat_wordAt, rcodeBits,
    UInt8.toNat_ofNat']
  omega

theorem questions_headerOf (message : Octets) :
    (headerOf message).questions = 0 ↔ questionCount message = 0 := by
  rw [← UInt16.toNat_inj]
  show (UInt16.ofNat (wordAt message 4)).toNat = 0 ↔ _
  rw [toNat_ofNat_wordAt, questionCount]

/-! ## Reading and writing -/

theorem exists_header_octets {packet : Octets} (long : headerLength ≤ packet.length) :
    ∃ i₁ i₀ f₁ f₀ q₁ q₀ a₁ a₀ n₁ n₀ r₁ r₀ rest, packet =
      i₁ :: i₀ :: f₁ :: f₀ :: q₁ :: q₀ :: a₁ :: a₀ :: n₁ :: n₀ :: r₁ :: r₀ :: rest := by
  match packet, long with
  | i₁ :: i₀ :: f₁ :: f₀ :: q₁ :: q₀ :: a₁ :: a₀ :: n₁ :: n₀ :: r₁ :: r₀ :: rest, _ =>
    exact ⟨_, _, _, _, _, _, _, _, _, _, _, _, _, rfl⟩

/-- **Reading a header** gives the fields at their positions. -/
theorem read?_eq_headerOf {packet : Octets} (long : headerLength ≤ packet.length) :
    Header.read? packet = some (headerOf packet) := by
  obtain ⟨i₁, i₀, f₁, f₀, q₁, q₀, a₁, a₀, n₁, n₀, r₁, r₀, rest, rfl⟩ := exists_header_octets long
  rfl

theorem headerOf_append {front : Octets} (long : headerLength ≤ front.length) (back : Octets) :
    headerOf (front ++ back) = headerOf front := by
  simp only [headerLength] at long
  unfold headerOf
  simp only [wordAt_append_left (show 1 < front.length by omega),
    wordAt_append_left (show 3 < front.length by omega),
    wordAt_append_left (show 5 < front.length by omega),
    wordAt_append_left (show 7 < front.length by omega),
    wordAt_append_left (show 9 < front.length by omega),
    wordAt_append_left (show 11 < front.length by omega)]

/-- Messages that begin with the same octets have the same header. -/
theorem headerOf_eq_of_take_eq {message other : Octets}
    (same : other.take headerLength = message.take headerLength) :
    headerOf other = headerOf message := by
  have front (message : Octets) : headerOf (message.take headerLength) = headerOf message := by
    unfold headerOf
    rw [wordAt_take (by decide), wordAt_take (by decide), wordAt_take (by decide),
      wordAt_take (by decide), wordAt_take (by decide), wordAt_take (by decide)]
  rw [← front other, same, front message]

theorem read?_toOctets_append (header : Header) (rest : Octets) :
    Header.read? (header.toOctets ++ rest) =
      some { header with flags := header.flags.trimmed } := by
  simp only [Header.toOctets, Octets.ofWord16, List.cons_append, List.nil_append, Header.read?,
    Octets.word16_ofWord16, Flags.ofWord_toWord]

/-- **Writing a header** puts its fields at their positions, each flag field cut to its width. -/
theorem headerOf_toOctets_append (header : Header) (rest : Octets) :
    headerOf (header.toOctets ++ rest) = { header with flags := header.flags.trimmed } := by
  have read := read?_toOctets_append header rest
  rw [read?_eq_headerOf (by simp)] at read
  exact Option.some.inj read

end Message

end StaticDns
