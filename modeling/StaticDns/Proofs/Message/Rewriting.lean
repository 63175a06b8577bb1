import StaticDns.Proofs.Message.Framing

/-!
# StaticDns.Proofs.Message.Rewriting — what a reply makes of the header

The header of a reply is that of the packet, taken apart into fields and written anew after the rest
of the reply stands.  Each bit of it has one of two origins.  The identifier, the operation and the
bits `TC`, `RD`, `RA` and `Z` are the packet's; the response bit, the authority bit, the code and the
counts are the server's, with nothing left of what the packet had there.

* `keptFlags`: the bits of the flags that are the packet's.
* `wordAt_land_keptFlags`: what these bits are, in fields.
* `flags_framed`, `counts_framed`: the fields of the header of a reply.
* `reply_rewrites_header`: which octets of a reply are the packet's and which are not.
-/

namespace StaticDns

open Message

/-! ## Flags -/

/-- The bits of the flags that a reply keeps: all but the response bit, the authority bit and the
code. -/
def keptFlags : Nat := 0x7BF0

namespace Flags

/-- The value of the bits that a reply keeps. -/
def kept (flags : Flags) : Nat :=
  flags.opcode.toNat * 0x0800 + bit flags.tc * 0x0200 + bit flags.rd * 0x0100
    + bit flags.ra * 0x0080 + flags.z.toNat * 0x0010

/-- A flags word under the mask has the fields that are kept, and zeros in place of the others. -/
theorem land_keptFlags {n : Nat} (small : n < 0x10000) :
    n &&& keptFlags =
      field n 0x0800 16 * 0x0800 + field n 0x0200 2 * 0x0200 + field n 0x0100 2 * 0x0100
        + field n 0x0080 2 * 0x0080 + field n 0x0010 8 * 0x0010 := by
  have sum := sum_fields (Nat.lt_of_le_of_lt (Nat.and_le_left (m := keptFlags)) small)
  have qr : field (n &&& keptFlags) (2 ^ 15) (2 ^ 1) = 0 := field_land_of_left_out rfl n
  have opcode : field (n &&& keptFlags) (2 ^ 11) (2 ^ 4) = field n (2 ^ 11) (2 ^ 4) :=
    field_land_of_covered rfl n
  have aa : field (n &&& keptFlags) (2 ^ 10) (2 ^ 1) = 0 := field_land_of_left_out rfl n
  have tc : field (n &&& keptFlags) (2 ^ 9) (2 ^ 1) = field n (2 ^ 9) (2 ^ 1) :=
    field_land_of_covered rfl n
  have rd : field (n &&& keptFlags) (2 ^ 8) (2 ^ 1) = field n (2 ^ 8) (2 ^ 1) :=
    field_land_of_covered rfl n
  have ra : field (n &&& keptFlags) (2 ^ 7) (2 ^ 1) = field n (2 ^ 7) (2 ^ 1) :=
    field_land_of_covered rfl n
  have z : field (n &&& keptFlags) (2 ^ 4) (2 ^ 3) = field n (2 ^ 4) (2 ^ 3) :=
    field_land_of_covered rfl n
  have rcode : field (n &&& keptFlags) (2 ^ 0) (2 ^ 4) = 0 := field_land_of_left_out rfl n
  simp only [Nat.reducePow] at qr opcode aa tc rd ra z rcode
  rw [qr, opcode, aa, tc, rd, ra, z, rcode] at sum
  omega

end Flags

/-- The bits of a message's flags that a reply keeps are those of the fields. -/
theorem wordAt_land_keptFlags (message : Octets) :
    wordAt message 2 &&& keptFlags = (headerOf message).flags.kept := by
  have opcode : (headerOf message).flags.opcode.toNat = Flags.field (wordAt message 2) 0x0800 16 :=
    opcode_headerOf message
  have z : (headerOf message).flags.z.toNat = Flags.field (wordAt message 2) 0x0010 8 := by
    simp only [flags_headerOf, Flags.ofWord, Flags.field, toNat_ofNat_wordAt, UInt8.toNat_ofNat']
    omega
  rw [Flags.land_keptFlags (wordAt_lt message 2), Flags.kept, opcode, z]
  simp only [flags_headerOf, Flags.ofWord, toNat_ofNat_wordAt, Flags.bit_field]

/-! ## Headers of replies -/

section Framed

variable (packet : Octets) (questionEnd : Nat) (ruling : Ruling) (ttl : UInt32)

/-- **The flags of a reply** are the packet's, but for the response bit, the authority bit and the
code. -/
theorem flags_framed :
    (headerOf (framed packet questionEnd ruling ttl)).flags =
      { (headerOf packet).flags with
        qr := true
        aa := ruling.rcode == .noError || ruling.rcode == .nxDomain
        rcode := ruling.rcode.code } := by
  have fits := Flags.trimmed_ofWord (.ofNat (wordAt packet 2))
  rw [← flags_headerOf] at fits
  have opcode : (headerOf packet).flags.opcode % 16 = (headerOf packet).flags.opcode :=
    congrArg Flags.opcode fits
  have z : (headerOf packet).flags.z % 8 = (headerOf packet).flags.z := congrArg Flags.z fits
  have code : ruling.rcode.code % 16 = ruling.rcode.code := by cases ruling <;> rfl
  rw [headerOf_framed]
  simp only [replyHeader, Header.forReply, Flags.trimmed, opcode, z, code]

theorem responseBit_framed : responseBit (framed packet questionEnd ruling ttl) = 1 := by
  rw [← qr_headerOf, flags_framed]

/-- The counts of a reply are those of what stands in it. -/
theorem counts_framed :
    wordAt (framed packet questionEnd ruling ttl) 4 = 1 ∧
      wordAt (framed packet questionEnd ruling ttl) 6 = ruling.answerCount.toNat ∧
      wordAt (framed packet questionEnd ruling ttl) 8 = 0 ∧
      wordAt (framed packet questionEnd ruling ttl) 10 = 0 := by
  have header := headerOf_framed packet questionEnd ruling ttl
  refine ⟨?_, ?_, ?_, ?_⟩
  · rw [← toNat_ofNat_wordAt]
    exact congrArg (·.questions.toNat) header
  · rw [← toNat_ofNat_wordAt]
    exact congrArg (·.answers.toNat) header
  · rw [← toNat_ofNat_wordAt]
    exact congrArg (·.authorities.toNat) header
  · rw [← toNat_ofNat_wordAt]
    exact congrArg (·.additionals.toNat) header

end Framed

section Octets

variable {packet : Octets} {questionEnd : Nat}

/-- A reply starts with the identifier of its packet. -/
theorem take_two_framed (long : headerLength ≤ packet.length) (ruling : Ruling) (ttl : UInt32) :
    (framed packet questionEnd ruling ttl).take 2 = packet.take 2 := by
  have start : (framed packet questionEnd ruling ttl).take 2 =
      Octets.ofWord16 (headerOf packet).id := rfl
  obtain ⟨i₁, i₀, f₁, f₀, q₁, q₀, a₁, a₀, n₁, n₀, r₁, r₀, rest, rfl⟩ := exists_header_octets long
  rw [start]
  exact Octets.ofWord16_word16 i₁ i₀

/-- The question stands in a reply where it stands in the packet. -/
theorem question_framed (inside : questionEnd ≤ packet.length) (ruling : Ruling) (ttl : UInt32) :
    ((framed packet questionEnd ruling ttl).take questionEnd).drop headerLength =
      (packet.take questionEnd).drop headerLength := by
  have length := length_questionOctets inside
  rw [List.drop_take, framed, List.drop_left' (Header.length_toOctets _), ← length, List.take_left]
  rfl

end Octets

/-- **A reply keeps what is the packet's and replaces the rest.**  Whatever the flags, the counts and
the question of a packet are, a reply that is built has the packet's identifier, its operation and
its bits `TC`, `RD`, `RA` and `Z`; it is a response, it claims authority when the name is denied or
answered, and its code and its counts are those of the ruling.  The question stands in it octet for
octet, sound or not. -/
theorem reply_rewrites_header {packet octets : Octets} {questionEnd : Nat}
    {disposition : Disposition} {ttl : UInt32}
    (built : reply packet questionEnd disposition ttl = .ok (some octets)) :
    ∃ ruling, disposition = .rule ruling ∧
      12 ≤ questionEnd ∧ questionEnd ≤ packet.length ∧ questionEnd ≤ octets.length ∧
      octets.take 2 = packet.take 2 ∧
      wordAt octets 2 &&& 0x7BF0 = wordAt packet 2 &&& 0x7BF0 ∧
      responseBit octets = 1 ∧
      (authoritativeBit octets = 1 ↔
        ruling = .nameError ∨ ∃ answer, ruling = .success answer) ∧
      rcodeBits octets = ruling.rcode.code.toNat ∧
      wordAt octets 4 = 1 ∧
      wordAt octets 6 = (match ruling with | .success _ => 1 | _ => 0) ∧
      wordAt octets 8 = 0 ∧ wordAt octets 10 = 0 ∧
      (octets.take questionEnd).drop 12 = (packet.take questionEnd).drop 12 := by
  obtain ⟨ruling, rfl, sound, rfl⟩ := reply_eq_some_iff.mp built
  obtain ⟨long, inside⟩ := bounds_of_frameFault?_eq_none sound
  obtain ⟨questions, answers, authorities, additionals⟩ :=
    counts_framed packet questionEnd ruling ttl
  refine ⟨ruling, rfl, long, inside, ?_, take_two_framed (by omega) ruling ttl, ?_,
    responseBit_framed packet questionEnd ruling ttl, ?_,
    rcodeBits_framed packet questionEnd ruling ttl, questions, ?_, authorities, additionals,
    question_framed inside ruling ttl⟩
  · rw [length_framed long inside]
    omega
  · show wordAt _ 2 &&& keptFlags = wordAt packet 2 &&& keptFlags
    rw [wordAt_land_keptFlags, wordAt_land_keptFlags, flags_framed]
    rfl
  · rw [authoritativeBit_framed]
    cases ruling <;> simp [Ruling.rcode]
  · rw [answers]
    cases ruling <;> rfl

/-- A packet with every bit of its flags and its counts set, and octets behind it that are no
question. -/
def loudPacket : Octets := [0, 7] ++ List.replicate 10 0xFF ++ [0xC0, 0xFF, 0xEE]

/-- The reply that refuses it. -/
def loudReply : Octets := [0, 7, 0xFB, 0xF4, 0, 1, 0, 0, 0, 0, 0, 0, 0xC0, 0xFF]

theorem loudPacket_refused :
    reply loudPacket 14 (.rule .notImplemented) 120 = .ok (some loudReply) ∧
      wordAt loudReply 2 &&& 0x7BF0 = wordAt loudPacket 2 &&& 0x7BF0 ∧
      authoritativeBit loudReply ≠ 1 ∧ rcodeBits loudReply = 4 ∧
      (loudReply.take 14).drop 12 = (loudPacket.take 14).drop 12 := by
  have built : reply loudPacket 14 (.rule .notImplemented) 120 = .ok (some loudReply) := rfl
  obtain ⟨ruling, ruled, -, -, -, -, kept, -, authority, code, -, -, -, -, question⟩ :=
    reply_rewrites_header built
  cases ruled
  refine ⟨built, kept, ?_, code, question⟩
  rw [ne_eq, authority]
  rintro (denied | ⟨answer, answered⟩)
  · cases denied
  · cases answered

end StaticDns
