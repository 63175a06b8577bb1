import Mathlib.Tactic.Common
import StaticDns.Text.Utf8

/-!
# StaticDns.Proofs.Text.Utf8 — what octets spell

A reader of UTF-8 looks at the front of an octet string and decides by the ranges of a few octets.
The writer computes the octets of each character from its number.  They are each other's inverse: a
character stands at the front of a string exactly where its octets do, so a string can be read
exactly if it is the written form of some text, and it is read as that text.

* `of_front_eq_scalar`, `front_utf8EncodeChar`: a character at the front, in both directions.
* `read_eq_ok_iff`: which strings can be read, and as what.
* `decodeLossy_encode`: the lossy reader is exact on written text.
* `zero_mem_encode_iff`: only the character of number zero is written with a zero octet.
-/

namespace StaticDns.Utf8

theorem toNat_ofNat {n : Nat} (valid : n.isValidChar) : (Char.ofNat n).val.toNat = n := by
  rw [Char.ofNat, dif_pos valid]
  rfl

/-! ## Octets by their numbers -/

theorem isTail_iff {octet : UInt8} :
    isTail octet = true ↔ 0x80 ≤ octet.toNat ∧ octet.toNat ≤ 0xBF := by
  simp [isTail, UInt8.le_iff_toNat_le]

theorem isSecond_iff {lead octet : UInt8} :
    isSecond lead octet = true ↔
      (0x80 ≤ octet.toNat ∧ octet.toNat ≤ 0xBF) ∧ (lead.toNat = 0xE0 → 0xA0 ≤ octet.toNat) ∧
        (lead.toNat = 0xED → octet.toNat ≤ 0x9F) ∧ (lead.toNat = 0xF0 → 0x90 ≤ octet.toNat) ∧
        (lead.toNat = 0xF4 → octet.toNat ≤ 0x8F) := by
  unfold isSecond
  simp only [← UInt8.toNat_inj]
  split_ifs <;> simp [UInt8.le_iff_toNat_le, isTail] at * <;> omega

/-! ## The character of a few octets -/

section Written

variable {a b c d : UInt8}

theorem utf8EncodeChar_one (lead : a.toNat < 0x80) :
    String.utf8EncodeChar (Char.ofNat a.toNat) = [a] := by
  have value := toNat_ofNat (n := a.toNat) (.inl (by omega))
  rw [String.utf8EncodeChar, value, if_pos (by omega), UInt8.ofNat_toNat]

theorem utf8EncodeChar_two (lead : 0xC2 ≤ a.toNat ∧ a.toNat ≤ 0xDF)
    (second : isSecond a b = true) :
    String.utf8EncodeChar (Char.ofNat (a.toNat % 32 * 64 + tailBits b)) = [a, b] := by
  rw [isSecond_iff] at second
  unfold tailBits
  have value := toNat_ofNat (n := a.toNat % 32 * 64 + b.toNat % 64) (.inl (by omega))
  rw [String.utf8EncodeChar, value, if_neg (by omega), if_pos (by omega)]
  simp only [List.cons.injEq, and_true, ← UInt8.toNat_inj, UInt8.toNat_ofNat']
  omega

theorem utf8EncodeChar_three (lead : 0xE0 ≤ a.toNat ∧ a.toNat ≤ 0xEF)
    (second : isSecond a b = true) (third : isTail c = true) :
    String.utf8EncodeChar
        (Char.ofNat (a.toNat % 16 * 4096 + tailBits b * 64 + tailBits c)) = [a, b, c] := by
  rw [isSecond_iff] at second
  rw [isTail_iff] at third
  unfold tailBits
  -- the range of the second octet keeps the number out of the surrogates
  have value := toNat_ofNat (n := a.toNat % 16 * 4096 + b.toNat % 64 * 64 + c.toNat % 64)
    (by unfold Nat.isValidChar; omega)
  rw [String.utf8EncodeChar, value, if_neg (by omega), if_neg (by omega), if_pos (by omega)]
  simp only [List.cons.injEq, and_true, ← UInt8.toNat_inj, UInt8.toNat_ofNat']
  omega

theorem utf8EncodeChar_four (lead : 0xF0 ≤ a.toNat ∧ a.toNat ≤ 0xF4)
    (second : isSecond a b = true) (third : isTail c = true) (fourth : isTail d = true) :
    String.utf8EncodeChar
        (Char.ofNat (a.toNat % 8 * 262144 + tailBits b * 4096 + tailBits c * 64 + tailBits d)) =
      [a, b, c, d] := by
  rw [isSecond_iff] at second
  rw [isTail_iff] at third fourth
  unfold tailBits
  have value := toNat_ofNat
    (n := a.toNat % 8 * 262144 + b.toNat % 64 * 4096 + c.toNat % 64 * 64 + d.toNat % 64)
    (by unfold Nat.isValidChar; omega)
  rw [String.utf8EncodeChar, value, if_neg (by omega), if_neg (by omega), if_neg (by omega)]
  simp only [List.cons.injEq, and_true, ← UInt8.toNat_inj, UInt8.toNat_ofNat']
  omega

theorem front_one (lead : a.toNat < 0x80) (rest : Octets) :
    front a rest = .scalar (Char.ofNat a.toNat) 0 := by
  simp only [front.eq_def, UInt8.lt_iff_toNat_lt, UInt8.reduceToNat]
  rw [if_pos lead]

theorem front_two (lead : 0xC2 ≤ a.toNat ∧ a.toNat ≤ 0xDF) (second : isSecond a b = true)
    (rest : Octets) :
    front a (b :: rest) = .scalar (Char.ofNat (a.toNat % 32 * 64 + tailBits b)) 1 := by
  simp only [front.eq_def, UInt8.lt_iff_toNat_lt, UInt8.reduceToNat, Bool.or_eq_true,
    decide_eq_true_eq, second, Bool.not_true, Bool.false_eq_true, if_false]
  rw [if_neg (by omega), if_neg (by omega), if_pos (by omega)]

theorem front_three (lead : 0xE0 ≤ a.toNat ∧ a.toNat ≤ 0xEF) (second : isSecond a b = true)
    (third : isTail c = true) (rest : Octets) :
    front a (b :: c :: rest) =
      .scalar (Char.ofNat (a.toNat % 16 * 4096 + tailBits b * 64 + tailBits c)) 2 := by
  simp only [front.eq_def, UInt8.lt_iff_toNat_lt, UInt8.reduceToNat, Bool.or_eq_true,
    decide_eq_true_eq, second, third, Bool.not_true, Bool.false_eq_true, if_false]
  rw [if_neg (by omega), if_neg (by omega), if_neg (by omega), if_pos (by omega)]

theorem front_four (lead : 0xF0 ≤ a.toNat ∧ a.toNat ≤ 0xF4) (second : isSecond a b = true)
    (third : isTail c = true) (fourth : isTail d = true) (rest : Octets) :
    front a (b :: c :: d :: rest) =
      .scalar (Char.ofNat
        (a.toNat % 8 * 262144 + tailBits b * 4096 + tailBits c * 64 + tailBits d)) 3 := by
  simp only [front.eq_def, UInt8.lt_iff_toNat_lt, UInt8.reduceToNat, Bool.or_eq_true,
    decide_eq_true_eq, second, third, fourth, Bool.not_true, Bool.false_eq_true, if_false]
  rw [if_neg (by omega), if_neg (by omega), if_neg (by omega), if_neg (by omega)]

end Written

/-- **A character that is found at the front is written there.** -/
theorem of_front_eq_scalar {lead : UInt8} {rest : Octets} {c : Char} {more : Nat}
    (found : front lead rest = .scalar c more) :
    lead :: rest = String.utf8EncodeChar c ++ rest.drop more := by
  revert found
  fun_cases front lead rest with
  | case1 rest ascii =>
    rintro ⟨⟩
    rw [utf8EncodeChar_one (UInt8.lt_iff_toNat_lt.mp ascii)]
    rfl
  | case5 high inside second rest sound two =>
    rintro ⟨⟩
    simp only [UInt8.lt_iff_toNat_lt, UInt8.reduceToNat, Bool.or_eq_true,
      decide_eq_true_eq] at inside two
    rw [utf8EncodeChar_two (by omega) (by simpa using sound)]
    rfl
  | case8 high inside second sound beyond third rest good three =>
    rintro ⟨⟩
    simp only [UInt8.lt_iff_toNat_lt, UInt8.reduceToNat, Bool.or_eq_true,
      decide_eq_true_eq] at inside beyond three
    rw [utf8EncodeChar_three (by omega) (by simpa using sound) (by simpa using good)]
    rfl
  | case11 high inside second sound beyond third good four fourth rest fair =>
    rintro ⟨⟩
    simp only [UInt8.lt_iff_toNat_lt, UInt8.reduceToNat, Bool.or_eq_true,
      decide_eq_true_eq] at inside four
    rw [utf8EncodeChar_four (by omega) (by simpa using sound) (by simpa using good)
      (by simpa using fair)]
    rfl
  | case2 | case3 | case4 | case6 | case7 | case9 | case10 => rintro ⟨⟩

/-- **A character that is written at the front is found there.** -/
theorem front_utf8EncodeChar (c : Char) (behind : Octets) :
    ∃ lead tail, String.utf8EncodeChar c = lead :: tail ∧
      front lead (tail ++ behind) = .scalar c tail.length := by
  have valid : c.val.toNat.isValidChar := c.valid
  have same : Char.ofNat c.val.toNat = c := Char.ofNat_toNat c
  unfold Nat.isValidChar at valid
  unfold String.utf8EncodeChar
  generalize c.val.toNat = v at valid same
  subst same
  dsimp only
  split_ifs with one two three
  · refine ⟨_, _, rfl, (front_one ?_ _).trans ?_⟩
    · rw [UInt8.toNat_ofNat']
      omega
    · rw [UInt8.toNat_ofNat', Nat.mod_eq_of_lt (by omega)]
      rfl
  · refine ⟨_, _, rfl, (front_two ?_ ?_ _).trans ?_⟩
    · rw [UInt8.toNat_ofNat']
      omega
    · simp only [isSecond_iff, UInt8.toNat_ofNat']
      omega
    · simp only [tailBits, UInt8.toNat_ofNat']
      congr 2
      omega
  · refine ⟨_, _, rfl, (front_three ?_ ?_ ?_ _).trans ?_⟩
    · rw [UInt8.toNat_ofNat']
      omega
    · simp only [isSecond_iff, UInt8.toNat_ofNat']
      omega
    · simp only [isTail_iff, UInt8.toNat_ofNat']
      omega
    · simp only [tailBits, UInt8.toNat_ofNat']
      congr 2
      omega
  · refine ⟨_, _, rfl, (front_four ?_ ?_ ?_ ?_ _).trans ?_⟩
    · rw [UInt8.toNat_ofNat']
      omega
    · simp only [isSecond_iff, UInt8.toNat_ofNat']
      omega
    · simp only [isTail_iff, UInt8.toNat_ofNat']
      omega
    · simp only [isTail_iff, UInt8.toNat_ofNat']
      omega
    · simp only [tailBits, UInt8.toNat_ofNat']
      congr 2
      omega

/-! ## Whole strings -/

theorem readFrom_encode (index : Nat) (found cs : List Char) :
    readFrom index found (encode cs) = .ok (found.reverse ++ cs) := by
  induction cs generalizing index found with
  | nil => simp [readFrom]
  | cons c cs ih =>
    obtain ⟨lead, tail, written, fronted⟩ := front_utf8EncodeChar c (encode cs)
    rw [encode_cons, written, List.cons_append, readFrom, fronted]
    dsimp only
    rw [List.drop_left, ih, List.reverse_cons, List.append_assoc, List.singleton_append]

theorem of_readFrom_eq_ok {index : Nat} {found cs : List Char} {octets : Octets}
    (read : readFrom index found octets = .ok cs) :
    ∃ text, cs = found.reverse ++ text ∧ octets = encode text := by
  fun_induction readFrom index found octets with
  | case1 index found =>
    cases read
    exact ⟨[], by simp, rfl⟩
  | case2 index found lead rest c more fronted ih =>
    obtain ⟨text, rfl, same⟩ := ih read
    refine ⟨c :: text, by simp, ?_⟩
    rw [of_front_eq_scalar fronted, same, encode_cons]
  | case3 | case4 => cases read

/-- **A string can be read exactly if it is the written form of a text**, and it is read as that
text. -/
theorem read_eq_ok_iff {octets : Octets} {cs : List Char} :
    read octets = .ok cs ↔ octets = encode cs := by
  constructor
  · intro spelled
    obtain ⟨text, rfl, same⟩ := of_readFrom_eq_ok spelled
    exact same
  · rintro rfl
    exact readFrom_encode 0 [] cs

/-- Nothing is lost where nothing is ill-formed. -/
theorem decodeLossy_encode (cs : List Char) : decodeLossy (encode cs) = cs := by
  induction cs with
  | nil => simp [decodeLossy]
  | cons c cs ih =>
    obtain ⟨lead, tail, written, fronted⟩ := front_utf8EncodeChar c (encode cs)
    rw [encode_cons, written, List.cons_append, decodeLossy, fronted]
    dsimp only
    rw [List.drop_left, ih]

theorem encode_inj {cs ds : List Char} (same : encode cs = encode ds) : cs = ds := by
  have spelled := read_eq_ok_iff.mpr same.symm
  rw [read_eq_ok_iff.mpr rfl] at spelled
  exact (Except.ok.inj spelled).symm

/-! ## Zero octets -/

theorem zero_mem_utf8EncodeChar_iff {c : Char} : 0 ∈ String.utf8EncodeChar c ↔ c = '\x00' := by
  constructor
  · intro zero
    unfold String.utf8EncodeChar at zero
    dsimp only at zero
    split_ifs at zero
    all_goals
      simp only [List.mem_cons, List.not_mem_nil, or_false, ← UInt8.toNat_inj, UInt8.toNat_ofNat',
        UInt8.toNat_zero] at zero
    · exact Char.ext (UInt32.toNat_inj.mp (show c.val.toNat = 0 by omega))
    · omega
    · omega
    · omega
  · rintro rfl
    decide

theorem zero_mem_encode_iff {cs : List Char} : 0 ∈ encode cs ↔ '\x00' ∈ cs := by
  simp only [encode, List.mem_flatMap, zero_mem_utf8EncodeChar_iff, exists_eq_right]

end StaticDns.Utf8
