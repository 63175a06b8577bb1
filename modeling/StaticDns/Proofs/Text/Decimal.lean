import Mathlib.Data.List.Basic
import StaticDns.Text.Decimal

/-!
# StaticDns.Proofs.Text.Decimal — numbers and the digits that spell them

A number is read digit by digit against a limit.  As reading on never makes a number smaller, the
limit may as well be applied once, to the number that all digits spell together.  The digits of a
number are the one text without a leading zero that spells it.

* `readDigits_eq_ok_iff`: which texts are read, and as what.
* `Numeral`, `readUnsigned_eq_ok_iff`: the same where a sign may stand in front.
* `toDigits_ofDigitChars`: digits without a leading zero are those of the number they spell.
-/

namespace StaticDns.Decimal

variable {limit : Nat} {beyond : Fault} {c : Char} {cs : List Char}

/-! ## Reading -/

theorem isDigit_iff : c.isDigit = true ↔ 48 ≤ c.toNat ∧ c.toNat ≤ 57 := by
  simp only [Char.isDigit, Bool.and_eq_true, decide_eq_true_eq, UInt32.le_iff_toNat_le, ge_iff_le]
  exact Iff.rfl

theorem digit?_eq_some_iff {d : Nat} :
    digit? c = some d ↔ c.isDigit = true ∧ d = c.toNat - 48 := by
  have digit : '0' ≤ c ∧ c ≤ '9' ↔ c.isDigit = true := by
    simp only [isDigit_iff, Char.le_def, UInt32.le_iff_toNat_le]
    exact Iff.rfl
  unfold digit?
  by_cases spelled : c.isDigit = true
  · rw [if_pos (digit.mpr spelled), Option.some.injEq]
    simp only [spelled, true_and]
    exact eq_comm
  · rw [if_neg (mt digit.mp spelled)]
    simp [spelled]

theorem step_eq_ok_iff {soFar n : Nat} :
    step limit beyond soFar c = .ok n ↔
      c.isDigit = true ∧ n = 10 * soFar + (c.toNat - 48) ∧ n ≤ limit := by
  unfold step
  cases read : digit? c with
  | none =>
    simp only [reduceCtorEq, false_iff]
    rintro ⟨digit, -⟩
    rw [digit?_eq_some_iff.mpr ⟨digit, rfl⟩] at read
    cases read
  | some d =>
    obtain ⟨digit, rfl⟩ := digit?_eq_some_iff.mp read
    by_cases large : limit < soFar * 10 + (c.toNat - 48)
    · simp only [if_pos large, reduceCtorEq, digit, true_and, false_iff]
      omega
    · simp only [if_neg large, Except.ok.injEq, digit, true_and]
      omega

theorem le_ofDigitChars (cs : List Char) (n : Nat) : n ≤ Nat.ofDigitChars 10 cs n := by
  have positive : 0 < 10 ^ cs.length := Nat.pow_pos (by decide)
  rw [Nat.ofDigitChars_eq_ofDigitChars_zero]
  exact Nat.le_add_right_of_le (Nat.le_mul_of_pos_left n positive)

theorem foldlM_step_eq_ok_iff {soFar n : Nat} (bounded : soFar ≤ limit) :
    cs.foldlM (step limit beyond) soFar = .ok n ↔
      (∀ c ∈ cs, c.isDigit = true) ∧ n = Nat.ofDigitChars 10 cs soFar ∧ n ≤ limit := by
  induction cs generalizing soFar with
  | nil =>
    simp only [List.foldlM_nil, pure, Except.pure, Except.ok.injEq, List.not_mem_nil,
      false_implies, implies_true, Nat.ofDigitChars_nil, true_and]
    constructor
    · rintro rfl
      exact ⟨rfl, bounded⟩
    · exact fun same => same.1.symm
  | cons c cs ih =>
    rw [List.foldlM_cons, List.forall_mem_cons, Nat.ofDigitChars_cons]
    have zero : '0'.toNat = 48 := rfl
    rw [zero]
    cases stepped : step limit beyond soFar c with
    | error fault =>
      simp only [bind, Except.bind, reduceCtorEq, false_iff]
      rintro ⟨⟨digit, -⟩, same, small⟩
      have grown := le_ofDigitChars cs (10 * soFar + (c.toNat - 48))
      rw [step_eq_ok_iff.mpr ⟨digit, rfl, by omega⟩] at stepped
      cases stepped
    | ok next =>
      obtain ⟨digit, rfl, small⟩ := step_eq_ok_iff.mp stepped
      simp only [bind, Except.bind]
      rw [ih small]
      simp only [digit, true_and]

/-- **Which texts are read**: digits that spell a number within the limit. -/
theorem readDigits_eq_ok_iff {n : Nat} :
    readDigits limit beyond cs = .ok n ↔
      (∀ c ∈ cs, c.isDigit = true) ∧ n = Nat.ofDigitChars 10 cs 0 ∧ n ≤ limit :=
  foldlM_step_eq_ok_iff (Nat.zero_le limit)

/-! ## Signs -/

/-- At least one digit, with at most one `+` in front, spells a number. -/
inductive Numeral : List Char → Nat → Prop
  | plain {digits : List Char} (nonempty : digits ≠ [])
      (spelled : ∀ c ∈ digits, c.isDigit = true) : Numeral digits (Nat.ofDigitChars 10 digits 0)
  | signed {digits : List Char} (nonempty : digits ≠ [])
      (spelled : ∀ c ∈ digits, c.isDigit = true) :
      Numeral ('+' :: digits) (Nat.ofDigitChars 10 digits 0)

theorem Numeral.digit_or_sign {n : Nat} (numeral : Numeral cs n) :
    ∀ c ∈ cs, c.isDigit = true ∨ c = '+' := by
  intro c mem
  cases numeral with
  | plain _ spelled => exact .inl (spelled c mem)
  | signed _ spelled =>
    rcases List.mem_cons.mp mem with rfl | mem
    · exact .inr rfl
    · exact .inl (spelled c mem)

theorem numeral_iff {n : Nat} (unsigned : ∀ digits, cs ≠ '+' :: digits) :
    Numeral cs n ↔ cs ≠ [] ∧ (∀ c ∈ cs, c.isDigit = true) ∧ n = Nat.ofDigitChars 10 cs 0 := by
  constructor
  · intro numeral
    cases numeral with
    | plain nonempty spelled => exact ⟨nonempty, spelled, rfl⟩
    | signed => exact absurd rfl (unsigned _)
  · rintro ⟨nonempty, spelled, rfl⟩
    exact .plain nonempty spelled

theorem numeral_cons_iff {n : Nat} :
    Numeral ('+' :: cs) n ↔
      cs ≠ [] ∧ (∀ c ∈ cs, c.isDigit = true) ∧ n = Nat.ofDigitChars 10 cs 0 := by
  constructor
  · intro numeral
    cases numeral with
    | plain _ spelled => exact absurd (spelled '+' List.mem_cons_self) (by decide)
    | signed nonempty spelled => exact ⟨nonempty, spelled, rfl⟩
  · rintro ⟨nonempty, spelled, rfl⟩
    exact .signed nonempty spelled

/-- **Which numerals are read**: those of a number within the limit. -/
theorem readUnsigned_eq_ok_iff {n : Nat} :
    readUnsigned limit cs = .ok n ↔ Numeral cs n ∧ n ≤ limit := by
  fun_cases readUnsigned limit cs with
  | case1 => simp [numeral_iff]
  | case2 => simp [numeral_cons_iff]
  | case3 digits more =>
    rw [readDigits_eq_ok_iff, numeral_cons_iff, and_iff_right more, and_assoc]
  | case4 cs nonempty alone unsigned =>
    rw [readDigits_eq_ok_iff, numeral_iff unsigned, and_iff_right nonempty, and_assoc]

/-- A numeral spells one number. -/
theorem Numeral.unique {n m : Nat} (one : Numeral cs n) (other : Numeral cs m) : n = m := by
  have read := readUnsigned_eq_ok_iff.mpr ⟨one, Nat.le_max_left n m⟩
  rw [readUnsigned_eq_ok_iff.mpr ⟨other, Nat.le_max_right n m⟩] at read
  exact (Except.ok.inj read).symm

/-! ## The digits of a number -/

theorem digitChar_toNat_sub (digit : c.isDigit = true) : Nat.digitChar (c.toNat - 48) = c := by
  rw [isDigit_iff] at digit
  apply Char.toNat_inj.mp
  rw [Nat.toNat_digitChar_of_lt_ten (by omega)]
  omega

theorem toNat_sub_lt (digit : c.isDigit = true) : c.toNat - 48 < 10 := by
  rw [isDigit_iff] at digit
  omega

/-- Behind the digits of a positive number every digit counts. -/
theorem toDigits_append {n : Nat} (positive : 0 < n) (digits : ∀ c ∈ cs, c.isDigit = true) :
    Nat.toDigits 10 n ++ cs = Nat.toDigits 10 (Nat.ofDigitChars 10 cs n) := by
  induction cs generalizing n with
  | nil => simp
  | cons c cs ih =>
    obtain ⟨digit, digits⟩ := List.forall_mem_cons.mp digits
    have small := toNat_sub_lt digit
    have last : Nat.toDigits 10 (c.toNat - 48) = [c] := by
      rw [Nat.toDigits_of_lt_base small, digitChar_toNat_sub digit]
    calc Nat.toDigits 10 n ++ c :: cs
        = Nat.toDigits 10 n ++ Nat.toDigits 10 (c.toNat - 48) ++ cs := by simp [last]
      _ = Nat.toDigits 10 (10 * n + (c.toNat - 48)) ++ cs := by
          rw [Nat.toDigits_append_toDigits (by decide) positive small]
      _ = Nat.toDigits 10 (Nat.ofDigitChars 10 cs (10 * n + (c.toNat - 48))) :=
          ih (by omega) digits

/-- **Digits without a leading zero** are the digits of the number they spell. -/
theorem toDigits_ofDigitChars (digits : ∀ c ∈ cs, c.isDigit = true) (nonempty : cs ≠ [])
    (plain : cs.head? = some '0' → cs.length = 1) :
    Nat.toDigits 10 (Nat.ofDigitChars 10 cs 0) = cs := by
  cases cs with
  | nil => exact absurd rfl nonempty
  | cons c cs =>
    obtain ⟨digit, digits⟩ := List.forall_mem_cons.mp digits
    have first : Nat.toDigits 10 (c.toNat - 48) = [c] := by
      rw [Nat.toDigits_of_lt_base (toNat_sub_lt digit), digitChar_toNat_sub digit]
    have value : Nat.ofDigitChars 10 (c :: cs) 0 = Nat.ofDigitChars 10 cs (c.toNat - 48) := by
      rw [Nat.ofDigitChars_cons]
      simp
    rw [value]
    rcases Nat.eq_zero_or_pos (c.toNat - 48) with zero | positive
    · -- a zero in front stands alone
      have spelled : c = '0' := by rw [← digitChar_toNat_sub digit, zero]; rfl
      have alone : cs = [] := by simpa [spelled] using plain
      rw [alone, Nat.ofDigitChars_nil, first]
    · rw [← toDigits_append positive digits, first, List.singleton_append]

/-- Only the number zero has a zero in front. -/
theorem eq_zero_of_head?_digits {n : Nat} (zero : (digits n).head? = some '0') : n = 0 := by
  unfold digits at zero
  induction n using Nat.strongRecOn with
  | ind n ih =>
    rw [Nat.toDigits_eq_if (by decide)] at zero
    by_cases small : n < 10
    · rw [if_pos small, List.head?_cons, Option.some.injEq] at zero
      exact Nat.digitChar_eq_zero.mp zero
    · rw [if_neg small, List.head?_append_of_ne_nil _ Nat.toDigits_ne_nil] at zero
      have high := ih (n / 10) (by omega) zero
      omega

theorem isDigit_of_mem_digits {n : Nat} (mem : c ∈ digits n) : c.isDigit = true :=
  Nat.isDigit_of_mem_toDigits (by decide) (by decide) mem

theorem readDigits_digits {n : Nat} (small : n ≤ limit) :
    readDigits limit beyond (digits n) = .ok n :=
  readDigits_eq_ok_iff.mpr
    ⟨fun _ mem => isDigit_of_mem_digits mem, Nat.ofDigitChars_ten_toDigits.symm, small⟩

end StaticDns.Decimal
