import Mathlib.Algebra.Ring.Nat
import StaticDns.Interval
import StaticDns.Proofs.Text.Decimal

/-!
# StaticDns.Proofs.Interval.Words — intervals in machine words

Numbers of any size may be written in an interval, but a server has 64 bits to read them in.  It
checks every product and every sum on the way and counts what it has read in seconds and
nanoseconds, which are two machine words.  Nothing wraps around on this way: every text comes to the
same interval, or to the same fault, as in numbers without bound.

* `fit?`: a word stands for a number, or there is none that does.
* `map_number`: a number that is read in words.
* `Clock`: a span in seconds and nanoseconds.
* `map_read`: an interval that is read in words.
-/

namespace StaticDns.Interval.Words

/-! ## Words -/

/-- The word that has been computed for a number, if the number fits a word. -/
def fit? (n : Nat) (word : UInt64) : Option UInt64 :=
  if n < UInt64.size then some word else none

def times? (a b : UInt64) : Option UInt64 := fit? (a.toNat * b.toNat) (a * b)

def plus? (a b : UInt64) : Option UInt64 := fit? (a.toNat + b.toNat) (a + b)

theorem fit?_of_lt {n : Nat} {word : UInt64} (computed : word.toNat = n % 2 ^ 64)
    (fits : n < UInt64.size) : ∃ exact, fit? n word = some exact ∧ exact.toNat = n :=
  ⟨word, if_pos fits, computed.trans (Nat.mod_eq_of_lt fits)⟩

theorem fit?_of_le {n : Nat} (large : UInt64.size ≤ n) (word : UInt64) : fit? n word = none :=
  if_neg (Nat.not_lt.mpr large)

/-! ## Numbers -/

/-- A number with one more digit behind it. -/
def shift? (soFar : UInt64) (digit : Nat) : Option UInt64 :=
  (times? soFar 10).bind fun product => plus? product (.ofNat digit)

/-- One more digit behind the number read so far. -/
def step (soFar : UInt64) (c : Char) : Except Decimal.Fault UInt64 :=
  match Decimal.digit? c with
  | none => .error .badDigit
  | some digit => (shift? soFar digit).elim (.error .tooLarge) .ok

/-- A number, with at most one `+` before its digits. -/
def number : List Char → Except Decimal.Fault UInt64
  | [] => .error .empty
  | ['+'] => .error .badDigit
  | '+' :: cs => cs.foldlM step 0
  | cs => cs.foldlM step 0

theorem shift?_eq (soFar : UInt64) {digit : Nat} (small : digit < 10) :
    shift? soFar digit = fit? (soFar.toNat * 10 + digit) (soFar * 10 + .ofNat digit) := by
  have kept : (UInt64.ofNat digit).toNat = digit := by
    rw [UInt64.toNat_ofNat']
    omega
  have ten : UInt64.toNat 10 = 10 := rfl
  unfold shift? times?
  rw [ten]
  by_cases room : soFar.toNat * 10 < UInt64.size
  · have product : (soFar * 10).toNat = soFar.toNat * 10 := by
      rw [UInt64.toNat_mul, ten, Nat.mod_eq_of_lt room]
    rw [fit?, if_pos room, Option.bind_some, plus?, product, kept]
  · rw [fit?_of_le (Nat.not_lt.mp room), Option.bind_none, fit?_of_le (by omega)]

theorem map_step (soFar : UInt64) (c : Char) :
    (step soFar c).map UInt64.toNat =
      Decimal.step (UInt64.size - 1) .tooLarge soFar.toNat c := by
  unfold step Decimal.step
  cases read : Decimal.digit? c with
  | none => rfl
  | some digit =>
    have small : digit < 10 := by
      obtain ⟨spelled, rfl⟩ := Decimal.digit?_eq_some_iff.mp read
      exact Decimal.toNat_sub_lt spelled
    have computed : (soFar * 10 + .ofNat digit).toNat = (soFar.toNat * 10 + digit) % 2 ^ 64 := by
      rw [UInt64.toNat_add, UInt64.toNat_mul, UInt64.toNat_ofNat', Nat.mod_add_mod, Nat.add_mod_mod]
      rfl
    simp only [shift?_eq soFar small]
    by_cases fits : soFar.toNat * 10 + digit < UInt64.size
    · obtain ⟨next, found, value⟩ := fit?_of_lt computed fits
      have within : ¬ UInt64.size - 1 < soFar.toNat * 10 + digit := by omega
      rw [found, if_neg within, ← value]
      rfl
    · have beyond : UInt64.size - 1 < soFar.toNat * 10 + digit := by
        simp only [UInt64.size] at fits ⊢
        omega
      rw [fit?_of_le (Nat.not_lt.mp fits), if_pos beyond]
      rfl

theorem map_foldlM_step (cs : List Char) (soFar : UInt64) :
    (cs.foldlM step soFar).map UInt64.toNat =
      cs.foldlM (Decimal.step (UInt64.size - 1) .tooLarge) soFar.toNat := by
  induction cs generalizing soFar with
  | nil => rfl
  | cons c cs ih =>
    rw [List.foldlM_cons, List.foldlM_cons, ← map_step]
    cases step soFar c with
    | error fault => rfl
    | ok next => exact ih next

/-- **A number that is read in words** is the number, or the fault, that is read without bound. -/
theorem map_number (cs : List Char) :
    (number cs).map UInt64.toNat = Decimal.readUnsigned (UInt64.size - 1) cs := by
  fun_cases number cs with
  | case1 => rfl
  | case2 => rfl
  | case3 digits more =>
    rw [Decimal.readUnsigned]
    · exact map_foldlM_step digits 0
    · exact more
  | case4 cs nonempty alone plain =>
    rw [Decimal.readUnsigned]
    · exact map_foldlM_step _ 0
    · exact nonempty
    · exact alone
    · exact plain

/-! ## Spans -/

/-- A span in whole seconds and the nanoseconds behind them. -/
structure Clock where
  seconds : UInt64
  nanoseconds : UInt32
  small : nanoseconds.toNat < 1000000000

namespace Clock

def duration (clock : Clock) : Duration :=
  ⟨clock.seconds.toNat * 1000000000 + clock.nanoseconds.toNat⟩

def ofSeconds (n : UInt64) : Clock := ⟨n, 0, by decide⟩

theorem toNat_nanoseconds (n : UInt64) :
    ((n % 1000).toUInt32 * 1000000).toNat = n.toNat % 1000 * 1000000 := by
  have thousand : UInt64.toNat 1000 = 1000 := rfl
  have million : UInt32.toNat 1000000 = 1000000 := rfl
  rw [UInt32.toNat_mul, UInt64.toNat_toUInt32, UInt64.toNat_mod, thousand, million]
  omega

def ofMilliseconds (n : UInt64) : Clock :=
  ⟨n / 1000, (n % 1000).toUInt32 * 1000000, by rw [toNat_nanoseconds]; omega⟩

/-- Whether a span is shorter than another: seconds count first. -/
def shorter (one other : Clock) : Bool :=
  one.seconds < other.seconds ||
    (one.seconds == other.seconds && one.nanoseconds < other.nanoseconds)

/-- A span between two others, or the one of them that it is beyond. -/
def clamp (clock lowest highest : Clock) : Clock :=
  if clock.shorter lowest then lowest else if highest.shorter clock then highest else clock

theorem duration_ofSeconds (n : UInt64) :
    (ofSeconds n).duration = .ofMilliseconds (n.toNat * 1000) := by
  show Duration.mk (n.toNat * 1000000000 + 0) = ⟨n.toNat * 1000 * 1000000⟩
  rw [Nat.add_zero, Nat.mul_assoc]

theorem duration_ofMilliseconds (n : UInt64) :
    (ofMilliseconds n).duration = .ofMilliseconds n.toNat := by
  have thousand : UInt64.toNat 1000 = 1000 := rfl
  show Duration.mk ((n / 1000).toNat * 1000000000 + _) = ⟨n.toNat * 1000000⟩
  rw [ofMilliseconds, toNat_nanoseconds, UInt64.toNat_div, thousand, Duration.mk.injEq]
  omega

theorem shorter_iff {one other : Clock} :
    one.shorter other = true ↔ one.duration.nanoseconds < other.duration.nanoseconds := by
  have small := one.small
  have small' := other.small
  simp only [shorter, duration, Bool.or_eq_true, Bool.and_eq_true, decide_eq_true_eq, beq_iff_eq,
    UInt64.lt_iff_toNat_lt, UInt32.lt_iff_toNat_lt, ← UInt64.toNat_inj]
  omega

end Clock

/-- The shortest interval, and the longest. -/
def shortest : Clock := .ofSeconds 2

def longest : Clock := .ofSeconds (24 * 60 * 60)

theorem duration_clamp (clock : Clock) :
    (clock.clamp shortest longest).duration = Interval.clamp clock.duration := by
  have low : shortest.duration = ⟨2000000000⟩ := rfl
  have high : longest.duration = ⟨86400000000000⟩ := rfl
  have clamped : Interval.clamp clock.duration =
      ⟨min (max clock.duration.nanoseconds 2000000000) 86400000000000⟩ := rfl
  unfold Clock.clamp
  rw [clamped]
  simp only [Clock.shorter_iff, low, high]
  split_ifs with below above
  · rw [low, Duration.mk.injEq]
    omega
  · rw [high, Duration.mk.injEq]
    omega
  · have kept : clock.duration.nanoseconds =
        min (max clock.duration.nanoseconds 2000000000) 86400000000000 := by omega
    exact congrArg Duration.mk kept

/-! ## Intervals -/

/-- The seconds of a unit that counts seconds. -/
def seconds? : Scale → Option UInt64
  | .milliseconds => none
  | .seconds => some 1
  | .minutes => some 60
  | .hours => some 3600

/-- A number of units. -/
def span (n : UInt64) (scale : Scale) : Except Fault Clock :=
  match seconds? scale with
  | none => .ok (.ofMilliseconds n)
  | some unit => (times? n unit).elim (.error .outOfRange) fun seconds => .ok (.ofSeconds seconds)

/-- The span that a text spells, before it is brought into range. -/
def written (text : String) : Except Fault Clock :=
  match splitUnit? (Text.trim text.toList) with
  | none => .error .missingUnit
  | some (cs, scale) =>
    match number cs with
    | .error fault => .error (.number fault)
    | .ok n => span n scale

def read (text : String) : Except Fault Clock :=
  (written text).map fun clock => clock.clamp shortest longest

theorem limit_lt_iff {scale : Scale} {unit : UInt64} (counts : seconds? scale = some unit)
    (n : Nat) : scale.limit < n ↔ UInt64.size ≤ n * unit.toNat := by
  cases scale <;> cases counts
  · show UInt64.size - 1 < n ↔ UInt64.size ≤ n * 1
    simp only [UInt64.size]
    omega
  · show (UInt64.size - 1) / 60 < n ↔ UInt64.size ≤ n * 60
    simp only [UInt64.size]
    omega
  · show (UInt64.size - 1) / 3600 < n ↔ UInt64.size ≤ n * 3600
    simp only [UInt64.size]
    omega

theorem factor_eq {scale : Scale} {unit : UInt64} (counts : seconds? scale = some unit) :
    scale.factor = unit.toNat * 1000 := by
  cases scale <;> cases counts <;> rfl

theorem map_span (n : UInt64) (scale : Scale) :
    (span n scale).map Clock.duration =
      if scale.limit < n.toNat then .error .outOfRange
      else .ok (.ofMilliseconds (n.toNat * scale.factor)) := by
  unfold span
  cases counts : seconds? scale with
  | none =>
    obtain rfl : scale = .milliseconds := by
      cases scale <;> first | rfl | cases counts
    have within : ¬ Scale.milliseconds.limit < n.toNat := by
      have bound := n.toNat_lt_size
      show ¬ UInt64.size - 1 < n.toNat
      omega
    rw [if_neg within, Scale.factor, Nat.mul_one]
    exact congrArg Except.ok (Clock.duration_ofMilliseconds n)
  | some unit =>
    rw [factor_eq counts]
    simp only [limit_lt_iff counts, times?]
    by_cases fits : n.toNat * unit.toNat < UInt64.size
    · obtain ⟨seconds, found, value⟩ := fit?_of_lt (UInt64.toNat_mul n unit) fits
      rw [found, if_neg (Nat.not_le.mpr fits), ← Nat.mul_assoc, ← value]
      exact congrArg Except.ok (Clock.duration_ofSeconds seconds)
    · rw [fit?_of_le (Nat.not_lt.mp fits), if_pos (Nat.not_lt.mp fits)]
      rfl

theorem map_written (text : String) :
    (written text).map Clock.duration = (Interval.written text).map .ofMilliseconds := by
  unfold written Interval.written
  cases splitUnit? (Text.trim text.toList) with
  | none => rfl
  | some parts =>
    obtain ⟨cs, scale⟩ := parts
    dsimp only
    rw [← map_number]
    cases number cs with
    | error fault => rfl
    | ok n =>
      show (span n scale).map Clock.duration = Except.map _ (if _ then _ else _)
      rw [map_span]
      split_ifs <;> rfl

/-- **An interval that is read in words** is the interval, or the fault, that is read without
bound. -/
theorem map_read (text : String) : (read text).map Clock.duration = Interval.read text := by
  calc (read text).map Clock.duration
      = ((written text).map Clock.duration).map Interval.clamp := by
        unfold read
        cases written text with
        | error fault => rfl
        | ok clock => exact congrArg Except.ok (duration_clamp clock)
    _ = ((Interval.written text).map .ofMilliseconds).map Interval.clamp := by rw [map_written]
    _ = Interval.read text := by
        unfold Interval.read
        cases Interval.written text <;> rfl

end StaticDns.Interval.Words
