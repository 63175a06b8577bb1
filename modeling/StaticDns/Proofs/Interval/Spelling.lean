import Mathlib.Data.List.DropRight
import StaticDns.Proofs.Interval.Words

/-!
# StaticDns.Proofs.Interval.Spelling — which texts are intervals

An interval is spelt by a numeral and the letters of a unit, with white space around both.  Two of
the units begin or end with the letters of others, so where the number ends depends on which are
tried first; but a numeral has no letters, and so a text spells one number of one unit at most.

* `trim_of_solid`, `exists_trim`: white space around a text.
* `Spells`: the grammar.
* `spells_iff`, `Spells.unique`: how a text that spells an interval is cut.
* `read_eq_ok_iff`: which texts are read, and as what.
* `read_exact`: this, in words without overflow, and what follows for different units.
-/

namespace StaticDns

/-! ## White space -/

namespace Text

/-- No graphic character of ASCII is white space. -/
theorem isBlank_of_graphic {c : Char} (low : 0x21 ≤ c.toNat) (high : c.toNat ≤ 0x7E) :
    isBlank c = false := by
  simp only [isBlank, blankRanges, List.any_cons, List.any_nil, Bool.or_false, Bool.or_eq_false_iff,
    Bool.and_eq_false_iff, decide_eq_false_iff_not]
  omega

theorem dropWhile_of_solid {cs : List Char} (solid : ∀ c ∈ cs, isBlank c = false) :
    cs.dropWhile isBlank = cs := by
  cases cs with
  | nil => rfl
  | cons c cs => rw [List.dropWhile_cons_of_neg (by simp [solid c List.mem_cons_self])]

/-- Trimming takes the white space away that stands around a text without any. -/
theorem trim_of_solid {front cs back : List Char} (leading : ∀ c ∈ front, isBlank c = true)
    (solid : ∀ c ∈ cs, isBlank c = false) (trailing : ∀ c ∈ back, isBlank c = true) :
    trim (front ++ (cs ++ back)) = cs := by
  have backwards : ∀ c ∈ cs.reverse, isBlank c = false := by simpa using solid
  unfold trim
  rw [List.dropWhile_append_of_pos leading]
  cases cs with
  | nil =>
    rw [List.nil_append, List.dropWhile_eq_nil_iff.mpr trailing]
    rfl
  | cons c cs =>
    have first : ¬ isBlank c = true := by simp [solid c List.mem_cons_self]
    rw [List.cons_append, List.dropWhile_cons_of_neg first, ← List.cons_append,
      List.reverse_append, List.dropWhile_append_of_pos (by simpa using trailing),
      dropWhile_of_solid backwards, List.reverse_reverse]

/-- Trimming takes nothing away but white space. -/
theorem exists_trim (cs : List Char) :
    ∃ front back, (∀ c ∈ front, isBlank c = true) ∧ (∀ c ∈ back, isBlank c = true) ∧
      cs = front ++ (trim cs ++ back) := by
  refine ⟨cs.takeWhile isBlank, (cs.dropWhile isBlank).rtakeWhile isBlank,
    fun c mem => List.mem_takeWhile_imp mem, fun c mem => List.mem_rtakeWhile_imp mem, ?_⟩
  show cs = _ ++ ((cs.dropWhile isBlank).rdropWhile isBlank ++ _)
  rw [List.rdropWhile_append_rtakeWhile, List.takeWhile_append_dropWhile]

end Text

namespace Interval

/-! ## The grammar -/

/-- The letters of a unit. -/
def Scale.letters : Scale → List Char
  | .milliseconds => ['m', 's']
  | .seconds => ['s']
  | .minutes => ['m']
  | .hours => ['h']

/-- A text that spells a number of units. -/
inductive Spells (n : Nat) (scale : Scale) : List Char → Prop
  | intro {front numeral back : List Char} (leading : ∀ c ∈ front, Text.isBlank c = true)
      (spelled : Decimal.Numeral numeral n) (trailing : ∀ c ∈ back, Text.isBlank c = true) :
      Spells n scale (front ++ (numeral ++ scale.letters ++ back))

/-- The number of units fits 64 bits, and the number of seconds in them does. -/
def Scale.Fits (n : Nat) : Scale → Prop
  | .milliseconds => n ≤ 2 ^ 64 - 1
  | .seconds => n * 1 ≤ 2 ^ 64 - 1
  | .minutes => n * 60 ≤ 2 ^ 64 - 1
  | .hours => n * 3600 ≤ 2 ^ 64 - 1

theorem Scale.fits_iff {n : Nat} (scale : Scale) :
    scale.Fits n ↔ n ≤ UInt64.size - 1 ∧ ¬ scale.limit < n := by
  cases scale <;> simp only [Scale.Fits, Scale.limit, UInt64.size] <;> omega

/-! ## Cutting -/

theorem eq_append_of_splitUnit? {cs number : List Char} {scale : Scale}
    (cut : splitUnit? cs = some (number, scale)) : cs = number ++ scale.letters := by
  unfold splitUnit? at cut
  split at cut
  case h_5 => cases cut
  all_goals
    rename_i reversed
    cases cut
    simpa [Scale.letters] using congrArg List.reverse reversed

/-- The letters of a unit are cut off where none of them ends the number. -/
theorem splitUnit?_append {number : List Char} (unlettered : 'm' ∉ number) (scale : Scale) :
    splitUnit? (number ++ scale.letters) = some (number, scale) := by
  unfold splitUnit?
  rw [List.reverse_append]
  cases scale with
  | milliseconds | minutes | hours => simp [Scale.letters]
  | seconds =>
    -- the number does not lend its last letter to the unit
    have ends (rest : List Char) : number.reverse ≠ 'm' :: rest := by
      intro same
      have mem : 'm' ∈ number.reverse := same ▸ List.mem_cons_self
      exact unlettered (List.mem_reverse.mp mem)
    have letters : Scale.seconds.letters.reverse ++ number.reverse = 's' :: number.reverse := rfl
    rw [letters]
    split
    · rename_i same
      exact absurd (List.cons.inj same).2 (ends _)
    · rename_i same
      rw [← (List.cons.inj same).2, List.reverse_reverse]
    · rename_i same
      cases same
    · rename_i same
      cases same
    · rename_i other _ _
      exact absurd rfl (other number.reverse)

theorem unlettered_of_numeral {numeral : List Char} {n : Nat}
    (spelled : Decimal.Numeral numeral n) : 'm' ∉ numeral := by
  intro mem
  rcases spelled.digit_or_sign 'm' mem with digit | sign
  · exact absurd digit (by decide)
  · exact absurd sign (by decide)

/-- There is no white space in a numeral and the letters of its unit. -/
theorem solid_of_numeral {numeral : List Char} {n : Nat} (spelled : Decimal.Numeral numeral n)
    (scale : Scale) : ∀ c ∈ numeral ++ scale.letters, Text.isBlank c = false := by
  intro c mem
  rcases List.mem_append.mp mem with mem | mem
  · rcases spelled.digit_or_sign c mem with digit | rfl
    · rw [Decimal.isDigit_iff] at digit
      exact Text.isBlank_of_graphic (by omega) (by omega)
    · decide
  · have letters : ∀ c ∈ scale.letters, 0x21 ≤ c.toNat ∧ c.toNat ≤ 0x7E := by
      cases scale <;> simp [Scale.letters]
    exact Text.isBlank_of_graphic (letters c mem).1 (letters c mem).2

/-- **How a text that spells an interval is cut.** -/
theorem spells_iff {cs : List Char} {n : Nat} {scale : Scale} :
    Spells n scale cs ↔
      ∃ numeral, splitUnit? (Text.trim cs) = some (numeral, scale) ∧ Decimal.Numeral numeral n := by
  constructor
  · rintro ⟨leading, spelled, trailing⟩
    rename_i front numeral back
    refine ⟨numeral, ?_, spelled⟩
    rw [Text.trim_of_solid leading (solid_of_numeral spelled scale) trailing]
    exact splitUnit?_append (unlettered_of_numeral spelled) scale
  · rintro ⟨numeral, cut, spelled⟩
    obtain ⟨front, back, leading, trailing, whole⟩ := Text.exists_trim cs
    rw [whole, eq_append_of_splitUnit? cut]
    exact .intro leading spelled trailing

/-- A text spells one number of one unit. -/
theorem Spells.unique {cs : List Char} {n n' : Nat} {scale scale' : Scale}
    (one : Spells n scale cs) (other : Spells n' scale' cs) : n = n' ∧ scale = scale' := by
  obtain ⟨numeral, cut, spelled⟩ := spells_iff.mp one
  obtain ⟨numeral', cut', spelled'⟩ := spells_iff.mp other
  rw [cut, Option.some.injEq, Prod.mk.injEq] at cut'
  obtain ⟨rfl, rfl⟩ := cut'
  exact ⟨spelled.unique spelled', rfl⟩

/-! ## Reading -/

theorem written_eq_ok_iff {text : String} {milliseconds : Nat} :
    written text = .ok milliseconds ↔
      ∃ n scale, Spells n scale text.toList ∧ scale.Fits n ∧ milliseconds = n * scale.factor := by
  constructor
  · intro given
    unfold written at given
    split at given
    · cases given
    rename_i numeral scale cut
    split at given
    · cases given
    rename_i n number
    split_ifs at given with beyond
    cases given
    obtain ⟨spelled, small⟩ := Decimal.readUnsigned_eq_ok_iff.mp number
    have fits : scale.Fits n := scale.fits_iff.mpr ⟨small, beyond⟩
    exact ⟨n, scale, spells_iff.mpr ⟨numeral, cut, spelled⟩, fits, rfl⟩
  · rintro ⟨n, scale, spells, fits, rfl⟩
    obtain ⟨numeral, cut, spelled⟩ := spells_iff.mp spells
    obtain ⟨small, within⟩ := scale.fits_iff.mp fits
    have number := Decimal.readUnsigned_eq_ok_iff.mpr ⟨spelled, small⟩
    simp only [written, cut, number, if_neg within]

/-- The span of a number of milliseconds, in the range of intervals. -/
def inRange (milliseconds : Nat) : Duration :=
  ⟨min (max (milliseconds * 1000000) (2 * 1000000000)) (24 * 3600 * 1000000000)⟩

/-- **Which texts are read**, and as what. -/
theorem read_eq_ok_iff {text : String} {span : Duration} :
    read text = .ok span ↔
      ∃ n scale, Spells n scale text.toList ∧ scale.Fits n ∧ span = inRange (n * scale.factor) := by
  unfold read
  constructor
  · intro given
    cases spelled : written text with
    | error fault =>
      rw [spelled] at given
      cases given
    | ok milliseconds =>
      rw [spelled] at given
      cases given
      obtain ⟨n, scale, spells, fits, rfl⟩ := written_eq_ok_iff.mp spelled
      exact ⟨n, scale, spells, fits, rfl⟩
  · rintro ⟨n, scale, spells, fits, rfl⟩
    rw [written_eq_ok_iff.mpr ⟨n, scale, spells, fits, rfl⟩]
    rfl

-- one minute more than 64 bits of seconds hold
example : read "307445734561825861m" = .error .outOfRange := rfl

/-- The span that is read from a text is the one it spells. -/
theorem span_of_spells {text : String} {n : Nat} {scale : Scale} {span : Duration}
    (spells : Spells n scale text.toList) (given : read text = .ok span) :
    span = inRange (n * scale.factor) := by
  obtain ⟨m, unit, spelled, -, rfl⟩ := read_eq_ok_iff.mp given
  obtain ⟨rfl, rfl⟩ := spells.unique spelled
  rfl

/-- Longer spans do not become shorter in the range. -/
theorem inRange_mono {m n : Nat} (le : m ≤ n) :
    (inRange m).nanoseconds ≤ (inRange n).nanoseconds := by
  simp only [inRange]
  omega

/-- **The reading of intervals is exact.**  In machine words, with every product and sum checked, it
gives what it gives in numbers without bound.  The texts that are read are those that spell a number
of units whose milliseconds or seconds fit 64 bits, and they are read as that number of units, in the
range from two seconds to one day.  A text spells one number of one unit.  Of two texts that are
read, the one that spells more is not read as less, and where both spell the same in other units they
are read as the same. -/
theorem read_exact (text text' : String) :
    (Words.read text).map Words.Clock.duration = read text ∧
      (∀ span, read text = .ok span ↔
        ∃ n scale, Spells n scale text.toList ∧ scale.Fits n ∧
          span = inRange (n * scale.factor)) ∧
      (∀ n scale m unit, Spells n scale text.toList → Spells m unit text.toList →
        n = m ∧ scale = unit) ∧
      ∀ n scale m unit span span', Spells n scale text.toList → Spells m unit text'.toList →
        read text = .ok span → read text' = .ok span' →
          (n * scale.factor ≤ m * unit.factor → span.nanoseconds ≤ span'.nanoseconds) ∧
          (n * scale.factor = m * unit.factor → span = span') := by
  refine ⟨Words.map_read text, fun _ => read_eq_ok_iff, fun _ _ _ _ => Spells.unique, ?_⟩
  intro n scale m unit span span' spells spells' given given'
  rw [span_of_spells spells given, span_of_spells spells' given']
  exact ⟨inRange_mono, congrArg inRange⟩

/-- Five minutes with a sign, and white space around them. -/
def fiveMinutes : String := "\u2003+5m\n"

theorem fiveMinutes_read :
    Spells 5 .minutes fiveMinutes.toList ∧ Spells 300 .seconds "300s".toList ∧
      read fiveMinutes = .ok ⟨300000000000⟩ ∧ read "300s" = read fiveMinutes := by
  have minutes : Spells 5 .minutes fiveMinutes.toList :=
    spells_iff.mpr ⟨['+', '5'], rfl, .signed (by simp) (by simp)⟩
  have seconds : Spells 300 .seconds "300s".toList :=
    spells_iff.mpr ⟨['3', '0', '0'], rfl, .plain (by simp) (by simp)⟩
  obtain ⟨-, reads, -, compared⟩ := read_exact fiveMinutes "300s"
  have given : read fiveMinutes = .ok ⟨300000000000⟩ :=
    (reads _).mpr ⟨5, .minutes, minutes, show 5 * 60 ≤ 2 ^ 64 - 1 by decide, rfl⟩
  have given' : read "300s" = .ok (inRange (300 * 1000)) :=
    read_eq_ok_iff.mpr ⟨300, .seconds, seconds, show 300 * 1 ≤ 2 ^ 64 - 1 by decide, rfl⟩
  have same := (compared _ _ _ _ _ _ minutes seconds given given').2 rfl
  exact ⟨minutes, seconds, given, by rw [given, given', same]⟩

end Interval

end StaticDns
