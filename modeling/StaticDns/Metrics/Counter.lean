/-!
# StaticDns.Metrics.Counter — counters with a label, and histograms

A counter keeps one number for every label it has met. A histogram counts the values that stay
within each of its bounds, together with the number and the sum of all values.

* `get_increment`, `total_increment`: an increment adds one to its own label and to the total.
* `count_observe`, `sum_observe`: an observation adds one to the count and its value to the sum.
-/

namespace StaticDns

/-! ## Counters -/

/-- How often each label has been met. -/
structure Counter (κ : Type) where
  counts : List (κ × Nat) := []
  deriving Repr

namespace Counter

variable {κ : Type} [DecidableEq κ]

/-- One more for a label, in a list of counts. -/
def bump (key : κ) : List (κ × Nat) → List (κ × Nat)
  | [] => [(key, 1)]
  | (k, n) :: rest => if k = key then (k, n + 1) :: rest else (k, n) :: bump key rest

def increment (counter : Counter κ) (key : κ) : Counter κ := ⟨bump key counter.counts⟩

def find (key : κ) : List (κ × Nat) → Nat
  | [] => 0
  | (k, n) :: rest => if k = key then n else find key rest

def get (counter : Counter κ) (key : κ) : Nat := find key counter.counts

omit [DecidableEq κ] in
def total (counter : Counter κ) : Nat := counter.counts.foldr (fun entry n => entry.2 + n) 0

theorem find_bump (key other : κ) (counts : List (κ × Nat)) :
    find other (bump key counts) = find other counts + if key = other then 1 else 0 := by
  induction counts with
  | nil => simp [bump, find]
  | cons entry rest ih =>
    simp only [bump]
    split <;> simp only [find] <;> grind

theorem get_increment (counter : Counter κ) (key other : κ) :
    (counter.increment key).get other = counter.get other + if key = other then 1 else 0 :=
  find_bump key other counter.counts

theorem total_increment (counter : Counter κ) (key : κ) :
    (counter.increment key).total = counter.total + 1 := by
  simp only [total, increment]
  induction counter.counts with
  | nil => simp [bump]
  | cons entry rest ih =>
    by_cases h : entry.1 = key
    · simp [bump, h]; omega
    · simp [bump, h, ih]; omega

end Counter

/-! ## Histograms -/

/-- How many values stay within each bound, how many there are, and their sum. -/
structure Histogram where
  buckets : List (Nat × Nat)
  count : Nat := 0
  sum : Nat := 0
  deriving Repr

namespace Histogram

def ofBounds (bounds : List Nat) : Histogram := { buckets := bounds.map fun bound => (bound, 0) }

/-- One more value in a bucket that holds it. -/
def observeBucket (value : Nat) (bucket : Nat × Nat) : Nat × Nat :=
  (bucket.1, if value ≤ bucket.1 then bucket.2 + 1 else bucket.2)

def observe (histogram : Histogram) (value : Nat) : Histogram :=
  { buckets := histogram.buckets.map (observeBucket value)
    count := histogram.count + 1
    sum := histogram.sum + value }

@[simp] theorem count_observe (histogram : Histogram) (value : Nat) :
    (histogram.observe value).count = histogram.count + 1 := rfl

@[simp] theorem sum_observe (histogram : Histogram) (value : Nat) :
    (histogram.observe value).sum = histogram.sum + value := rfl

end Histogram

end StaticDns
