import StaticDns.Text.Decimal

/-!
# StaticDns.Duration — spans of time

A span is a whole number of nanoseconds. Its text uses the largest of the units s, ms, µs and ns in
which it is at least one, with as many decimals as it needs.
-/

namespace StaticDns

structure Duration where
  nanoseconds : Nat
  deriving DecidableEq, Repr

namespace Duration

def ofMilliseconds (n : Nat) : Duration := ⟨n * 1000000⟩

def ofSeconds (n : Nat) : Duration := ⟨n * 1000000000⟩

/-- The whole milliseconds of a span. -/
def milliseconds (span : Duration) : Nat := span.nanoseconds / 1000000

def min (one other : Duration) : Duration := ⟨Nat.min one.nanoseconds other.nanoseconds⟩

def max (one other : Duration) : Duration := ⟨Nat.max one.nanoseconds other.nanoseconds⟩

/-- Half a span, rounded down. -/
def half (span : Duration) : Duration := ⟨span.nanoseconds / 2⟩

def text (span : Duration) : String :=
  let n := span.nanoseconds
  if 1000000000 ≤ n then String.ofList (Decimal.scaled 9 n) ++ "s"
  else if 1000000 ≤ n then String.ofList (Decimal.scaled 6 n) ++ "ms"
  else if 1000 ≤ n then String.ofList (Decimal.scaled 3 n) ++ "µs"
  else String.ofList (Decimal.digits n) ++ "ns"

end Duration

end StaticDns
