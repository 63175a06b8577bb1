/-!
# StaticDns.Text.Decimal — decimal numbers of bounded size

Numbers are written without leading zeros and read digit by digit against a limit. The first
character that is no digit, or that carries the number past its limit, decides the fault, so a
number that is both too long and misspelt is reported by whichever comes first.

* `scaled`: a number of small units in large ones, as a decimal fraction.
* `readUnsigned`: an optional `+`, then digits.
* `readSigned`: an optional sign, then digits, for 64-bit numbers.
-/

namespace StaticDns.Decimal

def digits (n : Nat) : List Char := Nat.toDigits 10 n

/-- Exactly `places` decimal digits, the lowest ones of a number. -/
def lowDigits : Nat → Nat → List Char
  | 0, _ => []
  | places + 1, n => lowDigits places (n / 10) ++ digits (n % 10)

/-- A number without its lowest `places` decimal digits. -/
def whole (places n : Nat) : Nat := (List.range places).foldl (fun m _ => m / 10) n

/-- A number with its decimal point moved left by `places`, without zeros at the end of its
fraction. -/
def scaled (places n : Nat) : List Char :=
  match (lowDigits places n).reverse.dropWhile (· == '0') with
  | [] => digits (whole places n)
  | fraction => digits (whole places n) ++ '.' :: fraction.reverse

def digit? (c : Char) : Option Nat :=
  if '0' ≤ c ∧ c ≤ '9' then some (c.toNat - 48) else none

inductive Fault where
  | empty
  | badDigit
  | tooLarge
  | tooSmall
  deriving DecidableEq, Repr

def Fault.message : Fault → String
  | .empty => "cannot parse integer from empty string"
  | .badDigit => "invalid digit found in string"
  | .tooLarge => "number too large to fit in target type"
  | .tooSmall => "number too small to fit in target type"

/-- One more digit behind the number read so far. -/
def step (limit : Nat) (beyond : Fault) (soFar : Nat) (c : Char) : Except Fault Nat :=
  match digit? c with
  | none => .error .badDigit
  | some d => if limit < soFar * 10 + d then .error beyond else .ok (soFar * 10 + d)

/-- The number that digits spell, as long as it stays within the limit. -/
def readDigits (limit : Nat) (beyond : Fault) (cs : List Char) : Except Fault Nat :=
  cs.foldlM (step limit beyond) 0

/-- A number from zero to `limit`, with at most one `+` before its digits. -/
def readUnsigned (limit : Nat) : List Char → Except Fault Nat
  | [] => .error .empty
  | ['+'] => .error .badDigit
  | '+' :: cs => readDigits limit .tooLarge cs
  | cs => readDigits limit .tooLarge cs

/-- The largest signed number of 64 bits. -/
def largestSigned : Nat := 9223372036854775807

/-- A signed 64-bit number, with at most one sign before its digits. -/
def readSigned : List Char → Except Fault Int
  | [] => .error .empty
  | ['+'] => .error .badDigit
  | ['-'] => .error .badDigit
  | '+' :: cs => (readDigits largestSigned .tooLarge cs).map Int.ofNat
  | '-' :: cs => (readDigits (largestSigned + 1) .tooSmall cs).map Int.negOfNat
  | cs => (readDigits largestSigned .tooLarge cs).map Int.ofNat

end StaticDns.Decimal
