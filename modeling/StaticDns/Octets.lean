/-!
# StaticDns.Octets — octet strings

Everything that crosses the wire is a list of octets: lists are what the proofs can take apart, and
other containers convert at the edges. The module holds the big-endian words of the message format,
case folding of ASCII letters, and the hexadecimal text of an octet string.

* `word16_ofWord16`: a word written in two octets reads back.
* `length_fold`: folding case keeps the length.
-/

namespace StaticDns

/-- A string of octets. -/
abbrev Octets := List UInt8

namespace Octets

/-! ## Big-endian words -/

/-- A 16-bit word as two octets, the high one first. -/
def ofWord16 (word : UInt16) : Octets :=
  [UInt8.ofNat (word.toNat / 256), UInt8.ofNat (word.toNat % 256)]

/-- A 32-bit word as four octets, the high ones first. -/
def ofWord32 (word : UInt32) : Octets :=
  ofWord16 (UInt16.ofNat (word.toNat / 65536)) ++ ofWord16 (UInt16.ofNat (word.toNat % 65536))

/-- The 16-bit word with the given high and low octet. -/
def word16 (high low : UInt8) : UInt16 := UInt16.ofNat (high.toNat * 256 + low.toNat)

@[simp] theorem length_ofWord16 (word : UInt16) : (ofWord16 word).length = 2 := rfl

@[simp] theorem length_ofWord32 (word : UInt32) : (ofWord32 word).length = 4 := rfl

theorem word16_ofWord16 (word : UInt16) :
    word16 (UInt8.ofNat (word.toNat / 256)) (UInt8.ofNat (word.toNat % 256)) = word := by
  have bound := word.toNat_lt
  apply UInt16.toNat_inj.mp
  simp only [word16, UInt16.toNat_ofNat', UInt8.toNat_ofNat']
  omega

/-! ## Case folding -/

/-- An ASCII capital becomes its small letter and every other octet stays as it is. -/
def foldOctet (octet : UInt8) : UInt8 :=
  if 0x41 ≤ octet ∧ octet ≤ 0x5A then octet + 0x20 else octet

def fold (octets : Octets) : Octets := octets.map foldOctet

@[simp] theorem length_fold (octets : Octets) : (fold octets).length = octets.length := by
  simp [fold]

/-! ## Hexadecimal text -/

/-- Two small hexadecimal digits for every octet. -/
def toHex (octets : Octets) : String :=
  String.ofList (octets.flatMap fun octet =>
    [Nat.digitChar (octet.toNat / 16), Nat.digitChar (octet.toNat % 16)])

@[simp] theorem length_toHex (octets : Octets) : (toHex octets).length = 2 * octets.length := by
  rw [toHex, String.length_ofList]
  induction octets with
  | nil => rfl
  | cons octet rest ih =>
    rw [List.flatMap_cons, List.length_append, ih]
    simp only [List.length_cons, List.length_nil]
    omega

end Octets

end StaticDns
