import StaticDns.Octets

/-!
# StaticDns.Digest.Sha512 — SHA-512

The digest by which contents of a record file are told apart. A message is padded to blocks of
sixteen 64-bit words, and each block is mixed into a chaining value of eight words by eighty rounds.

* `length_hex`: every digest has 128 hexadecimal digits.
-/

namespace StaticDns.Sha512

/-! ## Constants -/

/-- The first 64 bits of the fractional parts of the cube roots of the first eighty primes. -/
def roundConstants : List UInt64 :=
  [
    0x428a2f98d728ae22, 0x7137449123ef65cd, 0xb5c0fbcfec4d3b2f, 0xe9b5dba58189dbbc,
    0x3956c25bf348b538, 0x59f111f1b605d019, 0x923f82a4af194f9b, 0xab1c5ed5da6d8118,
    0xd807aa98a3030242, 0x12835b0145706fbe, 0x243185be4ee4b28c, 0x550c7dc3d5ffb4e2,
    0x72be5d74f27b896f, 0x80deb1fe3b1696b1, 0x9bdc06a725c71235, 0xc19bf174cf692694,
    0xe49b69c19ef14ad2, 0xefbe4786384f25e3, 0x0fc19dc68b8cd5b5, 0x240ca1cc77ac9c65,
    0x2de92c6f592b0275, 0x4a7484aa6ea6e483, 0x5cb0a9dcbd41fbd4, 0x76f988da831153b5,
    0x983e5152ee66dfab, 0xa831c66d2db43210, 0xb00327c898fb213f, 0xbf597fc7beef0ee4,
    0xc6e00bf33da88fc2, 0xd5a79147930aa725, 0x06ca6351e003826f, 0x142929670a0e6e70,
    0x27b70a8546d22ffc, 0x2e1b21385c26c926, 0x4d2c6dfc5ac42aed, 0x53380d139d95b3df,
    0x650a73548baf63de, 0x766a0abb3c77b2a8, 0x81c2c92e47edaee6, 0x92722c851482353b,
    0xa2bfe8a14cf10364, 0xa81a664bbc423001, 0xc24b8b70d0f89791, 0xc76c51a30654be30,
    0xd192e819d6ef5218, 0xd69906245565a910, 0xf40e35855771202a, 0x106aa07032bbd1b8,
    0x19a4c116b8d2d0c8, 0x1e376c085141ab53, 0x2748774cdf8eeb99, 0x34b0bcb5e19b48a8,
    0x391c0cb3c5c95a63, 0x4ed8aa4ae3418acb, 0x5b9cca4f7763e373, 0x682e6ff3d6b2b8a3,
    0x748f82ee5defb2fc, 0x78a5636f43172f60, 0x84c87814a1f0ab72, 0x8cc702081a6439ec,
    0x90befffa23631e28, 0xa4506cebde82bde9, 0xbef9a3f7b2c67915, 0xc67178f2e372532b,
    0xca273eceea26619c, 0xd186b8c721c0c207, 0xeada7dd6cde0eb1e, 0xf57d4f7fee6ed178,
    0x06f067aa72176fba, 0x0a637dc5a2c898a6, 0x113f9804bef90dae, 0x1b710b35131c471b,
    0x28db77f523047d84, 0x32caab7b40c72493, 0x3c9ebe0a15c9bebc, 0x431d67c49c100d4c,
    0x4cc5d4becb3e42b6, 0x597f299cfc657e2a, 0x5fcb6fab3ad6faec, 0x6c44198c4a475817]

/-- Eight words that are carried from block to block. -/
structure Chain where
  a : UInt64
  b : UInt64
  c : UInt64
  d : UInt64
  e : UInt64
  f : UInt64
  g : UInt64
  h : UInt64
  deriving DecidableEq, Repr

/-- The first 64 bits of the fractional parts of the square roots of the first eight primes. -/
def Chain.initial : Chain :=
  ⟨0x6a09e667f3bcc908, 0xbb67ae8584caa73b, 0x3c6ef372fe94f82b, 0xa54ff53a5f1d36f1,
    0x510e527fade682d1, 0x9b05688c2b3e6c1f, 0x1f83d9abfb41bd6b, 0x5be0cd19137e2179⟩

def Chain.words (chain : Chain) : List UInt64 :=
  [chain.a, chain.b, chain.c, chain.d, chain.e, chain.f, chain.g, chain.h]

def Chain.add (x y : Chain) : Chain :=
  ⟨x.a + y.a, x.b + y.b, x.c + y.c, x.d + y.d, x.e + y.e, x.f + y.f, x.g + y.g, x.h + y.h⟩

/-! ## Mixing -/

/-- A word turned to the right by less than 64 bits. -/
def rotate (word amount : UInt64) : UInt64 := (word >>> amount) ||| (word <<< (64 - amount))

def smallSigma1 (word : UInt64) : UInt64 := rotate word 19 ^^^ rotate word 61 ^^^ (word >>> 6)

def smallSigma0 (word : UInt64) : UInt64 := rotate word 1 ^^^ rotate word 8 ^^^ (word >>> 7)

def bigSigma0 (word : UInt64) : UInt64 := rotate word 28 ^^^ rotate word 34 ^^^ rotate word 39

def bigSigma1 (word : UInt64) : UInt64 := rotate word 14 ^^^ rotate word 18 ^^^ rotate word 41

/-- Bits of `y` where `x` has ones and bits of `z` where it has zeros. -/
def choose (x y z : UInt64) : UInt64 := (x &&& y) ^^^ (~~~x &&& z)

/-- The bits that two of three words agree on. -/
def majority (x y z : UInt64) : UInt64 := (x &&& y) ^^^ (x &&& z) ^^^ (y &&& z)

/-- One more word behind the words of a schedule. -/
def extend (schedule : Array UInt64) (_ : Nat) : Array UInt64 :=
  let back := fun n => schedule.getD (schedule.size - n) 0
  schedule.push (smallSigma1 (back 2) + back 7 + smallSigma0 (back 15) + back 16)

def schedule (block : Array UInt64) : Array UInt64 := (List.range 64).foldl extend block

/-- One round, with its constant and its schedule word added up in `input`. -/
def round (x : Chain) (input : UInt64) : Chain :=
  let t₁ := x.h + bigSigma1 x.e + choose x.e x.f x.g + input
  let t₂ := bigSigma0 x.a + majority x.a x.b x.c
  ⟨t₁ + t₂, x.a, x.b, x.c, x.d + t₁, x.e, x.f, x.g⟩

/-- Mixes a block into a chaining value. -/
def compress (chain : Chain) (block : Array UInt64) : Chain :=
  chain.add ((List.zipWith (· + ·) roundConstants (schedule block).toList).foldl round chain)

/-! ## Messages -/

/-- A number in the given count of octets, most significant first. -/
def numeral : Nat → Nat → Octets
  | 0, _ => []
  | count + 1, n => numeral count (n / 256) ++ [UInt8.ofNat n]

/-- A message filled up to whole blocks of 128 octets: a one bit, zeros, and its length in bits. -/
def pad (message : Octets) : Octets :=
  message ++ 0x80 :: List.replicate ((239 - message.length % 128) % 128) 0
    ++ numeral 16 (message.length * 8)

/-- Words under collection: the finished ones, the unfinished one, and its number of octets. -/
structure Packing where
  words : Array UInt64 := #[]
  current : UInt64 := 0
  filled : Nat := 0

/-- One more octet for the unfinished word. -/
def Packing.add (packing : Packing) (octet : UInt8) : Packing :=
  let current := packing.current <<< 8 ||| octet.toUInt64
  if packing.filled = 7 then { words := packing.words.push current }
  else { packing with current, filled := packing.filled + 1 }

/-- The big-endian words of an octet string. -/
def words (octets : Octets) : Array UInt64 := (octets.foldl Packing.add {}).words

/-- The digest of a message. -/
def digest (message : Octets) : Octets :=
  let all := words (pad message)
  let final := (List.range (all.size / 16)).foldl
    (fun chain i => compress chain (all.extract (16 * i) (16 * i + 16))) Chain.initial
  final.words.flatMap fun word => numeral 8 word.toNat

/-- The digest of a message in hexadecimal. -/
def hex (message : Octets) : String := Octets.toHex (digest message)

/-! ## Lengths -/

theorem length_numeral (count n : Nat) : (numeral count n).length = count := by
  induction count generalizing n with
  | zero => rfl
  | succ count ih => rw [numeral, List.length_append, ih, List.length_singleton]

theorem length_digest (message : Octets) : (digest message).length = 64 := by
  simp [digest, Chain.words, length_numeral]

theorem length_hex (message : Octets) : (hex message).length = 128 := by
  rw [hex, Octets.length_toHex, length_digest]

theorem hex_ne_empty (message : Octets) : hex message ≠ "" := by
  intro empty
  have length := length_hex message
  rw [empty] at length
  exact absurd length (by decide)

end StaticDns.Sha512
