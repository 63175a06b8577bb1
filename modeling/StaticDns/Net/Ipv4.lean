import StaticDns.Name
import StaticDns.Text.Decimal

/-!
# StaticDns.Net.Ipv4 — IPv4 addresses

Four octets, their dotted text, and the labels under which reverse queries ask for them. The text
form is strict: four decimal numbers of at most three digits, without leading zeros, signs or
anything around them.

* `read?`: the address that a text spells.
* `reversedWire`: the labels of the four numbers, the last first, with no suffix and no terminator.
-/

namespace StaticDns

/-- An IPv4 address, its octets in network order. -/
structure Ipv4 where
  a : UInt8
  b : UInt8
  c : UInt8
  d : UInt8
  deriving DecidableEq, Repr

namespace Ipv4

def octets (address : Ipv4) : Octets := [address.a, address.b, address.c, address.d]

@[simp] theorem length_octets (address : Ipv4) : address.octets.length = 4 := rfl

/-! ## Text -/

def octetDigits (octet : UInt8) : List Char := Decimal.digits octet.toNat

/-- An address as dotted text, in characters. -/
def chars (address : Ipv4) : List Char :=
  List.intercalate ['.'] (address.octets.map octetDigits)

def text (address : Ipv4) : String := String.ofList address.chars

/-- The octet that a decimal number of one to three digits spells, when it has no leading zero. -/
def readOctet? (cs : List Char) : Option UInt8 :=
  if cs.length = 0 ∨ 3 < cs.length then none
  else if cs.head? = some '0' ∧ 1 < cs.length then none
  else match Decimal.readDigits 255 .tooLarge cs with
  | .ok n => some (UInt8.ofNat n)
  | .error _ => none

/-- The address that a dotted text spells. -/
def read? (cs : List Char) : Option Ipv4 :=
  match (Text.pieces (· == '.') cs).map readOctet? with
  | [some a, some b, some c, some d] => some ⟨a, b, c, d⟩
  | _ => none

/-! ## Reverse names -/

/-- The labels of the reversed address: its numbers in decimal, the last one first. -/
def reversedLabels (address : Ipv4) : List Octets :=
  address.octets.reverse.map fun octet => Utf8.encode (octetDigits octet)

/-- The reversed address on the wire, without suffix and terminator: what a reverse query for the
address begins with. -/
def reversedWire (address : Ipv4) : Octets := address.reversedLabels.flatMap Name.labelWire

/-! ## Classes -/

/-- The address that names no host. -/
def isUnspecified (address : Ipv4) : Bool := address.octets == [0, 0, 0, 0]

/-- The address of every host on the network. -/
def isBroadcast (address : Ipv4) : Bool := address.octets == [255, 255, 255, 255]

/-- The addresses of host groups. -/
def isMulticast (address : Ipv4) : Bool := 224 ≤ address.a && address.a ≤ 239

/-- An address that may stand as the source of a datagram. -/
def isSource (address : Ipv4) : Bool :=
  !(address.isUnspecified || address.isBroadcast || address.isMulticast)

end Ipv4

end StaticDns
