import StaticDns.Net.Ipv6

/-!
# StaticDns.Net.Endpoint — addresses of both families, and sockets

An address is an IPv4 or an IPv6 address, and an endpoint an address with a port. The text of an
IPv6 endpoint puts the address, and its scope if it has one, in brackets.

* `Address.read?`, `Endpoint.read?`: what a text spells.
-/

namespace StaticDns

inductive Address where
  | v4 (address : Ipv4)
  | v6 (address : Ipv6)
  deriving DecidableEq, Repr

def Address.text : Address → String
  | .v4 address => address.text
  | .v6 address => address.text

def Address.read? (cs : List Char) : Option Address :=
  match Ipv4.read? cs with
  | some address => some (.v4 address)
  | none => (Ipv6.read? cs).map .v6

/-- An address with a port; `scope` tells apart the links of an IPv6 address. -/
structure Endpoint where
  address : Address
  port : UInt16
  scope : UInt32 := 0
  deriving DecidableEq, Repr

namespace Endpoint

def text (endpoint : Endpoint) : String :=
  match endpoint.address with
  | .v4 address => s!"{address.text}:{endpoint.port.toNat}"
  | .v6 address =>
    if endpoint.scope = 0 then s!"[{address.text}]:{endpoint.port.toNat}"
    else s!"[{address.text}%{endpoint.scope.toNat}]:{endpoint.port.toNat}"

/-- The number below `size` that a text of decimal digits spells. -/
def readNumber? (size : Nat) (cs : List Char) : Option Nat :=
  if cs = [] then none
  else match Decimal.readDigits (size - 1) .tooLarge cs with
  | .ok n => some n
  | .error _ => none

/-- The port that a text behind a colon spells. -/
def readPort? : List Char → Option UInt16
  | ':' :: cs => (readNumber? UInt16.size cs).map UInt16.ofNat
  | _ => none

def readV4? (cs : List Char) : Option Endpoint := do
  let address ← Ipv4.read? (cs.takeWhile (· != ':'))
  let port ← readPort? (cs.dropWhile (· != ':'))
  return { address := .v4 address, port }

/-- The scope in front of the closing bracket, zero when none is given, and the text behind it. -/
def takeScope? (cs : List Char) : Option (UInt32 × List Char) :=
  match cs with
  | ']' :: rest => some (0, rest)
  | '%' :: rest =>
    match rest.dropWhile (· != ']'), readNumber? UInt32.size (rest.takeWhile (· != ']')) with
    | ']' :: behind, some scope => some (UInt32.ofNat scope, behind)
    | _, _ => none
  | _ => none

def readV6? : List Char → Option Endpoint
  | '[' :: cs => do
    let (address, rest) ← Ipv6.take? cs
    let (scope, rest) ← takeScope? rest
    let port ← readPort? rest
    return { address := .v6 address, port, scope }
  | _ => none

def read? (cs : List Char) : Option Endpoint := readV4? cs <|> readV6? cs

end Endpoint

end StaticDns
