import StaticDns.Host.FileTree
import StaticDns.Net.Endpoint

/-!
# StaticDns.Host — the machine a server runs on

A host decides which addresses and ports a socket may be bound to, which addresses a datagram can
reach, and which files there are.

* `bind`, `route`: whether a socket can be bound, and whether a datagram can be sent.
* `isolated`: a host without a network.
-/

namespace StaticDns

inductive SocketKind where
  | stream
  | datagram
  deriving DecidableEq, Repr

/-- A host as its processes see it. -/
structure Host where
  /-- The addresses that a socket may be bound to. -/
  isLocal : Address → Bool
  /-- The addresses that a datagram or a connection can be sent to. -/
  isReachable : Address → Bool
  /-- The numbers of its links. -/
  links : List UInt32 := []
  /-- The first port that a socket may be bound to; port zero asks for any. -/
  firstPort : Nat := 1024
  files : FileTree := {}

namespace Host

def checkAddress (host : Host) (address : Address) : Except SystemError Unit :=
  if host.isLocal address then .ok () else .error .addressUnavailable

/-- Accepts a port that is not reserved. -/
def checkPort (host : Host) (port : UInt16) : Except SystemError Unit :=
  if port ≠ 0 ∧ port.toNat < host.firstPort then .error .permissionDenied else .ok ()

/-- Accepts the link that an address of one link comes with. -/
def checkLink (host : Host) (scope : UInt32) : Except SystemError Unit :=
  if scope = 0 then .error .invalidArgument
  else if scope ∈ host.links then .ok ()
  else .error .noDevice

/-- Binds a socket. Of several reasons against it the one that is found depends on the family. A
bound socket has a scope only where its address needs one. -/
def bind (host : Host) (kind : SocketKind) (endpoint : Endpoint) : Except SystemError Endpoint := do
  match endpoint.address with
  | .v4 _ =>
    host.checkAddress endpoint.address
    host.checkPort endpoint.port
    return { endpoint with scope := 0 }
  | .v6 address =>
    if kind = .stream ∧ address.isMulticast then throw .invalidArgument
    host.checkPort endpoint.port
    if address.needsLink then host.checkLink endpoint.scope
    if ¬ address.isMulticast then host.checkAddress endpoint.address
    return { endpoint with scope := if address.needsLink then endpoint.scope else 0 }

/-- The largest number that the length of a datagram can be. -/
def maxDatagram : Nat := 65535

def sameFamily : Address → Address → Bool
  | .v4 _, .v4 _ | .v6 _, .v6 _ => true
  | _, _ => false

/-- Finds a way for a datagram of the given size from a socket bound to one address to another. -/
def route (host : Host) (sender target : Address) (size : Nat) : Except SystemError Unit :=
  if maxDatagram < size then .error .messageTooLong
  else if !sameFamily sender target then .error .familyUnsupported
  else if host.isReachable target then .ok ()
  else .error .networkUnreachable

/-- The addresses that a host without a network lets sockets be bound to: of IPv4 any, of IPv6 only
the unspecified one and those that map IPv4 addresses. -/
def bindsIsolated : Address → Bool
  | .v4 _ => true
  | .v6 address => address.isUnspecified || address.mapped?.isSome

def bareDirectories : List String :=
  ["dev", "tmp", "bin", "etc", "home", "lib", "opt", "proc", "root", "run", "sbin", "sys", "usr",
    "var"]

/-- The files of a bare system, with an empty working directory. -/
def bareFiles : FileTree :=
  let top : FileTree :=
    bareDirectories.foldl (fun (tree : FileTree) name => tree.add 0 name (.directory 0 [])) {}
  let whole := (top.add 1 "null" .sink).add 2 "work" (.directory 2 [])
  { whole with working := whole.nodes.size - 1 }

/-- Whether a datagram can be sent to an address without any route: the unspecified IPv4 address
stands for the host itself. -/
def needsNoRoute (address : Address) : Bool := address == .v4 ⟨0, 0, 0, 0⟩

/-- A host without a network, from which nothing else can be reached. Its only link is its own. -/
def isolated : Host :=
  { isLocal := bindsIsolated
    isReachable := needsNoRoute
    links := [1]
    files := bareFiles }

end Host

end StaticDns
