import StaticDns.Net.Ipv4

/-!
# StaticDns.Net.Ipv6 — IPv6 addresses

Eight groups of sixteen bits and their text. In text the longest run of at least two zero groups
becomes `::`, the first of equally long ones, and an address that maps an IPv4 address shows it in
dotted form. Reading accepts a `::` for one or more groups and a dotted IPv4 address in place of two
groups at the end.

* `read?`: the address that a text spells.
* `takeGroups`: reads groups separated by colons for as long as they last.
-/

namespace StaticDns

/-- An IPv6 address, its groups in network order. -/
structure Ipv6 where
  groups : List UInt16
  eight : groups.length = 8 := by rfl
  deriving DecidableEq, Repr

namespace Ipv6

/-! ## Text -/

/-- Groups in small hexadecimal digits without leading zeros, with colons between them. -/
def groupsText (groups : List UInt16) : String :=
  ":".intercalate (groups.map fun group => String.ofList (Nat.toDigits 16 group.toNat))

def zeroRun (groups : List UInt16) : Nat := (groups.takeWhile (· == 0)).length

/-- The position and length of the longest run of zero groups, the first of equally long ones. -/
def longestZeroRun (groups : List UInt16) : Nat × Nat :=
  (List.range groups.length).foldl
    (fun best start =>
      let run := zeroRun (groups.drop start)
      if best.2 < run then (start, run) else best)
    (0, 0)

/-- The IPv4 address that an address maps, if it maps one. -/
def mapped? (address : Ipv6) : Option Ipv4 :=
  match address.groups with
  | [0, 0, 0, 0, 0, 0xFFFF, high, low] =>
    some ⟨UInt8.ofNat (high.toNat / 256), UInt8.ofNat high.toNat,
      UInt8.ofNat (low.toNat / 256), UInt8.ofNat low.toNat⟩
  | _ => none

def text (address : Ipv6) : String :=
  match address.mapped? with
  | some inner => "::ffff:" ++ inner.text
  | none =>
    let (start, length) := longestZeroRun address.groups
    if 1 < length then
      groupsText (address.groups.take start) ++ "::" ++
        groupsText (address.groups.drop (start + length))
    else groupsText address.groups

/-! ## Reading -/

def hexDigit? (c : Char) : Option Nat :=
  if '0' ≤ c ∧ c ≤ '9' then some (c.toNat - 48)
  else if 'a' ≤ c ∧ c ≤ 'f' then some (c.toNat - 87)
  else if 'A' ≤ c ∧ c ≤ 'F' then some (c.toNat - 55)
  else none

/-- The group of one to four hexadecimal digits at the front of a text, and the rest. -/
def takeGroup? (cs : List Char) : Option (UInt16 × List Char) :=
  let ds := cs.takeWhile fun c => (hexDigit? c).isSome
  if ds.length = 0 ∨ 4 < ds.length then none
  else some (UInt16.ofNat ((ds.filterMap hexDigit?).foldl (fun n d => n * 16 + d) 0),
    cs.dropWhile fun c => (hexDigit? c).isSome)

/-- The dotted IPv4 address at the front of a text, as two groups, and the rest. -/
def takeDotted? (cs : List Char) : Option (List UInt16 × List Char) :=
  let inDotted := fun (c : Char) => (Decimal.digit? c).isSome || c == '.'
  (Ipv4.read? (cs.takeWhile inDotted)).map fun inner =>
    ([Octets.word16 inner.a inner.b, Octets.word16 inner.c inner.d], cs.dropWhile inDotted)

structure GroupRun where
  groups : List UInt16
  /-- Whether the last two groups were written as a dotted IPv4 address. -/
  dotted : Bool
  rest : List Char

/-- The text behind a colon, or the whole text before the first group. -/
def afterColon? (first : Bool) (cs : List Char) : Option (List Char) :=
  if first then some cs
  else match cs with
  | ':' :: rest => some rest
  | _ => none

/-- Reads at most `room` groups with colons between them. A dotted address needs room for two. -/
def takeGroups : Nat → Bool → List Char → GroupRun
  | 0, _, cs => ⟨[], false, cs⟩
  | room + 1, first, cs =>
    match afterColon? first cs with
    | none => ⟨[], false, cs⟩
    | some behind =>
      match if 1 ≤ room then takeDotted? behind else none with
      | some (groups, rest) => ⟨groups, true, rest⟩
      | none =>
        match takeGroup? behind with
        | none => ⟨[], false, cs⟩
        | some (group, rest) =>
          let more := takeGroups room false rest
          { more with groups := group :: more.groups }

/-- The address at the front of a text, and the rest. -/
def take? (cs : List Char) : Option (Ipv6 × List Char) :=
  let head := takeGroups 8 true cs
  if full : head.groups.length = 8 then some (⟨head.groups, full⟩, head.rest)
  else if head.dotted then none
  else match head.rest with
  | ':' :: ':' :: rest =>
    let tail := takeGroups (7 - head.groups.length) true rest
    let zeros := List.replicate (8 - head.groups.length - tail.groups.length) 0
    let groups := head.groups ++ zeros ++ tail.groups
    if eight : groups.length = 8 then some (⟨groups, eight⟩, tail.rest) else none
  | _ => none

def read? (cs : List Char) : Option Ipv6 :=
  match take? cs with
  | some (address, []) => some address
  | _ => none

def isUnspecified (address : Ipv6) : Bool := address.groups.all (· == 0)

def firstGroup (address : Ipv6) : Nat := (address.groups.headD 0).toNat

/-- Whether an address names many hosts. -/
def isMulticast (address : Ipv6) : Bool := address.firstGroup / 0x100 == 0xFF

/-- Whether an address means something on one link only. Multicast addresses tell how far they reach
in the last four bits of the first group, where one and two are a host and a link. -/
def needsLink (address : Ipv6) : Bool :=
  address.firstGroup / 0x40 == 0x3FA ||
    address.isMulticast && (address.firstGroup % 0x10 == 1 || address.firstGroup % 0x10 == 2)

end Ipv6

end StaticDns
