import StaticDns.Octets

/-!
# StaticDns.Text.Utf8 — text as octets

The UTF-8 form of text, and two readers of it. `front` looks at the start of an octet string and
finds a character, a maximal ill-formed run, or a sequence that the end of the string cuts short;
both readers are loops over it.

* `encode`: the octets of a text.
* `decodeLossy`: every octet string as text, each maximal ill-formed run becoming one U+FFFD.
* `read`: the text that an octet string spells, or where and how it is malformed.
-/

namespace StaticDns.Utf8

def encode (cs : List Char) : Octets := cs.flatMap String.utf8EncodeChar

@[simp] theorem encode_nil : encode [] = [] := rfl

theorem encode_cons (c : Char) (cs : List Char) :
    encode (c :: cs) = String.utf8EncodeChar c ++ encode cs := by
  simp [encode]

/-! ## The front of an octet string -/

/-- What stands at the front of an octet string; `more` counts octets after the first. -/
inductive Front where
  | scalar (c : Char) (more : Nat)
  /-- A maximal run of octets that no character starts with. -/
  | illFormed (more : Nat)
  /-- The start of a character, with nothing after it. -/
  | cutShort
  deriving DecidableEq, Repr

def isTail (octet : UInt8) : Bool := 0x80 ≤ octet && octet ≤ 0xBF

/-- The second octets that keep a character in its shortest form and inside the scalar values. -/
def isSecond (lead octet : UInt8) : Bool :=
  if lead = 0xE0 then 0xA0 ≤ octet && octet ≤ 0xBF
  else if lead = 0xED then 0x80 ≤ octet && octet ≤ 0x9F
  else if lead = 0xF0 then 0x90 ≤ octet && octet ≤ 0xBF
  else if lead = 0xF4 then 0x80 ≤ octet && octet ≤ 0x8F
  else isTail octet

def tailBits (octet : UInt8) : Nat := octet.toNat % 64

/-- What `lead` followed by `rest` starts with. -/
def front (lead : UInt8) (rest : Octets) : Front :=
  if lead < 0x80 then .scalar (Char.ofNat lead.toNat) 0
  else if lead < 0xC2 || 0xF4 < lead then .illFormed 0
  else match rest with
  | [] => .cutShort
  | second :: rest =>
    if !isSecond lead second then .illFormed 0
    else if lead < 0xE0 then
      .scalar (Char.ofNat (lead.toNat % 32 * 64 + tailBits second)) 1
    else match rest with
    | [] => .cutShort
    | third :: rest =>
      if !isTail third then .illFormed 1
      else if lead < 0xF0 then
        .scalar (Char.ofNat (lead.toNat % 16 * 4096 + tailBits second * 64 + tailBits third)) 2
      else match rest with
      | [] => .cutShort
      | fourth :: _ =>
        if !isTail fourth then .illFormed 2
        else .scalar (Char.ofNat (lead.toNat % 8 * 262144 + tailBits second * 4096
          + tailBits third * 64 + tailBits fourth)) 3

/-! ## Readers -/

/-- U+FFFD, which stands for what cannot be read. -/
def replacement : Char := '\uFFFD'

/-- An octet string as text, with one replacement character for every maximal ill-formed run. -/
def decodeLossy : Octets → List Char
  | [] => []
  | lead :: rest =>
    match front lead rest with
    | .scalar c more => c :: decodeLossy (rest.drop more)
    | .illFormed more => replacement :: decodeLossy (rest.drop more)
    | .cutShort => [replacement]
termination_by octets => octets.length
decreasing_by all_goals simp only [List.length_drop, List.length_cons]; omega

/-- Where text stops being readable. -/
structure Malformed where
  /-- The number of octets before the fault. -/
  index : Nat
  /-- The length of the ill-formed run, or `none` when the string ends inside a character. -/
  length : Option Nat
  deriving DecidableEq, Repr

def Malformed.message (fault : Malformed) : String :=
  match fault with
  | ⟨index, some length⟩ => s!"invalid utf-8 sequence of {length} bytes from index {index}"
  | ⟨index, none⟩ => s!"incomplete utf-8 byte sequence from index {index}"

/-- Reads on at `index`, with the characters found before it in `found`, the latest first. -/
def readFrom (index : Nat) (found : List Char) : Octets → Except Malformed (List Char)
  | [] => .ok found.reverse
  | lead :: rest =>
    match front lead rest with
    | .scalar c more => readFrom (index + more + 1) (c :: found) (rest.drop more)
    | .illFormed more => .error ⟨index, some (more + 1)⟩
    | .cutShort => .error ⟨index, none⟩
termination_by octets => octets.length
decreasing_by simp only [List.length_drop, List.length_cons]; omega

def read (octets : Octets) : Except Malformed (List Char) := readFrom 0 [] octets

end StaticDns.Utf8
