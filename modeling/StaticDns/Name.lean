import StaticDns.Octets
import StaticDns.Text.Split
import StaticDns.Text.Utf8

/-!
# StaticDns.Name — names on the wire and as dotted text

On the wire a name is a sequence of labels, each behind its length octet, with a zero octet at the
end. `ofLabels` writes that form from a list of labels, `walk` reads it label by label, and
`encode` and `toDotted` are the two directions between the wire and dotted text.

* `walkFrom_labelWire`: the walk steps over one written label.
* `walk_ofLabels`: the walk of a written name finds its labels and stops at the terminator.
* `length_ofLabels`: how long a written name is.
-/

namespace StaticDns

/-- Why a text is not a name, or an octet string not the wire form of one. -/
inductive NameError where
  | emptyLabel
  | labelTooLong (length : Nat)
  | nameTooLong (length : Nat)
  | overrun (offset : Nat)
  | unterminated
  deriving DecidableEq, Repr

def NameError.message : NameError → String
  | .emptyLabel => "empty label"
  | .labelTooLong length => s!"label of {length} octets exceeds 63"
  | .nameTooLong length => s!"encoded name of {length} octets exceeds 255"
  | .overrun offset => s!"label at offset {offset} runs past the end of the name"
  | .unterminated => "name is not terminated by a zero octet"

namespace Name

def maxLabel : Nat := 63

/-- The longest name on the wire, length octets and terminator included. -/
def maxName : Nat := 255

/-! ## Writing -/

/-- A label behind its length octet. -/
def labelWire (label : Octets) : Octets := UInt8.ofNat label.length :: label

/-- The wire form of a list of labels. -/
def ofLabels (labels : List Octets) : Octets := labels.flatMap labelWire ++ [0]

/-- A label that fits behind a length octet and is not mistaken for the terminator. -/
def ValidLabel (label : Octets) : Prop := 1 ≤ label.length ∧ label.length ≤ maxLabel

instance (label : Octets) : Decidable (ValidLabel label) :=
  inferInstanceAs (Decidable (_ ∧ _))

@[simp] theorem length_labelWire (label : Octets) :
    (labelWire label).length = label.length + 1 := rfl

theorem length_ofLabels (labels : List Octets) :
    (ofLabels labels).length = (labels.flatMap labelWire).length + 1 := by
  simp only [ofLabels, List.length_append, List.length_singleton]

def labelFault? (label : Octets) : Option NameError :=
  if label = [] then some .emptyLabel
  else if maxLabel < label.length then some (.labelTooLong label.length)
  else none

/-- A text without one dot at its end. -/
def dropFinalDot (cs : List Char) : List Char :=
  if cs.getLast? = some '.' then cs.dropLast else cs

/-- The labels of a dotted text, as octets. -/
def textLabels (text : String) : List Octets :=
  (Text.pieces (· == '.') (dropFinalDot text.toList)).map Utf8.encode

/-- The wire form of a dotted text. The leftmost bad label decides the error, and the length of the
whole name counts only when every label is good. -/
def encode (text : String) : Except NameError Octets :=
  match (textLabels text).findSome? labelFault? with
  | some fault => .error fault
  | none =>
    let name := ofLabels (textLabels text)
    if maxName < name.length then .error (.nameTooLong name.length) else .ok name

/-! ## Reading -/

/-- How a walk over the labels of an octet string ends. -/
inductive Ending where
  /-- At a zero octet, with what follows it. -/
  | terminator (rest : Octets)
  /-- At an octet where no label can be read. -/
  | fault (error : NameError)
  deriving DecidableEq, Repr

/-- The labels that a walk passes, and how it ends. -/
structure Walk where
  labels : List Octets
  ending : Ending
  deriving DecidableEq, Repr

def Walk.cons (label : Octets) (walk : Walk) : Walk := { walk with labels := label :: walk.labels }

/-- The number of octets that the labels of a walk take on the wire. -/
def Walk.span (walk : Walk) : Nat := (walk.labels.flatMap labelWire).length

/-- Reads labels from the part of a name that starts at `offset`. -/
def walkFrom (offset : Nat) : Octets → Walk
  | [] => ⟨[], .fault .unterminated⟩
  | size :: rest =>
    let length := size.toNat
    if length = 0 then ⟨[], .terminator rest⟩
    else if maxLabel < length then ⟨[], .fault (.labelTooLong length)⟩
    else if rest.length < length then ⟨[], .fault (.overrun offset)⟩
    else (walkFrom (offset + length + 1) (rest.drop length)).cons (rest.take length)
termination_by name => name.length
decreasing_by simp only [List.length_drop, List.length_cons]; omega

def walk (name : Octets) : Walk := walkFrom 0 name

/-- The labels of a name one by one; an error, if there is one, is the last item. -/
def labels (name : Octets) : List (Except NameError Octets) :=
  (walk name).labels.map .ok ++
    match (walk name).ending with
    | .terminator _ => []
    | .fault error => [.error error]

/-- Checks that an octet string is labels up to a zero octet at its very end. -/
def validate (name : Octets) : Except NameError Unit :=
  match (walk name).ending with
  | .fault error => .error error
  | .terminator rest => if rest = [] then .ok () else .error (.overrun (walk name).span)

/-- What is shown in place of labels that cannot be read. -/
def malformedMark : List Char := "<malformed>".toList

/-- A name as dotted text for people. -/
def toDotted (name : Octets) : String :=
  let parts := (walk name).labels.map Utf8.decodeLossy ++
    match (walk name).ending with
    | .terminator _ => []
    | .fault _ => [malformedMark]
  if parts.isEmpty then "." else String.ofList (List.intercalate ['.'] parts)

/-! ## The walk of a written name -/

theorem walkFrom_labelWire {label : Octets} (h : ValidLabel label) (offset : Nat) (rest : Octets) :
    walkFrom offset (labelWire label ++ rest) =
      (walkFrom (offset + label.length + 1) rest).cons label := by
  have size : (UInt8.ofNat label.length).toNat = label.length := by
    have := h.2
    simp only [maxLabel] at this
    simp only [UInt8.toNat_ofNat']
    omega
  have positive := h.1
  have bounded : ¬ maxLabel < label.length := by have := h.2; omega
  rw [labelWire, List.cons_append, walkFrom]
  simp only [size]
  rw [if_neg (by omega), if_neg bounded, if_neg (by simp)]
  simp

theorem walkFrom_ofLabels {ls : List Octets} (h : ∀ label ∈ ls, ValidLabel label) (offset : Nat)
    (rest : Octets) : walkFrom offset (ofLabels ls ++ rest) = ⟨ls, .terminator rest⟩ := by
  induction ls generalizing offset with
  | nil => simp [ofLabels, walkFrom]
  | cons label ls ih =>
    have step := walkFrom_labelWire (h label (by simp)) offset (ofLabels ls ++ rest)
    rw [ih (fun l hl => h l (by simp [hl]))] at step
    simpa [ofLabels, Walk.cons] using step

theorem walk_ofLabels {ls : List Octets} (h : ∀ label ∈ ls, ValidLabel label) :
    walk (ofLabels ls) = ⟨ls, .terminator []⟩ := by
  simpa [walk] using walkFrom_ofLabels h 0 []

end Name

end StaticDns
