/-!
# StaticDns.Text.Terminal — what terminals make of text

A terminal acts upon escape sequences and control characters instead of showing them. Text that goes
to a terminal may carry such sequences on purpose, for its style; text that goes elsewhere is freed
of them, and text that was not written here has its control characters spelled out.

* `plain`: a text without what a terminal would act upon.
* `spellOut`: a text with its control characters in words of their own.
-/

namespace StaticDns.Terminal

/-! ## Styles -/

/-- A text between the sequence that sets a style and the one that resets all styles. -/
def styled (style text : String) : String := style ++ text ++ "\x1b[0m"

def bold : String := "\x1b[1m"

def red : String := "\x1b[31m"

def yellow : String := "\x1b[33m"

/-! ## Sequences -/

/-- Where in a sequence a terminal is. -/
inductive Position where
  | outside
  | escape
  /-- Behind an escape character and intermediate characters. -/
  | escapeMiddle
  /-- In a control sequence, which a letter ends. -/
  | control
  /-- At the start of a sequence for a device. -/
  | device
  /-- In the parameters of a sequence for a device. -/
  | deviceParameters
  /-- In the intermediate characters of a sequence for a device. -/
  | deviceMiddle
  /-- In a string that is not shown. -/
  | string
  /-- In a command for the operating system, which a bell ends. -/
  | command
  deriving DecidableEq, Repr

def isWithin (first last : Nat) (c : Char) : Bool := first ≤ c.toNat && c.toNat ≤ last

/-- Whether a character has the octet that ends a hidden string in its UTF-8 form. -/
def endsString (c : Char) : Bool := (String.utf8EncodeChar c).contains 0x9C

/-- The position behind the character that follows an escape character. -/
def afterEscape (c : Char) : Position :=
  match c with
  | '[' => .control
  | ']' => .command
  | 'P' => .device
  | 'X' | '^' | '_' => .string
  | _ =>
    if isWithin 0x20 0x2F c then .escapeMiddle
    else if isWithin 0x30 0x7E c then .outside
    else .escape

/-- The position behind a character that is not shown. -/
def Position.next (position : Position) (c : Char) : Position :=
  if c = '\x1b' then .escape
  else if c = '\x18' ∨ c = '\x1a' then .outside
  else match position with
  | .outside => .outside
  | .escape => afterEscape c
  | .escapeMiddle => if isWithin 0x30 0x7E c then .outside else .escapeMiddle
  | .control => if isWithin 0x40 0x7E c then .outside else .control
  | .device =>
    if isWithin 0x20 0x2F c then .deviceMiddle
    else if isWithin 0x30 0x3F c then .deviceParameters
    else if isWithin 0x40 0x7E c then .string
    else .device
  | .deviceParameters =>
    if isWithin 0x20 0x2F c then .deviceMiddle
    else if isWithin 0x3C 0x7E c then .string
    else .deviceParameters
  | .deviceMiddle => if isWithin 0x30 0x7E c then .string else .deviceMiddle
  | .string => if endsString c then .outside else .string
  | .command => if c = '\x07' then .outside else .command

/-- Whether control characters take effect at a position. -/
def Position.obeysControls : Position → Bool
  | .outside | .escape | .escapeMiddle | .control => true
  | _ => false

/-- The control characters that are shown, because they are white space. -/
def isSpacing (c : Char) : Bool := c == '\t' || c == '\n' || c == '\x0c' || c == '\r'

/-- Whether a character is shown at a position. -/
def Position.shows (position : Position) (c : Char) : Bool :=
  if isSpacing c then position.obeysControls
  else position == .outside && !isWithin 0 0x1F c && c != '\x7f'

/-- The characters that are shown. White space inside a sequence interrupts it: while the text is
`flowing` every character is judged as outside of all sequences, and the first one that is not shown
takes up the sequence again where it was left. -/
def display (flowing : Bool) (position : Position) : List Char → List Char
  | [] => []
  | c :: rest =>
    if (if flowing then Position.outside else position).shows c then
      c :: display true (if isWithin 0 0x7F c then position else .outside) rest
    else display false (position.next c) rest

/-- A text without the sequences and control characters that a terminal would act upon. -/
def plain (text : String) : String := String.ofList (display true .outside text.toList)

/-! ## Spelling out -/

/-- The control characters of ASCII that sequences are made of. -/
def isSpelled (c : Char) : Bool := "\x07\x08\x0c\x1b\x7f".toList.contains c

/-- A control character in words of its own, and any other character. -/
def spell (c : Char) : List Char :=
  if isSpelled c then
    ['\\', 'x', Nat.digitChar (c.toNat / 16), Nat.digitChar (c.toNat % 16)]
  else if isWithin 0x80 0x9F c then
    ['\\', 'u', '\x7b'] ++ Nat.toDigits 16 c.toNat ++ ['\x7d']
  else [c]

/-- A text with its control characters spelled out. -/
def spellOut (text : String) : String := String.ofList (text.toList.flatMap spell)

end StaticDns.Terminal
