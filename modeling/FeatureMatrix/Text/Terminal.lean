import FeatureMatrix.Text.Utf8

/-!
What a terminal does not show but obeys: control characters, and the sequences that begin
with an escape. In a help text they are left out. In a log those that could begin a sequence
are spelled out instead.
-/

namespace FeatureMatrix.Text.Terminal

/-! ### Leaving out -/

/-- A blank that moves the place where text goes on. -/
def isLayout (b : UInt8) : Bool := b == 0x09 || b == 0x0a || b == 0x0c || b == 0x0d

/-- A byte that stands between the opening of a sequence and its end. -/
def isIntermediate (b : UInt8) : Bool := 0x20 ≤ b && b ≤ 0x2f

def isParameter (b : UInt8) : Bool := 0x30 ≤ b && b ≤ 0x3f

def isFinal (b : UInt8) : Bool := 0x40 ≤ b && b ≤ 0x7e

def isContinuation (b : UInt8) : Bool := 0x80 ≤ b && b ≤ 0xbf

/-- What the bytes so far have begun. -/
inductive Mode where
  /-- Nothing: text may begin here. -/
  | ground
  /-- Text, which the last byte belongs to. -/
  | text
  /-- An escape, and nothing after it yet. -/
  | escape
  /-- An escape with intermediate bytes, which one more byte ends. -/
  | designation
  /-- A control sequence, which a final byte ends. -/
  | sequence
  /-- A command to the system, which a bell ends. -/
  | command
  /-- A control string for a device, of which nothing is read yet. -/
  | device
  /-- A control string for a device, in its parameters. -/
  | deviceParameters
  /-- A control string for a device, with intermediate bytes. -/
  | deviceIntermediate
  /-- A string up to its terminator, the byte `0x9c`. -/
  | string
  deriving DecidableEq, Repr

/-- The mode after a byte that is not shown. An escape begins anew in any mode, and two
controls give up what was begun. A byte that means nothing where it stands changes nothing;
of bytes beyond ASCII, only the terminator of a string means anything. -/
def Mode.after (mode : Mode) (b : UInt8) : Mode :=
  if b == 0x1b then escape
  else if b == 0x18 || b == 0x1a then ground
  else
    match mode with
    | ground | text => ground
    | escape =>
      if isIntermediate b then designation
      else if b == 0x5b then sequence
      else if b == 0x5d then command
      else if b == 0x50 then device
      else if b == 0x58 || b == 0x5e || b == 0x5f then string
      else if isParameter b || isFinal b then ground
      else escape
    | designation => if isParameter b || isFinal b then ground else designation
    | sequence => if isFinal b then ground else sequence
    | command => if b == 0x07 then ground else command
    | device =>
      if isIntermediate b then deviceIntermediate
      else if isParameter b then deviceParameters
      else if isFinal b then string
      else device
    | deviceParameters =>
      if isIntermediate b then deviceIntermediate
      else if 0x3c ≤ b && b ≤ 0x7e then string
      else deviceParameters
    | deviceIntermediate => if isParameter b || isFinal b then string else deviceIntermediate
    | string => if b == 0x9c then ground else string

/-- Whether a byte is shown. Text is, and layout also inside a sequence. A character beyond
ASCII is text where its first byte may begin or continue one, and so its other bytes are shown
only next to a byte that was. -/
def Mode.shows (mode : Mode) (b : UInt8) : Bool :=
  match mode with
  | ground => isLayout b || (0x20 ≤ b && b != 0x7f && !isContinuation b)
  | text => isLayout b || (0x20 ≤ b && b != 0x7f)
  | escape | designation | sequence => isLayout b
  | command | device | deviceParameters | deviceIntermediate | string => false

/-- The bytes that are shown. Whatever is shown ends what was begun. -/
def shown (mode : Mode) : List UInt8 → List UInt8
  | [] => []
  | b :: bytes =>
    if mode.shows b then b :: shown .text bytes else shown (mode.after b) bytes

/-- The text without what a terminal would obey. A character is shown whole or not at all, so
reading the bytes as text again loses nothing. -/
def plain (s : String) : String := Utf8.lossy (shown .ground s.toUTF8.toList)

/-! ### Spelling out -/

/-- A character in the log; the controls that terminals take for the start of a sequence,
or for part of one, are spelled out. -/
def spell (c : Char) : List Char :=
  match c with
  | '\x1b' => "\\x1b".toList
  | '\x07' => "\\x07".toList
  | '\x08' => "\\x08".toList
  | '\x0c' => "\\x0c".toList
  | '\x7f' => "\\x7f".toList
  | _ =>
    if 0x80 ≤ c.toNat && c.toNat ≤ 0x9f then
      "\\u\x7b".toList ++ Nat.toDigits 16 c.toNat ++ ['\x7d']
    else [c]

def spelled (s : String) : String := String.ofList (s.toList.flatMap spell)

end FeatureMatrix.Text.Terminal
