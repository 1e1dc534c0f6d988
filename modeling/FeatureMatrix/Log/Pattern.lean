import FeatureMatrix.Text.Alphanumeric
import FeatureMatrix.Text.Blank
import FeatureMatrix.Text.Digits
import FeatureMatrix.Text.Reader

/-!
Regular expressions that a filter asks for the values of fields. Nothing in this log has
such values, so all that matters of a pattern is whether it can be used: its grammar is in
order, it needs no tables of the characters of a language, and it does not nest too deeply.
Without tables there are no named classes, no words and no letters of either case, unless
the pattern is switched to bytes, and then it must not match part of a character.

A closing brace ends the field a pattern stands in, so whatever an opening brace begins is
never complete.
-/

namespace FeatureMatrix.Log.Pattern

open FeatureMatrix.Text FeatureMatrix.Text.Reader

/-! ### Switches -/

/-- The switches that have a bearing on whether a pattern can be used. -/
structure Mode where
  /-- Letters of either case are the same. -/
  caseless : Bool
  /-- Text is matched by characters, and else by bytes. -/
  unicode : Bool
  /-- Blanks do not count, and there may be comments. -/
  spaced : Bool
  deriving DecidableEq, Repr

def Mode.start : Mode := ⟨false, true, false⟩

/-- Turns on the switches named in front of a minus, and off those after it. -/
def Mode.switch (m : Mode) (letters : List Char) : Mode :=
  let (on, off) := letters.span (· != '-')
  let set (letter : Char) (old : Bool) := on.contains letter || (old && !off.contains letter)
  ⟨set 'i' m.caseless, set 'u' m.unicode, set 'x' m.spaced⟩

def comment : Reader Unit := do
  exactly ['#']
  let _ ← run (· != '\n')
  let _ ← optional (exactly ['\n'])

/-- What does not count. -/
def skip (m : Mode) : Reader Unit := do
  if m.spaced then
    let _ ← many ((do let _ ← char isBlank) <|> comment)

/-! ### Atoms -/

inductive Atom where
  /-- A character, which may be given as a byte. -/
  | char (c : Char) (byte : Bool)
  /-- Digits, blanks or the characters of words; or all others. -/
  | named (negated : Bool)
  /-- A place in the text, such as the edge of a word. -/
  | place (edge : Bool)
  deriving DecidableEq, Repr

def hex (m : Mode) (count : Nat) : Reader Char := do
  liftM (codePoint? (← (List.replicate count ()).mapM fun _ => do skip m; char isHex))

/-- What a backslash and the characters after it stand for. -/
def escape (m : Mode) : Reader Atom := do
  exactly ['\\']
  match ← char fun _ => true with
  | 'x' => return .char (← hex m 2) true
  | 'u' => return .char (← hex m 4) false
  | 'U' => return .char (← hex m 8) false
  | 'd' | 's' | 'w' => return .named false
  | 'D' | 'S' | 'W' => return .named true
  | 'b' | 'B' | '<' | '>' => return .place true
  | 'A' | 'z' => return .place false
  | 'a' => return .char '\x07' false
  | 'f' => return .char '\x0c' false
  | 't' => return .char '\t' false
  | 'n' => return .char '\n' false
  | 'r' => return .char '\r' false
  | 'v' => return .char '\x0b' false
  | c => if c.toNat < 0x80 && !c.isAlphanum then return .char c false else failure

def Atom.isUsable (m : Mode) : Atom → Bool
  | char c byte => if m.unicode then !m.caseless else !byte || c.toNat < 0x80
  | named negated => !m.unicode && !negated
  | place edge => !m.unicode || !edge

def Atom.isUsableInClass (m : Mode) : Atom → Bool
  | char c _ => if m.unicode then !m.caseless else c.toNat < 0x80
  | named negated => !m.unicode && !negated
  | place _ => false

/-- Whether two atoms are the ends of a range of characters. -/
def Atom.isBelow : Atom → Atom → Bool
  | char low _, char high _ => low ≤ high
  | _, _ => false

/-! ### Classes -/

/-- The depth of parts side by side. A single one adds no level. -/
def joined : List Nat → Nat
  | [] => 0
  | [depth] => depth
  | depths => depths.foldl max 0 + 1

structure Bracket where
  /-- The depth of what stands before the last operator, if there is one. -/
  left : Option Nat
  /-- The depths of the members since. -/
  members : List Nat
  deriving DecidableEq, Repr

namespace Bracket

def depth (b : Bracket) : Nat :=
  match b.left with
  | none => joined b.members
  | some left => max left (joined b.members) + 1

def add (b : Bracket) (depth : Nat) : Bracket := { b with members := depth :: b.members }

end Bracket

/-- The brackets around, from the inside out; when all are closed, the depth of the class. -/
structure ClassScan where
  around : List Bracket
  closed : Option Nat
  deriving DecidableEq, Repr

/-- The opening of a class. Minuses at its start stand for themselves, and so does a bracket
that would close it at once. -/
def bracket (m : Mode) : Reader Bracket := do
  exactly ['[']
  skip m
  let negation ← optional do exactly ['^']; skip m
  let minuses ← many do exactly ['-']; skip m
  let closing ← if minuses.isEmpty then optional (do exactly [']']; skip m) else pure none
  if negation.isSome && !m.unicode then failure
  let members := minuses ++ closing.toList
  if !members.isEmpty && !(Atom.char '-' false).isUsableInClass m then failure
  return ⟨none, members.map fun _ => 0⟩

def classNames : List String :=
  ["alnum", "alpha", "ascii", "blank", "cntrl", "digit", "graph", "lower", "print", "punct",
    "space", "upper", "word", "xdigit"]

/-- A class by name inside another one; says whether it is negated. -/
def namedClass : Reader Bool := do
  exactly ['[', ':']
  let negation ← optional (exactly ['^'])
  let name ← run Char.isAlpha
  exactly [':', ']']
  if classNames.contains (String.ofList name) then return negation.isSome else failure

/-- An atom of a class; most characters stand for themselves there. -/
def classAtom (m : Mode) : Reader Atom := do
  match ← peek with
  | some '\\' => escape m
  | _ => return .char (← char fun _ => true) false

/-- What comes after a minus. The sign of a comment is passed over, though not the comment. -/
def pastMinus (m : Mode) (cs : List Char) : Option Char :=
  if m.spaced then
    match cs.dropWhile isBlank with
    | '#' :: cs => (cs.dropWhile isBlank).head?
    | cs => cs.head?
  else cs.head?

/-- Whether a minus follows that makes a range. It makes none before another minus, which
would be an operator, and at the end of the class. -/
def beginsRange (m : Mode) : Reader Bool := fun cs =>
  match cs with
  | '-' :: rest => some (pastMinus m rest != some ']' && pastMinus m rest != some '-', cs)
  | _ => some (false, cs)

/-- A member of a class: an atom, or all from one character to another. -/
def member (m : Mode) : Reader Unit := do
  let first ← classAtom m
  skip m
  if ← beginsRange m then
    exactly ['-']
    skip m
    let last ← classAtom m
    if !last.isUsableInClass m || !first.isBelow last then failure
  if !first.isUsableInClass m then failure

def ClassScan.close (inner : Bracket) : List Bracket → ClassScan
  | [] => ⟨[], some (inner.depth + 1)⟩
  | outer :: around => ⟨outer.add (inner.depth + 1) :: around, none⟩

def ClassScan.next (m : Mode) (s : ClassScan) : Reader ClassScan := do
  match s.around with
  | [] => failure
  | inner :: around =>
    skip m
    match (← get).take 2 with
    | '[' :: _ =>
      match ← optional namedClass with
      | some negated =>
        if if m.unicode then m.caseless else negated then failure
        return { s with around := inner.add 0 :: around }
      | none => return { s with around := (← bracket m) :: s.around }
    | ']' :: _ =>
      exactly [']']
      return .close inner around
    | ['&', '&'] | ['-', '-'] | ['~', '~'] =>
      set ((← get).drop 2)
      return { s with around := ⟨some inner.depth, []⟩ :: around }
    | _ =>
      member m
      return { s with around := inner.add 0 :: around }

def bracketed (m : Mode) : Reader Nat := do
  let s ← iterate (ClassScan.next m) ⟨[← bracket m], none⟩
  liftM s.closed

/-! ### Patterns -/

/-- A part of a pattern. Switches are parts that cannot be repeated. -/
structure Part where
  depth : Nat
  repeatable : Bool
  deriving DecidableEq, Repr

/-- A group that is open, or the pattern as a whole. -/
structure Level where
  mode : Mode
  /-- The parts of the branch that is being read, the last one first. -/
  parts : List Part
  /-- The depths of the branches before it. -/
  branches : List Nat
  deriving DecidableEq, Repr

namespace Level

def start (m : Mode) : Level := ⟨m, [], []⟩

def branch (l : Level) : Nat := joined (l.parts.map Part.depth)

def depth (l : Level) : Nat :=
  if l.branches.isEmpty then l.branch else (l.branch :: l.branches).foldl max 0 + 1

def add (l : Level) (depth : Nat) : Level := { l with parts := ⟨depth, true⟩ :: l.parts }

def repeated? (l : Level) : Option Level :=
  match l.parts with
  | ⟨depth, true⟩ :: parts => some { l with parts := ⟨depth + 1, true⟩ :: parts }
  | _ => none

end Level

structure Scan where
  here : Level
  /-- The groups around, from the inside out. -/
  around : List Level
  /-- The names given to groups. -/
  names : List (List Char)
  deriving DecidableEq, Repr

namespace Scan

def start : Scan := ⟨.start .start, [], []⟩

def add (s : Scan) (depth : Nat) : Scan := { s with here := s.here.add depth }

def enter (s : Scan) (m : Mode) : Scan := { s with here := .start m, around := s.here :: s.around }

/-- Ends a group. What was switched in it is as it was before. -/
def leave? (s : Scan) : Option Scan :=
  match s.around with
  | [] => none
  | outer :: around => some { s with here := outer.add (s.here.depth + 1), around }

end Scan

def groupName : Reader (List Char) := do
  let first ← char fun c => c == '_' || isAlphabetic c
  let others ← run fun c => ['_', '.', '[', ']'].contains c || isAlphanumeric c
  exactly ['>']
  return first :: others

def namedGroup (s : Scan) : Reader Scan := do
  exactly "?P<".toList <|> exactly "?<".toList
  let name ← groupName
  if s.names.contains name then failure
  return { s.enter s.here.mode with names := name :: s.names }

/-- Switches, for the rest of the group they stand in or for a group of their own. -/
def switches (s : Scan) : Reader Scan := do
  exactly ['?']
  let letters ← run ['i', 'm', 's', 'U', 'u', 'R', 'x', '-'].contains
  if letters ≠ letters.eraseDups || letters.getLast? == some '-' then failure
  let m := s.here.mode.switch letters
  match ← char fun _ => true with
  | ':' => return s.enter m
  | ')' =>
    if letters.isEmpty then failure
    return { s with here := { s.here with mode := m, parts := ⟨0, false⟩ :: s.here.parts } }
  | _ => failure

def Scan.next (s : Scan) : Reader Scan := do
  let m := s.here.mode
  skip m
  match ← peek with
  | none => failure
  | some '\\' => if (← escape m).isUsable m then return s.add 0 else failure
  | some '[' => return s.add (← bracketed m)
  | some c =>
    let _ ← char fun _ => true
    match c with
    | '(' =>
      skip m
      namedGroup s <|> switches s <|> return s.enter m
    | ')' => liftM s.leave?
    | '|' =>
      return { s with here := { s.here with
        parts := [], branches := s.here.branch :: s.here.branches } }
    | '?' | '*' | '+' =>
      let _ ← optional (exactly ['?'])
      return { s with here := ← liftM s.here.repeated? }
    | '\x7b' => failure
    | '.' => if m.unicode then return s.add 0 else failure
    | '^' | '$' => return s.add 0
    | _ => if (Atom.char c false).isUsable m then return s.add 0 else failure

def maxDepth : Nat := 250

def isUsable (text : List Char) : Bool :=
  let scan : Reader Scan := do
    let s ← iterate Scan.next .start
    skip s.here.mode
    return s
  (whole scan text).any fun s => s.around.isEmpty && s.here.depth ≤ maxDepth

end FeatureMatrix.Log.Pattern
