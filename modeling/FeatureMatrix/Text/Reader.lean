/-!
Reading a text from the front. A reader takes some characters and leaves the rest, or
refuses; where it refuses nothing is taken, so another reader may try at the same place.
-/

namespace FeatureMatrix.Text

/-- Takes an `α` off the front of the characters that are left. -/
abbrev Reader (α : Type) := StateT (List Char) Option α

namespace Reader

/-- The next character, left in place. -/
def peek : Reader (Option Char) := fun cs => some (cs.head?, cs)

def char (p : Char → Bool) : Reader Char
  | c :: cs => if p c then some (c, cs) else none
  | [] => none

def exactly : List Char → Reader Unit
  | [] => pure ()
  | c :: cs => do let _ ← char (· == c); exactly cs

def run (p : Char → Bool) : Reader (List Char) := fun cs => some (cs.span p)

def atEnd : Reader Unit := fun cs => if cs.isEmpty then some ((), cs) else none

/-- Reads `p` as often as it takes something. -/
def manyOn {α : Type} (p : Reader α) (cs : List Char) : List α × List Char :=
  match p cs with
  | none => ([], cs)
  | some (a, rest) =>
    if rest.length < cs.length then
      let (as, last) := manyOn p rest
      (a :: as, last)
    else ([], cs)
  termination_by cs.length

def many {α : Type} (p : Reader α) : Reader (List α) := fun cs => some (manyOn p cs)

/-- Reads on from state to state as often as `p` takes something. -/
def iterateOn {σ : Type} (p : σ → Reader σ) (s : σ) (cs : List Char) : σ × List Char :=
  match p s cs with
  | none => (s, cs)
  | some (next, rest) => if rest.length < cs.length then iterateOn p next rest else (s, cs)
  termination_by cs.length

def iterate {σ : Type} (p : σ → Reader σ) (s : σ) : Reader σ := fun cs => some (iterateOn p s cs)

/-- One or more, with `sep` between them. -/
def separated {α : Type} (p : Reader α) (sep : Reader Unit) : Reader (List α) := do
  let first ← p
  let others ← many (do sep; p)
  return first :: others

/-- The value of a reader that takes the whole text. -/
def whole {α : Type} (p : Reader α) (text : List Char) : Option α :=
  match p text with
  | some (a, []) => some a
  | _ => none

end Reader

end FeatureMatrix.Text
