import FeatureMatrix.Output.Format

/-!
A place to write to, which may have a limit to the bytes it holds. It takes what fits, and what
is written after the first failure never reaches it. Combinations are written to it one piece
of their text after the other.
-/

namespace FeatureMatrix.Output

/-- The bytes a sink has taken, and how many more it can take if there is a limit. -/
structure Sink where
  limit : Option Nat
  taken : List UInt8
  deriving DecidableEq

namespace Sink

def ofRoom (room : Nat) : Sink := ⟨some room, []⟩

def endless : Sink := ⟨none, []⟩

/-- Takes what fits of `bytes`, and says whether that was all. -/
def push (s : Sink) (bytes : List UInt8) : Sink × Bool :=
  match s.limit with
  | none => (⟨none, s.taken ++ bytes⟩, true)
  | some room => (⟨some (room - bytes.length), s.taken ++ bytes.take room⟩, bytes.length ≤ room)

/-- Pushes piece after piece up to the first that does not fit. -/
def pushAll (s : Sink) : List (List UInt8) → Sink × Bool
  | [] => (s, true)
  | piece :: pieces =>
    match s.push piece with
    | (s, true) => s.pushAll pieces
    | (s, false) => (s, false)

end Sink

inductive Incomplete where
  | unsupported (why : Unsupported)
  /-- The sink had no room left. -/
  | full
  deriving DecidableEq, Repr

def Incomplete.report : Incomplete → Report
  | unsupported why => why.report
  | full => ⟨"No space left on device (os error 28)", none⟩

/-- Writes a text to a sink, in the parts it was cut into; nothing is written in a format the
build does not have. -/
def writeParts (build : Build) (format : Format) (parts : List (List UInt8)) (sink : Sink) :
    Sink × Except Incomplete Unit :=
  if build.writes format then
    match sink.pushAll parts with
    | (sink, true) => (sink, .ok ())
    | (sink, false) => (sink, .error .full)
  else (sink, .error (.unsupported .json))

def write (build : Build) (cs : List Combination) (format : Format) (sink : Sink) :
    Sink × Except Incomplete Unit :=
  writeParts build format ((pieces cs format).map (·.toUTF8.toList)) sink

end FeatureMatrix.Output
