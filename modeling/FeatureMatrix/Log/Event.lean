import FeatureMatrix.CommandLine.Options
import FeatureMatrix.Plan
import FeatureMatrix.Text.Terminal

/-!
What there is to tell about a run, as data, and what the log says of each event.
-/

namespace FeatureMatrix.Log

inductive Event where
  /-- What the command line asked for. -/
  | options (options : CommandLine.Options)
  /-- A manifest is about to be read. -/
  | reading (path : String)
  /-- The features a manifest declares. -/
  | declared (names : List String)
  /-- The settings in force for a manifest. -/
  | settings (path : String) (settings : Settings)
  | plan (note : Plan.Note)
  /-- How many combinations there are to print. -/
  | found (count : Nat)

namespace Event

def level : Event → Level
  | options _ | reading _ | declared _ => .debug
  | settings _ _ | found _ => .info
  | plan note => note.level

/-- The part of the program that speaks. -/
def target : Event → String
  | options _ | settings _ _ | found _ => "cargo_fc"
  | reading _ | declared _ => "cargo_fc::fc_manifest"
  | plan _ => "cargo_fc::fc_combos"

def message : Event → String
  | options o => s!"CLI options: {o.text}"
  | reading path => s!"reading manifest {path}"
  | declared names => s!"declared features: {Text.quotedList names}"
  | settings path s =>
    s!"manifest {path}: exclude {Text.quotedSet s.exclude}, require {Text.quotedSet s.require}"
  | plan note => note.message
  | found count => s!"{count} combinations"

/-- What the log says of it, mostly one line; a path may have line ends in it. -/
def entry (e : Event) : String :=
  s!"{e.level.name} {e.target}: {Text.Terminal.spelled e.message}"

end Event

end FeatureMatrix.Log
