/-!
How the program was built, and what it says about that. Output in JSON is an optional part.
-/

namespace FeatureMatrix

structure Build where
  json : Bool
  deriving DecidableEq, Repr

namespace Build

/-- The optional parts by name; a `!` marks one that was left out. -/
def flags (b : Build) : List String := [if b.json then "uses_serde" else "!uses_serde"]

def flagsText (b : Build) : String :=
  "[" ++ ", ".intercalate (b.flags.map fun flag => s!"\"{flag}\"") ++ "]"

/-- The answer to a question for the version. -/
def banner (b : Build) : String := s!"cargo-fc 0.1.0 {b.flagsText}"

end Build

end FeatureMatrix
