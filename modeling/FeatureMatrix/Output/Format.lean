import FeatureMatrix.Build
import FeatureMatrix.Output.Json
import FeatureMatrix.Report

/-!
The three ways to write combinations: keys one a line, arguments for `cargo` one a line, or
one line of JSON.
-/

namespace FeatureMatrix

inductive Format where
  | plain
  | cargo
  | json
  deriving DecidableEq, Repr

namespace Format

def all : List Format := [plain, cargo, json]

def name : Format → String
  | plain => "plain"
  | cargo => "cargo"
  | json => "json"

def ofName? (s : String) : Option Format := all.find? (·.name == s)

end Format

/-- Whether a build has this format: all but JSON are always there. -/
def Build.writes (b : Build) (format : Format) : Bool := b.json || format != .json

namespace Output

inductive Unsupported where
  | json
  deriving DecidableEq, Repr

def Unsupported.report : Unsupported → Report
  | json => ⟨"JSON output needs cargo-fc built with the `uses_serde` feature", none⟩

/-- The arguments that make `cargo` turn on this combination and nothing else. -/
def arguments (c : Combination) : String :=
  if c.isEmpty then "--no-default-features"
  else s!"--no-default-features --features {c.key}"

def pieces (cs : List Combination) : Format → List String
  | .plain => cs.map (·.key ++ "\n")
  | .cargo => cs.map (arguments · ++ "\n")
  | .json => [Json.text cs, "\n"]

def text (cs : List Combination) (format : Format) : String :=
  "".intercalate (pieces cs format)

/-- The whole text, if the build can write it. -/
def render (build : Build) (cs : List Combination) (format : Format) :
    Except Unsupported String :=
  if build.writes format then .ok (text cs format) else .error .json

end Output

end FeatureMatrix
