import FeatureMatrix.Output.Format
import FeatureMatrix.Settings
import FeatureMatrix.Text.Quoted

/-!
What a command line can ask for.
-/

namespace FeatureMatrix.CommandLine

/-- What was asked for; names are kept as they were written. -/
structure Options where
  version : Bool
  manifestPath : Option String
  locate : Bool
  exclude : List String
  require : List String
  noRequire : Bool
  format : Format
  deriving DecidableEq, Repr

namespace Options

def none : Options where
  version := false
  manifestPath := .none
  locate := false
  exclude := []
  require := []
  noRequire := false
  format := .plain

/-- A list of names that is not given at all leaves the settings as they are. -/
def given (names : List String) : Option (List String) :=
  if names.isEmpty then .none else some names

def layer (o : Options) : Layer where
  exclude := given o.exclude
  require := if o.noRequire then some [] else given o.require

/-! ### In the log -/

def truthText (b : Bool) : String := if b then "true" else "false"

def pathText : Option String → String
  | .none => "None"
  | some path => s!"Some({Text.quoted path})"

def formatText : Format → String
  | .plain => "Plain"
  | .cargo => "Cargo"
  | .json => "Json"

/-- All options by name, as a log line shows them. -/
def text (o : Options) : String :=
  let fields :=
    [("version", truthText o.version),
     ("manifest_path", pathText o.manifestPath),
     ("locate", truthText o.locate),
     ("exclude", Text.quotedList o.exclude),
     ("require", Text.quotedList o.require),
     ("no_require", truthText o.noRequire),
     ("format", formatText o.format)]
  "Cli \x7b " ++ ", ".intercalate (fields.map fun (name, value) => s!"{name}: {value}") ++ " \x7d"

end Options

end FeatureMatrix.CommandLine
