import FeatureMatrix.FeatureTable
import FeatureMatrix.Files
import FeatureMatrix.Report
import FeatureMatrix.Settings
import FeatureMatrix.Text.Utf8
import FeatureMatrix.Toml.Document

/-!
The manifest of a package, `Cargo.toml`: the table of its features, and the settings it may
hold for this program under `[package.metadata.feature-combos]`. Entries are looked at by
key in order, and the first that is wrong is reported.
-/

namespace FeatureMatrix.Manifest

open Toml (Value Kind)

/-- Where the manifest is unless something else is said. -/
def usualPath : String := "Cargo.toml"

/-! ### Reading it -/

inductive LoadError where
  | unreadable (path : String) (why : FileError)
  /-- The text in the file is no document. -/
  | malformed (path text : String)
  deriving DecidableEq, Repr

/-- `complaint` is what the reader of TOML says about a text that is no document. -/
def LoadError.report (complaint : String → String) : LoadError → Report
  | unreadable path why => ⟨s!"failed to read {path}", some why.message⟩
  | malformed path text => ⟨s!"failed to parse {path}", some (complaint text)⟩

/-- The value in a file, given what reading that file came to. -/
def load (path : String) (content : Except FileError (List UInt8)) : Except LoadError Value :=
  match content with
  | .error why => .error (.unreadable path why)
  | .ok bytes =>
    match Text.Utf8.strict? bytes with
    | none => .error (.unreadable path .notText)
    | some text =>
      match Toml.read? text with
      | none => .error (.malformed path text)
      | some value => .ok value

/-! ### Lists of names -/

/-- What was found where a list of names belongs. -/
inductive Mistyped where
  | notAList (found : Kind)
  | notAName (found : Kind)
  deriving DecidableEq, Repr

def Mistyped.message : Mistyped → String
  | notAList found => s!"expected an array of strings, found {found.name}"
  | notAName found => s!"expected a string, found {found.name}"

def name : Value → Except Mistyped String
  | .string text => .ok text
  | v => .error (.notAName v.kind)

/-- The strings of an array; the first item that is none is reported. -/
def names : Value → Except Mistyped (List String)
  | .array items => items.mapM name
  | v => .error (.notAList v.kind)

/-! ### Its tables -/

inductive Fault where
  | noFeatures
  | featuresNotATable
  | feature (name : String) (why : Mistyped)
  | settingsNotATable
  | setting (group : Group) (why : Mistyped)
  deriving DecidableEq, Repr

/-- The table that holds the settings, inside that for metadata. -/
def settingsKey : String := "feature-combos"

def Fault.report : Fault → Report
  | noFeatures => ⟨"manifest has no [features] table", none⟩
  | featuresNotATable => ⟨"`features` is not a table", none⟩
  | feature name why => ⟨s!"feature `{name}`", some why.message⟩
  | settingsNotATable => ⟨s!"[package.metadata.{settingsKey}] is not a table", none⟩
  | setting group why =>
    ⟨s!"[package.metadata.{settingsKey}] `{group.name}`", some why.message⟩

def feature (entry : String × Value) : Except Fault (String × NameSet) :=
  match names entry.2 with
  | .error why => .error (.feature entry.1 why)
  | .ok labels => .ok (entry.1, .ofList labels)

def features (manifest : Value) : Except Fault FeatureTable :=
  match manifest.get? "features" with
  | none => .error .noFeatures
  | some v =>
    match v.entries? with
    | none => .error .featuresNotATable
    | some entries => return .ofList (← entries.toList.mapM feature)

def setting (table : Value) (group : Group) : Except Fault (Option (List String)) :=
  match table.get? group.name with
  | none => .ok none
  | some v =>
    match names v with
    | .error why => .error (.setting group why)
    | .ok list => .ok (some list)

/-- The settings in the manifest. There are none when the way to them breaks off, also when
it leads through something that is no table. -/
def layer (manifest : Value) : Except Fault (Option Layer) :=
  let found := do (← (← manifest.get? "package").get? "metadata").get? settingsKey
  match found with
  | none => .ok none
  | some table =>
    if table.entries?.isNone then .error .settingsNotATable
    else do
      let exclude ← setting table .exclude
      let require ← setting table .require
      return some { exclude, require }

end FeatureMatrix.Manifest
