import FeatureMatrix.Combination.Closure
import FeatureMatrix.Program

/-!
A session: one step after another on a table of features, settings, a combination at hand
and a list of combinations. A step that fails leaves things as they were.
-/

namespace FeatureMatrix

open Log (Logged)

structure Session where
  table : FeatureTable
  settings : Settings
  current : Combination
  found : List Combination

namespace Session

/-- Nothing declared, the built-in settings, and nothing at hand. -/
def start : Session := ⟨∅, .builtIn, ∅, []⟩

inductive Step where
  /-- Takes a table as it is. -/
  | table (table : FeatureTable)
  /-- Takes the table of a manifest, and lays its settings on top. -/
  | manifest (text : String)
  | layer (layer : Layer)
  /-- Lays the settings of a command line on top. -/
  | options (line : List String)
  /-- Retains what the settings do not exclude. -/
  | retain
  /-- Takes a combination at hand. -/
  | take (c : Combination)
  | reduce
  | expand
  /-- Whether the combination at hand meets the required group. -/
  | satisfies
  | key
  /-- Finds the combinations of the plan. -/
  | plan
  /-- Takes one of the combinations found. -/
  | pick (index : Nat)
  /-- Writes the combinations found. -/
  | write (format : Format)

inductive Answer where
  | table (table : FeatureTable)
  | settings (settings : Settings)
  | manifest (table : FeatureTable) (settings : Settings)
  | combination (c : Combination)
  | combinations (cs : List Combination)
  | truth (holds : Bool)
  | text (text : String)
  | nothing
  | problem (why : Problem)
  | stopped (why : CommandLine.Stop)

/-- The session after a step, what the step answers, and what it tells. -/
structure Outcome where
  session : Session
  answer : Answer
  events : List Log.Event := []

def withLayer (s : Session) (layer : Layer) : Outcome :=
  match s.settings.apply layer with
  | .error why => ⟨s, .problem (.settings why), []⟩
  | .ok settings => ⟨{ s with settings }, .settings settings, []⟩

/-- Takes a manifest. If only its settings fail, its table has been taken. -/
def withManifest (s : Session) (text : String) : Outcome :=
  let read : Logged Problem (FeatureTable × Layer) := do
    let value ← (Manifest.logged Manifest.usualPath (.ok text.toUTF8.toList)).mapError .load
    let table ← (Manifest.loggedFeatures value).mapError .manifest
    let layer ← .ofExcept .manifest (Manifest.layer value)
    return (table, layer.getD .unset)
  match read.result with
  | .error why => ⟨s, .problem why, read.events⟩
  | .ok (table, layer) =>
    match s.settings.apply layer with
    | .error why => ⟨{ s with table }, .problem (.settings why), read.events⟩
    | .ok settings => ⟨{ s with table, settings }, .manifest table settings, read.events⟩

def withCurrent (s : Session) (c : Combination) : Outcome :=
  ⟨{ s with current := c }, .combination c, []⟩

def step (s : Session) : Step → Outcome
  | .table table => ⟨{ s with table }, .table table, []⟩
  | .manifest text => s.withManifest text
  | .layer layer => s.withLayer layer
  | .options line =>
    match CommandLine.read line with
    | .error why => ⟨s, .stopped why, []⟩
    | .ok o => s.withLayer o.layer
  | .retain =>
    let table := s.table.retain s.settings.exclude
    ⟨{ s with table }, .table table, (Plan.retainNotes s.table s.settings.exclude).map .plan⟩
  | .take c => s.withCurrent c
  | .reduce => s.withCurrent (s.current.reduce s.table)
  | .expand => s.withCurrent (s.current.expand s.table)
  | .satisfies => ⟨s, .truth (s.current.satisfies s.settings.require), []⟩
  | .key => ⟨s, .text s.current.key, []⟩
  | .plan =>
    let plan := Plan.logged s.table s.settings
    match plan.result with
    | .error why => ⟨s, .problem (.plan why), plan.events⟩
    | .ok found => ⟨{ s with found }, .combinations found, plan.events⟩
  | .pick index =>
    match s.found[index]? with
    | none => ⟨s, .nothing, []⟩
    | some c => s.withCurrent c
  | .write format => ⟨s, .text (Output.text s.found format), []⟩

def steps (s : Session) : List Step → List Outcome
  | [] => []
  | first :: rest =>
    let outcome := s.step first
    outcome :: outcome.session.steps rest

end Session

end FeatureMatrix
