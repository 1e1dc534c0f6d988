import FeatureMatrix.CommandLine.Reading
import FeatureMatrix.Locator
import FeatureMatrix.Log.Filter
import FeatureMatrix.Log.Logged
import FeatureMatrix.Manifest
import FeatureMatrix.Output.Sink

/-!
The program, as a function of its command line and of what surrounds it. It goes through
its stages in order and stops at the first that fails. What it has told and printed up to there
stays.
-/

namespace FeatureMatrix

open Log (Logged)

inductive Problem where
  | locator (why : Locator.Failure)
  | load (why : Manifest.LoadError)
  | manifest (why : Manifest.Fault)
  | settings (why : BlankName)
  | plan (why : TooManyFeatures)
  | output (why : Output.Incomplete)
  deriving DecidableEq

def Problem.report (complaint : String → String) : Problem → Report
  | locator why => why.report
  | load why => why.report complaint
  | manifest why => why.report
  | settings why => ⟨why.message, none⟩
  | plan why => ⟨why.message, none⟩
  | output why => why.report

namespace Plan

def logged (table : FeatureTable) (settings : Settings) :
    Logged TooManyFeatures (List Combination) :=
  let plan := make table settings
  ⟨(notes table settings plan).map .plan, plan.map Plan.combinations⟩

end Plan

namespace Manifest

def logged (path : String) (content : Except FileError (List UInt8)) :
    Logged LoadError Toml.Value :=
  ⟨[.reading path], load path content⟩

/-- The declared features; they are told if the table is sound. -/
def loggedFeatures (manifest : Toml.Value) : Logged Fault FeatureTable :=
  match features manifest with
  | .error why => ⟨[], .error why⟩
  | .ok table => ⟨[.declared table.keys], .ok table⟩

end Manifest

namespace Program

open CommandLine (Options Refusal)

/-! ### Work that leaves a trace -/

/-- What was told and printed so far. -/
structure Trace where
  events : List Log.Event := []
  stdout : Output.Sink := .endless

/-- Work that may fail. The trace is kept when it does. -/
abbrev Work := ExceptT Problem (StateM Trace)

namespace Work

variable {δ α : Type}

def tell (events : List Log.Event) : Work Unit :=
  modify fun t => { t with events := t.events ++ events }

/-- A result, its error seen from outside. -/
def ofExcept (outer : δ → Problem) (r : Except δ α) : Work α := .mk (pure (r.mapError outer))

def ofLogged (outer : δ → Problem) (l : Logged δ α) : Work α := do
  tell l.events
  ofExcept outer l.result

def say (text : String) : Work Unit :=
  modify fun t => { t with stdout := (t.stdout.push text.toUTF8.toList).1 }

def print (build : Build) (cs : List Combination) (format : Format) : Work Unit := do
  let (stdout, result) := Output.write build cs format (← get).stdout
  modify fun t => { t with stdout }
  ofExcept .output result

end Work

/-! ### The stages -/

structure Host where
  build : Build
  /-- What reading the file at a path comes to. -/
  read : String → Except FileError (List UInt8)
  /-- What `cargo` answers; nothing if there is no such program. -/
  locator : Option Locator.Reply
  /-- What the reader of TOML says about a text that is no document. -/
  complaint : String → String

/-- Where the manifest is: at the path given; else where `cargo` says, if it is to be asked;
else in the usual place. -/
def manifestPath (given : Option String) (locate : Bool) (locator : Option Locator.Reply) :
    Except Locator.Failure String :=
  match given with
  | some path => .ok path
  | none => if locate then Locator.path locator else .ok Manifest.usualPath

/-- The combinations for options that do not ask for the version. -/
def search (host : Host) (o : Options) : Work (List Combination) := do
  let path ← .ofExcept .locator (manifestPath o.manifestPath o.locate host.locator)
  let manifest ← .ofLogged .load (Manifest.logged path (host.read path))
  let table ← .ofLogged .manifest (Manifest.loggedFeatures manifest)
  let layer ← .ofExcept .manifest (Manifest.layer manifest)
  let settings ← .ofExcept .settings (Settings.resolve [layer.getD .unset, o.layer])
  .tell [.settings path settings]
  let found ← .ofLogged .plan (Plan.logged table settings)
  .tell [.found found.length]
  return found

/-- All there is to do once the options are known. -/
def command (host : Host) (o : Options) : Work Unit := do
  .tell [.options o]
  if o.version then .say (host.build.banner ++ "\n")
  else
    let found ← search host o
    .print host.build found o.format

/-! ### Runs -/

inductive Ending where
  | success
  | failure (why : Problem)
  /-- The command line is not understood. -/
  | usage (why : Refusal)

/-- What a run leaves behind when it has ended. -/
structure Exit where
  ending : Ending
  stdout : List UInt8
  /-- The failure as it is told; a line on the use of the program is left to the caller. -/
  stderr : String

def Exit.status (exit : Exit) : UInt32 :=
  match exit.ending with
  | .success => 0
  | .failure _ => 1
  | .usage _ => 2

structure Run where
  events : List Log.Event
  exit : Exit

/-- The run that does this work and nothing else. -/
def conclude (host : Host) (work : Work Unit) : Run :=
  match work.run.run {} with
  | (.ok (), t) => ⟨t.events, .success, t.stdout.taken, ""⟩
  | (.error why, t) =>
    ⟨t.events, .failure why, t.stdout.taken, (why.report host.complaint).paragraphs⟩

/-- A run of the program with these arguments, its own name not among them. -/
def run (host : Host) (args : List String) : Run :=
  match CommandLine.read (CommandLine.programName :: args) with
  | .error (.help text) => conclude host (.say text)
  | .error (.refused why) => ⟨[], .usage why, [], ""⟩
  | .ok o => conclude host (command host o)

end Program

end FeatureMatrix
