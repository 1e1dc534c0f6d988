import FeatureMatrix.Names
import FeatureMatrix.Text.Blank

/-!
Settings of a run: the features that never take part, and the group of which every
combination needs a member. They start from built-in names, and layers on top replace
either list as a whole. A layer tells a list that is not given from one that is given and
empty, since the empty list is how a group is cleared.
-/

namespace FeatureMatrix

/-- The two lists of names that settings hold. -/
inductive Group where
  | exclude
  | require
  deriving DecidableEq, Repr

/-- The name a group has in a manifest and on the command line. -/
def Group.name : Group → String
  | .exclude => "exclude"
  | .require => "require"

structure Settings where
  /-- Taken out before anything is selected. -/
  exclude : NameSet
  /-- Of these each combination holds one at least; if there are none, any will do. -/
  require : NameSet
  deriving DecidableEq

/-- One source of settings, with lists as they were written. -/
structure Layer where
  exclude : Option (List String)
  require : Option (List String)
  deriving DecidableEq, Repr

structure BlankName where
  group : Group
  deriving DecidableEq, Repr

def BlankName.message (e : BlankName) : String :=
  s!"`{e.group.name}` contains a blank feature name"

def Layer.unset : Layer := ⟨none, none⟩

namespace Settings

/-- What holds where no layer says otherwise: `full` and `default` only bundle features,
and without a database the rest is of no use. -/
def builtIn : Settings where
  exclude := .ofList ["full", "default"]
  require := .ofList ["maxminddb", "ripe-geo"]

/-- The trimmed names of a list; none may be blank. -/
def names (group : Group) (list : List String) : Except BlankName NameSet :=
  let trimmed := list.map Text.trim
  if trimmed.contains "" then .error ⟨group⟩ else .ok (.ofList trimmed)

/-- The names of a list where it is given, else those in force already. -/
def override (group : Group) (list : Option (List String)) (inForce : NameSet) :
    Except BlankName NameSet :=
  match list with
  | none => .ok inForce
  | some list => names group list

def apply (base : Settings) (layer : Layer) : Except BlankName Settings := do
  let exclude ← override .exclude layer.exclude base.exclude
  let require ← override .require layer.require base.require
  return { exclude, require }

/-- Lays all layers on top, the first one lowest. -/
def applyAll (base : Settings) (layers : List Layer) : Except BlankName Settings :=
  layers.foldlM apply base

/-- The settings after each layer, up to the first that fails. -/
def applyEach (base : Settings) : List Layer → List (Except BlankName Settings)
  | [] => []
  | layer :: layers =>
    match base.apply layer with
    | .error why => [.error why]
    | .ok settings => .ok settings :: settings.applyEach layers

/-- The built-in settings under the given layers. -/
def resolve (layers : List Layer) : Except BlankName Settings := builtIn.applyAll layers

end Settings

end FeatureMatrix
