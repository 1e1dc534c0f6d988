import FeatureMatrix.Combination.Reduction
import FeatureMatrix.Log.Level
import FeatureMatrix.Settings
import FeatureMatrix.Subsets
import FeatureMatrix.Text.Quoted

/-!
The plan: which combinations are worth a test run. Every subset of the retained features
that meets the required group is reduced, and what comes out is kept once each, in the order of
the members. For the list it is sorted by key, and where keys are equal that order stays.
-/

namespace FeatureMatrix

/-- More features are left to select from than a mask has bits. -/
structure TooManyFeatures where
  count : Nat
  deriving DecidableEq

def TooManyFeatures.message (e : TooManyFeatures) : String :=
  s!"{e.count} selectable features cannot be enumerated (at most {maskBits}); " ++
    "exclude some of them"

/-! ### Orders -/

namespace Combination

/-- Combinations in the order of their members. -/
def order : Combination → Combination → Ordering := compareOn (·.toList)

instance : Std.TransCmp order := inferInstanceAs (Std.TransCmp (compareOn _))

end Combination

/-- A combination with its key, which is then made only once. -/
structure Row where
  combination : Combination
  key : String
  key_eq : key = combination.key

namespace Row

def of (c : Combination) : Row := ⟨c, c.key, rfl⟩

/-- Rows in the order of their keys alone. -/
def le (a b : Row) : Bool := (compare a.key b.key).isLE

end Row

/-! ### The plan -/

structure Plan where
  /-- The features selected from. -/
  retained : FeatureTable
  /-- How many subsets met the required group. -/
  qualified : Nat
  /-- What remained of those after reduction. -/
  distinct : Std.ExtTreeSet Combination Combination.order

namespace Plan

def selections (subsets : Subsets) (require : NameSet) : List Combination :=
  subsets.toList.filter (·.satisfies require)

/-- The plan for a table; the settings say what is left out and what is required. With too
many features there is none, and no subset is looked at. -/
def make (table : FeatureTable) (settings : Settings) : Except TooManyFeatures Plan :=
  let retained := table.retain settings.exclude
  if fits : retained.keys.length ≤ maskBits then
    let qualified := selections ⟨retained.keys, fits⟩ settings.require
    .ok ⟨retained, qualified.length, .ofList (qualified.map (·.reduce retained)) _⟩
  else .error ⟨retained.keys.length⟩

/-- The list of a plan: what was found, sorted by key. The sort is stable. -/
def combinations (plan : Plan) : List Combination :=
  ((plan.distinct.toList.map Row.of).mergeSort Row.le).map Row.combination

/-! ### What there is to say about it -/

/-- Above this many features the subsets are no longer few. -/
def comfortable : Nat := 24

inductive Note where
  /-- An excluded feature is not declared. -/
  | undeclared (name : String)
  /-- There are many features to select from. -/
  | many (count : Nat)
  /-- Nothing is required. -/
  | unconstrained
  /-- None of what is required can be selected. -/
  | hopeless (require : NameSet)
  /-- The features that are selected from. -/
  | selecting (names : List String)
  /-- Subsets that met the group, and combinations after reduction. -/
  | counted (qualified distinct : Nat)

namespace Note

def level : Note → Log.Level
  | many _ | unconstrained | hopeless _ => .warn
  | undeclared _ | selecting _ | counted _ _ => .debug

def message : Note → String
  | undeclared name => s!"excluded feature {Text.quoted name} is not declared, skipping"
  | many count =>
    s!"{count} selectable features produce 2^{count} subsets, this may take a while"
  | unconstrained => "required feature group is empty, every subset is kept"
  | hopeless require =>
    s!"none of the required features {Text.quotedSet require} is declared, " ++
      "no combination can qualify"
  | selecting names => s!"enumerating subsets of {Text.quotedList names}"
  | counted qualified distinct =>
    s!"{qualified} subsets qualified, {distinct} distinct combinations after reduction"

end Note

def retainNotes (table : FeatureTable) (exclude : NameSet) : List Note :=
  (table.undeclared exclude).map .undeclared

/-- What can be said about the group before any subset is looked at. -/
def groupNotes (retained : FeatureTable) (require : NameSet) : List Note :=
  if require.isEmpty then [.unconstrained]
  else if require.toList.any retained.contains then []
  else [.hopeless require]

/-- All notes on a plan, in order; on one that was refused, those made up to then. -/
def notes (table : FeatureTable) (settings : Settings) :
    Except TooManyFeatures Plan → List Note
  | .error _ => retainNotes table settings.exclude
  | .ok plan =>
    retainNotes table settings.exclude ++
    (if comfortable < plan.retained.size then [.many plan.retained.size] else []) ++
    groupNotes plan.retained settings.require ++
    [.selecting plan.retained.keys, .counted plan.qualified plan.distinct.size]

end Plan

end FeatureMatrix
