import FeatureMatrix.Names
import Std.Data.ExtTreeMap

/-!
The `[features]` table of a manifest: each declared feature with the labels it lists.
`retain` is the table a selection is made from: the excluded features are gone, and a
label stays only if it names a feature that is still there.
-/

namespace FeatureMatrix

/-- Feature name to the labels listed for it. -/
abbrev FeatureTable := Std.ExtTreeMap String NameSet compare

namespace FeatureTable

/-- The label of a feature of the same manifest. `dep:x` turns on an optional dependency,
`x/y` and `x?/y` a feature of a dependency. -/
def isBare (label : String) : Bool :=
  !"dep:".toList.isPrefixOf label.toList && !label.toList.contains '/'

def labels (table : FeatureTable) (name : String) : NameSet := table.getD name ∅

/-- The table without the excluded features and without labels that lead nowhere in it. -/
def retain (table : FeatureTable) (exclude : NameSet) : FeatureTable :=
  (table.filter fun name _ => !exclude.contains name).map fun _ listed =>
    listed.filter fun label =>
      isBare label && table.contains label && !exclude.contains label

/-- The excluded names that the table does not declare, in order. -/
def undeclared (table : FeatureTable) (exclude : NameSet) : List String :=
  exclude.toList.filter fun name => !table.contains name

end FeatureTable

end FeatureMatrix
