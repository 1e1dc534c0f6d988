import FeatureMatrix.Names

/-!
A combination is the set of features that one test run turns on. It is written, and
sorted, by its key: the names in order, joined by commas. Names may hold commas
themselves, so different combinations can share a key.
-/

namespace FeatureMatrix

abbrev Combination := NameSet

namespace Combination

def key (c : Combination) : String := ",".intercalate c.toList

/-- An empty group asks for nothing; any other one asks for at least one of its names. -/
def satisfies (c : Combination) (group : NameSet) : Bool := group.isEmpty || c.meets group

end Combination

end FeatureMatrix
