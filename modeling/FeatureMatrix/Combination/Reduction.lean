import FeatureMatrix.Combination
import FeatureMatrix.FeatureTable

/-!
Leaving out what is turned on anyway. A member goes when a member lists it, be it another
one or itself. What is listed is fixed before anything goes, so a member that goes still
takes along what it lists.
-/

namespace FeatureMatrix.Combination

/-- Every label that some member lists. -/
def listed (table : FeatureTable) (c : Combination) : NameSet :=
  c.foldl (fun found name => found ∪ table.labels name) ∅

/-- The members that no member lists. -/
def reduce (table : FeatureTable) (c : Combination) : Combination :=
  let gone := listed table c
  c.filter fun name => !gone.contains name

end FeatureMatrix.Combination
