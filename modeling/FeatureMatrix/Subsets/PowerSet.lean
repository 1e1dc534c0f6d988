import FeatureMatrix.Combination

/-!
The subsets of a list of names, by recursion on the list: those with the first name, then
those without it.
-/

namespace FeatureMatrix

def powerSet : List String → List Combination
  | [] => [∅]
  | name :: rest => (powerSet rest).map (·.insert name) ++ powerSet rest

end FeatureMatrix
