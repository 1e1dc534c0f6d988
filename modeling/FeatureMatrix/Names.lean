import Std.Data.ExtTreeSet

/-!
Sets of feature names. Two sets with the same members are equal, and the members are listed
in code-point order, which is also the order of their UTF-8 bytes.
-/

namespace FeatureMatrix

abbrev NameSet := Std.ExtTreeSet String compare

def NameSet.meets (s t : NameSet) : Bool := s.toList.any t.contains

end FeatureMatrix
