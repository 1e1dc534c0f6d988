/-!
Sets of characters, given by the code points at which they begin and end.
-/

namespace FeatureMatrix.Text

/-- Ascending code points. A run of members begins at the first, third, fifth and so on, and
ends before the next. -/
abbrev Runs := List Nat

/-- Whether a character lies in one of the runs. -/
def Runs.hold (runs : Runs) (c : Char) : Bool := (runs.takeWhile (· ≤ c.toNat)).length % 2 == 1

end FeatureMatrix.Text
