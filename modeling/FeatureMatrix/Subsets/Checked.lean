import FeatureMatrix.Subsets

/-!
The subsets of a list of names in arithmetic that has no result where it would leave its range:
a difference below zero, a number that is no mask, a shift by all the bits of a mask or more.
The bit of a name is found from its position, counted from the front.
-/

namespace FeatureMatrix.Subsets.Checked

def sub (a b : Nat) : Option Nat := if b ≤ a then some (a - b) else none

def mask (n : Nat) : Option UInt64 := if n < UInt64.size then some (UInt64.ofNat n) else none

def shiftLeft (m : UInt64) (k : Nat) : Option UInt64 :=
  if k < maskBits then some (m <<< UInt64.ofNat k) else none

def shiftRight (m : UInt64) (k : Nat) : Option UInt64 :=
  if k < maskBits then some (m >>> UInt64.ofNat k) else none

/-- The mask that holds the lowest `n` bits. -/
def full (n : Nat) : Option UInt64 :=
  if n = 0 then some 0 else do
    let unused ← sub maskBits n
    shiftRight (-1) unused

/-- The names whose bit is set, of those that stand at position `i` or later among `n` names. -/
def pick (m : UInt64) (n : Nat) : Nat → List String → Option Combination
  | _, [] => some ∅
  | i, name :: rest => do
    let last ← sub n 1
    let below ← sub last i
    let bit ← shiftLeft 1 below
    let picked ← pick m n (i + 1) rest
    return if m &&& bit ≠ 0 then picked.insert name else picked

/-- Every subset, from the number of the full mask down to zero. -/
def all (names : List String) : Option (List Combination) := do
  let full ← full names.length
  (List.range (full.toNat + 1)).reverse.mapM fun k => do
    pick (← mask k) names.length 0 names

end FeatureMatrix.Subsets.Checked
