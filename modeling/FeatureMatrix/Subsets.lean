import FeatureMatrix.Combination

/-!
The subsets of a list of names, one for each mask, from the full set down to the empty
one. The first name has the most significant bit. The `i`-th subset is found without the
ones before it, so a window onto the subsets of 64 names costs no more than its length.
-/

namespace FeatureMatrix

def maskBits : Nat := 64

/-- A list of names, short enough for a mask. Names may repeat and stand in any order. -/
structure Subsets where
  names : List String
  fits : names.length ≤ maskBits
  deriving DecidableEq

/-- More names than a mask has bits. -/
structure TooManyNames where
  count : Nat
  deriving DecidableEq

def TooManyNames.message (e : TooManyNames) : String :=
  s!"{e.count} names do not fit a {maskBits}-bit subset mask"

namespace Subsets

/-- The subsets of `names`, unless a mask has too few bits for them. -/
def of (names : List String) : Except TooManyNames Subsets :=
  if fits : names.length ≤ maskBits then .ok ⟨names, fits⟩ else .error ⟨names.length⟩

/-- The mask that holds the lowest `n` bits. -/
def fullMask (n : Nat) : UInt64 :=
  if n = 0 then 0 else (-1 : UInt64) >>> UInt64.ofNat (maskBits - n)

/-- The names whose bit is set; the last name has bit 0. -/
def pick (mask : UInt64) : List String → Combination
  | [] => ∅
  | name :: rest =>
    if mask &&& ((1 : UInt64) <<< UInt64.ofNat rest.length) ≠ 0 then
      (pick mask rest).insert name
    else pick mask rest

def count (s : Subsets) : Nat := Nat.pow 2 s.names.length

/-- The `i`-th subset; the full set is the first. -/
def get (s : Subsets) (i : Nat) : Combination :=
  pick (fullMask s.names.length - UInt64.ofNat i) s.names

def toList (s : Subsets) : List Combination := (List.range s.count).map s.get

/-- Up to `limit` subsets after the first `skip`, and whether others follow these. -/
def window (s : Subsets) (skip limit : Nat) : List Combination × Bool :=
  ((List.range' skip (min limit (s.count - skip))).map s.get, skip + limit < s.count)

end Subsets

end FeatureMatrix
