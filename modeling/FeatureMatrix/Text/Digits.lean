/-!
Digits to bases up to sixteen, and the numbers they write.
-/

namespace FeatureMatrix.Text

def hexValue (c : Char) : Nat :=
  if c.isDigit then c.toNat - '0'.toNat else c.toLower.toNat - 'a'.toNat + 10

def isHex (c : Char) : Bool :=
  c.isDigit || ('a' ≤ c && c ≤ 'f') || ('A' ≤ c && c ≤ 'F')

/-- The number that digits to some base write, the first one most significant. -/
def number (base : Nat) (digits : List Char) : Nat :=
  digits.foldl (fun n c => n * base + hexValue c) 0

/-- The character with the code point that hexadecimal digits write; surrogates are none. -/
def codePoint? (digits : List Char) : Option Char :=
  let n := number 16 digits
  if n.isValidChar then some (Char.ofNat n) else none

end FeatureMatrix.Text
