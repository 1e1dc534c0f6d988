import FeatureMatrix.Toml.Grammar.Text

/-!
Integers and floating-point numbers of a TOML document.
-/

namespace FeatureMatrix.Toml.Grammar

open FeatureMatrix.Text FeatureMatrix.Text.Reader

/-- Digits; an underscore may stand between two of them. -/
def digits (isDigit : Char → Bool) : Reader (List Char) := do
  let first ← char isDigit
  let others ← many (char isDigit <|> do exactly ['_']; char isDigit)
  return first :: others

/-- Whether a minus is there; a plus changes nothing. -/
def sign : Reader Bool :=
  (do exactly ['-']; return true) <|> (do exactly ['+']; return false) <|> return false

/-- Decimal digits with no zero in front. -/
def decimalDigits : Reader (List Char) := do
  let ds ← digits Char.isDigit
  if ds.head? == some '0' && ds.length != 1 then failure else return ds

/-! ### Integers -/

def minInteger : Int := -9223372036854775808

def maxInteger : Int := 9223372036854775807

/-- An integer of 64 bits. -/
def ranged (n : Int) : Reader Int :=
  if minInteger ≤ n ∧ n ≤ maxInteger then return n else failure

def decimalInteger : Reader Int := do
  let negative ← sign
  let n := number 10 (← decimalDigits)
  ranged (if negative then -(n : Int) else n)

/-- Digits to another base after the mark of that base, with no sign. -/
def markedInteger (mark : Char) (base : Nat) (isDigit : Char → Bool) : Reader Int := do
  exactly ['0', mark]
  ranged (number base (← digits isDigit))

def integer : Reader Int :=
  markedInteger 'x' 16 isHex <|>
  markedInteger 'o' 8 (fun c => '0' ≤ c && c ≤ '7') <|>
  markedInteger 'b' 2 (fun c => c == '0' || c == '1') <|>
  decimalInteger

/-! ### Floating-point numbers -/

def infinityBits : UInt64 := 0x7ff0000000000000

def nanBits : UInt64 := 0x7ff8000000000000

/-- The sign bit. -/
def signed (negative : Bool) (bits : UInt64) : UInt64 :=
  if negative then bits ||| 0x8000000000000000 else bits

/-- The double next to `m` times ten to the power `e`. Powers far outside the range of
doubles are not worked out: the result is zero or infinite there. -/
def nearestBits (m : Nat) (e : Int) : UInt64 :=
  let magnitude := (Nat.toDigits 10 m).length + e
  if m == 0 || magnitude < -400 then 0
  else if magnitude > 400 then infinityBits
  else (Float.ofScientific m (e < 0) e.natAbs).toBits

def fraction : Reader (List Char) := do exactly ['.']; digits Char.isDigit

def exponent : Reader Int := do
  let _ ← char fun c => c == 'e' || c == 'E'
  let negative ← sign
  let n := number 10 (← digits Char.isDigit)
  return if negative then -(n : Int) else n

/-- A number with a fraction, an exponent, or both. Only downwards may it leave the range
of doubles: a number too large is refused, one too far below zero is minus infinity. -/
def decimalFloat : Reader UInt64 := do
  let negative ← sign
  let whole ← decimalDigits
  let after ← optional fraction
  let power ← optional exponent
  if after.isNone && power.isNone then failure
  let after := after.getD []
  let bits := nearestBits (number 10 (whole ++ after)) (power.getD 0 - after.length)
  if bits == infinityBits && !negative then failure
  return signed negative bits

def specialFloat : Reader UInt64 := do
  let negative ← sign
  let bits ← (do exactly "inf".toList; return infinityBits) <|>
    (do exactly "nan".toList; return nanBits)
  return signed negative bits

def float : Reader UInt64 := decimalFloat <|> specialFloat

end FeatureMatrix.Toml.Grammar
