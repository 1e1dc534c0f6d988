import FeatureMatrix.Combination

/-!
Combinations as a JSON array of arrays of strings, without a blank. Quotes, backslashes and
control characters are escaped, all else is written as it is.
-/

namespace FeatureMatrix.Output.Json

def escape (c : Char) : List Char :=
  match c with
  | '"' => ['\\', '"']
  | '\\' => ['\\', '\\']
  | '\x08' => ['\\', 'b']
  | '\t' => ['\\', 't']
  | '\n' => ['\\', 'n']
  | '\x0c' => ['\\', 'f']
  | '\r' => ['\\', 'r']
  | _ =>
    if c.toNat < 0x20 then
      ['\\', 'u', '0', '0', Nat.digitChar (c.toNat / 16), Nat.digitChar (c.toNat % 16)]
    else [c]

def string (s : String) : List Char := '"' :: s.toList.flatMap escape ++ ['"']

/-- An array of texts that are JSON already. -/
def array (items : List (List Char)) : List Char := '[' :: [','].intercalate items ++ [']']

def combination (c : Combination) : List Char := array (c.toList.map string)

def text (cs : List Combination) : String := String.ofList (array (cs.map combination))

end FeatureMatrix.Output.Json
