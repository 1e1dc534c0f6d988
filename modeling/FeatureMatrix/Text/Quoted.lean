import FeatureMatrix.Names
import FeatureMatrix.Text.Printable

/-!
Names as a log line shows them: quoted, with every character escaped that would not show
on its own, and lists and sets of such names in brackets and braces.
-/

namespace FeatureMatrix.Text

def escapeQuoted (c : Char) : List Char :=
  match c with
  | '"' => ['\\', '"']
  | '\\' => ['\\', '\\']
  | '\n' => ['\\', 'n']
  | '\r' => ['\\', 'r']
  | '\t' => ['\\', 't']
  | '\x00' => ['\\', '0']
  | _ => if isPrintable c then [c] else "\\u\x7b".toList ++ Nat.toDigits 16 c.toNat ++ ['}']

def quoted (s : String) : String :=
  String.ofList ('"' :: s.toList.flatMap escapeQuoted ++ ['"'])

def quotedList (names : List String) : String :=
  "[" ++ ", ".intercalate (names.map quoted) ++ "]"

def quotedSet (names : NameSet) : String :=
  "\x7b" ++ ", ".intercalate (names.toList.map quoted) ++ "\x7d"

end FeatureMatrix.Text
