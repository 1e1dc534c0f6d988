import FeatureMatrix.Text.Digits
import FeatureMatrix.Text.Reader

/-!
Blanks, comments, strings and keys of a TOML document.
-/

namespace FeatureMatrix.Toml.Grammar

open FeatureMatrix.Text FeatureMatrix.Text.Reader

/-! ### Between the words -/

def isSpace (c : Char) : Bool := c == ' ' || c == '\t'

def spaces : Reader Unit := do let _ ← run isSpace

def newline : Reader Unit := exactly ['\n'] <|> exactly ['\r', '\n']

/-- Tabs, and all that is no control character. -/
def isInline (c : Char) : Bool := c == '\t' || (0x20 ≤ c.toNat && c.toNat != 0x7f)

def comment : Reader Unit := do exactly ['#']; let _ ← run isInline

/-- Blanks, line ends and comments that a line end follows. -/
def gap : Reader Unit := do
  let _ ← many ((do let _ ← char isSpace) <|> newline <|> (do comment; newline))

/-! ### Strings -/

/-- A character given by `count` hexadecimal digits. -/
def codePoint (count : Nat) : Reader Char := do
  liftM (codePoint? (← (List.replicate count ()).mapM fun _ => char isHex))

/-- A backslash and what it stands for. -/
def escape : Reader Char := do
  exactly ['\\']
  match ← char fun _ => true with
  | 'b' => return '\x08'
  | 't' => return '\t'
  | 'n' => return '\n'
  | 'f' => return '\x0c'
  | 'r' => return '\r'
  | '"' => return '"'
  | '\\' => return '\\'
  | 'u' => codePoint 4
  | 'U' => codePoint 8
  | _ => failure

/-- A character that stands for itself between double quotes. -/
def isBasic (c : Char) : Bool := isInline c && c != '"' && c != '\\'

/-- A character that stands for itself between single quotes. -/
def isLiteral (c : Char) : Bool := isInline c && c != '\''

def basicString : Reader String := do
  exactly ['"']
  let cs ← many (char isBasic <|> escape)
  exactly ['"']
  return String.ofList cs

def literalString : Reader String := do
  exactly ['\'']
  let cs ← run isLiteral
  exactly ['\'']
  return String.ofList cs

/-- One or two quotes inside a string that three of them end. -/
def innerQuotes (quote : Char) : Reader (List Char) := do
  let quotes ← run (· == quote)
  if quotes.length == 1 || quotes.length == 2 then return quotes else failure

/-- The three quotes at the end, and up to two before them that still belong to the string. -/
def closingQuotes (quote : Char) : Reader (List Char) := do
  let quotes ← run (· == quote)
  if 3 ≤ quotes.length && quotes.length ≤ 5 then return quotes.drop 3 else failure

/-- A backslash at the end of a line joins it to the next text. -/
def lineJoin : Reader Unit := do
  exactly ['\\']
  spaces
  newline
  let _ ← many ((do let _ ← char isSpace) <|> newline)

/-- Between three quotes each: a line end at the start does not count, any other is one line
feed, and `piece` reads what is neither line end nor quote. -/
def multiline (quote : Char) (piece : Reader (List Char)) : Reader String := do
  exactly [quote, quote, quote]
  let _ ← optional newline
  let body ← many (piece <|> (do newline; return ['\n']) <|> innerQuotes quote)
  let last ← closingQuotes quote
  return String.ofList (body.flatten ++ last)

def multilineBasic : Reader String :=
  multiline '"' ((do return [← char isBasic]) <|> (do lineJoin; return []) <|>
    (do return [← escape]))

def multilineLiteral : Reader String := multiline '\'' (do return [← char isLiteral])

def string : Reader String :=
  multilineBasic <|> basicString <|> multilineLiteral <|> literalString

/-! ### Keys -/

def isBareKey (c : Char) : Bool := c.isAlphanum || c == '_' || c == '-'

def bareKey : Reader String := do
  let first ← char isBareKey
  let others ← run isBareKey
  return String.ofList (first :: others)

def simpleKey : Reader String := basicString <|> literalString <|> bareKey

/-- The most levels a document may nest, less one. -/
def maxDepth : Nat := 79

/-- A key or several of them with dots between. -/
def dottedKey : Reader (List String) := do
  let path ← separated (do spaces; let key ← simpleKey; spaces; return key) (exactly ['.'])
  if path.length ≤ maxDepth then return path else failure

end FeatureMatrix.Toml.Grammar
