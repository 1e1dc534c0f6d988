import FeatureMatrix.Toml.Grammar.Moment
import FeatureMatrix.Toml.Grammar.Number
import FeatureMatrix.Toml.Tree

/-!
Values of a TOML document. Arrays and inline tables hold values of one level less, and
below the deepest level neither is read.
-/

namespace FeatureMatrix.Toml.Grammar

open FeatureMatrix.Text FeatureMatrix.Text.Reader

def boolean : Reader Bool :=
  (do exactly "true".toList; return true) <|> (do exactly "false".toList; return false)

/-- What begins with none of the marks of strings, arrays and tables. -/
def scalar : Reader Value :=
  (do return .datetime (← moment)) <|>
  (do return .float (← float)) <|>
  (do return .integer (← integer)) <|>
  (do return .boolean (← boolean))

/-- Items with commas between, over as many lines as one likes; one more comma may follow
the last item. -/
def array (item : Reader Node) : Reader Node := do
  exactly ['[']
  let items ← optional do
    let items ← separated (do gap; let v ← item; gap; return v) (exactly [','])
    let _ ← optional (exactly [','])
    return items
  gap
  exactly [']']
  return .array (items.getD [])

def pair (item : Reader Node) : Reader (List String × Node) := do
  let path ← dottedKey
  exactly ['=']
  spaces
  let v ← item
  spaces
  return (path, v)

/-- Pairs with commas between, all on one line. -/
def inlineTable (item : Reader Node) : Reader Node := do
  exactly ['\x7b']
  let pairs ← optional (separated (pair item) (exactly [',']))
  spaces
  exactly ['\x7d']
  let entries ← liftM ((pairs.getD []).foldlM (fun es (p, v) => Entries.put es p v) [])
  return .inline entries

def plain : Reader Node := do return .scalar (← (do return .string (← string)) <|> scalar)

/-- A value that nests at most `depth` levels. -/
def value : (depth : Nat) → Reader Node
  | 0 => plain
  | depth + 1 => do
    match ← peek with
    | some '[' => array (value depth)
    | some '\x7b' => inlineTable (value depth)
    | _ => plain

end FeatureMatrix.Toml.Grammar
