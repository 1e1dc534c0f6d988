import FeatureMatrix.Toml.Grammar.Value
import FeatureMatrix.Toml.Meaning

/-!
A TOML document: lines of pairs, and headers that say where the pairs after them belong.
-/

namespace FeatureMatrix.Toml

open FeatureMatrix.Text FeatureMatrix.Text.Reader Grammar

/-- Where the pairs of a section belong. -/
inductive Header where
  | top
  | table (path : List String)
  /-- A new element of an array of tables. -/
  | element (path : List String)

structure Section where
  header : Header
  pairs : List (List String × Node)

/-! ### Reading -/

def lineEnd : Reader Unit := do
  spaces
  let _ ← optional comment
  newline <|> atEnd

def blankLines : Reader Unit := do
  let _ ← many (do spaces; let _ ← optional comment; newline)
  spaces

def header : Reader Header :=
  (do
    exactly ['[', '[']
    let path ← dottedKey
    exactly [']', ']']
    lineEnd
    return .element path) <|>
  (do
    exactly ['[']
    let path ← dottedKey
    exactly [']']
    lineEnd
    return .table path)

def pairLines : Reader (List (List String × Node)) :=
  many (do blankLines; let p ← pair (value maxDepth); lineEnd; return p)

/-- The sections of a document; the first has no header. A byte order mark may come first. -/
def sections : Reader (List Section) := do
  let _ ← optional (exactly ['\ufeff'])
  let first ← pairLines
  let others ← many (do blankLines; let h ← header; return ⟨h, ← pairLines⟩)
  blankLines
  let _ ← optional comment
  atEnd
  return ⟨.top, first⟩ :: others

/-! ### Placing -/

def Section.fill (s : Section) (entries : Entries) : Option Entries :=
  s.pairs.foldlM (fun es (path, v) => es.put path v) entries

/-- The document so far with one more section. A table has one header, though a header
below it may come first; then the table moves behind the others. An array grows only by
headers of its own kind. -/
def Section.place (document : Entries) (s : Section) : Option Entries :=
  match s.header with
  | .top => s.fill document
  | .table path =>
    document.changeAt path fun key entries => do
      let begun ← match entries.lookup key with
        | none => some []
        | some (.table .passage begun) => some begun
        | some _ => none
      return entries.setLast key (.table .header (← s.fill begun))
  | .element path =>
    document.changeAt path fun key entries => do
      let closed ← match entries.lookup key with
        | none => some []
        | some (.elements closed last) => some (closed ++ [last])
        | some _ => none
      return entries.set key (.elements closed (← s.fill []))

/-- The value a document stands for; nothing if the text is no document. -/
def read? (text : String) : Option Value := do
  tableValue? (← (← whole sections text.toList).foldlM Section.place [])

end FeatureMatrix.Toml
