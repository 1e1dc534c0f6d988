import FeatureMatrix.Toml.Grammar.Moment
import FeatureMatrix.Toml.Tree

/-!
What a tree stands for once the document has ended. A table that begins with a certain key
stands for a date or time, the one in the string at that key. What else is in such a table
does not count, but it stands for nothing if there is no such string.
-/

namespace FeatureMatrix.Toml

open FeatureMatrix.Text (Reader)

/-- The key a table begins with that stands for a date or time. -/
def datetimeKey : String := "$__toml_private_datetime"

/-- The date or time that a node gives as a string. -/
def Node.datetime? : Node → Option Value
  | .scalar (.string text) => (Reader.whole Grammar.moment text.toList).map .datetime
  | _ => none

mutual

def Node.value? : Node → Option Value
  | .scalar v => some v
  | .array items => do return .array (← itemValues? items)
  | .inline entries => tableValue? entries
  | .table _ entries => tableValue? entries
  | .elements closed last => do return .array ((← tableValues? closed) ++ [← tableValue? last])

def tableValue? : List (String × Node) → Option Value
  | [] => some (.table [])
  | (key, node) :: rest =>
    if key == datetimeKey then node.datetime?
    else do return .ofEntries ((key, ← node.value?) :: (← entryValues? rest))

def entryValues? : List (String × Node) → Option (List (String × Value))
  | [] => some []
  | (key, node) :: rest => do return (key, ← node.value?) :: (← entryValues? rest)

def itemValues? : List Node → Option (List Value)
  | [] => some []
  | item :: rest => do return (← item.value?) :: (← itemValues? rest)

def tableValues? : List (List (String × Node)) → Option (List Value)
  | [] => some []
  | entries :: rest => do return (← tableValue? entries) :: (← tableValues? rest)

end

end FeatureMatrix.Toml
