import FeatureMatrix.Toml.Datetime
import Std.Data.ExtTreeMap

/-!
The values of a TOML document.
-/

namespace FeatureMatrix.Toml

/-- A value; a floating-point number is given by the bits of its IEEE 754 double. -/
inductive Value where
  | string (text : String)
  | integer (value : Int)
  | float (bits : UInt64)
  | boolean (value : Bool)
  | datetime (value : Datetime)
  | array (items : List Value)
  | table (entries : List (String × Value))
  deriving Inhabited

inductive Kind where
  | string | integer | float | boolean | datetime | array | table
  deriving DecidableEq, Repr

def Kind.name : Kind → String
  | string => "string"
  | integer => "integer"
  | float => "float"
  | boolean => "boolean"
  | datetime => "datetime"
  | array => "array"
  | table => "table"

namespace Value

def kind : Value → Kind
  | string _ => .string
  | integer _ => .integer
  | float _ => .float
  | boolean _ => .boolean
  | datetime _ => .datetime
  | array _ => .array
  | table _ => .table

def ofEntries (entries : List (String × Value)) : Value :=
  table (Std.ExtTreeMap.ofList entries compare).toList

/-- The entries of a table by key; nothing for another value. -/
def entries? : Value → Option (Std.ExtTreeMap String Value compare)
  | table entries => some (.ofList entries compare)
  | _ => none

def get? (v : Value) (key : String) : Option Value := v.entries?.bind (·[key]?)

end Value

end FeatureMatrix.Toml
