import FeatureMatrix.Toml.Value

/-!
The tables of a document while it is read. A document may come back to a table, but only
in the way it began it, so each table keeps how it came about: by a header of its own, on
the way to a header below it, or on the way along a dotted key.
-/

namespace FeatureMatrix.Toml

inductive Origin where
  /-- By a header of its own. -/
  | header
  /-- On the way to a header below it; a header of its own may follow. -/
  | passage
  /-- Along a dotted key; more such keys may follow in the same section. -/
  | dotted
  deriving DecidableEq, Repr

/-- What a key stands for so far. -/
inductive Node where
  | scalar (value : Value)
  | array (items : List Node)
  /-- A table on one line, which is complete. -/
  | inline (entries : List (String × Node))
  | table (origin : Origin) (entries : List (String × Node))
  /-- The elements of an array written by headers. Only the last is still open. -/
  | elements (closed : List (List (String × Node))) (last : List (String × Node))

/-- The entries of an open table, in the order written. -/
abbrev Entries := List (String × Node)

namespace Entries

/-- Sets the entry at `key`, where it stands or else at the end. -/
def set (key : String) (node : Node) : Entries → Entries
  | [] => [(key, node)]
  | (k, n) :: rest => if k == key then (k, node) :: rest else (k, n) :: set key node rest

/-- Sets the entry at `key`, which moves to the end. -/
def setLast (key : String) (node : Node) (entries : Entries) : Entries :=
  entries.filter (·.1 != key) ++ [(key, node)]

/-- Puts a node under a dotted key. The tables on the way are made as needed; those found
may not have a header of their own, and the last of them must be the work of dotted keys.
No key is given twice. -/
def put (entries : Entries) (path : List String) (node : Node) : Option Entries :=
  match path with
  | [] => none
  | [key] => if (entries.lookup key).isSome then none else some (set key node entries)
  | key :: path@(_ :: below) =>
    match entries.lookup key with
    | none => (put [] path node).map fun inner => set key (.table .dotted inner) entries
    | some (.table .dotted inner) =>
      (put inner path node).map fun inner => set key (.table .dotted inner) entries
    | some (.table .passage inner) =>
      if below.isEmpty then none
      else (put inner path node).map fun inner => set key (.table .passage inner) entries
    | some (.elements closed last) =>
      if below.isEmpty then none
      else (put last path node).map fun last => set key (.elements closed last) entries
    | some _ => none

/-- Changes the table that a header's path leads to, at the last key. On the way an array
leads on from its last element, and tables are made as needed. -/
def changeAt (entries : Entries) (path : List String) (change : String → Entries → Option Entries) :
    Option Entries :=
  match path with
  | [] => none
  | [key] => change key entries
  | key :: path =>
    match entries.lookup key with
    | none => (changeAt [] path change).map fun inner => set key (.table .passage inner) entries
    | some (.table origin inner) =>
      (changeAt inner path change).map fun inner => set key (.table origin inner) entries
    | some (.elements closed last) =>
      (changeAt last path change).map fun last => set key (.elements closed last) entries
    | some _ => none

end Entries

end FeatureMatrix.Toml
