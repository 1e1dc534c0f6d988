import FeatureMatrix.Manifest
import FeatureMatrix.Proofs.Outcomes
import Mathlib.Tactic.SplitIfs

/-!
Tables and lists of names in a manifest.

A key leads on from a table that has it, and from nothing else. A list of names is an array of
strings. Its items are looked at in order, so what keeps a value from being one is its type, or
else the type of the first item that is no string.
-/

namespace FeatureMatrix

namespace Toml.Value

variable {v : Value} {key : String} {path : List String}

/-! ### Following keys -/

/-- The value to which the keys lead one after the other, from table to table. -/
def at? (v : Value) : List String → Option Value
  | [] => some v
  | key :: path => (v.get? key).bind (·.at? path)

lemma at?_append {path' : List String} :
    v.at? (path ++ path') = (v.at? path).bind (·.at? path') := by
  induction path generalizing v with
  | nil => rfl
  | cons key path ih =>
    rw [List.cons_append, at?, at?, Option.bind_assoc]
    exact congrArg _ (funext fun _ => ih)

lemma at?_concat : v.at? (path ++ [key]) = (v.at? path).bind (·.get? key) := by
  simp [at?_append, at?]

lemma entries?_eq_none_iff : v.entries? = none ↔ v.kind ≠ .table := by
  cases v <;> simp [entries?, kind]

/-- The value is no table, or a table without the key. -/
def Lacks (v : Value) (key : String) : Prop :=
  v.kind ≠ .table ∨ ∃ entries, v.entries? = some entries ∧ key ∉ entries

lemma get?_eq_none_iff : v.get? key = none ↔ v.Lacks key := by
  rw [get?, Lacks, ← entries?_eq_none_iff]
  cases v.entries? <;> simp

lemma kind_of_get? {w : Value} (h : v.get? key = some w) : v.kind = .table := by
  by_contra hkind
  rw [get?_eq_none_iff.mpr (Or.inl hkind)] at h
  cases h

/-- Keys lead nowhere just when one of them is lacking where it is followed. -/
lemma at?_eq_none_iff : v.at? path = none ↔ ∃ front key rest reached,
    path = front ++ key :: rest ∧ v.at? front = some reached ∧ reached.Lacks key := by
  simp only [← get?_eq_none_iff]
  constructor
  · intro h
    induction path generalizing v with
    | nil => cases h
    | cons key path ih =>
      cases hkey : v.get? key with
      | none => exact ⟨[], key, path, v, rfl, rfl, hkey⟩
      | some w =>
        rw [at?, hkey, Option.bind_some] at h
        obtain ⟨front, key', rest, reached, rfl, hfront, hlacks⟩ := ih h
        refine ⟨key :: front, key', rest, reached, rfl, ?_, hlacks⟩
        rw [at?, hkey, Option.bind_some, hfront]
  · rintro ⟨front, key, rest, reached, rfl, hfront, hlacks⟩
    rw [at?_append, hfront, Option.bind_some, at?, hlacks, Option.bind_none]

end Toml.Value

namespace Manifest

open Toml (Value)

variable {v item : Value} {text : String} {texts : List String} {why : Mistyped}

/-! ### Lists of names -/

/-- The value is an array that contains only strings. -/
def IsNames (v : Value) : Prop :=
  ∃ items, v = .array items ∧ ∀ item ∈ items, item.kind = .string

/-- What keeps a value from being a list of names. -/
inductive NotNames : Value → Mistyped → Prop
  | notAList {v : Value} (h : v.kind ≠ .array) : NotNames v (.notAList v.kind)
  | notAName {before : List Value} {item : Value} {after : List Value}
      (hbefore : ∀ other ∈ before, other.kind = .string) (h : item.kind ≠ .string) :
      NotNames (.array (before ++ item :: after)) (.notAName item.kind)

lemma name_eq_ok_iff : name item = .ok text ↔ item = .string text := by
  cases item <;> simp [name]

lemma exists_name_iff : (∃ text, name item = .ok text) ↔ item.kind = .string := by
  cases item <;> simp [name, Value.kind]

lemma name_eq_error_iff :
    name item = .error why ↔ item.kind ≠ .string ∧ .notAName item.kind = why := by
  cases item <;> simp [name, Value.kind]

lemma names_eq_ok_iff : names v = .ok texts ↔ v = .array (texts.map .string) := by
  cases v with
  | array items =>
    rw [names, mapM_eq_ok_iff, Value.array.injEq]
    simp only [name_eq_ok_iff]
    rw [← List.forall₂_eq_eq_eq, List.forall₂_map_right_iff]
  | _ => simp [names]

lemma names_eq_error_iff : names v = .error why ↔ NotNames v why := by
  constructor
  · intro h
    cases v with
    | array items =>
      obtain ⟨before, item, after, rfl, hbefore, hitem⟩ := mapM_eq_error_iff.mp h
      obtain ⟨hkind, rfl⟩ := name_eq_error_iff.mp hitem
      exact .notAName (fun other hother => exists_name_iff.mp (hbefore other hother)) hkind
    | _ =>
      obtain rfl := Except.error.inj h
      exact .notAList nofun
  · rintro (h | ⟨hbefore, hitem⟩)
    · cases v with
      | array items => exact absurd rfl h
      | _ => rfl
    · refine mapM_eq_error_iff.mpr ⟨_, _, _, rfl, fun other hother => ?_, ?_⟩
      · exact exists_name_iff.mpr (hbefore other hother)
      · exact name_eq_error_iff.mpr ⟨hitem, rfl⟩

lemma isNames_iff : IsNames v ↔ ∃ texts, names v = .ok texts := by
  unfold IsNames
  cases v with
  | array items => simp [names, exists_mapM_eq_ok_iff, exists_name_iff]
  | _ => simp [names]

/-- Either a value is a list of names, or something keeps it from being one. -/
lemma not_isNames_iff : ¬ IsNames v ↔ ∃ why, NotNames v why := by
  simp only [isNames_iff, ← names_eq_error_iff]
  cases names v <;> simp

end Manifest

end FeatureMatrix
