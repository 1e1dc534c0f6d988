import FeatureMatrix.Combination.Reduction
import FeatureMatrix.Proofs.NameSets
import Mathlib.Logic.Relation
import Mathlib.Tactic.Tauto

/-!
Which feature lists which, as a relation, and what retaining and reducing mean in its terms: a
retained feature lists the bare labels of retained features, and a reduction keeps the members
that no member lists.
-/

namespace FeatureMatrix

open Relation

namespace FeatureTable

variable {table table' : FeatureTable} {exclude : NameSet} {x y z : String}

/-- The feature `x` is declared and lists the label `y`. -/
def Lists (table : FeatureTable) (x y : String) : Prop := y ∈ table.labels x

instance : Decidable (table.Lists x y) := inferInstanceAs (Decidable (y ∈ table.labels x))

/-- Labels can be followed from one feature to the other, in no step or in several. -/
abbrev Leads (table : FeatureTable) : String → String → Prop := ReflTransGen table.Lists

lemma lists_iff : table.Lists x y ↔ ∃ listed, table[x]? = some listed ∧ y ∈ listed := by
  unfold Lists labels
  rw [Std.ExtTreeMap.getD_eq_getD_getElem?]
  cases h : table[x]? with
  | none => simp
  | some listed => simp

lemma Lists.declared (h : table.Lists x y) : x ∈ table := by
  obtain ⟨listed, hx, -⟩ := lists_iff.mp h
  rw [Std.ExtTreeMap.mem_iff_isSome_getElem?, hx, Option.isSome_some]

/-- A table is settled by its features and what they list. -/
lemma eq_of_lists (hmem : ∀ x, x ∈ table ↔ x ∈ table')
    (hlists : ∀ x y, table.Lists x y ↔ table'.Lists x y) : table = table' := by
  refine Std.ExtTreeMap.ext_getElem? fun x => ?_
  have hx := hmem x
  have hlx := hlists x
  simp only [lists_iff] at hlx
  rw [Std.ExtTreeMap.mem_iff_isSome_getElem?, Std.ExtTreeMap.mem_iff_isSome_getElem?] at hx
  cases h : table[x]? with
  | none =>
    cases h' : table'[x]? with
    | none => rfl
    | some listed' => simp [h, h'] at hx
  | some listed =>
    cases h' : table'[x]? with
    | none => simp [h, h'] at hx
    | some listed' =>
      simp only [h, h', Option.some.injEq, exists_eq_left'] at hlx
      exact congrArg some (Std.ExtTreeSet.ext_mem fun y => hlx y)

instance {p : String → Prop} [DecidablePred p] : Decidable (∀ x ∈ table, p x) :=
  decidable_of_iff (∀ x ∈ table.keys, p x) <| by simp only [Std.ExtTreeMap.mem_keys]

/-- Only a declared feature can list itself. -/
lemma not_lists_self (h : ∀ x ∈ table.keys, ¬ table.Lists x x) (x : String) :
    ¬ table.Lists x x :=
  fun hx => h x (Std.ExtTreeMap.mem_keys.mpr hx.declared) hx

/-- Two features that list each other. -/
def knot : FeatureTable := .ofList [("a", {"b"}), ("b", {"a"})]

/-- Three features, of which each but the first lists the one before. -/
def chain : FeatureTable := .ofList [("a", ∅), ("b", {"a"}), ("c", {"b"})]

/-- The same three beside two features that list each other. -/
def chainBesideKnot : FeatureTable :=
  .ofList [("a", ∅), ("b", {"a"}), ("c", {"b"}), ("x", {"y"}), ("y", {"x"})]

/-! ### Retained features -/

lemma isBare_iff : isBare y = true ↔ ¬ "dep:".toList <+: y.toList ∧ '/' ∉ y.toList := by
  simp [isBare, ← List.isPrefixOf_iff_prefix]

lemma getElem?_retain_of_mem (h : x ∈ exclude) : (table.retain exclude)[x]? = none := by
  unfold retain
  rw [Std.ExtTreeMap.getElem?_map, Std.ExtTreeMap.getElem?_filter',
    Std.ExtTreeSet.mem_iff_contains.mp h]
  cases table[x]? <;> rfl

lemma getElem?_retain_of_not_mem (h : x ∉ exclude) :
    (table.retain exclude)[x]? = table[x]?.map fun listed => listed.filter fun label =>
      isBare label && table.contains label && !exclude.contains label := by
  unfold retain
  rw [Std.ExtTreeMap.getElem?_map, Std.ExtTreeMap.getElem?_filter',
    NameSet.contains_eq_false_iff.mpr h]
  cases table[x]? <;> rfl

lemma mem_retain : x ∈ table.retain exclude ↔ x ∈ table ∧ x ∉ exclude := by
  rw [Std.ExtTreeMap.mem_iff_isSome_getElem?, Std.ExtTreeMap.mem_iff_isSome_getElem?]
  by_cases h : x ∈ exclude
  · simp [getElem?_retain_of_mem h, h]
  · simp [getElem?_retain_of_not_mem h, h]

/-- What is retained of a list: the bare labels of retained features. -/
lemma lists_retain :
    (table.retain exclude).Lists x y ↔
      x ∉ exclude ∧ table.Lists x y ∧ isBare y = true ∧ y ∈ table ∧ y ∉ exclude := by
  rw [lists_iff, lists_iff]
  by_cases h : x ∈ exclude
  · simp [getElem?_retain_of_mem h, h]
  · rw [getElem?_retain_of_not_mem h]
    cases table[x]? with
    | none => simp
    | some listed =>
      simp [h, NameSet.contains_eq_false_iff]
      tauto

/-- Excluding more features takes out these, -/
lemma mem_retain_union {more : NameSet} :
    x ∈ table.retain (exclude ∪ more) ↔ x ∈ table.retain exclude ∧ x ∉ more := by
  simp only [mem_retain, Std.ExtTreeSet.mem_union_iff]
  tauto

/-- and with them what they list and where they are listed. -/
lemma lists_retain_union {more : NameSet} :
    (table.retain (exclude ∪ more)).Lists x y ↔
      (table.retain exclude).Lists x y ∧ x ∉ more ∧ y ∉ more := by
  simp only [lists_retain, Std.ExtTreeSet.mem_union_iff]
  tauto

lemma mem_retain_of_lists (h : (table.retain exclude).Lists x y) : y ∈ table.retain exclude := by
  obtain ⟨-, -, -, hy, hret⟩ := lists_retain.mp h
  exact mem_retain.mpr ⟨hy, hret⟩

lemma mem_of_leads_retain (hx : x ∈ table.retain exclude)
    (hxy : (table.retain exclude).Leads x y) : y ∈ table.retain exclude := by
  cases hxy with
  | refl => exact hx
  | tail _ hlists => exact mem_retain_of_lists hlists

end FeatureTable

namespace Combination

variable {table : FeatureTable} {c : Combination} {x : String}

/-! ### Reduction -/

lemma mem_foldl_union {l : List String} {found : NameSet} :
    x ∈ l.foldl (fun found name => found ∪ table.labels name) found ↔
      x ∈ found ∨ ∃ m ∈ l, table.Lists m x := by
  induction l generalizing found with
  | nil => simp
  | cons m l ih =>
    simp only [List.foldl_cons, ih, Std.ExtTreeSet.mem_union_iff, List.mem_cons, exists_eq_or_imp,
      or_assoc]
    rfl

lemma mem_listed : x ∈ listed table c ↔ ∃ m ∈ c, table.Lists m x := by
  unfold listed
  rw [Std.ExtTreeSet.foldl_eq_foldl_toList, mem_foldl_union]
  simp

/-- What no member lists is kept. -/
lemma mem_reduce : x ∈ reduce table c ↔ x ∈ c ∧ ∀ m ∈ c, ¬ table.Lists m x := by
  unfold reduce
  rw [NameSet.mem_filter_iff, Bool.not_eq_true', NameSet.contains_eq_false_iff, mem_listed]
  simp

/-- A reduction looks at the labels between members only. -/
lemma reduce_congr {table' : FeatureTable}
    (h : ∀ x ∈ c, ∀ y ∈ c, table.Lists x y ↔ table'.Lists x y) :
    c.reduce table = c.reduce table' := by
  ext x
  rw [mem_reduce, mem_reduce]
  refine and_congr_right fun hx => forall₂_congr fun m hm => ?_
  exact not_congr (h m hm x hx)

lemma reduce_empty : reduce table ∅ = ∅ := by
  refine NameSet.eq_empty_iff.mpr ?_
  intro x hx
  exact Std.ExtTreeSet.not_mem_empty (mem_reduce.mp hx).1

end Combination

end FeatureMatrix
