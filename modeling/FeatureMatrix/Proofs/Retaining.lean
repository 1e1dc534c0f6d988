import FeatureMatrix.Proofs.Dependencies

/-!
What retaining features comes to when it is done more than once.

A retained table can be selected from as it is: none of its features is excluded, and each of its
labels leads to one of its features. It is the largest part of the table of which this can be said.
One pass over the labels is enough for that, because no feature goes when a label goes, and so no
label loses what it leads to.

The rest follows from that. To be free of two sets of names is to be free of both together, so the
largest part of the largest part is the largest part for the two sets. And a table that can be
selected from as it is, is its own largest part.
-/

namespace FeatureMatrix.FeatureTable

variable {table part rest : FeatureTable} {exclude more : NameSet} {x : String}

/-! ### Parts of a table -/

/-- All features of the one table are in the other, and so is all that they list. -/
structure Within (part table : FeatureTable) : Prop where
  declared : ∀ x ∈ part, x ∈ table
  lists : ∀ x y, part.Lists x y → table.Lists x y

namespace Within

instance : Decidable (part.Within table) :=
  decidable_of_iff ((∀ x ∈ part, x ∈ table) ∧ ∀ x ∈ part, ∀ y ∈ part.labels x, table.Lists x y)
    ⟨fun h => ⟨h.1, fun x y hxy => h.2 x hxy.declared y hxy⟩,
      fun h => ⟨h.declared, fun x _ y hxy => h.lists x y hxy⟩⟩

lemma refl (table : FeatureTable) : table.Within table := ⟨fun _ h => h, fun _ _ h => h⟩

lemma trans (h : rest.Within part) (h' : part.Within table) : rest.Within table :=
  ⟨fun x hx => h'.declared x (h.declared x hx), fun x y hxy => h'.lists x y (h.lists x y hxy)⟩

lemma antisymm (h : part.Within table) (h' : table.Within part) : part = table :=
  eq_of_lists (fun x => ⟨h.declared x, h'.declared x⟩) fun x y => ⟨h.lists x y, h'.lists x y⟩

end Within

/-! ### Tables that can be selected from -/

/-- Each label names a feature of the table, and neither begins with `dep:` nor holds a slash. -/
def SelfContained (table : FeatureTable) : Prop :=
  ∀ x y, table.Lists x y → y ∈ table ∧ ¬ "dep:".toList <+: y.toList ∧ '/' ∉ y.toList

instance : Decidable table.SelfContained :=
  decidable_of_iff (∀ x ∈ table, ∀ y ∈ table.labels x,
      y ∈ table ∧ ¬ "dep:".toList <+: y.toList ∧ '/' ∉ y.toList)
    ⟨fun h x y hxy => h x hxy.declared y hxy, fun h x _ y hxy => h x y hxy⟩

lemma selfContained_retain : (table.retain exclude).SelfContained := by
  intro x y hxy
  obtain ⟨-, -, hbare, -, -⟩ := lists_retain.mp hxy
  exact ⟨mem_retain_of_lists hxy, isBare_iff.mp hbare⟩

lemma not_mem_of_mem_retain (h : x ∈ table.retain exclude) : x ∉ exclude := (mem_retain.mp h).2

lemma retain_within : (table.retain exclude).Within table :=
  ⟨fun _ hx => (mem_retain.mp hx).1, fun _ _ hxy => (lists_retain.mp hxy).2.1⟩

/-- No part of the table that can be selected from holds more than the retained features do. -/
lemma within_retain (h : part.Within table) (hfree : ∀ x ∈ part, x ∉ exclude)
    (hself : part.SelfContained) : part.Within (table.retain exclude) := by
  refine ⟨fun x hx => mem_retain.mpr ⟨h.declared x hx, hfree x hx⟩, fun x y hxy => ?_⟩
  obtain ⟨hy, hbare⟩ := hself x y hxy
  exact lists_retain.mpr ⟨hfree x hxy.declared, h.lists x y hxy, isBare_iff.mpr hbare,
    h.declared y hy, hfree y hy⟩

/-! ### Retaining more than once -/

lemma retain_retain : (table.retain exclude).retain more = table.retain (exclude ∪ more) := by
  apply Within.antisymm
  · -- what is left in two passes is free of both sets
    refine within_retain (retain_within.trans retain_within) (fun x hx => ?_) selfContained_retain
    have hfirst : x ∈ table.retain exclude := retain_within.declared x hx
    exact NameSet.not_mem_union_iff.mpr
      ⟨not_mem_of_mem_retain hfirst, not_mem_of_mem_retain hx⟩
  · -- what is left in one pass stays in the first of two, and then in the second
    have hfree : ∀ x ∈ table.retain (exclude ∪ more), x ∉ exclude ∧ x ∉ more :=
      fun x hx => NameSet.not_mem_union_iff.mp (not_mem_of_mem_retain hx)
    have hfirst : (table.retain (exclude ∪ more)).Within (table.retain exclude) :=
      within_retain retain_within (fun x hx => (hfree x hx).1) selfContained_retain
    exact within_retain hfirst (fun x hx => (hfree x hx).2) selfContained_retain

lemma retain_eq_self_iff :
    table.retain exclude = table ↔ (∀ x ∈ table, x ∉ exclude) ∧ table.SelfContained := by
  constructor
  · intro h
    rw [← h]
    exact ⟨fun x => not_mem_of_mem_retain, selfContained_retain⟩
  · rintro ⟨hfree, hself⟩
    exact retain_within.antisymm (within_retain (.refl table) hfree hself)

/-- **Retaining composes.** The retained table is the largest part of the table that is free of
excluded features and in which each label stands for a feature. Retaining twice is retaining once
with both sets of names excluded, so that a second time changes nothing and the order of the sets
does not matter. A table stays as it is just when it is free of excluded features and each of its
labels stands for one of its features. -/
theorem retain_composes (table : FeatureTable) (exclude more : NameSet) :
    (table.retain exclude).retain more = table.retain (exclude ∪ more) ∧
    (table.retain exclude).retain exclude = table.retain exclude ∧
    (table.retain exclude).retain more = (table.retain more).retain exclude ∧
    (table.retain exclude).SelfContained ∧
    (table.retain exclude = table ↔ (∀ x ∈ table, x ∉ exclude) ∧ table.SelfContained) ∧
    (table.retain exclude).Within table ∧
    ∀ part : FeatureTable, part.Within table → (∀ x ∈ part, x ∉ exclude) → part.SelfContained →
      part.Within (table.retain exclude) := by
  refine ⟨retain_retain, ?_, ?_, selfContained_retain, retain_eq_self_iff, retain_within,
    fun part => within_retain⟩
  · exact retain_eq_self_iff.mpr ⟨fun x => not_mem_of_mem_retain, selfContained_retain⟩
  · rw [retain_retain, retain_retain, NameSet.union_comm]

/-- A declared name that looks like a label of another kind, listed by one feature, and a bundle
that is listed and lists itself. -/
def mixed : FeatureTable := .ofList [("a", {"b", "dep:x", "full"}), ("b", {"a", "gone", "x/std"}),
  ("dep:x", ∅), ("full", {"a", "b", "full"})]

/-- Two features that list each other are a part of it which can be selected from. -/
theorem retain_composes_mixed :
    (mixed.retain {"full"}).retain {"dep:x"} = mixed.retain ({"full"} ∪ {"dep:x"}) ∧
    knot.Within mixed ∧ (∀ x ∈ knot, x ∉ ({"full"} : NameSet)) ∧ knot.SelfContained ∧
    knot.Within (mixed.retain {"full"}) ∧ knot.retain {"full"} = knot := by
  have hpart : knot.Within mixed := by decide +kernel
  have hfree : ∀ x ∈ knot, x ∉ ({"full"} : NameSet) := by decide +kernel
  have hself : knot.SelfContained := by decide +kernel
  obtain ⟨htwice, -, -, -, -, -, hlargest⟩ := retain_composes mixed {"full"} {"dep:x"}
  obtain ⟨-, -, -, -, hfixed, -⟩ := retain_composes knot {"full"} ∅
  exact ⟨htwice, hpart, hfree, hself, hlargest knot hpart hfree hself,
    hfixed.mpr ⟨hfree, hself⟩⟩

end FeatureMatrix.FeatureTable
