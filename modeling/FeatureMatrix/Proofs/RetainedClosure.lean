import FeatureMatrix.Proofs.Expansion

/-!
What a combination turns on, among the retained features and in the whole table.

The retained table has fewer ways along labels: those through excluded features are cut, and so are
those that end at a label which is no feature. All ways that are left are ways of the whole table.
The other way round, look at a way in the whole table that ends at a retained feature. Each of its
steps starts at a declared feature. If that is never an excluded one, and if no feature has a name
that is taken for a label of another kind, then each step is a step between retained features.
-/

namespace FeatureMatrix

open Relation

namespace FeatureTable

variable {table : FeatureTable} {exclude : NameSet} {x y : String}

/-- Every way among the retained features is a way of the whole table. -/
lemma leads_of_leads_retain (h : (table.retain exclude).Leads x y) : table.Leads x y :=
  h.lift id fun _ _ hlists => (lists_retain.mp hlists).2.1

/-- A way of the whole table that meets no excluded feature is a way among the retained ones. -/
lemma leads_retain_of_leads (hbare : ∀ name ∈ table, isBare name = true)
    (hfree : ∀ z, table.Leads x z → ¬ (z ∈ table ∧ z ∈ exclude)) (h : table.Leads x y)
    (hy : y ∈ table.retain exclude) : (table.retain exclude).Leads x y := by
  induction h with
  | refl => exact .refl
  | @tail z y hxz hlists ih =>
    have hz : z ∈ table.retain exclude :=
      mem_retain.mpr ⟨hlists.declared, fun hex => hfree z hxz ⟨hlists.declared, hex⟩⟩
    obtain ⟨hdeclared, hret⟩ := mem_retain.mp hy
    have hstep : (table.retain exclude).Lists z y :=
      lists_retain.mpr ⟨(mem_retain.mp hz).2, hlists, hbare y hdeclared, hdeclared, hret⟩
    exact (ih hz).tail hstep

end FeatureTable

namespace Combination

/-- **Expansion among the retained features.** A combination of retained features turns on retained
features only, and only such as it turns on in the whole table. It turns on all of these that are
retained if no declared name looks like a label of another kind, and if in the whole table it turns
on no feature that is declared and excluded. -/
theorem expand_retain (table : FeatureTable) (exclude : NameSet) (s : Combination)
    (hs : ∀ x ∈ s, x ∈ table.retain exclude) :
    (∀ x ∈ s.expand (table.retain exclude), x ∈ table.retain exclude) ∧
    (∀ x ∈ s.expand (table.retain exclude), x ∈ s.expand table) ∧
    ((∀ name ∈ table, FeatureTable.isBare name = true) →
      (∀ x ∈ s.expand table, ¬ (x ∈ table ∧ x ∈ exclude)) →
      ∀ x, x ∈ s.expand (table.retain exclude) ↔
        x ∈ s.expand table ∧ x ∈ table.retain exclude) := by
  have hretained : ∀ x ∈ s.expand (table.retain exclude), x ∈ table.retain exclude :=
    fun x => mem_retain_of_mem_expand hs
  have hsubset : ∀ x ∈ s.expand (table.retain exclude), x ∈ s.expand table := by
    intro x hx
    obtain ⟨m, hm, hmx⟩ := mem_expand.mp hx
    exact mem_expand.mpr ⟨m, hm, FeatureTable.leads_of_leads_retain hmx⟩
  refine ⟨hretained, hsubset, fun hbare hfree x => ⟨fun hx => ⟨hsubset x hx, hretained x hx⟩, ?_⟩⟩
  rintro ⟨hx, hret⟩
  obtain ⟨m, hm, hmx⟩ := mem_expand.mp hx
  have hway : ∀ z, table.Leads m z → ¬ (z ∈ table ∧ z ∈ exclude) :=
    fun z hmz => hfree z (mem_expand.mpr ⟨m, hm, hmz⟩)
  exact mem_expand.mpr ⟨m, hm, FeatureTable.leads_retain_of_leads hbare hway hmx hret⟩

/-- Features with labels of other kinds, and one that bundles two of them. -/
def bundled : FeatureTable := .ofList [("a", {"dep:b"}), ("b", {"a", "c/std", "gone"}),
  ("c", {"full"}), ("full", {"a", "b"})]

/-- The bundle is excluded and is not turned on; the other excluded name is turned on, but is not
declared. -/
theorem expand_retain_bundled :
    (∀ x ∈ ({"b"} : Combination), x ∈ bundled.retain {"full", "gone"}) ∧
    (∀ name ∈ bundled, FeatureTable.isBare name = true) ∧
    (∀ x ∈ expand bundled {"b"}, ¬ (x ∈ bundled ∧ x ∈ ({"full", "gone"} : NameSet))) ∧
    ∀ x, x ∈ expand (bundled.retain {"full", "gone"}) {"b"} ↔
      x ∈ expand bundled {"b"} ∧ x ∈ bundled.retain {"full", "gone"} := by
  have hs : ∀ x ∈ ({"b"} : Combination), x ∈ bundled.retain {"full", "gone"} := by decide +kernel
  have hkeys : ∀ name ∈ bundled.keys, FeatureTable.isBare name = true := by decide +kernel
  have hbare : ∀ name ∈ bundled, FeatureTable.isBare name = true :=
    fun name h => hkeys name (Std.ExtTreeMap.mem_keys.mpr h)
  have hclosed : ∀ x ∈ ({"a", "b", "dep:b", "c/std", "gone"} : NameSet), ∀ y ∈ bundled.labels x,
      y ∈ ({"a", "b", "dep:b", "c/std", "gone"} : NameSet) := by decide +kernel
  have hout : ∀ x ∈ ({"a", "b", "dep:b", "c/std", "gone"} : NameSet),
      ¬ (x ∈ bundled ∧ x ∈ ({"full", "gone"} : NameSet)) := by decide +kernel
  have hfree : ∀ x ∈ expand bundled {"b"}, ¬ (x ∈ bundled ∧ x ∈ ({"full", "gone"} : NameSet)) := by
    intro x hx
    obtain ⟨m, hm, hmx⟩ := mem_expand.mp hx
    obtain rfl := NameSet.mem_singleton_iff.mp hm
    exact hout x (FeatureTable.Closed.leads hclosed (by decide +kernel) hmx)
  exact ⟨hs, hbare, hfree, (expand_retain bundled {"full", "gone"} {"b"} hs).2.2 hbare hfree⟩

end Combination

end FeatureMatrix
