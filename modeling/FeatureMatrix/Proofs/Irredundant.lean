import FeatureMatrix.Proofs.RequiredGroup

/-!
Irredundant combinations: no member is listed by a member.

What a reduction leaves is irredundant, although it takes out features on the strength of others
that it takes out as well: what is left was listed by no feature of the selection, and so by none
of those that stay. An irredundant combination, on the other hand, is left as it is. So the
reductions are the irredundant combinations, and a plan lists no others. It lists all of those
that meet the required group themselves; others get in by way of a selection that meets it.
-/

namespace FeatureMatrix

namespace Combination

variable {table : FeatureTable} {s c : Combination}

/-- No member is listed by a member, be it another one or itself. -/
def Irredundant (table : FeatureTable) (c : Combination) : Prop :=
  ∀ x ∈ c, ∀ y ∈ c, ¬ table.Lists y x

instance : Decidable (c.Irredundant table) :=
  inferInstanceAs (Decidable (∀ x ∈ c, ∀ y ∈ c, ¬ table.Lists y x))

lemma irredundant_reduce : (s.reduce table).Irredundant table := by
  intro x hx y hy
  obtain ⟨-, hunlisted⟩ := mem_reduce.mp hx
  exact hunlisted y (mem_reduce.mp hy).1

lemma Irredundant.reduce_eq (h : c.Irredundant table) : c.reduce table = c := by
  ext x
  rw [mem_reduce]
  exact and_iff_left_of_imp (h x)

end Combination

namespace Plan

open Combination

variable {table : FeatureTable} {settings : Settings} {plan : Plan} {c : Combination}

lemma mem_retained (h : make table settings = .ok plan) (hc : c ∈ plan.combinations) :
    ∀ x ∈ c, x ∈ plan.retained := by
  obtain ⟨s, hs, -, rfl⟩ := (mem_combinations h).mp hc
  intro x hx
  exact hs x (mem_reduce.mp hx).1

lemma irredundant_of_mem (h : make table settings = .ok plan) (hc : c ∈ plan.combinations) :
    c.Irredundant plan.retained := by
  obtain ⟨s, -, -, rfl⟩ := (mem_combinations h).mp hc
  exact irredundant_reduce

/-- An irredundant combination that qualifies is its own reduction, and so it is listed. -/
lemma mem_of_irredundant (h : make table settings = .ok plan) (hc : ∀ x ∈ c, x ∈ plan.retained)
    (hirr : c.Irredundant plan.retained) (hqualified : c.satisfies settings.require = true) :
    c ∈ plan.combinations :=
  (mem_combinations h).mpr ⟨c, hc, hqualified, hirr.reduce_eq⟩

/-- **Irredundant combinations, and all of them.** A plan lists irredundant combinations of
retained features, which a further reduction leaves as they are. Of these it lists all that
meet the required group, and simply all where nothing is required. -/
theorem combinations_irredundant (table : FeatureTable) (settings : Settings)
    (hsize : (table.selectable settings.exclude).card ≤ 64) :
    ∃ plan, make table settings = .ok plan ∧ plan.retained = table.retain settings.exclude ∧
      (∀ c ∈ plan.combinations, (∀ x ∈ c, x ∈ plan.retained) ∧ c.Irredundant plan.retained ∧
        c.reduce plan.retained = c) ∧
      (∀ c : Combination, (∀ x ∈ c, x ∈ plan.retained) → c.Irredundant plan.retained →
        c.satisfies settings.require = true → c ∈ plan.combinations) ∧
      (settings.require = ∅ → ∀ c : Combination,
        c ∈ plan.combinations ↔ (∀ x ∈ c, x ∈ plan.retained) ∧ c.Irredundant plan.retained) := by
  obtain ⟨plan, hplan, hretained⟩ := exists_make hsize
  have hsound : ∀ c ∈ plan.combinations,
      (∀ x ∈ c, x ∈ plan.retained) ∧ c.Irredundant plan.retained :=
    fun c hc => ⟨mem_retained hplan hc, irredundant_of_mem hplan hc⟩
  refine ⟨plan, hplan, hretained, fun c hc => ?_, fun c => mem_of_irredundant hplan, ?_⟩
  · obtain ⟨hmem, hirr⟩ := hsound c hc
    exact ⟨hmem, hirr, hirr.reduce_eq⟩
  · intro hrequire c
    refine ⟨hsound c, fun ⟨hmem, hirr⟩ => mem_of_irredundant hplan hmem hirr ?_⟩
    exact satisfies_iff.mpr (Or.inl hrequire)

/-- Of two features that list each other, either one is listed, but not both together. -/
theorem combinations_irredundant_knot : (FeatureTable.knot.selectable ∅).card ≤ 64 ∧
    ∃ plan, make .knot ⟨∅, ∅⟩ = .ok plan ∧ ({"a"} : Combination) ∈ plan.combinations ∧
      ({"b"} : Combination) ∈ plan.combinations ∧ ({"a", "b"} : Combination) ∉ plan.combinations := by
  have hsize : (FeatureTable.knot.selectable ∅).card ≤ 64 := by decide +kernel
  obtain ⟨plan, hplan, hretained, -, -, hexact⟩ :=
    combinations_irredundant .knot ⟨∅, ∅⟩ hsize
  have hiff := hexact rfl
  rw [hretained] at hiff
  refine ⟨hsize, plan, hplan, ?_⟩
  rw [hiff, hiff, hiff]
  decide +kernel

end Plan

end FeatureMatrix
