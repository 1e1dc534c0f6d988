import FeatureMatrix.Proofs.Irredundant

/-!
How the list of a plan changes with the settings.

The required group decides which selections are looked at, and nothing else. So a larger group,
which more selections meet, never has a shorter list, and two groups together have the
combinations of both. The empty group is the largest in this respect: all selections meet it.

Excluding features takes out labels as well, so that a selection may reduce to something else.
But only labels from or to an excluded feature go, and a selection that does without these
features reduces as before.
-/

namespace FeatureMatrix.Plan

open Combination

variable {table : FeatureTable} {exclude more group group' : NameSet} {plan plan' : Plan}
  {c s : Combination}

lemma exists_make_of_card (hsize : (table.selectable exclude).card ≤ 64) (group : NameSet) :
    ∃ plan, make table ⟨exclude, group⟩ = .ok plan := by
  obtain ⟨plan, hplan, -⟩ : ∃ plan, make table ⟨exclude, group⟩ = .ok plan ∧
      plan.retained = table.retain exclude := exists_make hsize
  exact ⟨plan, hplan⟩

/-! ### The required group -/

/-- If the selections that meet one group meet another, nothing that is listed for the one is
missed for the other. -/
lemma combinations_sublist (h : make table ⟨exclude, group⟩ = .ok plan)
    (h' : make table ⟨exclude, group'⟩ = .ok plan')
    (hgroup : ∀ s : Combination, (∀ x ∈ s, x ∈ table.retain exclude) →
      s.satisfies group = true → s.satisfies group' = true) :
    plan.combinations.Sublist plan'.combinations := by
  refine sublist_of_precedes plan.combinations_precedes plan'.combinations_precedes fun c hc => ?_
  obtain ⟨s, hs, hqualified, hreduce⟩ := (mem_combinations_retain h).mp hc
  exact (mem_combinations_retain h').mpr ⟨s, hs, hgroup s hs hqualified, hreduce⟩

/-- A selection meets two groups together by meeting one of them, whatever it reduces to. -/
lemma mem_combinations_union {both : Plan} (h : make table ⟨exclude, group⟩ = .ok plan)
    (h' : make table ⟨exclude, group'⟩ = .ok plan')
    (hboth : make table ⟨exclude, group ∪ group'⟩ = .ok both) (hgroup : group ≠ ∅)
    (hgroup' : group' ≠ ∅) :
    c ∈ both.combinations ↔ c ∈ plan.combinations ∨ c ∈ plan'.combinations := by
  rw [mem_combinations_retain h, mem_combinations_retain h', mem_combinations_retain hboth]
  simp only [satisfies_union_iff hgroup, ← satisfies_iff_of_ne hgroup', or_and_right, and_or_left,
    exists_or]

/-- Names that cannot be selected do not help a selection to meet a group. -/
lemma satisfies_union_of_not_mem (hgroup : group ≠ ∅)
    (hmore : ∀ x ∈ more, x ∉ table.retain exclude) (hs : ∀ x ∈ s, x ∈ table.retain exclude) :
    s.satisfies (group ∪ more) = true ↔ s.satisfies group = true := by
  rw [satisfies_union_iff hgroup, or_iff_left_iff_imp]
  rintro ⟨x, hxs, hx⟩
  exact absurd (hs x hxs) (hmore x hx)

lemma combinations_union_of_not_mem {both : Plan}
    (h : make table ⟨exclude, group⟩ = .ok plan)
    (hboth : make table ⟨exclude, group ∪ more⟩ = .ok both) (hgroup : group ≠ ∅)
    (hmore : ∀ x ∈ more, x ∉ table.retain exclude) : both.combinations = plan.combinations := by
  refine List.Sublist.antisymm ?_ ?_
  · refine combinations_sublist hboth h fun s hs => ?_
    exact (satisfies_union_of_not_mem hgroup hmore hs).mp
  · refine combinations_sublist h hboth fun s hs => ?_
    exact (satisfies_union_of_not_mem hgroup hmore hs).mpr

/-- **The required group acts as a union.** Two groups, neither of them empty, together have the
combinations of both, each once and in order. Names that are not declared or are excluded add
nothing to a group that is not empty; other names may add combinations, and never remove any.
The empty group has the combinations of every group. -/
theorem combinations_group_union (table : FeatureTable) (exclude : NameSet)
    (hsize : (table.selectable exclude).card ≤ 64) :
    ∃ plan : NameSet → Plan, (∀ group, make table ⟨exclude, group⟩ = .ok (plan group)) ∧
      (∀ group, (plan group).combinations.Nodup ∧
        (plan group).combinations.Pairwise Combination.Precedes) ∧
      (∀ group group', group ≠ ∅ → group' ≠ ∅ → ∀ c,
        c ∈ (plan (group ∪ group')).combinations ↔
          c ∈ (plan group).combinations ∨ c ∈ (plan group').combinations) ∧
      (∀ group more, group ≠ ∅ → (∀ x ∈ more, x ∉ table ∨ x ∈ exclude) →
        (plan (group ∪ more)).combinations = (plan group).combinations) ∧
      (∀ group larger, group ≠ ∅ → (∀ x ∈ group, x ∈ larger) →
        (plan group).combinations.Sublist (plan larger).combinations) ∧
      ∀ group, (plan group).combinations.Sublist (plan ∅).combinations := by
  choose plan hplan using exists_make_of_card hsize
  have hord := fun group => (plan group).combinations_precedes
  refine ⟨plan, hplan, fun group => ⟨nodup_of_precedes (hord group), hord group⟩, ?_, ?_, ?_, ?_⟩
  · intro group group' hgroup hgroup' c
    exact mem_combinations_union (hplan group) (hplan group') (hplan _) hgroup hgroup'
  · intro group more hgroup hmore
    refine combinations_union_of_not_mem (hplan group) (hplan _) hgroup fun x hx hret => ?_
    obtain ⟨hdeclared, hexclude⟩ := FeatureTable.mem_retain.mp hret
    exact (hmore x hx).elim (fun h => h hdeclared) hexclude
  · intro group larger hgroup hsub
    exact combinations_sublist (hplan group) (hplan larger) fun s _ => satisfies_mono hgroup hsub
  · intro group
    exact combinations_sublist (hplan group) (hplan ∅) fun s _ _ => satisfies_empty

/-- The last feature of a chain is what several selections reduce to, for each group others. -/
theorem combinations_group_union_chain : (FeatureTable.chain.selectable ∅).card ≤ 64 ∧
    ({"a"} : NameSet) ≠ ∅ ∧ ({"b"} : NameSet) ≠ ∅ ∧
    ∃ plan : NameSet → Plan, (∀ group, make .chain ⟨∅, group⟩ = .ok (plan group)) ∧
      (∀ c, c ∈ (plan ({"a"} ∪ {"b"})).combinations ↔
        c ∈ (plan {"a"}).combinations ∨ c ∈ (plan {"b"}).combinations) ∧
      (plan ({"a"} ∪ {"d"})).combinations = (plan {"a"}).combinations := by
  have hsize : (FeatureTable.chain.selectable ∅).card ≤ 64 := by decide +kernel
  have ha : ({"a"} : NameSet) ≠ ∅ := by decide +kernel
  have hb : ({"b"} : NameSet) ≠ ∅ := by decide +kernel
  obtain ⟨plan, hplan, -, hunion, hmore, -⟩ := combinations_group_union .chain ∅ hsize
  refine ⟨hsize, ha, hb, plan, hplan, hunion _ _ ha hb, hmore _ _ ha ?_⟩
  decide +kernel

/-! ### The excluded features -/

lemma card_selectable_union_le :
    (table.selectable (exclude ∪ more)).card ≤ (table.selectable exclude).card := by
  refine Finset.card_le_card fun x hx => ?_
  rw [FeatureTable.mem_selectable, FeatureTable.mem_retain_union] at hx
  exact FeatureTable.mem_selectable.mpr hx.1

lemma reduce_retain_union (hs : ∀ x ∈ s, x ∉ more) :
    s.reduce (table.retain (exclude ∪ more)) = s.reduce (table.retain exclude) := by
  refine reduce_congr fun x hx y hy => ?_
  rw [FeatureTable.lists_retain_union]
  exact and_iff_left ⟨hs x hx, hs y hy⟩

/-- With more excluded, a selection is one that could be made before, and it reduces as before. -/
lemma mem_of_mem_exclude (h : make table ⟨exclude, group⟩ = .ok plan)
    (h' : make table ⟨exclude ∪ more, group⟩ = .ok plan') (hc : c ∈ plan'.combinations) :
    c ∈ plan.combinations ∧ ∀ x ∈ c, x ∉ more := by
  obtain ⟨s, hs, hqualified, rfl⟩ := (mem_combinations_retain h').mp hc
  have hret : ∀ x ∈ s, x ∈ table.retain exclude := fun x hx =>
    (FeatureTable.mem_retain_union.mp (hs x hx)).1
  have hmore : ∀ x ∈ s, x ∉ more := fun x hx => (FeatureTable.mem_retain_union.mp (hs x hx)).2
  rw [reduce_retain_union hmore]
  constructor
  · exact (mem_combinations_retain h).mpr ⟨s, hret, hqualified, rfl⟩
  · exact fun x hx => hmore x (mem_reduce.mp hx).1

/-- A combination that meets the group itself stays if none of its members goes. -/
lemma mem_exclude_of_mem (h : make table ⟨exclude, group⟩ = .ok plan)
    (h' : make table ⟨exclude ∪ more, group⟩ = .ok plan') (hc : c ∈ plan.combinations)
    (hmore : ∀ x ∈ c, x ∉ more) (hqualified : c.satisfies group = true) :
    c ∈ plan'.combinations := by
  have hret := mem_retained h hc
  have hreduce := (irredundant_of_mem h hc).reduce_eq
  rw [(make_eq_ok h).1] at hret hreduce
  refine (mem_combinations_retain h').mpr ⟨c, fun x hx => ?_, hqualified, ?_⟩
  · exact FeatureTable.mem_retain_union.mpr ⟨hret x hx, hmore x hx⟩
  · exact (reduce_retain_union hmore).trans hreduce

/-- **Excluding more only removes combinations.** With more features excluded, all combinations
of a plan were listed before and have none of these features; their order stays. Where nothing
is required there are no others. With a group there may be, since what they reduced from may
have met it in a feature that is excluded now. -/
theorem combinations_exclude_union (table : FeatureTable) (exclude more require : NameSet)
    (hsize : (table.selectable exclude).card ≤ 64) :
    ∃ plan plan', make table ⟨exclude, require⟩ = .ok plan ∧
      make table ⟨exclude ∪ more, require⟩ = .ok plan' ∧
      plan'.combinations.Sublist (plan.combinations.filter fun c => !c.meets more) ∧
      (require = ∅ → plan'.combinations = plan.combinations.filter fun c => !c.meets more) := by
  obtain ⟨plan, hplan⟩ := exists_make_of_card hsize require
  obtain ⟨plan', hplan'⟩ := exists_make_of_card (card_selectable_union_le.trans hsize) require
  have hmem : ∀ c, c ∈ plan.combinations.filter (fun c => !c.meets more) ↔
      c ∈ plan.combinations ∧ ∀ x ∈ c, x ∉ more := by
    intro c
    rw [List.mem_filter, Bool.not_eq_true', NameSet.meets_eq_false_iff]
  have hord := plan'.combinations_precedes
  have hord' : (plan.combinations.filter fun c => !c.meets more).Pairwise Combination.Precedes :=
    plan.combinations_precedes.filter _
  have hsub : ∀ c ∈ plan'.combinations, c ∈ plan.combinations.filter fun c => !c.meets more :=
    fun c hc => (hmem c).mpr (mem_of_mem_exclude hplan hplan' hc)
  refine ⟨plan, plan', hplan, hplan', sublist_of_precedes hord hord' hsub, ?_⟩
  rintro rfl
  refine eq_of_precedes hord hord' fun c => ⟨hsub c, fun hc => ?_⟩
  obtain ⟨hc, hmore⟩ := (hmem c).mp hc
  exact mem_exclude_of_mem hplan hplan' hc hmore satisfies_empty

/-- With the middle of a chain excluded, its ends are no longer on one chain; still no combination
is new. -/
theorem combinations_exclude_union_chain : (FeatureTable.chain.selectable ∅).card ≤ 64 ∧
    (∃ plan plan', make .chain ⟨∅, {"a"}⟩ = .ok plan ∧
      make .chain ⟨∅ ∪ {"b"}, {"a"}⟩ = .ok plan' ∧
      plan'.combinations.Sublist (plan.combinations.filter fun c => !c.meets {"b"})) ∧
    ∃ plan plan', make .chain ⟨∅, ∅⟩ = .ok plan ∧ make .chain ⟨∅ ∪ {"b"}, ∅⟩ = .ok plan' ∧
      plan'.combinations = plan.combinations.filter fun c => !c.meets {"b"} := by
  have hsize : (FeatureTable.chain.selectable ∅).card ≤ 64 := by decide +kernel
  obtain ⟨plan, plan', hplan, hplan', hsub, -⟩ :=
    combinations_exclude_union .chain ∅ {"b"} {"a"} hsize
  obtain ⟨plan₁, plan₁', hplan₁, hplan₁', -, heq⟩ :=
    combinations_exclude_union .chain ∅ {"b"} ∅ hsize
  exact ⟨hsize, ⟨plan, plan', hplan, hplan', hsub⟩, plan₁, plan₁', hplan₁, hplan₁', heq rfl⟩

end FeatureMatrix.Plan
