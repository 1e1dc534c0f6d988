import FeatureMatrix.Program
import FeatureMatrix.Proofs.Enumeration
import FeatureMatrix.Proofs.Masks
import Mathlib.Data.Set.Card

/-!
What is told about a plan is right: how many selections met the required group, how many
combinations they reduced to, and whether the group is hopeless.

Of the subsets of some names, those that miss a group are the subsets of the names outside of it,
so there are `2 ^ (n - k)` of them, and the others meet it. That a group is hopeless is told before
any subset is looked at, if nothing in it can be selected. Then no selection meets the group;
and otherwise the required feature alone does, so that the list is not empty.
-/

namespace FeatureMatrix

/-! ### Subsets that miss a group -/

/-- The subsets that miss a group are those of the names outside of it. -/
lemma length_filter_not_meets (names : List String) (group : NameSet) :
    ((powerSet names).filter fun c => !c.meets group).length =
      2 ^ (names.filter fun name => !group.contains name).length := by
  induction names with
  | nil => rfl
  | cons name rest ih =>
    have hfirst :
        (((powerSet rest).map (·.insert name)).filter fun c => !NameSet.meets c group).length =
          if group.contains name then 0
          else 2 ^ (rest.filter fun name => !group.contains name).length := by
      rw [List.filter_map, List.length_map, ← ih]
      split_ifs with hname
      · rw [List.length_eq_zero_iff, List.filter_eq_nil_iff]
        intro c _
        simp [NameSet.meets_insert, hname]
      · congr 1
        refine List.filter_congr fun c _ => ?_
        simp [NameSet.meets_insert, hname]
    rw [powerSet, List.filter_append, List.length_append, hfirst, ih, List.filter_cons]
    by_cases hname : group.contains name = true
    · simp [hname]
    · rw [if_neg hname, if_pos (by simp [hname]), List.length_cons, pow_succ]
      omega

/-- A group that is not empty is met by all subsets but those that miss it. -/
lemma length_filter_satisfies (names : List String) (group : NameSet) :
    ((powerSet names).filter (·.satisfies group)).length =
      if group = ∅ then 2 ^ names.length
      else 2 ^ names.length - 2 ^ (names.filter fun name => !group.contains name).length := by
  split_ifs with hgroup
  · have hall : ∀ c ∈ powerSet names, Combination.satisfies c group = true := by
      intro c _
      rw [hgroup]
      exact Combination.satisfies_empty
    rw [List.filter_eq_self.mpr hall, length_powerSet]
  · have hmeets : (powerSet names).filter (·.satisfies group) =
        (powerSet names).filter (·.meets group) := by
      refine List.filter_congr fun c _ => ?_
      rw [Bool.eq_iff_iff, Combination.satisfies_iff_of_ne hgroup, NameSet.meets_iff]
    have hsplit := List.length_eq_length_filter_add (l := powerSet names) (·.meets group)
    rw [length_powerSet, length_filter_not_meets] at hsplit
    rw [hmeets, hsplit, Nat.add_sub_cancel]

namespace Plan

variable {table : FeatureTable} {settings : Settings} {plan : Plan}

/-! ### What is told -/

lemma mem_groupNotes {retained : FeatureTable} {require : NameSet} {note : Note} :
    note ∈ groupNotes retained require ↔
      (require = ∅ ∧ note = .unconstrained) ∨
      (require ≠ ∅ ∧ (∀ x ∈ require, x ∉ retained) ∧ note = .hopeless require) := by
  have hany : require.toList.any retained.contains = true ↔ ∃ x ∈ require, x ∈ retained := by
    simp
  rw [groupNotes]
  split_ifs with hempty hsome
  · have hrequire : require = ∅ := Std.ExtTreeSet.isEmpty_iff.mp hempty
    simp [hrequire]
  · obtain ⟨x, hx, hret⟩ := hany.mp hsome
    have hrequire : require ≠ ∅ := fun h => hempty (Std.ExtTreeSet.isEmpty_iff.mpr h)
    have hnot : ¬ ∀ x ∈ require, x ∉ retained := fun h => h x hx hret
    simp only [hrequire, hnot, List.not_mem_nil, false_and, and_false, or_self]
  · have hrequire : require ≠ ∅ := fun h => hempty (Std.ExtTreeSet.isEmpty_iff.mpr h)
    have hnone : ∀ x ∈ require, x ∉ retained := fun x hx hret => hsome (hany.mpr ⟨x, hx, hret⟩)
    simp only [hrequire, ne_eq, not_false_eq_true, List.mem_singleton, false_and, true_and,
      false_or]
    exact ⟨fun h => ⟨hnone, h⟩, And.right⟩

lemma mem_notes {note : Note} :
    note ∈ notes table settings (.ok plan) ↔
      (∃ name ∈ table.undeclared settings.exclude, note = .undeclared name) ∨
      (comfortable < plan.retained.size ∧ note = .many plan.retained.size) ∨
      note ∈ groupNotes plan.retained settings.require ∨
      note = .selecting plan.retained.keys ∨
      note = .counted plan.qualified plan.distinct.size := by
  have hretain : note ∈ retainNotes table settings.exclude ↔
      ∃ name ∈ table.undeclared settings.exclude, note = .undeclared name := by
    simp [retainNotes, eq_comm]
  have hmany : (note ∈ if comfortable < plan.retained.size then [Note.many plan.retained.size]
      else []) ↔ comfortable < plan.retained.size ∧ note = .many plan.retained.size := by
    split_ifs with h <;> simp [h]
  rw [notes, List.mem_append, List.mem_append, List.mem_append, hretain, hmany, List.mem_cons,
    List.mem_singleton, or_assoc, or_assoc]

lemma counted_mem_notes {qualified distinct : ℕ} :
    .counted qualified distinct ∈ notes table settings (.ok plan) ↔
      qualified = plan.qualified ∧ distinct = plan.distinct.size := by
  simp [mem_notes, mem_groupNotes]

lemma hopeless_mem_notes {group : NameSet} :
    .hopeless group ∈ notes table settings (.ok plan) ↔
      group = settings.require ∧ settings.require ≠ ∅ ∧
        ∀ x ∈ settings.require, x ∉ plan.retained := by
  simp only [mem_notes, mem_groupNotes, reduceCtorEq, Note.hopeless.injEq, and_false, or_false,
    false_or, exists_false]
  tauto

/-! ### What is counted -/

/-- A list without repeats is as long as the set of its members is large. -/
lemma ncard_eq_length {s : Set Combination} {l : List Combination} (h : l.Nodup)
    (hmem : ∀ c, c ∈ l ↔ c ∈ s) : s.ncard = l.length := by
  classical
  have heq : s = ↑l.toFinset := by
    ext c
    rw [Finset.mem_coe, List.mem_toFinset, hmem]
  rw [heq, Set.ncard_coe_finset, List.toFinset_card_of_nodup h]

/-- The selections that meet the required group. -/
def qualifying (table : FeatureTable) (settings : Settings) : Set Combination :=
  {s | (∀ x ∈ s, x ∈ table.selectable settings.exclude) ∧ s.satisfies settings.require = true}

lemma mem_qualifying {s : Combination} :
    s ∈ qualifying table settings ↔
      (∀ x ∈ s, x ∈ table.retain settings.exclude) ∧ s.satisfies settings.require = true := by
  rw [qualifying, Set.mem_ofPred_eq]
  simp only [FeatureTable.mem_selectable]

/-- The qualifying selections are listed, each once, on the way to a plan. -/
lemma exists_selections (h : make table settings = .ok plan) :
    ∃ subsets : Subsets, subsets.names = (table.retain settings.exclude).keys ∧
      plan.qualified = (selections subsets settings.require).length ∧
      (selections subsets settings.require).Nodup ∧
      ∀ s, s ∈ selections subsets settings.require ↔ s ∈ qualifying table settings := by
  obtain ⟨hretained, subsets, hnames, hqualified, -⟩ := make_eq_ok h
  rw [hretained] at hnames
  refine ⟨subsets, hnames, hqualified, ?_, fun s => ?_⟩
  · rw [selections, Subsets.toList_eq_powerSet, hnames]
    exact (nodup_powerSet Std.ExtTreeMap.nodup_keys).filter _
  · rw [mem_selections, hnames, mem_qualifying]
    simp only [Std.ExtTreeMap.mem_keys]

lemma length_filter_keys (table : FeatureTable) (exclude group : NameSet) :
    ((table.retain exclude).keys.filter fun name => group.contains name).length =
      ((table.selectable exclude).filter (· ∈ group)).card := by
  rw [← List.toFinset_card_of_nodup (Std.ExtTreeMap.nodup_keys.filter _), List.toFinset_filter,
    FeatureTable.selectable_eq_toFinset]
  simp only [← Std.ExtTreeSet.mem_iff_contains]

/-- With `n` features to select from, `k` of them required, `2 ^ (n - k)` subsets miss a group
that is not empty. -/
lemma qualified_eq (h : make table settings = .ok plan) :
    plan.qualified =
      if settings.require = ∅ then 2 ^ (table.selectable settings.exclude).card
      else 2 ^ (table.selectable settings.exclude).card -
        2 ^ ((table.selectable settings.exclude).card -
          ((table.selectable settings.exclude).filter (· ∈ settings.require)).card) := by
  obtain ⟨subsets, hnames, hqualified, -⟩ := exists_selections h
  have hlength : subsets.names.length = (table.selectable settings.exclude).card := by
    rw [hnames, Std.ExtTreeMap.length_keys, FeatureTable.card_selectable]
  have hinside := length_filter_keys table settings.exclude settings.require
  have hsplit := List.length_eq_length_filter_add (l := subsets.names) (settings.require.contains ·)
  have houtside : (subsets.names.filter fun name => !settings.require.contains name).length =
      (table.selectable settings.exclude).card -
        ((table.selectable settings.exclude).filter (· ∈ settings.require)).card := by
    rw [← hnames] at hinside
    omega
  rw [hqualified, selections, Subsets.toList_eq_powerSet, length_filter_satisfies, houtside,
    hlength]

lemma ncard_qualifying (h : make table settings = .ok plan) :
    (qualifying table settings).ncard = plan.qualified := by
  obtain ⟨subsets, -, hqualified, hnodup, hmem⟩ := exists_selections h
  rw [hqualified]
  exact ncard_eq_length hnodup hmem

lemma finite_qualifying (h : make table settings = .ok plan) :
    (qualifying table settings).Finite := by
  obtain ⟨subsets, -, -, -, hmem⟩ := exists_selections h
  exact (List.finite_toSet _).subset fun s hs => (hmem s).mpr hs

/-- The list has one combination for each reduction of a qualifying selection. -/
lemma ncard_reduce_qualifying (h : make table settings = .ok plan) :
    (Combination.reduce (table.retain settings.exclude) '' qualifying table settings).ncard =
      plan.combinations.length := by
  refine ncard_eq_length plan.nodup_combinations fun c => ?_
  rw [mem_combinations_retain h, Set.mem_image]
  simp only [mem_qualifying, and_assoc]

/-- Nothing is listed just where the group is not empty and nothing in it can be selected. -/
lemma combinations_eq_nil_iff (h : make table settings = .ok plan) :
    plan.combinations = [] ↔
      settings.require ≠ ∅ ∧ ∀ x ∈ settings.require, x ∉ plan.retained := by
  rw [List.eq_nil_iff_forall_not_mem]
  constructor
  · intro hnil
    refine ⟨fun hempty => ?_, fun x hx hret => ?_⟩
    · refine hnil _ ((mem_combinations h).mpr ⟨∅, ?_, ?_, rfl⟩)
      · intro x hx
        exact absurd hx Std.ExtTreeSet.not_mem_empty
      · rw [hempty]
        exact Combination.satisfies_empty
    · -- the required feature alone
      refine hnil _ ((mem_combinations h).mpr ⟨{x}, ?_, ?_, rfl⟩)
      · intro y hy
        rwa [NameSet.mem_singleton_iff.mp hy]
      · exact Combination.satisfies_iff.mpr (Or.inr ⟨x, NameSet.mem_singleton_iff.mpr rfl, hx⟩)
  · rintro ⟨hne, hnone⟩ c hc
    obtain ⟨s, hs, hmeets, -⟩ := (mem_combinations h).mp hc
    obtain ⟨x, hxs, hx⟩ := (Combination.satisfies_iff_of_ne hne).mp hmeets
    exact hnone x hx (hs x hxs)

/-- **What is told of a plan is exact.** With `n` features to select from, fewer than 64, of which
`k` are required, `2 ^ n` selections meet the group if it is empty, and `2 ^ n - 2 ^ (n - k)`
otherwise. This number is told, with the number of combinations these selections reduce to,
which is the length of the list. That the group is hopeless is told just where the list is
empty. -/
theorem notes_exact (table : FeatureTable) (settings : Settings)
    (hsize : (table.selectable settings.exclude).card < 64) :
    ∃ found, (logged table settings).result = .ok found ∧
      (∀ qualified distinct,
        .plan (.counted qualified distinct) ∈ (logged table settings).events ↔
          qualified = (qualifying table settings).ncard ∧ distinct = found.length) ∧
      (qualifying table settings).ncard =
        (if settings.require = ∅ then 2 ^ (table.selectable settings.exclude).card
        else 2 ^ (table.selectable settings.exclude).card -
          2 ^ ((table.selectable settings.exclude).card -
            ((table.selectable settings.exclude).filter (· ∈ settings.require)).card)) ∧
      (qualifying table settings).ncard < 2 ^ 64 ∧
      (Combination.reduce (table.retain settings.exclude) '' qualifying table settings).ncard =
        found.length ∧
      found.length ≤ (qualifying table settings).ncard ∧
      ((∃ group, .plan (.hopeless group) ∈ (logged table settings).events) ↔ found = []) := by
  obtain ⟨plan, hplan, hretained⟩ := exists_make hsize.le
  have hresult : (logged table settings).result = .ok plan.combinations := by
    rw [logged, hplan]
    rfl
  have hevents : ∀ note, .plan note ∈ (logged table settings).events ↔
      note ∈ notes table settings (.ok plan) := by
    intro note
    simp [logged, hplan]
  have hqualified := qualified_eq hplan
  have hpow : 2 ^ (table.selectable settings.exclude).card < 2 ^ 64 :=
    Nat.pow_lt_pow_right (by norm_num) hsize
  have hle : plan.qualified ≤ 2 ^ (table.selectable settings.exclude).card := by
    rw [hqualified]
    split_ifs
    · exact le_rfl
    · exact Nat.sub_le _ _
  refine ⟨plan.combinations, hresult, fun qualified distinct => ?_, ?_, ?_, ?_, ?_, ?_⟩
  · rw [hevents, counted_mem_notes, ncard_qualifying hplan, length_combinations]
  · rw [ncard_qualifying hplan, hqualified]
  · rw [ncard_qualifying hplan]
    omega
  · exact ncard_reduce_qualifying hplan
  · rw [← ncard_reduce_qualifying hplan]
    exact Set.ncard_image_le (finite_qualifying hplan)
  · rw [combinations_eq_nil_iff hplan]
    simp only [hevents, hopeless_mem_notes, exists_eq_left]

/-- Of a chain of three, half of the subsets hold the first feature. -/
theorem notes_exact_chain : (FeatureTable.chain.selectable ∅).card < 64 ∧
    ∃ found, (logged .chain ⟨∅, {"a", "d"}⟩).result = .ok found ∧
      .plan (.counted 4 found.length) ∈ (logged .chain ⟨∅, {"a", "d"}⟩).events ∧
      found.length ≤ 4 := by
  have hsize : (FeatureTable.chain.selectable ∅).card < 64 := by decide +kernel
  obtain ⟨found, hfound, hcounted, hncard, -, -, hle, -⟩ :=
    notes_exact .chain ⟨∅, {"a", "d"}⟩ hsize
  have hgroup : ({"a", "d"} : NameSet) ≠ ∅ := by decide +kernel
  have hn : (FeatureTable.chain.selectable ∅).card = 3 := by decide +kernel
  have hk : ((FeatureTable.chain.selectable ∅).filter (· ∈ ({"a", "d"} : NameSet))).card = 1 := by
    decide +kernel
  rw [if_neg hgroup, hn, hk] at hncard
  rw [hncard] at hle
  exact ⟨hsize, found, hfound, (hcounted _ _).mpr ⟨hncard.symm, rfl⟩, hle⟩

end Plan

end FeatureMatrix
