import FeatureMatrix.Plan
import FeatureMatrix.Proofs.ByteOrder
import FeatureMatrix.Proofs.Dependencies
import FeatureMatrix.Proofs.PowerSets
import Mathlib.Data.Finset.Card
import Mathlib.Data.List.Nodup
import Mathlib.Data.List.Sort
import Mathlib.Tactic.Tauto

/-!
What a plan lists: the reductions of the selections that meet the required group, each once,
in the order of keys and members. A list in this order is settled by what is in it, so there
is one such list only.

The reductions are kept by members and sorted by key alone. As the sort is stable, the rows with
one key are left in the order they were kept in, and that is the order of their members.
-/

namespace FeatureMatrix

/-! ### The order of the list -/

/-- By the bytes of the keys, and where keys are equal, by the bytes of the members. -/
def Combination.Precedes (c d : Combination) : Prop :=
  Text.bytes c.key < Text.bytes d.key ∨
    c.key = d.key ∧ c.toList.map Text.bytes < d.toList.map Text.bytes

namespace Combination

variable {c d : Combination} {cs : List Combination}

instance : Std.LawfulEqCmp order where
  compare_self := Std.ReflCmp.compare_self
  eq_of_compare h := Std.ExtTreeSet.toList_inj.mp (Std.LawfulEqCmp.eq_of_compare h)

lemma order_eq_lt_iff : order c d = .lt ↔ c.toList.map Text.bytes < d.toList.map Text.bytes :=
  Text.compare_list_eq_lt_iff

lemma mem_ofList :
    c ∈ (Std.ExtTreeSet.ofList cs order : Std.ExtTreeSet Combination order) ↔ c ∈ cs := by
  classical
  rw [Std.ExtTreeSet.mem_ofList, List.contains_iff_mem]

lemma Precedes.asymm (h : c.Precedes d) : ¬ d.Precedes c := by
  rintro (hkey' | ⟨hkey', hmembers'⟩)
  · rcases h with hkey | ⟨hkey, -⟩
    · exact List.lt_asymm hkey hkey'
    · exact List.lt_irrefl _ (hkey ▸ hkey')
  · rcases h with hkey | ⟨-, hmembers⟩
    · exact List.lt_irrefl _ (hkey' ▸ hkey)
    · exact List.lt_asymm hmembers hmembers'

instance : Std.Antisymm Precedes := ⟨fun _ _ hcd hdc => absurd hdc hcd.asymm⟩

lemma nodup_of_precedes {l : List Combination} (h : l.Pairwise Precedes) : l.Nodup := by
  refine h.imp ?_
  rintro c d hcd rfl
  exact hcd.asymm hcd

/-- Lists in order with the same members are the same. -/
lemma eq_of_precedes {l l' : List Combination} (h : l.Pairwise Precedes)
    (h' : l'.Pairwise Precedes) (hmem : ∀ c, c ∈ l ↔ c ∈ l') : l = l' :=
  ((List.perm_ext_iff_of_nodup (nodup_of_precedes h) (nodup_of_precedes h')).mpr
    hmem).eq_of_pairwise (fun _ _ _ _ hcd hdc => absurd hdc hcd.asymm) h h'

/-- Of two lists in order, one that holds nothing but members of the other is a part of it. -/
lemma sublist_of_precedes {l l' : List Combination} (h : l.Pairwise Precedes)
    (h' : l'.Pairwise Precedes) (hmem : ∀ c ∈ l, c ∈ l') : l.Sublist l' :=
  List.sublist_of_subperm_of_pairwise (List.subperm_of_subset (nodup_of_precedes h) hmem) h h'

end Combination

/-! ### Sorting by key -/

namespace Row

variable {rows : List Row}

lemma le_trans (a b c : Row) (hab : le a b = true) (hbc : le b c = true) : le a c = true :=
  Std.TransCmp.isLE_trans hab hbc

lemma le_total (a b : Row) : (le a b || le b a) = true := by
  have hswap : compare b.key a.key = (compare a.key b.key).swap := Std.OrientedCmp.eq_swap
  rw [le, le, hswap]
  cases compare a.key b.key <;> rfl

/-- Rows with one key stay as they were. -/
lemma filter_mergeSort (key : String) :
    (rows.mergeSort le).filter (·.key == key) = rows.filter (·.key == key) := by
  have hsorted : (rows.filter (·.key == key)).Pairwise fun a b => le a b = true := by
    refine List.pairwise_of_forall_mem_list fun a ha b hb => ?_
    have hkey : a.key = b.key :=
      (eq_of_beq (List.mem_filter.mp ha).2).trans (eq_of_beq (List.mem_filter.mp hb).2).symm
    have hself : compare b.key b.key = .eq := Std.ReflCmp.compare_self
    rw [le, hkey, hself]
    rfl
  have hsub : (rows.filter (·.key == key)).Sublist (rows.mergeSort le) :=
    List.sublist_mergeSort le_trans le_total hsorted List.filter_sublist
  have hfilter := hsub.filter (·.key == key)
  simp only [List.filter_filter, Bool.and_self] at hfilter
  exact (hfilter.eq_of_length ((List.mergeSort_perm rows le).filter _).length_eq.symm).symm

/-- The sorted rows are in the order of keys, and those with one key in the order of before. -/
lemma pairwise_mergeSort {before : Row → Row → Prop} (h : rows.Pairwise before) :
    (rows.mergeSort le).Pairwise fun a b => le a b = true ∧ (a.key = b.key → before a b) := by
  rw [List.pairwise_iff_forall_sublist] at h ⊢
  intro a b hab
  refine ⟨List.pairwise_iff_forall_sublist.mp (List.pairwise_mergeSort le_trans le_total rows) hab,
    fun hkey => h ?_⟩
  -- both are among the rows with their key, which the sort has left as they were
  have hpair := hab.filter (·.key == b.key)
  rw [filter_mergeSort] at hpair
  simp only [hkey, List.filter_cons, BEq.rfl, if_true, List.filter_nil] at hpair
  exact hpair.trans List.filter_sublist

lemma precedes_of_le {a b : Row} (hle : le a b = true)
    (hmembers : a.key = b.key → Combination.order a.combination b.combination = .lt) :
    a.combination.Precedes b.combination := by
  rw [Combination.Precedes, ← a.key_eq, ← b.key_eq, ← Text.compare_eq_lt_iff]
  rcases Ordering.isLE_iff_eq_lt_or_eq_eq.mp hle with hlt | heq
  · exact .inl hlt
  · have hkey : a.key = b.key := Std.LawfulEqCmp.eq_of_compare heq
    exact .inr ⟨hkey, Combination.order_eq_lt_iff.mp (hmembers hkey)⟩

end Row

/-! ### What is selected from -/

namespace FeatureTable

variable {table : FeatureTable} {exclude : NameSet} {x y : String}

/-- The declared features that are not excluded. -/
def selectable (table : FeatureTable) (exclude : NameSet) : Finset String :=
  table.keys.toFinset.filter (· ∉ exclude)

/-- The labels of `name` that stand for selectable features: they name one, and neither begin
with `dep:` nor hold a slash. -/
def implied (table : FeatureTable) (exclude : NameSet) (name : String) : Set String :=
  {label | label ∈ table.labels name ∧ ¬ "dep:".toList <+: label.toList ∧
    '/' ∉ label.toList ∧ label ∈ table.selectable exclude}

lemma mem_selectable : x ∈ table.selectable exclude ↔ x ∈ table.retain exclude := by
  simp [selectable, mem_retain]

lemma selectable_eq_toFinset :
    table.selectable exclude = (table.retain exclude).keys.toFinset := by
  ext x
  rw [mem_selectable, List.mem_toFinset, Std.ExtTreeMap.mem_keys]

lemma card_selectable : (table.selectable exclude).card = (table.retain exclude).size := by
  rw [selectable_eq_toFinset, List.toFinset_card_of_nodup Std.ExtTreeMap.nodup_keys,
    Std.ExtTreeMap.length_keys]

lemma mem_implied (hx : x ∈ table.selectable exclude) :
    y ∈ table.implied exclude x ↔ (table.retain exclude).Lists x y := by
  rw [mem_selectable, mem_retain] at hx
  rw [lists_retain, isBare_iff, implied, Set.mem_ofPred_eq, mem_selectable, mem_retain]
  tauto

end FeatureTable

/-! ### The plan -/

namespace Plan

variable {table : FeatureTable} {settings : Settings} {plan : Plan} {c : Combination}

lemma mem_selections {subsets : Subsets} {require : NameSet} :
    c ∈ selections subsets require ↔
      (∀ x ∈ c, x ∈ subsets.names) ∧ c.satisfies require = true := by
  rw [selections, List.mem_filter, Subsets.mem_toList]

lemma make_eq_error (h : 64 < (table.selectable settings.exclude).card) :
    make table settings = .error ⟨(table.selectable settings.exclude).card⟩ := by
  rw [FeatureTable.card_selectable, ← Std.ExtTreeMap.length_keys] at h ⊢
  rw [make, dif_neg (by rw [maskBits]; omega)]

lemma exists_make (h : (table.selectable settings.exclude).card ≤ 64) :
    ∃ plan, make table settings = .ok plan ∧ plan.retained = table.retain settings.exclude := by
  rw [FeatureTable.card_selectable, ← Std.ExtTreeMap.length_keys] at h
  rw [make, dif_pos (by rw [maskBits]; exact h)]
  exact ⟨_, rfl, rfl⟩

/-- What a plan is made of. -/
lemma make_eq_ok (h : make table settings = .ok plan) :
    plan.retained = table.retain settings.exclude ∧
      ∃ subsets : Subsets, subsets.names = plan.retained.keys ∧
        plan.qualified = (selections subsets settings.require).length ∧
        plan.distinct = .ofList ((selections subsets settings.require).map
          (·.reduce plan.retained)) _ := by
  rw [make] at h
  split_ifs at h with fits
  cases h
  exact ⟨rfl, ⟨_, fits⟩, rfl, rfl, rfl⟩

lemma map_combination_of (cs : List Combination) :
    (cs.map Row.of).map Row.combination = cs := by
  rw [List.map_map]
  exact List.map_id cs

/-- Sorting loses nothing. -/
lemma combinations_perm (plan : Plan) : plan.combinations.Perm plan.distinct.toList := by
  have hperm := (List.mergeSort_perm (plan.distinct.toList.map Row.of) Row.le).map Row.combination
  rwa [map_combination_of] at hperm

lemma length_combinations (plan : Plan) : plan.combinations.length = plan.distinct.size := by
  rw [plan.combinations_perm.length_eq, Std.ExtTreeSet.length_toList]

/-- Kept by members and sorted by key, the list is in the order of both. -/
lemma combinations_precedes (plan : Plan) :
    plan.combinations.Pairwise Combination.Precedes := by
  have hordered : plan.distinct.toList.Pairwise fun c d => Combination.order c d = .lt :=
    Std.ExtTreeSet.ordered_toList
  have hkept : (plan.distinct.toList.map Row.of).Pairwise fun a b =>
      Combination.order a.combination b.combination = .lt := List.pairwise_map.mpr hordered
  refine List.pairwise_map.mpr ((Row.pairwise_mergeSort hkept).imp ?_)
  rintro a b ⟨hle, hmembers⟩
  exact Row.precedes_of_le hle hmembers

lemma nodup_combinations (plan : Plan) : plan.combinations.Nodup :=
  Combination.nodup_of_precedes plan.combinations_precedes

/-- A plan lists what the qualifying selections reduce to. -/
lemma mem_combinations (h : make table settings = .ok plan) :
    c ∈ plan.combinations ↔
      ∃ s : Combination, (∀ x ∈ s, x ∈ plan.retained) ∧
        s.satisfies settings.require = true ∧ s.reduce plan.retained = c := by
  obtain ⟨-, subsets, hnames, -, hdistinct⟩ := make_eq_ok h
  rw [plan.combinations_perm.mem_iff, Std.ExtTreeSet.mem_toList, hdistinct, Combination.mem_ofList]
  simp only [List.mem_map, mem_selections, hnames, Std.ExtTreeMap.mem_keys, and_assoc]

/-- The same, in terms of what a plan is made from. -/
lemma mem_combinations_retain {exclude require : NameSet}
    (h : make table ⟨exclude, require⟩ = .ok plan) :
    c ∈ plan.combinations ↔
      ∃ s : Combination, (∀ x ∈ s, x ∈ table.retain exclude) ∧ s.satisfies require = true ∧
        s.reduce (table.retain exclude) = c := by
  have hretained : plan.retained = table.retain exclude := (make_eq_ok h).1
  rw [← hretained]
  exact mem_combinations h

/-- A selection reduces to what is left when the implied members go. -/
lemma reduce_eq_iff {s : Combination} (hs : ∀ x ∈ s, x ∈ table.selectable settings.exclude) :
    s.reduce (table.retain settings.exclude) = c ↔
      ∀ x, x ∈ c ↔ x ∈ s ∧ ∀ y ∈ s, x ∉ table.implied settings.exclude y := by
  have himp : ∀ x, x ∈ s.reduce (table.retain settings.exclude) ↔
      x ∈ s ∧ ∀ y ∈ s, x ∉ table.implied settings.exclude y := by
    intro x
    rw [Combination.mem_reduce]
    refine and_congr_right fun _ => forall₂_congr fun y hy => not_congr ?_
    exact (FeatureTable.mem_implied (hs y hy)).symm
  constructor
  · rintro rfl
    exact himp
  · intro h
    ext x
    rw [himp x, h x]

/-- **What a plan lists.** With more than 64 selectable features there is no plan. Otherwise
there is one, and its list is the only one that is in order and holds just what is left of a
selection when the implied members go, for each selection that meets the required group.
Nothing is listed twice. -/
theorem make_exact (table : FeatureTable) (settings : Settings) :
    if 64 < (table.selectable settings.exclude).card then
      make table settings = .error ⟨(table.selectable settings.exclude).card⟩
    else ∃ plan, make table settings = .ok plan ∧ plan.combinations.Nodup ∧
      ∀ found : List Combination, found = plan.combinations ↔
        (∀ c, c ∈ found ↔
          ∃ s : Combination, (∀ x ∈ s, x ∈ table.selectable settings.exclude) ∧
            (settings.require = ∅ ∨ ∃ x ∈ s, x ∈ settings.require) ∧
            ∀ x, x ∈ c ↔ x ∈ s ∧ ∀ y ∈ s, x ∉ table.implied settings.exclude y) ∧
        found.Pairwise Combination.Precedes := by
  split_ifs with hsize
  · exact make_eq_error hsize
  obtain ⟨plan, hplan, hretained⟩ := exists_make (not_lt.mp hsize)
  have hmem : ∀ c, c ∈ plan.combinations ↔
      ∃ s : Combination, (∀ x ∈ s, x ∈ table.selectable settings.exclude) ∧
        (settings.require = ∅ ∨ ∃ x ∈ s, x ∈ settings.require) ∧
        ∀ x, x ∈ c ↔ x ∈ s ∧ ∀ y ∈ s, x ∉ table.implied settings.exclude y := by
    intro c
    rw [mem_combinations hplan, hretained]
    simp only [← FeatureTable.mem_selectable, Combination.satisfies_iff]
    refine exists_congr fun s => and_congr_right fun hs => and_congr_right fun _ => ?_
    exact reduce_eq_iff hs
  have hord := plan.combinations_precedes
  refine ⟨plan, hplan, plan.nodup_combinations, fun found => ⟨?_, ?_⟩⟩
  · rintro rfl
    exact ⟨hmem, hord⟩
  · rintro ⟨hfound, hford⟩
    exact Combination.eq_of_precedes hford hord fun c => (hfound c).trans (hmem c).symm

end Plan

end FeatureMatrix
