import FeatureMatrix.Proofs.Enumeration
import FeatureMatrix.Proofs.Expansion
import Mathlib.Tactic.Push
import Mathlib.Tactic.TFAE

/-!
When the required group survives the reduction.

From a required member of a selection one can go back along the members that lead to it. If
no cycle is met on the way back, there is a first member, which nothing lists: it is kept and
still leads to the required one. A cycle, on the other hand, with all that it leads to is a
selection of which nothing is kept.
-/

namespace FeatureMatrix

open Relation

namespace FeatureTable

variable {table : FeatureTable} {x y : String}

/-- The feature lies on a cycle of features that list each other, or is reached from one. -/
def FromCycle (table : FeatureTable) (x : String) : Prop :=
  ∃ c, TransGen table.Lists c c ∧ table.Leads c x

/-- Both are members, and the one lists the other. -/
def ListsWithin (table : FeatureTable) (s : NameSet) (x y : String) : Prop :=
  x ∈ s ∧ y ∈ s ∧ table.Lists x y

/-- No cycle leads to the features of a part that is only listed from inside, and from greater
names. -/
lemma not_fromCycle_of_lt {s : NameSet} (hx : x ∈ s)
    (hs : ∀ m ∈ table, ∀ y ∈ s.toList, table.Lists m y → m ∈ s ∧ y < m) :
    ¬ table.FromCycle x := by
  have hback : ∀ {m y}, y ∈ s → TransGen table.Lists m y → m ∈ s ∧ y < m := by
    intro m y hy hmy
    induction hmy using TransGen.head_induction_on with
    | single hlists => exact hs _ hlists.declared y (Std.ExtTreeSet.mem_toList.mpr hy) hlists
    | head hlists _ ih =>
      obtain ⟨hn, hlt⟩ := ih
      obtain ⟨hm, hlt'⟩ := hs _ hlists.declared _ (Std.ExtTreeSet.mem_toList.mpr hn) hlists
      exact ⟨hm, hlt.trans hlt'⟩
  rintro ⟨c, hcycle, hcx⟩
  have hc : c ∈ s := by
    rcases reflTransGen_iff_eq_or_transGen.mp hcx with rfl | hcx
    · exact hx
    · exact (hback hx hcx).1
  exact lt_irrefl c (hback hc hcycle).2

lemma leads_of_within {s : NameSet} (h : ReflTransGen (table.ListsWithin s) x y) :
    table.Leads x y :=
  h.lift id fun _ _ hxy => hxy.2.2

end FeatureTable

namespace Combination

variable {table : FeatureTable} {s : Combination} {x : String}

/-- Going back from a member along members that list each other, one comes to a member that
nothing lists, unless a cycle is met. -/
lemma exists_unlisted_within (hx : x ∈ s) (hcycle : ∀ m ∈ s,
    ReflTransGen (table.ListsWithin s) m x → ¬ TransGen (table.ListsWithin s) m m) :
    ∃ m ∈ s, (∀ y ∈ s, ¬ table.Lists y m) ∧ ReflTransGen (table.ListsWithin s) m x := by
  obtain ⟨m, hm, hmx, hfirst⟩ :=
    NameSet.exists_first (fun _ _ _ => TransGen.trans) hcycle hx .refl
  refine ⟨m, hm, fun y hy hlists => ?_, hmx⟩
  have hym : table.ListsWithin s y m := ⟨hy, hm, hlists⟩
  exact hfirst y hy (.head hym hmx) (.single hym)

/-- Going back from a member that no cycle leads to, one comes to a member that nothing
lists. -/
lemma exists_unlisted (hx : x ∈ s) (hcycle : ¬ table.FromCycle x) :
    ∃ m ∈ s, (∀ y ∈ s, ¬ table.Lists y m) ∧ table.Leads m x := by
  obtain ⟨m, hm, hunlisted, hmx⟩ := exists_unlisted_within hx fun m _ hmx hcyc =>
    hcycle ⟨m, hcyc.lift id fun _ _ hab => hab.2.2, FeatureTable.leads_of_within hmx⟩
  exact ⟨m, hm, hunlisted, FeatureTable.leads_of_within hmx⟩

lemma mem_expand_reduce (hx : x ∈ s) (hcycle : ¬ table.FromCycle x) :
    x ∈ (s.reduce table).expand table := by
  obtain ⟨m, hm, hunlisted, hmx⟩ := exists_unlisted hx hcycle
  exact mem_expand.mpr ⟨m, mem_reduce.mpr ⟨hm, hunlisted⟩, hmx⟩

/-- A cycle and all it leads to: each of these features is listed by another one. -/
lemma exists_reduce_eq_empty (hx : x ∈ table) (hcycle : table.FromCycle x) :
    ∃ s : Combination, (∀ y ∈ s, y ∈ table) ∧ x ∈ s ∧ s.reduce table = ∅ := by
  obtain ⟨c, hc, hcx⟩ := hcycle
  obtain ⟨s, hs⟩ := NameSet.exists_part (.ofList table.keys) (TransGen table.Lists c)
  simp only [NameSet.mem_ofList_iff, Std.ExtTreeMap.mem_keys] at hs
  refine ⟨s, fun y hy => ((hs y).mp hy).1, (hs x).mpr ⟨hx, hc.trans_left hcx⟩, ?_⟩
  refine NameSet.eq_empty_iff.mpr fun y hy => ?_
  obtain ⟨hys, hunlisted⟩ := mem_reduce.mp hy
  obtain ⟨m, hcm, hmy⟩ := TransGen.tail'_iff.mp ((hs y).mp hys).2
  exact hunlisted m ((hs m).mpr ⟨hmy.declared, hc.trans_left hcm⟩) hmy

example : reduce .knot {"a", "b"} = ∅ := by decide +kernel

end Combination

namespace Plan

variable {table : FeatureTable} {settings : Settings} {plan : Plan} {c : Combination} {x : String}

/-! ### Losing the group -/

lemma fromCycle_of_lost (h : make table settings = .ok plan) (hrequire : settings.require ≠ ∅)
    (hc : c ∈ plan.combinations) (hlost : ∀ x ∈ c.expand plan.retained, x ∉ settings.require) :
    ∃ x ∈ settings.require, x ∈ plan.retained ∧ plan.retained.FromCycle x := by
  obtain ⟨s, hs, hqualified, rfl⟩ := (mem_combinations h).mp hc
  obtain ⟨x, hxs, hx⟩ := (Combination.satisfies_iff_of_ne hrequire).mp hqualified
  refine ⟨x, hx, hs x hxs, ?_⟩
  by_contra hcycle
  exact hlost x (Combination.mem_expand_reduce hxs hcycle) hx

lemma empty_mem_combinations (h : make table settings = .ok plan) (hx : x ∈ settings.require)
    (hret : x ∈ plan.retained) (hcycle : plan.retained.FromCycle x) :
    ∅ ∈ plan.combinations := by
  obtain ⟨s, hs, hxs, hempty⟩ := Combination.exists_reduce_eq_empty hret hcycle
  exact (mem_combinations h).mpr
    ⟨s, hs, Combination.satisfies_iff.mpr (Or.inr ⟨x, hxs, hx⟩), hempty⟩

/-- **The group survives exactly where no cycle leads to it.** All combinations of a plan turn
on a required feature, unless one of the required features that can be selected lies on a
cycle or is reached from one. -/
theorem all_satisfy_iff (table : FeatureTable) (settings : Settings)
    (hsize : (table.selectable settings.exclude).card ≤ 64) (hrequire : settings.require ≠ ∅) :
    ∃ plan, make table settings = .ok plan ∧
      ((∀ c ∈ plan.combinations,
          (c.expand (table.retain settings.exclude)).satisfies settings.require = true) ↔
        ∀ x ∈ settings.require, x ∈ table.retain settings.exclude →
          ¬ (table.retain settings.exclude).FromCycle x) := by
  obtain ⟨plan, hplan, hretained⟩ := exists_make hsize
  refine ⟨plan, hplan, ?_⟩
  rw [← hretained]
  simp only [Combination.satisfies_iff_of_ne hrequire]
  constructor
  · intro hall x hx hret hcycle
    obtain ⟨y, hy, -⟩ := hall ∅ (empty_mem_combinations hplan hx hret hcycle)
    exact NameSet.eq_empty_iff.mp Combination.expand_empty y hy
  · intro hcycle c hc
    by_contra hlost
    push Not at hlost
    obtain ⟨x, hx, hret, hfrom⟩ := fromCycle_of_lost hplan hrequire hc hlost
    exact hcycle x hx hret hfrom

/-- The first feature of the chain is required: no cycle leads to it. -/
theorem all_satisfy_iff_chainBesideKnot :
    (FeatureTable.chainBesideKnot.selectable ∅).card ≤ 64 ∧ ({"a"} : NameSet) ≠ ∅ ∧
    ∃ plan, make .chainBesideKnot ⟨∅, {"a"}⟩ = .ok plan ∧ ∀ c ∈ plan.combinations,
      (c.expand (FeatureTable.chainBesideKnot.retain ∅)).satisfies {"a"} = true := by
  have hsize : (FeatureTable.chainBesideKnot.selectable ∅).card ≤ 64 := by decide +kernel
  have hrequire : ({"a"} : NameSet) ≠ ∅ := by decide +kernel
  obtain ⟨plan, hplan, hiff⟩ := all_satisfy_iff .chainBesideKnot ⟨∅, {"a"}⟩ hsize hrequire
  refine ⟨hsize, hrequire, plan, hplan, hiff.mpr ?_⟩
  rintro x hx -
  -- nothing outside of the chain lists anything in it
  have hchain : ∀ m ∈ FeatureTable.chainBesideKnot.retain ∅,
      ∀ y ∈ ({"a", "b", "c"} : NameSet).toList,
        (FeatureTable.chainBesideKnot.retain ∅).Lists m y →
          m ∈ ({"a", "b", "c"} : NameSet) ∧ y < m := by
    decide +kernel
  rw [NameSet.mem_singleton_iff.mp hx]
  exact FeatureTable.not_fromCycle_of_lt (by decide +kernel) hchain

/-- Of two features that list each other nothing is left, though one of them is required. -/
theorem not_all_satisfy_knot : (FeatureTable.knot.selectable ∅).card ≤ 64 ∧
    ({"a"} : NameSet) ≠ ∅ ∧ ∃ plan, make .knot ⟨∅, {"a"}⟩ = .ok plan ∧
      ¬ ∀ c ∈ plan.combinations,
        (c.expand (FeatureTable.knot.retain ∅)).satisfies {"a"} = true := by
  refine ⟨by decide +kernel, by decide +kernel, ?_⟩
  obtain ⟨plan, hplan, hretained⟩ : ∃ plan, make .knot ⟨∅, {"a"}⟩ = .ok plan ∧
      plan.retained = FeatureTable.knot.retain ∅ := exists_make (by decide +kernel)
  have hab : plan.retained.Lists "a" "b" := by rw [hretained]; decide +kernel
  have hba : plan.retained.Lists "b" "a" := by rw [hretained]; decide +kernel
  have hempty : ∅ ∈ plan.combinations :=
    empty_mem_combinations hplan (x := "a") (by decide +kernel) hab.declared
      ⟨"a", .head hab (.single hba), .refl⟩
  refine ⟨plan, hplan, fun hall => ?_⟩
  have hlost := hall ∅ hempty
  rw [Combination.expand_empty] at hlost
  revert hlost
  decide +kernel

/-- **When the required group is lost.** A plan has a combination that turns on none of the
required features just when the empty combination is in it, and just when one of those that
can be selected lies on a cycle or is reached from one. -/
theorem required_lost_tfae (table : FeatureTable) (settings : Settings)
    (hsize : (table.selectable settings.exclude).card ≤ 64) (hrequire : settings.require ≠ ∅) :
    ∃ plan, make table settings = .ok plan ∧
      [∃ c ∈ plan.combinations, ∀ x ∈ c.expand (table.retain settings.exclude),
          x ∉ settings.require,
        ∅ ∈ plan.combinations,
        ∃ x ∈ settings.require, x ∈ table.retain settings.exclude ∧
          (table.retain settings.exclude).FromCycle x].TFAE ∧
      ((∀ x, ¬ TransGen (table.retain settings.exclude).Lists x x) →
        ∀ c ∈ plan.combinations, ∃ x ∈ c.expand (table.retain settings.exclude),
          x ∈ settings.require) := by
  obtain ⟨plan, hplan, hretained⟩ := exists_make hsize
  refine ⟨plan, hplan, ?_⟩
  rw [← hretained]
  refine ⟨?_, fun hacyclic c hc => ?_⟩
  · tfae_have 1 → 3 := fun ⟨c, hc, hlost⟩ => fromCycle_of_lost hplan hrequire hc hlost
    tfae_have 3 → 2 := fun ⟨x, hx, hret, hcycle⟩ => empty_mem_combinations hplan hx hret hcycle
    tfae_have 2 → 1 := fun hempty => ⟨∅, hempty, fun x hx =>
      absurd hx (NameSet.eq_empty_iff.mp Combination.expand_empty x)⟩
    tfae_finish
  · by_contra hlost
    push Not at hlost
    obtain ⟨-, -, -, d, hd, -⟩ := fromCycle_of_lost hplan hrequire hc hlost
    exact hacyclic d hd

/-- Of two features that list each other, one is required and lost. -/
theorem required_lost_tfae_knot : (FeatureTable.knot.selectable ∅).card ≤ 64 ∧
    ({"b"} : NameSet) ≠ ∅ ∧ ∃ plan, make .knot ⟨∅, {"b"}⟩ = .ok plan ∧
      ∅ ∈ plan.combinations ∧ ∃ c ∈ plan.combinations,
        ∀ x ∈ c.expand (FeatureTable.knot.retain ∅), x ∉ ({"b"} : NameSet) := by
  have hsize : (FeatureTable.knot.selectable ∅).card ≤ 64 := by decide +kernel
  have hrequire : ({"b"} : NameSet) ≠ ∅ := by decide +kernel
  obtain ⟨plan, hplan, htfae, -⟩ := required_lost_tfae .knot ⟨∅, {"b"}⟩ hsize hrequire
  have hab : (FeatureTable.knot.retain ∅).Lists "a" "b" := by decide +kernel
  have hba : (FeatureTable.knot.retain ∅).Lists "b" "a" := by decide +kernel
  have hcycle : ∃ x ∈ ({"b"} : NameSet), x ∈ FeatureTable.knot.retain ∅ ∧
      (FeatureTable.knot.retain ∅).FromCycle x :=
    ⟨"b", by decide +kernel, hba.declared, "b", .head hba (.single hab), .refl⟩
  exact ⟨hsize, hrequire, plan, hplan, (htfae.out 2 1).mp hcycle, (htfae.out 2 0).mp hcycle⟩

end Plan

end FeatureMatrix
