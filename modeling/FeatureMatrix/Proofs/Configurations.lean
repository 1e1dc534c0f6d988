import FeatureMatrix.Proofs.Coverage
import FeatureMatrix.Proofs.Irredundant
import Mathlib.Data.Set.Function

/-!
When each configuration is tested exactly once.

A configuration holds all that its members list. If a feature lists all that it leads to, then
reducing and expanding undo each other: an irredundant combination is what its expansion reduces
to, and a configuration is what its reduction expands to. If some feature `x` leads to `z` without
listing it, then `x` alone is turned on by two combinations. Either something else leads back to
`x`, and alone turns on as much; or nothing does, and then `z` may be added to `x` without being
redundant.
-/

namespace FeatureMatrix

open Relation

namespace FeatureTable

variable {table : FeatureTable} {x y z : String}

/-- A feature lists whatever those that it lists do. -/
def TransitivelyClosed (table : FeatureTable) : Prop :=
  ∀ x y z, table.Lists x y → table.Lists y z → table.Lists x z

instance : Decidable table.TransitivelyClosed :=
  decidable_of_iff (∀ x ∈ table.keys, ∀ y ∈ table.labels x, ∀ z ∈ table.labels y, table.Lists x z)
    ⟨fun h x y z hxy hyz => h x (Std.ExtTreeMap.mem_keys.mpr hxy.declared) y hxy z hyz,
      fun h x _ y hxy z hyz => h x y z hxy hyz⟩

lemma TransitivelyClosed.lists (h : table.TransitivelyClosed) (hxy : TransGen table.Lists x y) :
    table.Lists x y := by
  induction hxy with
  | single hlists => exact hlists
  | tail _ hlists ih => exact h _ _ _ ih hlists

lemma TransitivelyClosed.not_fromCycle (h : table.TransitivelyClosed)
    (hself : ∀ x, ¬ table.Lists x x) : ¬ table.FromCycle x := by
  rintro ⟨c, hc, -⟩
  exact hself c (h.lists hc)

end FeatureTable

namespace Combination

open FeatureTable

variable {table : FeatureTable} {s c t : Combination} {x y z : String}

/-! ### Reducing and expanding -/

/-- Where no cycle leads to a member, what is left of a selection turns on as much. -/
lemma expand_reduce (hcycle : ∀ x ∈ s, ¬ table.FromCycle x) :
    (s.reduce table).expand table = s.expand table := by
  ext x
  have hon : ∀ m ∈ s, m ∈ (s.reduce table).expand table :=
    fun m hm => mem_expand_reduce hm (hcycle m hm)
  exact ⟨expand_reduce_subset x, expand_subset hon x⟩

/-- What an irredundant combination turns on besides its members is listed by one of them. -/
lemma reduce_expand (htrans : table.TransitivelyClosed) (hc : c.Irredundant table) :
    (c.expand table).reduce table = c := by
  ext x
  rw [mem_reduce]
  constructor
  · rintro ⟨hx, hunlisted⟩
    obtain ⟨m, hm, hmx⟩ := mem_expand.mp hx
    rcases reflTransGen_iff_eq_or_transGen.mp hmx with rfl | hmx
    · exact hm
    · exact absurd (htrans.lists hmx) (hunlisted m (mem_expand_self hm))
  · intro hx
    refine ⟨mem_expand_self hx, fun y hy hlists => ?_⟩
    obtain ⟨m, hm, hmy⟩ := mem_expand.mp hy
    exact hc x hx m hm (htrans.lists (.tail' hmy hlists))

/-! ### Two combinations for one configuration -/

lemma mem_expand_singleton : y ∈ expand table {x} ↔ table.Leads x y := by
  simp only [mem_expand, NameSet.mem_singleton_iff, exists_eq_left]

lemma irredundant_singleton (hself : ¬ table.Lists x x) : Irredundant table {x} := by
  intro y hy z hz
  rw [NameSet.mem_singleton_iff] at hy hz
  rwa [hy, hz]

lemma expand_singleton_eq (hxy : table.Leads x y) (hyx : table.Leads y x) :
    expand table {x} = expand table {y} := by
  ext z
  rw [mem_expand_singleton, mem_expand_singleton]
  exact ⟨hyx.trans, hxy.trans⟩

/-- Adding what `x` leads to turns on nothing new. -/
lemma expand_pair (hxz : table.Leads x z) : expand table {x, z} = expand table {x} := by
  ext y
  rw [mem_expand_singleton, mem_expand]
  constructor
  · rintro ⟨m, hm, hmy⟩
    rcases NameSet.mem_pair_iff.mp hm with rfl | rfl
    · exact hmy
    · exact hxz.trans hmy
  · exact fun hxy => ⟨x, NameSet.mem_pair_iff.mpr (Or.inl rfl), hxy⟩

lemma irredundant_pair (hself : ∀ x, ¬ table.Lists x x) (hxz : ¬ table.Lists x z)
    (hzx : ¬ table.Lists z x) : Irredundant table {x, z} := by
  intro y hy m hm
  rcases NameSet.mem_pair_iff.mp hy with rfl | rfl
  · rcases NameSet.mem_pair_iff.mp hm with rfl | rfl
    · exact hself m
    · exact hzx
  · rcases NameSet.mem_pair_iff.mp hm with rfl | rfl
    · exact hxz
    · exact hself m

/-- What `x` turns on is turned on by another irredundant combination as well, if `x` leads to
`z` by way of `y` and does not list it. -/
lemma exists_twin (hself : ∀ x, ¬ table.Lists x x) (hxy : table.Lists x y)
    (hyz : table.Lists y z) (hxz : ¬ table.Lists x z) :
    ∃ d : Combination, d ≠ {x} ∧ d.Irredundant table ∧ d.expand table = expand table {x} := by
  have hleads : table.Leads x z := .head hxy (.single hyz)
  by_cases hback : ∃ w, w ≠ x ∧ table.Leads x w ∧ table.Leads w x
  · -- it turns on `x` as well, and so all that `x` does
    obtain ⟨w, hwx, hxw, hw⟩ := hback
    refine ⟨{w}, fun h => hwx ?_, irredundant_singleton (hself w), expand_singleton_eq hw hxw⟩
    rw [← NameSet.mem_singleton_iff, ← h, NameSet.mem_singleton_iff]
  · -- `z` cannot be `x`, for then `y` would lead back
    have hzx : z ≠ x := by
      rintro rfl
      refine hback ⟨y, ?_, .single hxy, .single hyz⟩
      rintro rfl
      exact hself y hxy
    have hnot : ¬ table.Lists z x := fun h => hback ⟨z, hzx, hleads, .single h⟩
    refine ⟨{x, z}, fun h => hzx ?_, irredundant_pair hself hxz hnot, expand_pair hleads⟩
    rw [← NameSet.mem_singleton_iff, ← h]
    exact NameSet.mem_pair_iff.mpr (Or.inr rfl)

end Combination

namespace Plan

open Combination

variable {table : FeatureTable} {settings : Settings} {plan : Plan} {c t : Combination}
  {x y z : String}

/-- What can be on: sets of retained features with all that these list, which meet the group. -/
def configurations (retained : FeatureTable) (require : NameSet) : Set Combination :=
  {t | (∀ x ∈ t, x ∈ retained) ∧ retained.Closed t ∧ t.satisfies require = true}

/-- What is left of a selection is listed, and turns on the same configuration. -/
lemma expand_mem_configurations (h : make table settings = .ok plan)
    (hcycle : ∀ x, ¬ plan.retained.FromCycle x) (hc : c ∈ plan.combinations) :
    c.expand plan.retained ∈ configurations plan.retained settings.require := by
  have hret : ∀ x ∈ c.expand plan.retained, x ∈ plan.retained :=
    fun x => mem_retained_of_mem_expand h (mem_retained h hc)
  refine ⟨hret, closed_expand, ?_⟩
  obtain ⟨s, -, hqualified, rfl⟩ := (mem_combinations h).mp hc
  rw [expand_reduce fun x _ => hcycle x, satisfies_iff]
  refine (satisfies_iff.mp hqualified).imp_right fun ⟨x, hxs, hx⟩ => ?_
  exact ⟨x, mem_expand_self hxs, hx⟩

/-- A configuration is a selection that qualifies. -/
lemma reduce_mem_combinations (h : make table settings = .ok plan)
    (ht : t ∈ configurations plan.retained settings.require) :
    t.reduce plan.retained ∈ plan.combinations := by
  obtain ⟨hret, -, hqualified⟩ := ht
  exact (mem_combinations h).mpr ⟨t, hret, hqualified, rfl⟩

lemma bijOn_expand (h : make table settings = .ok plan)
    (hself : ∀ x, ¬ plan.retained.Lists x x) (htrans : plan.retained.TransitivelyClosed) :
    Set.BijOn (expand plan.retained) {c | c ∈ plan.combinations}
      (configurations plan.retained settings.require) := by
  have hcycle : ∀ x, ¬ plan.retained.FromCycle x := fun x => htrans.not_fromCycle hself
  have hinv : Set.InvOn (reduce plan.retained) (expand plan.retained)
      {c | c ∈ plan.combinations} (configurations plan.retained settings.require) := by
    refine ⟨fun c hc => reduce_expand htrans (irredundant_of_mem h hc), fun t ht => ?_⟩
    rw [expand_reduce fun x _ => hcycle x]
    exact expand_eq_self ht.2.1
  exact hinv.bijOn (fun c hc => expand_mem_configurations h hcycle hc)
    fun t ht => reduce_mem_combinations h ht

/-- Where nothing is required, a chain that is not listed makes for a repetition. -/
lemma exists_same_expand (h : make table settings = .ok plan) (hrequire : settings.require = ∅)
    (hself : ∀ x, ¬ plan.retained.Lists x x) (hxy : plan.retained.Lists x y)
    (hyz : plan.retained.Lists y z) (hxz : ¬ plan.retained.Lists x z) :
    ∃ c ∈ plan.combinations, ∃ d ∈ plan.combinations,
      c ≠ d ∧ c.expand plan.retained = d.expand plan.retained := by
  have hlisted : ∀ c : Combination, c.Irredundant plan.retained →
      c.expand plan.retained = expand plan.retained {x} → c ∈ plan.combinations := by
    intro c hirr hexpand
    have hx : ∀ m ∈ ({x} : Combination), m ∈ plan.retained := by
      intro m hm
      rw [NameSet.mem_singleton_iff.mp hm]
      exact hxy.declared
    have hret : ∀ m ∈ c, m ∈ plan.retained := by
      intro m hm
      have hon : m ∈ expand plan.retained {x} := hexpand ▸ mem_expand_self hm
      exact mem_retained_of_mem_expand h hx hon
    exact mem_of_irredundant h hret hirr (satisfies_iff.mpr (Or.inl hrequire))
  obtain ⟨d, hne, hirr, hexpand⟩ := exists_twin hself hxy hyz hxz
  exact ⟨d, hlisted d hirr hexpand, {x}, hlisted {x} (irredundant_singleton (hself x)) rfl, hne,
    hexpand⟩

/-- **When each configuration is tested exactly once.** If features list all that they lead to,
the combinations of a plan stand for its configurations one by one. Where nothing is required
this is the only case: a feature that leads to another one in two steps, and does not list it,
makes two combinations turn on the same. -/
theorem configurations_once (table : FeatureTable) (settings : Settings)
    (hsize : (table.selectable settings.exclude).card ≤ 64)
    (hself : ∀ x, ¬ (table.retain settings.exclude).Lists x x) :
    ∃ plan, make table settings = .ok plan ∧ plan.retained = table.retain settings.exclude ∧
      plan.combinations.Nodup ∧
      (plan.retained.TransitivelyClosed →
        Set.BijOn (expand plan.retained) {c | c ∈ plan.combinations}
          (configurations plan.retained settings.require)) ∧
      (settings.require = ∅ →
        (Set.InjOn (expand plan.retained) {c | c ∈ plan.combinations} →
          plan.retained.TransitivelyClosed) ∧
        ∀ x y z, plan.retained.Lists x y → plan.retained.Lists y z → ¬ plan.retained.Lists x z →
          ∃ c ∈ plan.combinations, ∃ d ∈ plan.combinations,
            c ≠ d ∧ c.expand plan.retained = d.expand plan.retained) := by
  obtain ⟨plan, hplan, hretained⟩ := exists_make hsize
  rw [← hretained] at hself
  have hnodup := plan.nodup_combinations
  refine ⟨plan, hplan, hretained, hnodup, bijOn_expand hplan hself, fun hrequire => ⟨?_, ?_⟩⟩
  · intro hinj x y z hxy hyz
    by_contra hxz
    obtain ⟨c, hc, d, hd, hne, heq⟩ := exists_same_expand hplan hrequire hself hxy hyz hxz
    exact hne (hinj hc hd heq)
  · exact fun x y z => exists_same_expand hplan hrequire hself

/-- In a chain of three the last feature leads to the first and does not list it. Without the
first one, features list all that they lead to. -/
theorem configurations_once_chain :
    ((FeatureTable.chain.selectable ∅).card ≤ 64 ∧
      (∀ x, ¬ (FeatureTable.chain.retain ∅).Lists x x) ∧
      ∃ plan, make .chain ⟨∅, ∅⟩ = .ok plan ∧ ∃ c ∈ plan.combinations, ∃ d ∈ plan.combinations,
        c ≠ d ∧ c.expand plan.retained = d.expand plan.retained) ∧
    (FeatureTable.chain.selectable {"a"}).card ≤ 64 ∧
      (∀ x, ¬ (FeatureTable.chain.retain {"a"}).Lists x x) ∧
      ∃ plan, make .chain ⟨{"a"}, {"b"}⟩ = .ok plan ∧
        Set.BijOn (expand plan.retained) {c | c ∈ plan.combinations}
          (configurations plan.retained {"b"}) := by
  have hsize : (FeatureTable.chain.selectable ∅).card ≤ 64 := by decide +kernel
  have hsize' : (FeatureTable.chain.selectable {"a"}).card ≤ 64 := by decide +kernel
  have hself : ∀ x, ¬ (FeatureTable.chain.retain ∅).Lists x x :=
    FeatureTable.not_lists_self (by decide +kernel)
  have hself' : ∀ x, ¬ (FeatureTable.chain.retain {"a"}).Lists x x :=
    FeatureTable.not_lists_self (by decide +kernel)
  obtain ⟨plan, hplan, hretained, -, -, hrepeat⟩ :=
    configurations_once .chain ⟨∅, ∅⟩ hsize hself
  obtain ⟨plan', hplan', hretained', -, hbij, -⟩ :=
    configurations_once .chain ⟨{"a"}, {"b"}⟩ hsize' hself'
  refine ⟨⟨hsize, hself, plan, hplan, ?_⟩, hsize', hself', plan', hplan', hbij ?_⟩
  · refine (hrepeat rfl).2 "c" "b" "a" ?_ ?_ ?_ <;>
      rw [hretained] <;> decide +kernel
  · rw [hretained']
    decide +kernel

end Plan

end FeatureMatrix
