import FeatureMatrix.Proofs.Enumeration
import FeatureMatrix.Proofs.Expansion

/-!
No configuration is lost: whatever a qualifying selection turns on is turned on by a
combination of the plan.

All that a selection turns on can be traced back to its origins, the features that lead to
whatever leads to them. One origin of each kind is enough to turn all of it on, and of these
none lists another. So that the required group is met, a way from one of them to a required
feature is selected as well; each feature on it is listed by the one before, and so the
reduction takes it out again.
-/

namespace FeatureMatrix

open Relation

namespace FeatureTable

/-- A member that leads to every member it can be reached from. -/
structure Origin (table : FeatureTable) (on : NameSet) (x : String) : Prop where
  mem : x ∈ on
  leads_back : ∀ y ∈ on, table.Leads y x → table.Leads x y

variable {table : FeatureTable} {on : NameSet} {x y c : String}

/-! ### Origins -/

/-- What is between an origin and itself is an origin. -/
lemma Origin.of_leads (h : table.Origin on x) (hy : y ∈ on) (hyx : table.Leads y x) :
    table.Origin on y where
  mem := hy
  leads_back z hz hzy := hyx.trans (h.leads_back z hz (hzy.trans hyx))

lemma exists_origin (hx : x ∈ on) : ∃ m, table.Origin on m ∧ table.Leads m x := by
  -- before another: leads to it, and not the other way
  obtain ⟨m, hm, hmx, hfirst⟩ := NameSet.exists_first (p := (table.Leads · x))
    (r := fun y m => table.Leads y m ∧ ¬ table.Leads m y)
    (fun _ _ _ ⟨hab, _⟩ ⟨hbc, hcb⟩ => ⟨hab.trans hbc, fun hca => hcb (hca.trans hab)⟩)
    (fun _ _ _ ⟨h, h'⟩ => h' h) hx .refl
  refine ⟨m, ⟨hm, fun y hy hym => ?_⟩, hmx⟩
  by_contra hmy
  exact hfirst y hy (hym.trans hmx) ⟨hym, hmy⟩

/-! ### One origin of each kind -/

/-- The origin that stands for those it leads to: `c` itself, and elsewhere the one with the
least name. -/
structure Chosen (table : FeatureTable) (on : NameSet) (c x : String) : Prop where
  origin : table.Origin on x
  eq_self : table.Leads c x → x = c
  least : ¬ table.Leads c x → ∀ y ∈ on, table.Leads y x → x ≤ y

lemma chosen_self (h : table.Origin on c) : table.Chosen on c c where
  origin := h
  eq_self _ := rfl
  least hc := absurd .refl hc

lemma exists_chosen (hc : table.Origin on c) (hx : table.Origin on x) :
    ∃ m, table.Chosen on c m ∧ table.Leads m x := by
  by_cases hcx : table.Leads c x
  · exact ⟨c, chosen_self hc, hcx⟩
  · obtain ⟨m, hm, hmx, hleast⟩ := NameSet.exists_first (p := (table.Leads · x)) (r := (· < ·))
      (fun _ _ _ => lt_trans) (fun _ _ _ => lt_irrefl _) hx.mem .refl
    have hcm : ¬ table.Leads c m := fun hcm => hcx (hcm.trans hmx)
    refine ⟨m, ⟨hx.of_leads hm hmx, fun h => absurd h hcm, fun _ y hy hym => ?_⟩, hmx⟩
    exact not_lt.mp (hleast y hy (hym.trans hmx))

lemma Chosen.eq_of_leads (hx : table.Chosen on c x) (hy : table.Chosen on c y)
    (hxy : table.Leads x y) : x = y := by
  have hyx := hy.origin.leads_back x hx.origin.mem hxy
  by_cases hcx : table.Leads c x
  · rw [hx.eq_self hcx, hy.eq_self (hcx.trans hxy)]
  · have hcy : ¬ table.Leads c y := fun h => hcx (h.trans hyx)
    have hle : x ≤ y := hx.least hcx y hy.origin.mem hyx
    exact le_antisymm hle (hy.least hcy x hx.origin.mem hxy)

/-- The chosen ones turn on all that is on. -/
lemma mem_iff_chosen (hclosed : table.Closed on) (hc : table.Origin on c) :
    x ∈ on ↔ ∃ m, table.Chosen on c m ∧ table.Leads m x := by
  constructor
  · intro hx
    obtain ⟨o, ho, hox⟩ := exists_origin hx
    obtain ⟨m, hm, hmo⟩ := exists_chosen hc ho
    exact ⟨m, hm, hmo.trans hox⟩
  · rintro ⟨m, hm, hmx⟩
    exact hclosed.leads hm.origin.mem hmx

/-! ### The way to a required feature -/

/-- The names on a way that starts at `c` and then meets no origin: each of them is listed by
`c` or by another one. -/
def Trail (table : FeatureTable) (on : NameSet) (c : String) (way : String → Prop) : Prop :=
  ∀ m, way m → m ∈ on ∧ ¬ table.Origin on m ∧ ∃ l, (l = c ∨ way l) ∧ table.Lists l m

/-- A way from an origin, from where it has left the origins for the last time. -/
lemma exists_trail (hclosed : table.Closed on) (hx : table.Origin on x) (hxy : table.Leads x y) :
    ∃ c, table.Origin on c ∧ ∃ way, table.Trail on c way ∧ (y = c ∨ way y) := by
  induction hxy with
  | refl => exact ⟨x, hx, fun _ => False, fun _ h => h.elim, Or.inl rfl⟩
  | @tail b y hxb hlists ih =>
    by_cases hy : table.Origin on y
    · exact ⟨y, hy, fun _ => False, fun _ h => h.elim, Or.inl rfl⟩
    · obtain ⟨c, hc, way, hway, hb⟩ := ih
      refine ⟨c, hc, fun m => m = y ∨ way m, ?_, Or.inr (Or.inl rfl)⟩
      rintro m (rfl | hm)
      · exact ⟨hclosed.leads hx.mem (hxb.tail hlists), hy, b, hb.imp_right Or.inr, hlists⟩
      · obtain ⟨hon, hno, l, hl, hlm⟩ := hway m hm
        exact ⟨hon, hno, l, hl.imp_right Or.inr, hlm⟩

end FeatureTable

namespace Combination

open FeatureTable

variable {table : FeatureTable} {on : NameSet} {s : Combination} {x y c r : String}

/-- Of the chosen ones and a trail, the reduction keeps the chosen ones. -/
lemma mem_reduce_trail (hself : ∀ x, ¬ table.Lists x x) {way : String → Prop}
    (hc : table.Origin on c) (hway : table.Trail on c way)
    (hs : ∀ x, x ∈ s ↔ table.Chosen on c x ∨ way x) :
    x ∈ s.reduce table ↔ table.Chosen on c x := by
  rw [mem_reduce, hs]
  constructor
  · rintro ⟨hx | hx, hunlisted⟩
    · exact hx
    · obtain ⟨-, -, l, hl, hlx⟩ := hway x hx
      refine absurd hlx (hunlisted l ((hs l).mpr (hl.imp_left ?_)))
      rintro rfl
      exact chosen_self hc
  · refine fun hx => ⟨Or.inl hx, fun y hy hlists => ?_⟩
    rcases (hs y).mp hy with hy | hy
    · exact hself x (hy.eq_of_leads hx (.single hlists) ▸ hlists)
    · obtain ⟨hon, hno, -⟩ := hway y hy
      exact hno (hx.origin.of_leads hon (.single hlists))

/-- All that is on can be turned on by what is left of a selection that holds `r`. -/
lemma exists_generating (hself : ∀ x, ¬ table.Lists x x) (hclosed : table.Closed on)
    (hr : r ∈ on) :
    ∃ s : Combination, (∀ x ∈ s, x ∈ on) ∧ r ∈ s ∧ (s.reduce table).expand table = on := by
  obtain ⟨o, ho, hor⟩ : ∃ o, table.Origin on o ∧ table.Leads o r := exists_origin hr
  obtain ⟨c, hc, way, hway, hrway⟩ := exists_trail hclosed ho hor
  obtain ⟨s, hs⟩ := NameSet.exists_part on fun x => table.Chosen on c x ∨ way x
  have hs' : ∀ x, x ∈ s ↔ table.Chosen on c x ∨ way x := by
    intro x
    refine (hs x).trans (and_iff_right_of_imp ?_)
    rintro (hx | hx)
    · exact hx.origin.mem
    · exact (hway x hx).1
  refine ⟨s, fun x hx => ((hs x).mp hx).1, (hs' r).mpr (hrway.imp_left ?_), ?_⟩
  · rintro rfl
    exact chosen_self hc
  · ext x
    simp only [mem_expand, mem_reduce_trail hself hc hway hs', mem_iff_chosen hclosed hc]

end Combination

namespace Plan

variable {table : FeatureTable} {settings : Settings} {plan : Plan} {s : Combination} {r : String}

lemma mem_retained_of_mem_expand (h : make table settings = .ok plan)
    (hs : ∀ x ∈ s, x ∈ plan.retained) (hr : r ∈ s.expand plan.retained) : r ∈ plan.retained := by
  rw [(make_eq_ok h).1] at hs hr ⊢
  exact Combination.mem_retain_of_mem_expand hs hr

/-- What is on with `s`, by way of a selection that holds the member `r` as well. -/
lemma exists_expand_eq_of_mem (h : make table settings = .ok plan)
    (hself : ∀ x, ¬ plan.retained.Lists x x) (hs : ∀ x ∈ s, x ∈ plan.retained) (hrs : r ∈ s)
    (hr : settings.require = ∅ ∨ r ∈ settings.require) :
    ∃ c ∈ plan.combinations, c.expand plan.retained = s.expand plan.retained := by
  obtain ⟨t, ht, hrt, hreduce⟩ := Combination.exists_generating hself
    Combination.closed_expand (Combination.mem_expand_self hrs)
  have htret : ∀ x ∈ t, x ∈ plan.retained := fun x hx => mem_retained_of_mem_expand h hs (ht x hx)
  have hqualified : t.satisfies settings.require = true :=
    Combination.satisfies_iff.mpr (hr.imp_right fun hr => ⟨r, hrt, hr⟩)
  exact ⟨_, (mem_combinations h).mpr ⟨t, htret, hqualified, rfl⟩, hreduce⟩

/-- **No configuration is lost.** What a selection that meets the required group turns on is
just what some combination of the plan turns on, as long as no feature lists itself. -/
theorem exists_expand_eq (table : FeatureTable) (settings : Settings)
    (hsize : (table.selectable settings.exclude).card ≤ 64)
    (hself : ∀ x, ¬ (table.retain settings.exclude).Lists x x) :
    ∃ plan, make table settings = .ok plan ∧
      ∀ s : Combination, (∀ x ∈ s, x ∈ table.retain settings.exclude) →
        s.satisfies settings.require = true →
          ∃ c ∈ plan.combinations,
            c.expand (table.retain settings.exclude) = s.expand (table.retain settings.exclude) := by
  obtain ⟨plan, hplan, hretained⟩ := exists_make hsize
  refine ⟨plan, hplan, fun s hs hqualified => ?_⟩
  rw [← hretained] at hs hself ⊢
  rcases Combination.satisfies_iff.mp hqualified with hrequire | ⟨r, hrs, hr⟩
  · by_cases hempty : ∃ r, r ∈ s
    · obtain ⟨r, hrs⟩ := hempty
      exact exists_expand_eq_of_mem hplan hself hs hrs (Or.inl hrequire)
    · -- with no member there is nothing to reduce, and nothing is on
      have hs' : s = ∅ := NameSet.eq_empty_iff.mpr (not_exists.mp hempty)
      refine ⟨s, (mem_combinations hplan).mpr ⟨s, hs, hqualified, ?_⟩, rfl⟩
      rw [hs', Combination.reduce_empty]
  · exact exists_expand_eq_of_mem hplan hself hs hrs (Or.inr hr)

/-- Two features that list each other reduce to nothing together, but one of them alone still
turns on the other. -/
theorem exists_expand_eq_knot : (FeatureTable.knot.selectable ∅).card ≤ 64 ∧
    (∀ x, ¬ (FeatureTable.knot.retain ∅).Lists x x) ∧
    ∃ plan, make .knot ⟨∅, {"a"}⟩ = .ok plan ∧ ∃ c ∈ plan.combinations,
      c.expand (FeatureTable.knot.retain ∅) =
        Combination.expand (FeatureTable.knot.retain ∅) {"a", "b"} := by
  have hsize : (FeatureTable.knot.selectable ∅).card ≤ 64 := by decide +kernel
  have hself : ∀ x, ¬ (FeatureTable.knot.retain ∅).Lists x x :=
    FeatureTable.not_lists_self (by decide +kernel)
  refine ⟨hsize, hself, ?_⟩
  obtain ⟨plan, hplan, hall⟩ := exists_expand_eq .knot ⟨∅, {"a"}⟩ hsize hself
  have hmembers : ∀ x ∈ ({"a", "b"} : Combination).toList, x ∈ FeatureTable.knot.retain ∅ := by
    decide +kernel
  exact ⟨plan, hplan, hall {"a", "b"}
    (fun x hx => hmembers x (Std.ExtTreeSet.mem_toList.mpr hx)) (by decide +kernel)⟩

end Plan

end FeatureMatrix
