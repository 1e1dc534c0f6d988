import FeatureMatrix.Proofs.Variation

/-!
What a plan depends on, and how much of it the list of combinations gives away.

A plan is made from the retained table, and that table is settled by the selectable features and
what each of them implies. All other labels, the lists of excluded features and excluded names
that are not declared leave no trace in it.

Where nothing is required, the list has the combinations no two members of which are adjacent,
that is, of which none lists the other. A feature that does not list itself is such a combination
alone, so the list tells which features there are. Two of them are such a combination together
unless they are adjacent, so it tells this as well; it cannot tell which one lists the other.
-/

namespace FeatureMatrix

namespace FeatureTable

variable {table table' : FeatureTable} {exclude exclude' : NameSet} {x y : String}

/-! ### What settles the retained table -/

lemma lists_retain_iff_implied :
    (table.retain exclude).Lists x y ↔
      x ∈ table.selectable exclude ∧ y ∈ table.implied exclude x := by
  constructor
  · intro h
    have hx := mem_selectable.mpr h.declared
    exact ⟨hx, (mem_implied hx).mpr h⟩
  · rintro ⟨hx, hy⟩
    exact (mem_implied hx).mp hy

lemma selectable_of_implied (h : y ∈ table.implied exclude x) : y ∈ table.selectable exclude :=
  h.2.2.2

/-- The same selectable features, with the same implied ones, are the same retained table. -/
lemma retain_eq (hnames : table.selectable exclude = table'.selectable exclude')
    (himplied : ∀ x ∈ table.selectable exclude,
      table.implied exclude x = table'.implied exclude' x) :
    table.retain exclude = table'.retain exclude' := by
  refine eq_of_lists (fun x => ?_) fun x y => ?_
  · rw [← mem_selectable, ← mem_selectable, hnames]
  · rw [lists_retain_iff_implied, lists_retain_iff_implied, ← hnames]
    refine and_congr_right fun hx => ?_
    rw [himplied x hx]

/-- The chain with labels that do not count: of dependencies, undeclared and excluded. -/
def cluttered : FeatureTable := .ofList [("a", {"dep:b"}), ("b", {"a", "c/std", "gone"}),
  ("c", {"b", "a?/std", "full"}), ("full", {"a", "full"})]

/-- The chain the other way round. -/
def turned : FeatureTable := .ofList [("a", {"b"}), ("b", {"c"}), ("c", ∅)]

/-! ### Adjacent features -/

lemma not_mem_implied_self (h : ∀ x ∈ (table.retain exclude).keys,
    ¬ (table.retain exclude).Lists x x) : ∀ x ∈ table.selectable exclude,
      x ∉ table.implied exclude x := by
  intro x hx hlists
  exact not_lists_self h x (lists_retain_iff_implied.mpr ⟨hx, hlists⟩)

/-- Two selectable features of which one lists the other. -/
def Adjacent (table : FeatureTable) (exclude : NameSet) (x y : String) : Prop :=
  x ∈ table.selectable exclude ∧ y ∈ table.selectable exclude ∧
    (y ∈ table.implied exclude x ∨ x ∈ table.implied exclude y)

lemma adjacent_comm : table.Adjacent exclude x y ↔ table.Adjacent exclude y x := by
  unfold Adjacent
  tauto

lemma adjacent_iff : table.Adjacent exclude x y ↔
    (table.retain exclude).Lists x y ∨ (table.retain exclude).Lists y x := by
  rw [lists_retain_iff_implied, lists_retain_iff_implied]
  constructor
  · rintro ⟨hx, hy, h | h⟩
    · exact Or.inl ⟨hx, h⟩
    · exact Or.inr ⟨hy, h⟩
  · rintro (⟨hx, h⟩ | ⟨hy, h⟩)
    · exact ⟨hx, selectable_of_implied h, Or.inl h⟩
    · exact ⟨selectable_of_implied h, hy, Or.inr h⟩

end FeatureTable

namespace Plan

open Combination

variable {table table' : FeatureTable} {exclude exclude' : NameSet} {plan plan' : Plan}
  {c : Combination} {x y : String}

/-! ### What the list tells -/

/-- Where nothing is required, what is listed has no two adjacent members, and all of that is
listed. -/
lemma mem_combinations_iff_adjacent (h : make table ⟨exclude, ∅⟩ = .ok plan) :
    c ∈ plan.combinations ↔ (∀ x ∈ c, x ∈ table.selectable exclude) ∧
      ∀ x ∈ c, ∀ y ∈ c, ¬ table.Adjacent exclude x y := by
  have hretained : plan.retained = table.retain exclude := (make_eq_ok h).1
  simp only [FeatureTable.mem_selectable, FeatureTable.adjacent_iff, ← hretained]
  constructor
  · intro hc
    have hirr := irredundant_of_mem h hc
    refine ⟨mem_retained h hc, fun x hx y hy hadj => ?_⟩
    rcases hadj with hxy | hyx
    · exact hirr y hy x hx hxy
    · exact hirr x hx y hy hyx
  · rintro ⟨hret, hadj⟩
    have hirr : c.Irredundant plan.retained := fun x hx y hy hyx => hadj x hx y hy (Or.inr hyx)
    exact mem_of_irredundant h hret hirr satisfies_empty

/-- A feature is listed alone if it can be selected. -/
lemma singleton_mem_combinations_iff (h : make table ⟨exclude, ∅⟩ = .ok plan)
    (hself : ∀ x ∈ table.selectable exclude, x ∉ table.implied exclude x) :
    ({x} : Combination) ∈ plan.combinations ↔ x ∈ table.selectable exclude := by
  rw [mem_combinations_iff_adjacent h]
  simp only [NameSet.mem_singleton_iff, forall_eq]
  refine and_iff_left_of_imp fun hx hadj => ?_
  obtain ⟨-, -, h | h⟩ := hadj
  · exact hself x hx h
  · exact hself x hx h

/-- Two features are adjacent if both can be selected but are not listed together. -/
lemma adjacent_iff_pair_not_mem (h : make table ⟨exclude, ∅⟩ = .ok plan)
    (hself : ∀ x ∈ table.selectable exclude, x ∉ table.implied exclude x) :
    table.Adjacent exclude x y ↔ x ∈ table.selectable exclude ∧ y ∈ table.selectable exclude ∧
      ({x, y} : Combination) ∉ plan.combinations := by
  rw [mem_combinations_iff_adjacent h]
  constructor
  · intro hadj
    refine ⟨hadj.1, hadj.2.1, fun ⟨_, hfree⟩ => ?_⟩
    exact hfree x (NameSet.mem_pair_iff.mpr (Or.inl rfl)) y
      (NameSet.mem_pair_iff.mpr (Or.inr rfl)) hadj
  · rintro ⟨hx, hy, hnot⟩
    by_contra hadj
    refine hnot ⟨fun m hm => ?_, fun m hm n hn hmn => ?_⟩
    · rcases NameSet.mem_pair_iff.mp hm with rfl | rfl
      · exact hx
      · exact hy
    · -- neither feature is adjacent to itself, so the two would have to be adjacent
      have hloop : ∀ z ∈ table.selectable exclude, ¬ table.Adjacent exclude z z :=
        fun z hz ⟨_, _, hzz⟩ => hzz.elim (hself z hz) (hself z hz)
      rcases NameSet.mem_pair_iff.mp hm with rfl | rfl
      · rcases NameSet.mem_pair_iff.mp hn with rfl | rfl
        · exact hloop _ hx hmn
        · exact hadj hmn
      · rcases NameSet.mem_pair_iff.mp hn with rfl | rfl
        · exact hadj (FeatureTable.adjacent_comm.mp hmn)
        · exact hloop _ hy hmn

/-- Where nothing is required and no feature lists itself, two lists are the same if the features
and their adjacency are, and only then. -/
lemma combinations_eq_iff (h : make table ⟨exclude, ∅⟩ = .ok plan)
    (h' : make table' ⟨exclude', ∅⟩ = .ok plan')
    (hself : ∀ x ∈ table.selectable exclude, x ∉ table.implied exclude x)
    (hself' : ∀ x ∈ table'.selectable exclude', x ∉ table'.implied exclude' x) :
    plan.combinations = plan'.combinations ↔
      table.selectable exclude = table'.selectable exclude' ∧
        ∀ x y, table.Adjacent exclude x y ↔ table'.Adjacent exclude' x y := by
  constructor
  · intro heq
    have hnames : table.selectable exclude = table'.selectable exclude' := by
      ext x
      rw [← singleton_mem_combinations_iff h hself, ← singleton_mem_combinations_iff h' hself', heq]
    refine ⟨hnames, fun x y => ?_⟩
    rw [adjacent_iff_pair_not_mem h hself, adjacent_iff_pair_not_mem h' hself', hnames, heq]
  · rintro ⟨hnames, hadj⟩
    refine eq_of_precedes plan.combinations_precedes plan'.combinations_precedes fun c => ?_
    rw [mem_combinations_iff_adjacent h, mem_combinations_iff_adjacent h', hnames]
    simp only [hadj]

/-- **What a plan depends on, and what its list tells.** The selectable features and what each of
them implies settle the plan, whatever is required. Where nothing is, and no feature lists itself,
the list tells the selectable features and which of them are adjacent, and nothing else. -/
theorem combinations_determined (table table' : FeatureTable) (exclude exclude' : NameSet)
    (hsize : (table.selectable exclude).card ≤ 64)
    (hsize' : (table'.selectable exclude').card ≤ 64) :
    ∃ plan plan' : NameSet → Plan,
      (∀ require, make table ⟨exclude, require⟩ = .ok (plan require)) ∧
      (∀ require, make table' ⟨exclude', require⟩ = .ok (plan' require)) ∧
      (table.selectable exclude = table'.selectable exclude' →
        (∀ x ∈ table.selectable exclude,
          table.implied exclude x = table'.implied exclude' x) →
        ∀ require, plan require = plan' require) ∧
      ((∀ x ∈ table.selectable exclude, x ∉ table.implied exclude x) →
        (∀ x ∈ table'.selectable exclude', x ∉ table'.implied exclude' x) →
        ((plan ∅).combinations = (plan' ∅).combinations ↔
          table.selectable exclude = table'.selectable exclude' ∧
            ∀ x y, table.Adjacent exclude x y ↔ table'.Adjacent exclude' x y)) := by
  choose plan hplan using exists_make_of_card hsize
  choose plan' hplan' using exists_make_of_card hsize'
  refine ⟨plan, plan', hplan, hplan', fun hnames himplied require => ?_, ?_⟩
  · have hretain := FeatureTable.retain_eq hnames himplied
    have hmake : make table ⟨exclude, require⟩ = make table' ⟨exclude', require⟩ := by
      simp only [make, hretain]
    rw [hplan, hplan'] at hmake
    exact Except.ok.inj hmake
  · exact combinations_eq_iff (hplan ∅) (hplan' ∅)

/-- Labels that do not count make no difference to a chain. Turned round it has another plan, but
the same list where nothing is required. -/
theorem combinations_determined_chain :
    ((FeatureTable.chain.selectable ∅).card ≤ 64 ∧
      (FeatureTable.cluttered.selectable {"full", "gone"}).card ≤ 64 ∧
      FeatureTable.chain.selectable ∅ = FeatureTable.cluttered.selectable {"full", "gone"} ∧
      (∀ x ∈ FeatureTable.chain.selectable ∅, FeatureTable.chain.implied ∅ x =
        FeatureTable.cluttered.implied {"full", "gone"} x) ∧
      ∃ plan : NameSet → Plan, (∀ require, make .chain ⟨∅, require⟩ = .ok (plan require)) ∧
        ∀ require, make .cluttered ⟨{"full", "gone"}, require⟩ = .ok (plan require)) ∧
    (FeatureTable.turned.selectable ∅).card ≤ 64 ∧
      (∀ x ∈ FeatureTable.chain.selectable ∅, x ∉ FeatureTable.chain.implied ∅ x) ∧
      (∀ x ∈ FeatureTable.turned.selectable ∅, x ∉ FeatureTable.turned.implied ∅ x) ∧
      FeatureTable.chain.selectable ∅ = FeatureTable.turned.selectable ∅ ∧
      (∀ x y, FeatureTable.chain.Adjacent ∅ x y ↔ FeatureTable.turned.Adjacent ∅ x y) ∧
      ∃ plan plan', make .chain ⟨∅, ∅⟩ = .ok plan ∧ make .turned ⟨∅, ∅⟩ = .ok plan' ∧
        plan.combinations = plan'.combinations := by
  have hsize : (FeatureTable.chain.selectable ∅).card ≤ 64 := by decide +kernel
  have hsize' : (FeatureTable.cluttered.selectable {"full", "gone"}).card ≤ 64 := by decide +kernel
  have hsize'' : (FeatureTable.turned.selectable ∅).card ≤ 64 := by decide +kernel
  have hnames : FeatureTable.chain.selectable ∅ =
      FeatureTable.cluttered.selectable {"full", "gone"} := by decide +kernel
  have hretain : FeatureTable.chain.retain ∅ = FeatureTable.cluttered.retain {"full", "gone"} :=
    Std.ExtTreeMap.toList_inj.mp (by decide +kernel)
  have himplied : ∀ x ∈ FeatureTable.chain.selectable ∅, FeatureTable.chain.implied ∅ x =
      FeatureTable.cluttered.implied {"full", "gone"} x := by
    intro x hx
    ext y
    rw [FeatureTable.mem_implied hx, FeatureTable.mem_implied (hnames ▸ hx), hretain]
  have hself : ∀ x ∈ FeatureTable.chain.selectable ∅, x ∉ FeatureTable.chain.implied ∅ x :=
    FeatureTable.not_mem_implied_self (by decide +kernel)
  have hself' : ∀ x ∈ FeatureTable.turned.selectable ∅, x ∉ FeatureTable.turned.implied ∅ x :=
    FeatureTable.not_mem_implied_self (by decide +kernel)
  have hnames' : FeatureTable.chain.selectable ∅ = FeatureTable.turned.selectable ∅ := by
    decide +kernel
  have hturn : ∀ x ∈ (FeatureTable.chain.retain ∅).keys,
      ∀ y ∈ (FeatureTable.chain.retain ∅).labels x, (FeatureTable.turned.retain ∅).Lists y x := by
    decide +kernel
  have hturn' : ∀ y ∈ (FeatureTable.turned.retain ∅).keys,
      ∀ x ∈ (FeatureTable.turned.retain ∅).labels y, (FeatureTable.chain.retain ∅).Lists x y := by
    decide +kernel
  have hlists : ∀ x y, (FeatureTable.chain.retain ∅).Lists x y ↔
      (FeatureTable.turned.retain ∅).Lists y x := fun x y =>
    ⟨fun h => hturn x (Std.ExtTreeMap.mem_keys.mpr h.declared) y h,
      fun h => hturn' y (Std.ExtTreeMap.mem_keys.mpr h.declared) x h⟩
  have hadj : ∀ x y, FeatureTable.chain.Adjacent ∅ x y ↔ FeatureTable.turned.Adjacent ∅ x y := by
    intro x y
    rw [FeatureTable.adjacent_iff, FeatureTable.adjacent_iff, hlists, hlists, or_comm]
  obtain ⟨plan, plan', hplan, hplan', hsame, -⟩ :=
    combinations_determined .chain .cluttered ∅ {"full", "gone"} hsize hsize'
  obtain ⟨plan₁, plan₁', hplan₁, hplan₁', -, hiff⟩ :=
    combinations_determined .chain .turned ∅ ∅ hsize hsize''
  refine ⟨⟨hsize, hsize', hnames, himplied, plan, hplan, fun require => ?_⟩, hsize'', hself, hself',
    hnames', hadj, plan₁ ∅, plan₁' ∅, hplan₁ ∅, hplan₁' ∅,
    (hiff hself hself').mpr ⟨hnames', hadj⟩⟩
  rw [hplan' require, hsame hnames himplied require]

end Plan

end FeatureMatrix
