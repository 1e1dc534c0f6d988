import FeatureMatrix.Proofs.Irredundant

/-!
What a reduction still turns on.

A reduction takes members out, so it turns on no more than the combination did. It turns on no
less either, as long as the members that keep each other out are still on: going back from a
member along members that list each other, one comes to a member that nothing lists, which is
kept, or else to a cycle. Ways through features outside the combination play no part in this,
since only members take members out. They do in what is on again afterwards: a member of a cycle
may be reached from outside, so the condition is on what is on, not on what is kept.
-/

namespace FeatureMatrix.Combination

open Relation

variable {table : FeatureTable} {s : Combination} {x : String}

/-- Every member is still on if those on a cycle of members are. -/
lemma mem_expand_reduce_of_cycles (hx : x ∈ s) (hcycles : ∀ m ∈ s,
    TransGen (table.ListsWithin s) m m → m ∈ (s.reduce table).expand table) :
    x ∈ (s.reduce table).expand table := by
  by_cases hcycle : ∃ m ∈ s, ReflTransGen (table.ListsWithin s) m x ∧
      TransGen (table.ListsWithin s) m m
  · obtain ⟨m, hm, hmx, hcyc⟩ := hcycle
    obtain ⟨k, hk, hkm⟩ := mem_expand.mp (hcycles m hm hcyc)
    exact mem_expand.mpr ⟨k, hk, hkm.trans (FeatureTable.leads_of_within hmx)⟩
  · have hfree : ∀ m ∈ s, ReflTransGen (table.ListsWithin s) m x →
        ¬ TransGen (table.ListsWithin s) m m :=
      fun m hm hmx hcyc => hcycle ⟨m, hm, hmx, hcyc⟩
    obtain ⟨m, hm, hunlisted, hmx⟩ := exists_unlisted_within hx hfree
    exact mem_expand.mpr ⟨m, mem_reduce.mpr ⟨hm, hunlisted⟩, FeatureTable.leads_of_within hmx⟩

/-- **A reduction keeps on what was on, up to cycles of members.** It turns on nothing more, and
all of it just when it turns on every member that lies on a cycle of members. A second reduction
changes nothing. -/
theorem expand_reduce_eq_iff (table : FeatureTable) (s : Combination) :
    (∀ x ∈ (s.reduce table).expand table, x ∈ s.expand table) ∧
    ((s.reduce table).expand table = s.expand table ↔ ∀ x ∈ s,
      TransGen (table.ListsWithin s) x x → x ∈ (s.reduce table).expand table) ∧
    ((∀ x ∈ s, ¬ TransGen (table.ListsWithin s) x x) →
      (s.reduce table).expand table = s.expand table) ∧
    (s.reduce table).reduce table = s.reduce table := by
  have hiff : (s.reduce table).expand table = s.expand table ↔ ∀ x ∈ s,
      TransGen (table.ListsWithin s) x x → x ∈ (s.reduce table).expand table := by
    constructor
    · intro heq x hx _
      rw [heq]
      exact mem_expand_self hx
    · intro hcycles
      ext y
      refine ⟨expand_reduce_subset y, ?_⟩
      exact expand_subset (fun x hx => mem_expand_reduce_of_cycles hx hcycles) y
  refine ⟨expand_reduce_subset, hiff, fun hfree => hiff.mpr ?_, irredundant_reduce.reduce_eq⟩
  exact fun x hx hcyc => absurd hcyc (hfree x hx)

/-- A feature that is listed goes, and is turned on again by the one that lists it. -/
theorem expand_reduce_eq_iff_chain :
    (∀ x ∈ ({"a", "b"} : Combination),
      ¬ TransGen (FeatureTable.chain.ListsWithin {"a", "b"}) x x) ∧
    (reduce .chain {"a", "b"}).expand .chain = expand .chain {"a", "b"} := by
  have hlists : ∀ x ∈ ({"a", "b"} : Combination), ∀ y ∈ ({"a", "b"} : Combination),
      FeatureTable.chain.Lists x y → x = "b" ∧ y = "a" := by decide +kernel
  have hfree : ∀ x ∈ ({"a", "b"} : Combination),
      ¬ TransGen (FeatureTable.chain.ListsWithin {"a", "b"}) x x := by
    intro x _ hcyc
    obtain ⟨y, ⟨hx, hy, hxy⟩, -⟩ := TransGen.head'_iff.mp hcyc
    obtain ⟨z, -, ⟨hz, -, hzx⟩⟩ := TransGen.tail'_iff.mp hcyc
    have hb : x = "b" := (hlists x hx y hy hxy).1
    have ha : x = "a" := (hlists z hz x hx hzx).2
    exact absurd (hb.symm.trans ha) (by decide)
  obtain ⟨-, -, hacyclic, -⟩ := expand_reduce_eq_iff .chain {"a", "b"}
  exact ⟨hfree, hacyclic hfree⟩

end FeatureMatrix.Combination
