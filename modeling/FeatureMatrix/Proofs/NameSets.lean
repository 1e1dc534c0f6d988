import FeatureMatrix.Combination
import Mathlib.Data.Fintype.Card
import Mathlib.Data.Set.Finite.Basic
import Mathlib.Order.WellFounded
import Mathlib.Tactic.Lemma

/-!
Membership in sets of names, and the two tests that are made on them: whether two sets share
a name, and whether a combination meets a group.
-/

namespace FeatureMatrix

namespace NameSet

variable {s t : NameSet} {x a : String}

lemma contains_eq_false_iff : s.contains x = false ↔ x ∉ s := by
  rw [Std.ExtTreeSet.mem_iff_contains, Bool.not_eq_true]

lemma mem_filter_iff {p : String → Bool} : x ∈ s.filter p ↔ x ∈ s ∧ p x = true := by
  rw [← Std.ExtTreeSet.mem_toList, Std.ExtTreeSet.toList_filter, List.mem_filter,
    Std.ExtTreeSet.mem_toList]

lemma mem_insert_iff : x ∈ s.insert a ↔ x = a ∨ x ∈ s := by
  rw [Std.ExtTreeSet.mem_insert, Std.LawfulEqCmp.compare_eq_iff_eq, eq_comm]

/-- A name that is in neither set can be taken out again. -/
lemma eq_of_insert_eq (hs : a ∉ s) (ht : a ∉ t) (h : s.insert a = t.insert a) : s = t := by
  ext x
  have hx : x ∈ s.insert a ↔ x ∈ t.insert a := by rw [h]
  rw [mem_insert_iff, mem_insert_iff] at hx
  by_cases hxa : x = a
  · rw [hxa]
    exact iff_of_false hs ht
  · rwa [or_iff_right hxa, or_iff_right hxa] at hx

lemma mem_singleton_iff : x ∈ ({a} : NameSet) ↔ x = a := by
  rw [Std.ExtTreeSet.singleton_eq_insert, mem_insert_iff]
  simp

lemma mem_pair_iff {b : String} : x ∈ ({a, b} : NameSet) ↔ x = a ∨ x = b := by
  rw [Std.ExtTreeSet.insert_eq_insert, mem_insert_iff, mem_singleton_iff]

lemma mem_ofList_iff {l : List String} : x ∈ (.ofList l : NameSet) ↔ x ∈ l := by
  simp [Std.ExtTreeSet.mem_ofList]

lemma ofList_toList : (.ofList s.toList : NameSet) = s :=
  Std.ExtTreeSet.ext_mem fun x => by rw [mem_ofList_iff, Std.ExtTreeSet.mem_toList]

instance {p : String → Prop} [DecidablePred p] : Decidable (∀ x ∈ s, p x) :=
  decidable_of_iff (∀ x ∈ s.toList, p x) <| by simp only [Std.ExtTreeSet.mem_toList]

lemma not_mem_union_iff : x ∉ s ∪ t ↔ x ∉ s ∧ x ∉ t := by
  rw [Std.ExtTreeSet.mem_union_iff, not_or]

lemma union_comm (s t : NameSet) : s ∪ t = t ∪ s := by
  ext x
  rw [Std.ExtTreeSet.mem_union_iff, Std.ExtTreeSet.mem_union_iff, or_comm]

/-- Whatever can be said of names singles out a part of a set. -/
lemma exists_part (s : NameSet) (p : String → Prop) :
    ∃ t : NameSet, ∀ x, x ∈ t ↔ x ∈ s ∧ p x := by
  classical
  exact ⟨s.filter fun x => p x, fun x => by rw [mem_filter_iff, decide_eq_true_iff]⟩

lemma eq_empty_iff : s = ∅ ↔ ∀ x, x ∉ s :=
  ⟨by rintro rfl x; exact Std.ExtTreeSet.not_mem_empty,
    fun h => Std.ExtTreeSet.ext_mem fun x => by simp [h x]⟩

/-- Of the members of which `p` holds, one comes first in an order of them. -/
lemma exists_first {p : String → Prop} {r : String → String → Prop}
    (htrans : ∀ x y z, r x y → r y z → r x z) (hirrefl : ∀ x ∈ s, p x → ¬ r x x) (hx : x ∈ s)
    (hp : p x) : ∃ m ∈ s, p m ∧ ∀ y ∈ s, p y → ¬ r y m := by
  obtain ⟨t, ht⟩ := exists_part s p
  have : IsTrans {m // m ∈ t.toList} fun a b => r a b := ⟨fun a b c => htrans a b c⟩
  have : Std.Irrefl fun a b : {m // m ∈ t.toList} => r a b := by
    refine ⟨fun a => ?_⟩
    obtain ⟨has, hpa⟩ := (ht a).mp (Std.ExtTreeSet.mem_toList.mp a.2)
    exact hirrefl a has hpa
  have hwf := Finite.wellFounded_of_trans_of_irrefl fun a b : {m // m ∈ t.toList} => r a b
  have hxt : x ∈ t.toList := Std.ExtTreeSet.mem_toList.mpr ((ht x).mpr ⟨hx, hp⟩)
  obtain ⟨⟨m, hm⟩, -, hfirst⟩ := hwf.has_min Set.univ ⟨⟨x, hxt⟩, trivial⟩
  obtain ⟨hms, hpm⟩ := (ht m).mp (Std.ExtTreeSet.mem_toList.mp hm)
  refine ⟨m, hms, hpm, fun y hy hpy => ?_⟩
  exact hfirst ⟨y, Std.ExtTreeSet.mem_toList.mpr ((ht y).mpr ⟨hy, hpy⟩)⟩ trivial

lemma meets_iff : s.meets t = true ↔ ∃ x ∈ s, x ∈ t := by
  simp [meets]

lemma meets_insert : meets (s.insert a) t = (t.contains a || s.meets t) := by
  rw [Bool.eq_iff_iff, Bool.or_eq_true, meets_iff, meets_iff, ← Std.ExtTreeSet.mem_iff_contains]
  simp only [mem_insert_iff, or_and_right, exists_or, exists_eq_left]

lemma meets_eq_false_iff : s.meets t = false ↔ ∀ x ∈ s, x ∉ t := by
  simp [meets]

end NameSet

namespace Combination

variable {c : Combination} {group group' : NameSet}

lemma satisfies_iff : c.satisfies group = true ↔ group = ∅ ∨ ∃ x ∈ c, x ∈ group := by
  simp [satisfies, NameSet.meets_iff]

lemma satisfies_iff_of_ne (h : group ≠ ∅) :
    c.satisfies group = true ↔ ∃ x ∈ c, x ∈ group := by
  rw [satisfies_iff, or_iff_right h]

lemma satisfies_empty : c.satisfies ∅ = true := satisfies_iff.mpr (Or.inl rfl)

lemma satisfies_mono (h : group ≠ ∅) (hsub : ∀ x ∈ group, x ∈ group')
    (hc : c.satisfies group = true) : c.satisfies group' = true := by
  obtain ⟨x, hx, hxg⟩ := (satisfies_iff_of_ne h).mp hc
  exact satisfies_iff.mpr (Or.inr ⟨x, hx, hsub x hxg⟩)

/-- Names that are added to a group can be met instead of it, unless it was empty. -/
lemma satisfies_union_iff {more : NameSet} (h : group ≠ ∅) :
    c.satisfies (group ∪ more) = true ↔ c.satisfies group = true ∨ ∃ x ∈ c, x ∈ more := by
  have hne : group ∪ more ≠ ∅ := by
    intro hempty
    refine h (NameSet.eq_empty_iff.mpr fun x hx => ?_)
    exact NameSet.eq_empty_iff.mp hempty x (Std.ExtTreeSet.mem_union_iff.mpr (Or.inl hx))
  rw [satisfies_iff_of_ne hne, satisfies_iff_of_ne h]
  simp only [Std.ExtTreeSet.mem_union_iff, and_or_left, exists_or]

end Combination

end FeatureMatrix
