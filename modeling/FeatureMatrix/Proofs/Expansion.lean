import FeatureMatrix.Combination.Closure
import FeatureMatrix.Proofs.Dependencies
import Mathlib.Order.Bounds.Defs

/-!
What a combination turns on is its closure under labels.

A walk is looked at with any of its pending names followed next. At every turn what is on can be
reached from a member, and a name that is on is pending or has all its labels on. So when nothing
is pending any more, what is on holds whatever its names list; and it holds nothing but what can
be reached, so there is no smaller set of that kind around the members. No walk goes on for ever,
and so each of them comes to this end, whatever was followed when.
-/

namespace FeatureMatrix

open Relation

namespace FeatureTable

variable {table : FeatureTable} {on : NameSet} {x y : String}

/-- With all that its members list. -/
def Closed (table : FeatureTable) (on : NameSet) : Prop :=
  ∀ x ∈ on, ∀ y, table.Lists x y → y ∈ on

lemma Closed.leads (h : table.Closed on) (hx : x ∈ on) (hxy : table.Leads x y) : y ∈ on := by
  induction hxy with
  | refl => exact hx
  | tail _ hlists ih => exact h _ ih _ hlists

end FeatureTable

/-! ### Walks -/

namespace Walk

variable {table : FeatureTable} {c : Combination} {w w' : Walk} {enabled : NameSet}
  {others : List String} {name x : String}

/-- One turn of a walk: any of the pending names is followed. -/
inductive Turn (table : FeatureTable) : Walk → Walk → Prop
  | take (enabled : NameSet) (before : List String) (name : String) (after : List String) :
      Turn table ⟨enabled, before ++ name :: after⟩ (follow table enabled name (before ++ after))

lemma mem_enabled_follow :
    x ∈ (follow table enabled name others).enabled ↔ x ∈ enabled ∨ table.Lists name x :=
  Std.ExtTreeSet.mem_union_iff

lemma mem_pending_follow :
    x ∈ (follow table enabled name others).pending ↔
      (table.Lists name x ∧ x ∉ enabled) ∨ x ∈ others := by
  have hfresh : x ∈ fresh table enabled name ↔ table.Lists name x ∧ x ∉ enabled := by
    rw [fresh, List.mem_filter, Std.ExtTreeSet.mem_toList, Bool.not_eq_true',
      NameSet.contains_eq_false_iff]
    rfl
  rw [follow, List.mem_append, List.mem_reverse, hfresh]

/-- What holds at every turn of a walk from `c`. -/
structure From (table : FeatureTable) (c : Combination) (w : Walk) : Prop where
  members : ∀ x ∈ c, x ∈ w.enabled
  pending : ∀ x ∈ w.pending, x ∈ w.enabled
  reached : ∀ x ∈ w.enabled, ∃ m ∈ c, table.Leads m x
  followed : ∀ x ∈ w.enabled, x ∈ w.pending ∨ ∀ y, table.Lists x y → y ∈ w.enabled

lemma from_start : From table c (start c) := by
  have hpending : ∀ x, x ∈ (start c).pending ↔ x ∈ c := by simp [start]
  exact {
    members := fun _ hx => hx
    pending := fun x hx => (hpending x).mp hx
    reached := fun x hx => ⟨x, hx, .refl⟩
    followed := fun x hx => Or.inl ((hpending x).mpr hx) }

lemma From.turn (h : From table c w) (ht : Turn table w w') : From table c w' := by
  obtain ⟨enabled, before, name, after⟩ := ht
  have hpending : ∀ x, x ∈ before ++ name :: after ↔ x = name ∨ x ∈ before ++ after := by
    intro x
    simp only [List.mem_append, List.mem_cons]
    tauto
  have hname : name ∈ enabled := h.pending name ((hpending name).mpr (Or.inl rfl))
  -- what was on is still followed or pending, and `name` is now followed
  have hold : ∀ x ∈ enabled, x ∈ (follow table enabled name (before ++ after)).pending ∨
      ∀ y, table.Lists x y → y ∈ (follow table enabled name (before ++ after)).enabled := by
    intro x hx
    rcases h.followed x hx with hx | hx
    · rcases (hpending x).mp hx with rfl | hx
      · exact Or.inr fun y hy => mem_enabled_follow.mpr (Or.inr hy)
      · exact Or.inl (mem_pending_follow.mpr (Or.inr hx))
    · exact Or.inr fun y hy => mem_enabled_follow.mpr (Or.inl (hx y hy))
  refine ⟨fun x hx => ?_, fun x hx => ?_, fun x hx => ?_, fun x hx => ?_⟩
  · exact mem_enabled_follow.mpr (Or.inl (h.members x hx))
  · rcases mem_pending_follow.mp hx with ⟨hlists, -⟩ | hx
    · exact mem_enabled_follow.mpr (Or.inr hlists)
    · exact mem_enabled_follow.mpr (Or.inl (h.pending x ((hpending x).mpr (Or.inr hx))))
  · rcases mem_enabled_follow.mp hx with hx | hlists
    · exact h.reached x hx
    · obtain ⟨m, hm, hmn⟩ := h.reached name hname
      exact ⟨m, hm, hmn.tail hlists⟩
  · by_cases hx' : x ∈ enabled
    · exact hold x hx'
    · have hlists := (mem_enabled_follow.mp hx).resolve_left hx'
      exact Or.inl (mem_pending_follow.mpr (Or.inl ⟨hlists, hx'⟩))

lemma From.run (h : From table c w) (hrun : ReflTransGen (Turn table) w w') :
    From table c w' := by
  induction hrun with
  | refl => exact h
  | tail _ ht ih => exact ih.turn ht

/-- Where nothing is pending, just what can be reached is on. -/
lemma From.mem_enabled_iff (h : From table c w) (hend : w.pending = []) :
    x ∈ w.enabled ↔ ∃ m ∈ c, table.Leads m x := by
  have hclosed : table.Closed w.enabled := by
    intro y hy
    rcases h.followed y hy with hpending | hfollowed
    · simp [hend] at hpending
    · exact hfollowed
  refine ⟨h.reached x, ?_⟩
  rintro ⟨m, hm, hmx⟩
  exact hclosed.leads (h.members m hm) hmx

/-- Following the name that came last is one way to come to an end. -/
lemma exists_run_finish (table : FeatureTable) (w : Walk) :
    ∃ w', ReflTransGen (Turn table) w w' ∧ w'.pending = [] ∧ w'.enabled = w.finish table := by
  fun_induction finish table w with
  | case1 enabled => exact ⟨⟨enabled, []⟩, .refl, rfl, rfl⟩
  | case2 enabled name others ih =>
    obtain ⟨w', hrun, hend, heq⟩ := ih
    have hturn : Turn table ⟨enabled, name :: others⟩ (follow table enabled name others) :=
      .take enabled [] name others
    exact ⟨w', .head hturn hrun, hend, heq⟩

/-- With each turn less remains, first of the labels that are off, then of the pending names. -/
lemma Turn.remaining_lt (h : Turn table w w') :
    Prod.Lex (· < ·) (· < ·) (remaining table w') (remaining table w) := by
  obtain ⟨enabled, before, name, after⟩ := h
  exact remaining_follow_lt (by simp)

lemma turn_wellFounded (table : FeatureTable) : WellFounded fun w' w => Turn table w w' := by
  have hlex : WellFounded (Prod.Lex (fun a b : ℕ => a < b) fun a b : ℕ => a < b) :=
    (Prod.lex ⟨_, Nat.lt_wfRel.wf⟩ ⟨_, Nat.lt_wfRel.wf⟩).wf
  exact (InvImage.wf (remaining table) hlex).mono fun _ _ h => Turn.remaining_lt h

lemma pending_eq_nil_of_not_turn (h : ∀ w', ¬ Turn table w w') : w.pending = [] := by
  obtain ⟨enabled, pending⟩ := w
  cases pending with
  | nil => rfl
  | cons name others => exact absurd (.take enabled [] name others) (h _)

end Walk

/-! ### Expansion -/

namespace Combination

variable {table : FeatureTable} {c d : Combination} {x : String}

/-- What is on: what can be reached from a member. -/
lemma mem_expand : x ∈ expand table c ↔ ∃ m ∈ c, table.Leads m x := by
  obtain ⟨w, hrun, hend, heq⟩ := Walk.exists_run_finish table (.start c)
  rw [expand, ← heq]
  exact (Walk.from_start.run hrun).mem_enabled_iff hend

lemma mem_expand_self (hx : x ∈ c) : x ∈ expand table c :=
  mem_expand.mpr ⟨x, hx, .refl⟩

lemma expand_empty : expand table ∅ = ∅ := by
  refine NameSet.eq_empty_iff.mpr ?_
  intro x hx
  obtain ⟨m, hm, -⟩ := mem_expand.mp hx
  exact Std.ExtTreeSet.not_mem_empty hm

lemma closed_expand : table.Closed (c.expand table) := by
  intro x hx y hlists
  obtain ⟨m, hm, hmx⟩ := mem_expand.mp hx
  exact mem_expand.mpr ⟨m, hm, hmx.tail hlists⟩

lemma expand_eq_self (h : table.Closed c) : c.expand table = c := by
  ext x
  rw [mem_expand]
  constructor
  · rintro ⟨m, hm, hmx⟩
    exact h.leads hm hmx
  · exact fun hx => ⟨x, hx, .refl⟩

lemma expand_subset (h : ∀ x ∈ c, x ∈ d.expand table) :
    ∀ y ∈ c.expand table, y ∈ d.expand table := by
  intro y hy
  obtain ⟨x, hx, hxy⟩ := mem_expand.mp hy
  exact closed_expand.leads (h x hx) hxy

/-- What is left of a combination turns on nothing else. -/
lemma expand_reduce_subset : ∀ x ∈ (c.reduce table).expand table, x ∈ c.expand table :=
  expand_subset fun _ hx => mem_expand_self (mem_reduce.mp hx).1

/-- Retained features turn on retained features only. -/
lemma mem_retain_of_mem_expand {exclude : NameSet} (hc : ∀ x ∈ c, x ∈ table.retain exclude)
    (hx : x ∈ c.expand (table.retain exclude)) : x ∈ table.retain exclude := by
  obtain ⟨m, hm, hmx⟩ := mem_expand.mp hx
  exact FeatureTable.mem_of_leads_retain (hc m hm) hmx

lemma expand_union : (c ∪ d).expand table = c.expand table ∪ d.expand table := by
  ext x
  simp only [mem_expand, Std.ExtTreeSet.mem_union_iff, or_and_right, exists_or]

/-- No set around the members that holds all labels of its features is smaller. -/
lemma isLeast_expand :
    IsLeast {on : Set String | (∀ x ∈ c, x ∈ on) ∧
      ∀ x ∈ on, ∀ labels, table[x]? = some labels → ∀ y ∈ labels, y ∈ on}
      {x | x ∈ c.expand table} := by
  refine ⟨⟨fun x hx => mem_expand_self hx, fun x hx labels hlabels y hy => ?_⟩, ?_⟩
  · exact closed_expand x hx y (FeatureTable.lists_iff.mpr ⟨labels, hlabels, hy⟩)
  · rintro on ⟨hmembers, hclosed⟩ x hx
    obtain ⟨m, hm, hmx⟩ := mem_expand.mp hx
    induction hmx with
    | refl => exact hmembers m hm
    | tail hleads hlists ih =>
      obtain ⟨labels, hlabels, hy⟩ := FeatureTable.lists_iff.mp hlists
      exact hclosed _ (ih (mem_expand.mpr ⟨m, hm, hleads⟩)) labels hlabels _ hy

/-- **Expansion is closure under labels.** A walk comes to an end, whichever pending name is
followed at each turn, and where no turn is left the same names are on: those of the least set
that holds the members and, with each feature of the table, all its labels. So an expansion holds
the combination, grows with it, adds nothing when made again, and is made of the expansions of
parts. -/
theorem expand_closure (table : FeatureTable) (c : Combination) :
    (WellFounded fun w' w => Walk.Turn table w w') ∧
    (∀ w, ReflTransGen (Walk.Turn table) (.start c) w → (∀ w', ¬ Walk.Turn table w w') →
      w.enabled = c.expand table) ∧
    IsLeast {on : Set String | (∀ x ∈ c, x ∈ on) ∧
      ∀ x ∈ on, ∀ labels, table[x]? = some labels → ∀ y ∈ labels, y ∈ on}
      {x | x ∈ c.expand table} ∧
    (∀ x ∈ c, x ∈ c.expand table) ∧
    (∀ d : Combination, (∀ x ∈ c, x ∈ d) → ∀ x ∈ c.expand table, x ∈ d.expand table) ∧
    (c.expand table).expand table = c.expand table ∧
    ∀ d : Combination, (c ∪ d).expand table = c.expand table ∪ d.expand table := by
  refine ⟨Walk.turn_wellFounded table, fun w hrun hstuck => ?_, isLeast_expand,
    fun _ => mem_expand_self, fun d hd => expand_subset fun x hx => mem_expand_self (hd x hx),
    expand_eq_self closed_expand, fun _ => expand_union⟩
  ext x
  rw [mem_expand]
  exact (Walk.from_start.run hrun).mem_enabled_iff (Walk.pending_eq_nil_of_not_turn hstuck)

end Combination

end FeatureMatrix
