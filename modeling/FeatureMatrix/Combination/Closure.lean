import FeatureMatrix.Combination
import FeatureMatrix.FeatureTable

/-!
Everything a combination turns on once labels are followed. A name that goes on is pending
until it is followed; then its labels go on, and those of them that were off are pending in
their turn. The walk ends: when a name is followed, labels go on that were off, or else one
name less is pending.
-/

namespace FeatureMatrix

/-- Where a walk along labels stands: the names that are on, and those whose labels are still
to be followed. -/
structure Walk where
  enabled : NameSet
  pending : List String
  deriving DecidableEq

namespace Walk

/-- The labels of `name` that are off, in order. -/
def fresh (table : FeatureTable) (enabled : NameSet) (name : String) : List String :=
  (table.labels name).toList.filter fun label => !enabled.contains label

/-- The walk after `name` was followed, where `others` were pending beside it. -/
def follow (table : FeatureTable) (enabled : NameSet) (name : String)
    (others : List String) : Walk :=
  ⟨enabled ∪ table.labels name, (fresh table enabled name).reverse ++ others⟩

/-! ### The end of a walk -/

/-- The labels of the table that are off, each as often as it is listed. -/
def off (table : FeatureTable) (enabled : NameSet) : List String :=
  (table.toList.flatMap (·.2.toList)).filter fun label => !enabled.contains label

/-- What gets smaller with each name followed: first by the labels that are off, then by the
names that are pending. -/
def remaining (table : FeatureTable) (w : Walk) : Nat × Nat :=
  ((off table w.enabled).length, w.pending.length)

theorem off_union {table : FeatureTable} {enabled more : NameSet} :
    off table (enabled ∪ more) =
      (off table enabled).filter fun label => !more.contains label := by
  rw [off, off, List.filter_filter]
  refine List.filter_congr fun label _ => ?_
  rw [Std.ExtTreeSet.contains_union, Bool.not_or, Bool.and_comm]

/-- A label that goes on was off, and it is listed somewhere. -/
theorem mem_off_of_fresh {table : FeatureTable} {enabled : NameSet} {name label : String}
    (h : label ∈ fresh table enabled name) : label ∈ off table enabled := by
  obtain ⟨hmem, hoff⟩ := List.mem_filter.mp h
  refine List.mem_filter.mpr ⟨?_, hoff⟩
  rw [FeatureTable.labels, Std.ExtTreeMap.getD_eq_getD_getElem?] at hmem
  cases hlabels : table[name]? with
  | none => simp [hlabels] at hmem
  | some labels =>
    rw [hlabels, Option.getD_some] at hmem
    have hentry : (name, labels) ∈ table.toList :=
      Std.ExtTreeMap.mem_toList_iff_getElem?_eq_some.mpr hlabels
    exact List.mem_flatMap.mpr ⟨(name, labels), hentry, hmem⟩

theorem remaining_follow_lt {table : FeatureTable} {enabled : NameSet} {name : String}
    {pending others : List String} (h : others.length < pending.length) :
    Prod.Lex (· < ·) (· < ·) (remaining table (follow table enabled name others))
      (remaining table ⟨enabled, pending⟩) := by
  have hle : (off table (enabled ∪ table.labels name)).length ≤ (off table enabled).length := by
    rw [off_union]
    exact List.length_filter_le _ _
  cases hfresh : fresh table enabled name with
  | nil =>
    -- nothing goes on: one name less is pending
    have hpending : (follow table enabled name others).pending = others := by
      simp [follow, hfresh]
    rw [remaining, remaining, hpending]
    rcases Nat.lt_or_eq_of_le hle with hlt | heq
    · exact Prod.Lex.left _ _ hlt
    · rw [show (follow table enabled name others).enabled = enabled ∪ table.labels name from rfl,
        heq]
      exact Prod.Lex.right _ h
  | cons label rest =>
    -- some label goes on
    have hlabel : label ∈ fresh table enabled name := hfresh ▸ List.mem_cons_self
    have hmem : label ∈ table.labels name :=
      Std.ExtTreeSet.mem_toList.mp (List.mem_filter.mp hlabel).1
    refine Prod.Lex.left _ _ ?_
    show (off table (enabled ∪ table.labels name)).length < (off table enabled).length
    rw [off_union, List.length_filter_lt_length_iff_exists]
    refine ⟨label, mem_off_of_fresh hlabel, ?_⟩
    simp [Std.ExtTreeSet.mem_iff_contains.mp hmem]

/-- What is on in the end, where the name that became pending last is followed first. -/
def finish (table : FeatureTable) : Walk → NameSet
  | ⟨enabled, []⟩ => enabled
  | ⟨enabled, name :: others⟩ => finish table (follow table enabled name others)
  termination_by w => remaining table w
  decreasing_by exact remaining_follow_lt (Nat.lt_succ_self _)

/-- Where a walk begins: every member is on and pending. -/
def start (c : Combination) : Walk := ⟨c, c.toList.reverse⟩

end Walk

/-- All that is on once every label of a declared feature is followed. -/
def Combination.expand (table : FeatureTable) (c : Combination) : Combination :=
  (Walk.start c).finish table

end FeatureMatrix
