import FeatureMatrix.Proofs.PowerSets
import FeatureMatrix.Subsets.Checked

/-!
The subsets of a list of names, looked at as a list: how many there are, which comes first and
which last, that different names give different subsets, and that finding the `i`-th subset by
its mask never leaves the range of masks.

The power set halves at its first name, into the subsets with it and those without it, so each
of these facts goes by induction on the names. For the range, every operation on masks is made
again in arithmetic that fails outside of it, and up to 64 names it never does.
-/

namespace FeatureMatrix

/-! ### The power set as a list -/

lemma length_powerSet (names : List String) : (powerSet names).length = 2 ^ names.length := by
  induction names with
  | nil => rfl
  | cons name rest ih =>
    rw [powerSet, List.length_append, List.length_map, ih, List.length_cons, pow_succ]
    omega

lemma head?_powerSet (names : List String) : (powerSet names).head? = some (.ofList names) := by
  induction names with
  | nil => rfl
  | cons name rest ih =>
    have hinsert : (Std.ExtTreeSet.ofList rest : NameSet).insert name = .ofList (name :: rest) := by
      ext x
      rw [NameSet.mem_insert_iff, NameSet.mem_ofList_iff, NameSet.mem_ofList_iff, List.mem_cons]
    rw [powerSet, List.head?_append, List.head?_map, ih, Option.map_some, Option.some_or, hinsert]

lemma getLast?_powerSet (names : List String) : (powerSet names).getLast? = some ∅ := by
  induction names with
  | nil => rfl
  | cons name rest ih => rw [powerSet, List.getLast?_append, ih, Option.some_or]

lemma nodup_powerSet {names : List String} (h : names.Nodup) : (powerSet names).Nodup := by
  induction names with
  | nil => exact List.nodup_singleton _
  | cons name rest ih =>
    obtain ⟨hname, hrest⟩ := List.nodup_cons.mp h
    have hnot : ∀ c ∈ powerSet rest, name ∉ c := fun c hc hn => hname (mem_powerSet.mp hc name hn)
    have hinj : ∀ c ∈ powerSet rest, ∀ d ∈ powerSet rest,
        c.insert name = d.insert name → c = d :=
      fun c hc d hd => NameSet.eq_of_insert_eq (hnot c hc) (hnot d hd)
    rw [powerSet, List.nodup_append]
    refine ⟨(ih hrest).map_on hinj, ih hrest, ?_⟩
    -- the subsets of the first half hold the first name, those of the second do not
    rintro c hc d hd rfl
    obtain ⟨e, -, rfl⟩ := List.mem_map.mp hc
    exact hnot _ hd (NameSet.mem_insert_iff.mpr (Or.inl rfl))

namespace Subsets

/-! ### The range of masks -/

namespace Checked

lemma sub_eq {a b : ℕ} (h : b ≤ a) : sub a b = some (a - b) := if_pos h

lemma mask_eq {k : ℕ} (h : k < 2 ^ 64) : mask k = some (UInt64.ofNat k) :=
  if_pos (by rw [UInt64.size]; omega)

lemma shiftLeft_eq (m : UInt64) {k : ℕ} (h : k < 64) :
    shiftLeft m k = some (m <<< UInt64.ofNat k) := if_pos h

lemma shiftRight_eq (m : UInt64) {k : ℕ} (h : k < 64) :
    shiftRight m k = some (m >>> UInt64.ofNat k) := if_pos h

lemma full_eq {n : ℕ} (hn : n ≤ 64) : full n = some (fullMask n) := by
  rw [full, fullMask]
  split_ifs with h0
  · rfl
  · have hlt : maskBits - n < 64 := by
      rw [maskBits]
      omega
    rw [sub_eq (show n ≤ maskBits from hn), Option.bind_eq_bind, Option.bind_some,
      shiftRight_eq _ hlt]

lemma pick_eq (m : UInt64) {n i : ℕ} {names : List String} (h : i + names.length = n)
    (hn : n ≤ 64) : pick m n i names = some (Subsets.pick m names) := by
  induction names generalizing i with
  | nil => rfl
  | cons name rest ih =>
    rw [List.length_cons] at h
    have hbelow : n - 1 - i = rest.length := by omega
    have hrest : pick m n (i + 1) rest = some (Subsets.pick m rest) := ih (by omega)
    simp only [pick, sub_eq (show 1 ≤ n by omega), sub_eq (show i ≤ n - 1 by omega), hbelow,
      shiftLeft_eq 1 (show rest.length < 64 by omega), hrest, Option.bind_eq_bind,
      Option.bind_some]
    rfl

lemma mapM_eq_some {α β : Type} {f : α → Option β} {g : α → β} {l : List α}
    (h : ∀ a ∈ l, f a = some (g a)) : l.mapM f = some (l.map g) := by
  induction l with
  | nil => rfl
  | cons a l ih =>
    have hl : l.mapM f = some (l.map g) := ih fun b hb => h b (List.mem_cons_of_mem _ hb)
    rw [List.mapM_cons, h a List.mem_cons_self, hl]
    rfl

/-- No mask, no difference and no shift on the way is out of range. -/
lemma all_eq {names : List String} (h : names.length ≤ 64) : all names = some (powerSet names) := by
  have hpos : 0 < 2 ^ names.length := Nat.two_pow_pos _
  have hle : 2 ^ names.length ≤ 2 ^ 64 := Nat.pow_le_pow_right (by norm_num) h
  have hcount : (fullMask names.length).toNat + 1 = 2 ^ names.length := by
    rw [toNat_fullMask h]
    omega
  have hpick : ∀ k ∈ (List.range (2 ^ names.length)).reverse,
      ((mask k).bind fun m => pick m names.length 0 names) =
        some (Subsets.pick (UInt64.ofNat k) names) := by
    intro k hk
    rw [List.mem_reverse, List.mem_range] at hk
    rw [mask_eq (by omega), Option.bind_some, pick_eq _ (Nat.zero_add _) h]
  have hmasks : ∀ i < 2 ^ names.length,
      (UInt64.ofNat (0 + 2 ^ names.length - 1 - i)).toNat % 2 ^ names.length =
        2 ^ names.length - 1 - i := by
    intro i hi
    rw [UInt64.toNat_ofNat_of_lt' (by rw [UInt64.size]; omega), Nat.mod_eq_of_lt (by omega)]
    omega
  calc all names
      = (List.range (2 ^ names.length)).reverse.mapM fun k =>
          (mask k).bind fun m => pick m names.length 0 names := by
        rw [all, full_eq h, Option.bind_eq_bind, Option.bind_some, hcount]
        rfl
    _ = some ((List.range (2 ^ names.length)).reverse.map fun k =>
          Subsets.pick (UInt64.ofNat k) names) := mapM_eq_some hpick
    _ = some (powerSet names) := by
        rw [List.range_eq_range', List.reverse_range', List.map_map]
        exact congrArg some (map_pick h _ hmasks)

lemma all_eq_none {names : List String} (h : 64 < names.length) : all names = none := by
  have hfull : full names.length = none := by
    rw [full, if_neg (by omega), sub, if_neg (by rw [maskBits]; omega)]
    rfl
  rw [all, hfull]
  rfl

end Checked

/-! ### The subsets of a list of names -/

/-- A window shows what is there. -/
lemma window_eq (s : Subsets) (skip limit : ℕ) :
    s.window skip limit =
      ((s.toList.drop skip).take limit, decide (skip + limit < 2 ^ s.names.length)) := by
  have hdrop : s.toList.drop skip = (List.range' skip (s.count - skip)).map s.get := by
    rw [toList, ← List.map_drop, List.range_eq_range', List.drop_range', Nat.zero_add, Nat.mul_one]
  rw [window, hdrop, ← List.map_take]
  rcases Nat.le_total limit (s.count - skip) with hle | hle
  · rw [Nat.min_eq_left hle, List.take_range'_of_length_ge hle]
    rfl
  · rw [Nat.min_eq_right hle, List.take_range'_of_length_le hle]
    rfl

/-- **The subsets of a list of names.** Lists of more than 64 names are refused. For up to 64
names, in any order and repeated or not, there are `2 ^ n` subsets: those of the recursive power
set in its order, with all the names first and none of them last. Different names make each of
their subsets once. The `i`-th mask is the number `2 ^ n - 1 - i`, and arithmetic that fails where
it would leave the range of masks does not fail on the way to the same list. -/
theorem of_powerSet (names : List String) :
    if 64 < names.length then of names = .error ⟨names.length⟩ ∧ Checked.all names = none
    else ∃ s, of names = .ok s ∧ s.names = names ∧
      s.toList.length = 2 ^ names.length ∧ s.toList = powerSet names ∧
      (names.Nodup → s.toList.Nodup ∧ ∀ c, c ∈ s.toList ↔ ∀ x ∈ c, x ∈ names) ∧
      s.toList.head? = some (.ofList names) ∧ s.toList.getLast? = some ∅ ∧
      (∀ skip limit, s.window skip limit =
        ((s.toList.drop skip).take limit, decide (skip + limit < 2 ^ names.length))) ∧
      (∀ i < 2 ^ names.length,
        (fullMask names.length - UInt64.ofNat i).toNat = 2 ^ names.length - 1 - i) ∧
      Checked.all names = some s.toList := by
  split_ifs with h
  · have hfits : ¬ names.length ≤ maskBits := by
      rw [maskBits]
      omega
    exact ⟨dif_neg hfits, Checked.all_eq_none h⟩
  · have hfits : names.length ≤ 64 := not_lt.mp h
    have hpower : toList ⟨names, hfits⟩ = powerSet names := toList_eq_powerSet _
    refine ⟨⟨names, hfits⟩, dif_pos hfits, rfl, ?_, hpower, ?_, ?_, ?_, window_eq _,
      fun i hi => toNat_mask hfits hi, ?_⟩
    · rw [hpower, length_powerSet]
    · intro hnodup
      exact ⟨hpower ▸ nodup_powerSet hnodup, fun c => mem_toList⟩
    · rw [hpower, head?_powerSet]
    · rw [hpower, getLast?_powerSet]
    · rw [hpower, Checked.all_eq hfits]

end Subsets

end FeatureMatrix
