import FeatureMatrix.Proofs.NameSets
import FeatureMatrix.Subsets
import FeatureMatrix.Subsets.PowerSet
import Mathlib.Data.Nat.Bitwise
import Mathlib.Tactic.Ring

/-!
Counting masks down from the full one lists the subsets in the order of the recursive power
set. The masks that come first have the bit of the first name, and below that bit they count
down for the other names, as the masks that come after them do.
-/

namespace FeatureMatrix

namespace Subsets

/-! ### Masks as numbers -/

lemma and_bit_ne_zero_iff {mask : UInt64} {k : ℕ} (hk : k < 64) :
    mask &&& ((1 : UInt64) <<< UInt64.ofNat k) ≠ 0 ↔ mask.toNat / 2 ^ k % 2 = 1 := by
  have hpow : 2 ^ k < 2 ^ 64 := Nat.pow_lt_pow_right (by norm_num) hk
  have hbit : (mask &&& ((1 : UInt64) <<< UInt64.ofNat k)).toNat
      = (mask.toNat.testBit k).toNat * 2 ^ k := by
    have h64 : k < UInt64.size := by rw [UInt64.size]; omega
    rw [UInt64.toNat_and, UInt64.toNat_shiftLeft, UInt64.toNat_ofNat_of_lt' h64,
      UInt64.toNat_one, Nat.mod_eq_of_lt hk, Nat.one_shiftLeft, Nat.mod_eq_of_lt hpow,
      Nat.and_two_pow]
  rw [Ne, ← UInt64.toNat_inj, hbit, Nat.testBit_eq_decide_div_mod_eq]
  by_cases h : mask.toNat / 2 ^ k % 2 = 1 <;> simp [h]

lemma toNat_fullMask {n : ℕ} (hn : n ≤ 64) : (fullMask n).toNat = 2 ^ n - 1 := by
  rw [fullMask]
  split_ifs with h0
  · simp [h0]
  · have hlt : 64 - n < UInt64.size := by rw [UInt64.size]; omega
    have hmul : 2 ^ n * 2 ^ (64 - n) = 2 ^ 64 := by rw [← pow_add, Nat.add_sub_cancel' hn]
    have hpos : 0 < 2 ^ (64 - n) := Nat.two_pow_pos _
    have hsub : (2 ^ n - 1) * 2 ^ (64 - n) = 2 ^ 64 - 2 ^ (64 - n) := by
      rw [Nat.sub_mul, hmul, one_mul]
    rw [maskBits, UInt64.toNat_shiftRight, UInt64.toNat_ofNat_of_lt' hlt,
      Nat.mod_eq_of_lt (by omega : 64 - n < 64), Nat.shiftRight_eq_div_pow]
    show (2 ^ 64 - 1) / 2 ^ (64 - n) = 2 ^ n - 1
    refine Nat.div_eq_of_lt_le ?_ ?_
    · rw [hsub]; omega
    · rw [Nat.succ_mul, hsub]; omega

lemma toNat_mask {n i : ℕ} (hn : n ≤ 64) (hi : i < 2 ^ n) :
    (fullMask n - UInt64.ofNat i).toNat = 2 ^ n - 1 - i := by
  have hle : 2 ^ n ≤ 2 ^ 64 := Nat.pow_le_pow_right (by norm_num) hn
  have hi' : (UInt64.ofNat i).toNat = i :=
    UInt64.toNat_ofNat_of_lt' (by rw [UInt64.size]; omega)
  rw [UInt64.toNat_sub_of_le, toNat_fullMask hn, hi']
  rw [UInt64.le_iff_toNat_le, toNat_fullMask hn, hi']
  omega

/-! ### Counting down -/

lemma pick_cons (mask : UInt64) (name : String) {rest : List String} (h : rest.length < 64) :
    pick mask (name :: rest) =
      if 2 ^ rest.length ≤ mask.toNat % (2 ^ rest.length * 2) then (pick mask rest).insert name
      else pick mask rest := by
  rw [pick]
  refine if_congr ?_ rfl rfl
  have hpos : 0 < 2 ^ rest.length := Nat.two_pow_pos _
  have hlt := Nat.mod_lt mask.toNat (Nat.mul_pos hpos two_pos)
  rw [and_bit_ne_zero_iff h, ← Nat.mod_mul_right_div_self]
  refine ⟨fun h1 => ?_, fun hle => Nat.div_eq_of_lt_le (by omega) (by omega)⟩
  by_contra hle
  rw [Nat.div_eq_of_lt (by omega)] at h1
  exact Nat.zero_ne_one h1

/-- Masks that count down in as many bits as there are names pick the power set. -/
lemma map_pick {names : List String} (h : names.length ≤ 64) (mask : ℕ → UInt64)
    (hm : ∀ i < 2 ^ names.length,
      (mask i).toNat % 2 ^ names.length = 2 ^ names.length - 1 - i) :
    (List.range (2 ^ names.length)).map (fun i => pick (mask i) names) = powerSet names := by
  induction names generalizing mask with
  | nil => rfl
  | cons name rest ih =>
    rw [List.length_cons] at h hm ⊢
    have hrest : rest.length < 64 := h
    rw [pow_succ] at hm ⊢
    have hcons := fun i => pick_cons (mask i) name hrest
    set p := 2 ^ rest.length with hp
    have hlow : ∀ m, m % p = m % (p * 2) % p := fun m => (Nat.mod_mul_right_mod m p 2).symm
    -- the masks with the bit of the first name
    have hfirst : (List.range p).map (fun i => pick (mask i) (name :: rest))
        = (powerSet rest).map (·.insert name) := by
      rw [← ih hrest.le mask, List.map_map]
      · refine List.map_congr_left fun i hi => ?_
        have hi := List.mem_range.mp hi
        rw [hcons, if_pos (by rw [hm i (by omega)]; omega), Function.comp_apply]
      · intro i hi
        rw [hlow, hm i (by omega), show p * 2 - 1 - i = p - 1 - i + p by omega, Nat.add_mod_right]
        exact Nat.mod_eq_of_lt (by omega)
    -- and those without it
    have hsecond : (List.range p).map (fun i => pick (mask (p + i)) (name :: rest))
        = powerSet rest := by
      rw [← ih hrest.le fun i => mask (p + i)]
      · refine List.map_congr_left fun i hi => ?_
        have hi := List.mem_range.mp hi
        rw [hcons, if_neg (by rw [hm (p + i) (by omega)]; omega)]
      · intro i hi
        rw [hlow, hm (p + i) (by omega), show p * 2 - 1 - (p + i) = p - 1 - i by omega]
        exact Nat.mod_eq_of_lt (by omega)
    rw [mul_two, List.range_add, List.map_append, List.map_map, hfirst, powerSet]
    exact congrArg _ hsecond

lemma toList_eq_powerSet (s : Subsets) : s.toList = powerSet s.names := by
  refine map_pick s.fits _ fun i hi => ?_
  rw [toNat_mask s.fits hi]
  exact Nat.mod_eq_of_lt (by omega)

end Subsets

/-! ### Subsets and nothing else -/

lemma mem_powerSet {names : List String} {c : Combination} :
    c ∈ powerSet names ↔ ∀ x ∈ c, x ∈ names := by
  induction names generalizing c with
  | nil =>
    simp [powerSet, NameSet.eq_empty_iff]
  | cons name rest ih =>
    rw [powerSet, List.mem_append, List.mem_map, ih]
    constructor
    · rintro (⟨d, hd, rfl⟩ | hc) x hx
      · rcases NameSet.mem_insert_iff.mp hx with rfl | hx
        · exact List.mem_cons_self
        · exact List.mem_cons_of_mem _ (ih.mp hd x hx)
      · exact List.mem_cons_of_mem _ (hc x hx)
    · intro hc
      by_cases hn : name ∈ c
      · obtain ⟨d, hd⟩ := NameSet.exists_part c (· ≠ name)
        refine Or.inl ⟨d, ih.mpr fun x hx => ?_, Std.ExtTreeSet.ext_mem fun x => ?_⟩
        · obtain ⟨hx, hne⟩ := (hd x).mp hx
          exact (List.mem_cons.mp (hc x hx)).resolve_left hne
        · rw [NameSet.mem_insert_iff, hd]
          by_cases hx : x = name
          · simp [hx, hn]
          · simp [hx]
      · refine Or.inr fun x hx => (List.mem_cons.mp (hc x hx)).resolve_left ?_
        rintro rfl
        exact hn hx

lemma Subsets.mem_toList {s : Subsets} {c : Combination} :
    c ∈ s.toList ↔ ∀ x ∈ c, x ∈ s.names := by
  rw [toList_eq_powerSet, mem_powerSet]

end FeatureMatrix
