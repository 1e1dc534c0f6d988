import Mathlib.Data.List.Lex
import Mathlib.Data.String.Basic
import Mathlib.Tactic.SplitIfs
import FeatureMatrix.Names

/-!
The order of code points is the order of UTF-8 bytes, for texts and for lists of texts.

The code of a smaller character is smaller, and so already before either code ends: this is
what makes the order of the codes independent of what comes after them.
-/

namespace FeatureMatrix.Text

/-- The UTF-8 bytes of a text. -/
def bytes (s : String) : List UInt8 := s.toUTF8.toList

/-! ### Bytes by character -/

lemma toList_loop (b : ByteArray) (i : ℕ) (r : List UInt8) :
    ByteArray.toList.loop b i r = r.reverse ++ b.data.toList.drop i := by
  fun_induction ByteArray.toList.loop b i r with
  | case1 i r h ih =>
    have h' : i < b.data.size := h
    have hg : b.get! i = b.data[i] := getElem!_pos b.data i h'
    have hd : b.data.toList.drop i = b.data[i] :: b.data.toList.drop (i + 1) :=
      List.drop_eq_getElem_cons (by rwa [Array.length_toList])
    rw [ih, hg, hd, List.reverse_cons, List.append_assoc, List.singleton_append]
  | case2 i r h =>
    have h' : b.data.toList.length ≤ i := by
      rw [Array.length_toList]; exact Nat.le_of_not_lt h
    rw [List.drop_eq_nil_of_le h', List.append_nil]

lemma bytes_eq_flatMap (s : String) : bytes s = s.toList.flatMap String.utf8EncodeChar := by
  rw [bytes, ByteArray.toList, toList_loop, String.toUTF8_eq_toByteArray,
    ← String.utf8Encode_toList]
  simp [List.utf8Encode, List.data_toByteArray]

/-! ### Codes in order -/

lemma code_lt (c : Char) : c.val.toNat < 0x110000 := by
  have h := c.valid
  unfold UInt32.isValidChar Nat.isValidChar at h
  omega

/-- Numbers compare by what is above the last digit, and by that digit where this is equal. -/
lemma digit_lt {m n : ℕ} (h : m < n) : m / 64 < n / 64 ∨ m / 64 = n / 64 ∧ m % 64 < n % 64 := by
  omega

/-- The codes of two characters differ before either of them ends. -/
lemma encode_lt {c d : Char} (h : c < d) (u v : List UInt8) :
    String.utf8EncodeChar c ++ u < String.utf8EncodeChar d ++ v := by
  have hc := code_lt c
  have hd := code_lt d
  have hlt : c.val.toNat < d.val.toNat := h
  unfold String.utf8EncodeChar
  generalize c.val.toNat = m at *
  generalize d.val.toNat = n at *
  -- codes of the same length: the first digit that differs decides
  have hm := Nat.div_div_eq_div_mul m 64 64
  have hn := Nat.div_div_eq_div_mul n 64 64
  have hm' := Nat.div_div_eq_div_mul m 4096 64
  have hn' := Nat.div_div_eq_div_mul n 4096 64
  have h0 := digit_lt hlt
  have h1 := fun h => digit_lt (m := m / 64) (n := n / 64) h
  have h2 := fun h => digit_lt (m := m / 4096) (n := n / 4096) h
  simp only [hm, hn, hm', hn'] at h1 h2
  dsimp only
  split_ifs <;>
    simp only [List.cons_append, List.nil_append, List.cons_lt_cons_iff, UInt8.lt_iff_toNat_lt,
      ← UInt8.toNat_inj, UInt8.toNat_ofNat'] <;>
    simp (disch := omega) only [Nat.mod_eq_of_lt]
  all_goals omega

lemma flatMap_encode_lt {s t : List Char} (h : s < t) :
    s.flatMap String.utf8EncodeChar < t.flatMap String.utf8EncodeChar := by
  induction h with
  | @nil c r =>
    obtain ⟨b, l, hb⟩ := List.exists_cons_of_ne_nil (String.utf8EncodeChar_ne_nil (c := c))
    rw [List.flatMap_cons, hb]
    exact List.nil_lt_cons _ _
  | rel h => exact encode_lt h _ _
  | cons _ ih => exact List.append_left_lt ih

/-! ### Texts in order -/

lemma bytes_lt_iff {s t : String} : bytes s < bytes t ↔ s < t := by
  rw [bytes_eq_flatMap, bytes_eq_flatMap]
  refine ⟨fun h => ?_, flatMap_encode_lt⟩
  rcases lt_trichotomy s t with hst | rfl | hst
  · exact hst
  · exact absurd h (List.lt_irrefl _)
  · exact absurd h (List.lt_asymm (flatMap_encode_lt hst))

lemma bytes_injective : Function.Injective bytes := by
  intro s t h
  rcases lt_trichotomy s t with hst | hst | hst
  · exact absurd (bytes_lt_iff.mpr hst) (h ▸ List.lt_irrefl _)
  · exact hst
  · exact absurd (bytes_lt_iff.mpr hst) (h ▸ List.lt_irrefl _)

/-- Comparing texts is comparing their bytes. -/
lemma compare_eq_lt_iff {s t : String} : compare s t = .lt ↔ bytes s < bytes t := by
  rw [bytes_lt_iff]
  show compareOfLessAndEq s t = .lt ↔ s < t
  unfold compareOfLessAndEq
  split_ifs with h h' <;> simp [h]

/-- Comparing lists of texts is comparing their bytes, text by text. -/
lemma compare_list_eq_lt_iff {k l : List String} :
    compare k l = .lt ↔ k.map bytes < l.map bytes := by
  induction k generalizing l with
  | nil => cases l <;> simp
  | cons s k ih => cases l with
    | nil => simp
    | cons t l =>
      rw [List.compare_cons_cons, Ordering.then_eq_lt, ih, compare_eq_lt_iff, List.map_cons,
        List.map_cons, List.cons_lt_cons_iff, Std.LawfulEqCmp.compare_eq_iff_eq,
        bytes_injective.eq_iff]

end FeatureMatrix.Text
