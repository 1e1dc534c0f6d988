import Mathlib.Data.List.Forall2

/-!
What becomes of work in parts, each of which may fail. All of it succeeds just when each part does,
and otherwise it fails as the first part does that fails.
-/

namespace FeatureMatrix

variable {ε α β : Type} {f : α → Except ε β} {l : List α} {e : ε}

/-- What succeeds in the end has succeeded before. -/
lemma bind_eq_ok {x : Except ε α} {b : β} :
    x >>= f = .ok b ↔ ∃ a, x = .ok a ∧ f a = .ok b := by
  constructor
  · intro h
    cases x with
    | error e => cases h
    | ok a => exact ⟨a, rfl, h⟩
  · rintro ⟨a, rfl, h⟩
    exact h

lemma bind_eq_error {x : Except ε α} :
    x >>= f = .error e ↔ x = .error e ∨ ∃ a, x = .ok a ∧ f a = .error e := by
  cases x with
  | error e' => simp [bind, Except.bind]
  | ok a => simp [bind, Except.bind]

lemma mapM_eq_ok_iff {r : List β} :
    l.mapM f = .ok r ↔ List.Forall₂ (fun a b => f a = .ok b) l r := by
  induction l generalizing r with
  | nil =>
    rw [List.forall₂_nil_left_iff, eq_comm]
    exact ⟨Except.ok.inj, congrArg _⟩
  | cons a l ih =>
    rw [List.mapM_cons, List.forall₂_cons_left_iff, bind_eq_ok]
    simp only [bind_eq_ok, ih]
    constructor
    · rintro ⟨b, hb, s, hs, hr⟩
      exact ⟨b, s, hb, hs, (Except.ok.inj hr).symm⟩
    · rintro ⟨b, s, hb, hs, rfl⟩
      exact ⟨b, hb, s, hs, rfl⟩

lemma mapM_eq_error_iff :
    l.mapM f = .error e ↔ ∃ before a after, l = before ++ a :: after ∧
      (∀ b ∈ before, ∃ c, f b = .ok c) ∧ f a = .error e := by
  induction l with
  | nil =>
    rw [List.mapM_nil]
    constructor
    · intro h
      cases h
    · rintro ⟨before, a, after, hl, -⟩
      simp at hl
  | cons a l ih =>
    rw [List.mapM_cons, bind_eq_error]
    constructor
    · rintro (ha | ⟨b, hb, h⟩)
      · exact ⟨[], a, l, rfl, by simp, ha⟩
      · rcases bind_eq_error.mp h with hrest | ⟨s, -, hs⟩
        · obtain ⟨before, a', after, rfl, hbefore, ha'⟩ := ih.mp hrest
          exact ⟨a :: before, a', after, rfl, List.forall_mem_cons.mpr ⟨⟨b, hb⟩, hbefore⟩, ha'⟩
        · cases hs
    · rintro ⟨_ | ⟨b, before⟩, a', after, hl, hbefore, ha'⟩
      · obtain ⟨rfl, rfl⟩ := List.cons.inj hl
        exact Or.inl ha'
      · obtain ⟨rfl, rfl⟩ := List.cons.inj hl
        obtain ⟨⟨c, hc⟩, hbefore⟩ := List.forall_mem_cons.mp hbefore
        refine Or.inr ⟨c, hc, bind_eq_error.mpr (Or.inl ?_)⟩
        exact ih.mpr ⟨before, a', after, rfl, hbefore, ha'⟩

lemma exists_mapM_eq_ok_iff : (∃ r, l.mapM f = .ok r) ↔ ∀ a ∈ l, ∃ b, f a = .ok b := by
  constructor
  · rintro ⟨r, h⟩
    induction mapM_eq_ok_iff.mp h with
    | nil => simp
    | cons hab hrest ih => exact List.forall_mem_cons.mpr ⟨⟨_, hab⟩, ih (mapM_eq_ok_iff.mpr hrest)⟩
  · intro h
    cases hl : l.mapM f with
    | ok r => exact ⟨r, rfl⟩
    | error e =>
      obtain ⟨before, a, after, rfl, -, ha⟩ := mapM_eq_error_iff.mp hl
      obtain ⟨b, hb⟩ := h a (by simp)
      rw [ha] at hb
      cases hb

end FeatureMatrix
