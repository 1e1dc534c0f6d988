import FeatureMatrix.Output.Sink
import FeatureMatrix.Proofs.ByteOrder

/-!
What a sink with limited room has taken when writing ends: the whole text if it fits, and
otherwise as much of its front as there was room for.

Part after part is pushed, so this goes by induction on the parts, with any room left and
anything taken before. How the text was cut plays no role in the end. Lines are cut in the same
way: a front of some lines is the first of them in full, and a part of the next. A sink with no
limit takes what `render` makes.
-/

namespace FeatureMatrix

namespace Text

lemma bytes_append (s t : String) : bytes (s ++ t) = bytes s ++ bytes t := by
  rw [bytes_eq_flatMap, bytes_eq_flatMap, bytes_eq_flatMap, String.toList_append,
    List.flatMap_append]

lemma bytes_intercalate_empty (texts : List String) :
    bytes ("".intercalate texts) = texts.flatMap bytes := by
  have hempty : bytes "" = [] := by
    rw [bytes_eq_flatMap]
    rfl
  induction texts with
  | nil => exact hempty
  | cons text rest ih =>
    rw [List.flatMap_cons, ← ih]
    by_cases hrest : rest = []
    · rw [hrest, String.intercalate_singleton, String.intercalate_nil, hempty, List.append_nil]
    · rw [String.intercalate_cons_of_ne_nil hrest, bytes_append, bytes_append, hempty,
        List.append_nil]

end Text

namespace Output

open Text (bytes bytes_intercalate_empty)

variable {build : Build} {cs : List Combination} {format : Format} {room : ℕ}
  {taken : List UInt8} {parts : List (List UInt8)}

/-! ### Parts pushed one after the other -/

lemma Sink.pushAll_some :
    (⟨some room, taken⟩ : Sink).pushAll parts =
      (⟨some (room - parts.flatten.length), taken ++ parts.flatten.take room⟩,
        decide (parts.flatten.length ≤ room)) := by
  induction parts generalizing room taken with
  | nil => simp [pushAll]
  | cons part rest ih =>
    rw [pushAll, push, List.flatten_cons, List.length_append, List.take_append]
    by_cases hfits : part.length ≤ room
    · -- the part is taken whole, and what is left of the room is for the others
      have hroom : room - (part.length + rest.flatten.length) =
          room - part.length - rest.flatten.length := by omega
      have hle : part.length + rest.flatten.length ≤ room ↔
          rest.flatten.length ≤ room - part.length := by omega
      simp only [hfits, decide_true, ih, hroom, hle, List.take_of_length_le, List.append_assoc]
    · -- the room ends inside the part
      have hroom : room - part.length = 0 := by omega
      have hroom' : room - (part.length + rest.flatten.length) = 0 := by omega
      have hnot : ¬ part.length + rest.flatten.length ≤ room := by omega
      simp only [hfits, hnot, hroom, hroom', decide_false, List.take_zero, List.append_nil]

lemma Sink.pushAll_none :
    (⟨none, taken⟩ : Sink).pushAll parts = (⟨none, taken ++ parts.flatten⟩, true) := by
  induction parts generalizing taken with
  | nil => simp [pushAll]
  | cons part rest ih =>
    rw [pushAll, push, List.flatten_cons, ← List.append_assoc]
    exact ih

lemma flatten_pieces :
    ((pieces cs format).map (·.toUTF8.toList)).flatten = bytes (text cs format) := by
  rw [text, bytes_intercalate_empty, List.flatMap_def]
  rfl

lemma writeParts_eq (hwrites : build.writes format = true) :
    writeParts build format parts (.ofRoom room) =
      if parts.flatten.length ≤ room then
        (⟨some (room - parts.flatten.length), parts.flatten⟩, .ok ())
      else (⟨some 0, parts.flatten.take room⟩, .error .full) := by
  rw [writeParts, if_pos hwrites, Sink.ofRoom, Sink.pushAll_some]
  split_ifs with hfits
  · rw [decide_eq_true hfits, List.nil_append, List.take_of_length_le hfits]
  · rw [decide_eq_false hfits, List.nil_append, Nat.sub_eq_zero_of_le (by omega)]

/-- What is rendered is what writing leaves in a sink that takes it all. -/
lemma write_endless :
    write build cs format .endless =
      match render build cs format with
      | .ok text => (⟨none, bytes text⟩, .ok ())
      | .error why => (.endless, .error (.unsupported why)) := by
  rw [write, writeParts, render]
  split_ifs
  · rw [Sink.endless, Sink.pushAll_none, flatten_pieces]
    rfl
  · rfl

/-! ### Where lines are cut -/

/-- A front of some lines is the first of them and a part of the next. -/
lemma exists_cut {line : Combination → List UInt8} (h : room < (cs.flatMap line).length) :
    ∃ done c rest part, cs = done ++ c :: rest ∧
      (cs.flatMap line).take room = done.flatMap line ++ part ∧
      part <+: line c ∧ part ≠ line c := by
  induction cs generalizing room with
  | nil => simp at h
  | cons c cs ih =>
    rw [List.flatMap_cons, List.length_append] at h
    rw [List.flatMap_cons, List.take_append]
    rcases Nat.lt_or_ge room (line c).length with hlt | hge
    · refine ⟨[], c, cs, (line c).take room, rfl, ?_, List.take_prefix _ _, fun heq => ?_⟩
      · rw [Nat.sub_eq_zero_of_le hlt.le, List.take_zero, List.append_nil, List.flatMap_nil,
          List.nil_append]
      · have hlength := congrArg List.length heq
        rw [List.length_take] at hlength
        omega
    · have hrest : room - (line c).length < (cs.flatMap line).length := by omega
      obtain ⟨done, d, rest, part, rfl, htake, hpart, hne⟩ := ih hrest
      refine ⟨c :: done, d, rest, part, rfl, ?_, hpart, hne⟩
      rw [htake, List.take_of_length_le hge, List.flatMap_cons, List.append_assoc]

/-- Except in JSON, each combination has a text of its own, and these make up the whole. -/
lemma bytes_text (hformat : format ≠ .json) :
    bytes (text cs format) = cs.flatMap fun c => bytes (text [c] format) := by
  cases format with
  | plain => simp [text, pieces, bytes_intercalate_empty, List.flatMap_map]
  | cargo => simp [text, pieces, bytes_intercalate_empty, List.flatMap_map]
  | json => exact absurd rfl hformat

/-- **A sink with limited room takes an exact front of the text.** However the text is cut into
parts, the sink holds all of it in the end if there is room, and otherwise just as much as there
was room for, and then its failure is what writing returns. Of lines that do not fit, the sink
has some from the first on, and of the next one a part that is not the whole of it. In a format
the build does not have, nothing is written whatever the room. -/
theorem write_exact (build : Build) (cs : List Combination) (format : Format) (room : ℕ) :
    if build.writes format then
      write build cs format (.ofRoom room) =
        (if (bytes (text cs format)).length ≤ room then
          (⟨some (room - (bytes (text cs format)).length), bytes (text cs format)⟩, .ok ())
        else (⟨some 0, (bytes (text cs format)).take room⟩, .error .full)) ∧
      (∀ parts : List (List UInt8), parts.flatten = bytes (text cs format) →
        writeParts build format parts (.ofRoom room) = write build cs format (.ofRoom room)) ∧
      (room < (bytes (text cs format)).length → format ≠ .json →
        ∃ done c rest part, cs = done ++ c :: rest ∧
          (bytes (text cs format)).take room = bytes (text done format) ++ part ∧
          part <+: bytes (text [c] format) ∧ part ≠ bytes (text [c] format))
    else build.json = false ∧ format = .json ∧
      write build cs format (.ofRoom room) = (.ofRoom room, .error (.unsupported .json)) := by
  by_cases hwrites : build.writes format = true
  · rw [if_pos hwrites]
    have hwrite : write build cs format (.ofRoom room) =
        (if (bytes (text cs format)).length ≤ room then
          (⟨some (room - (bytes (text cs format)).length), bytes (text cs format)⟩, .ok ())
        else (⟨some 0, (bytes (text cs format)).take room⟩, .error .full)) := by
      rw [write, writeParts_eq hwrites, flatten_pieces]
    refine ⟨hwrite, fun parts hparts => ?_, fun hroom hformat => ?_⟩
    · rw [hwrite, writeParts_eq hwrites, hparts]
    · rw [bytes_text hformat] at hroom ⊢
      obtain ⟨done, c, rest, part, hcs, htake, hpart, hne⟩ := exists_cut hroom
      refine ⟨done, c, rest, part, hcs, ?_, hpart, hne⟩
      rw [htake, bytes_text hformat]
  · rw [if_neg hwrites]
    obtain ⟨hjson, hformat⟩ : build.json = false ∧ format = .json := by
      simpa [Build.writes] using hwrites
    refine ⟨hjson, hformat, ?_⟩
    rw [write, writeParts, if_neg hwrites]

end Output

end FeatureMatrix
