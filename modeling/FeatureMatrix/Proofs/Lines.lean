import FeatureMatrix.Output.Format
import FeatureMatrix.Proofs.Irredundant
import Mathlib.Data.List.Basic

/-!
Reading lines back.

A line feed ends each line and stands nowhere else, so a text falls into the lines it was put
together from. A line falls into its names in the same way, as long as no name holds a separator.
No line but that of the empty combination is empty, since no name is.

So a key has the names of one combination only, and a list in the order of keys and members has
strictly ascending keys.
-/

namespace FeatureMatrix

namespace Output

/-! ### Reading -/

/-- The lines of a text in which a line feed ends each of them; none if the last is cut short. -/
def lines? (text : String) : Option (List String) :=
  let pieces := text.toList.splitOn '\n'
  if pieces.getLast? = some [] then some (pieces.dropLast.map String.ofList) else none

/-- The names between separators; an empty text has none. -/
def namesBetween (separates : Char → Bool) (text : List Char) : Combination :=
  if text = [] then ∅ else .ofList ((text.splitOnP separates).map String.ofList)

/-- The combination of a line that is a key. -/
def readKey (line : String) : Combination := namesBetween (· == ',') line.toList

/-- The combination of a line of arguments: what follows on those that turn features on, which
are left out where there are none. -/
def readArguments? (line : String) : Option Combination :=
  (line.toList.dropPrefix? "--no-default-features".toList).map fun rest =>
    namesBetween (fun c => c == ',' || c == ' ')
      ((rest.dropPrefix? " --features ".toList).getD rest)

def readPlain? (text : String) : Option (List Combination) := (lines? text).map (·.map readKey)

def readCargo? (text : String) : Option (List Combination) :=
  (lines? text).bind (·.mapM readArguments?)

/-- A name that is not empty and holds no separator. -/
def IsWord (name : String) : Prop :=
  name ≠ "" ∧ ',' ∉ name.toList ∧ '\n' ∉ name.toList ∧ ' ' ∉ name.toList

instance : DecidablePred IsWord :=
  fun name => inferInstanceAs (Decidable (name ≠ "" ∧ ',' ∉ name.toList ∧ _))

/-! ### Texts put together and cut -/

lemma intercalate_cons (sep first : List Char) (rest : List (List Char)) :
    sep.intercalate (first :: rest) = first ++ rest.flatMap (sep ++ ·) := by
  induction rest generalizing first with
  | nil => rw [List.intercalate_singleton, List.flatMap_nil, List.append_nil]
  | cons next rest ih =>
    rw [List.intercalate_cons_cons, ih, List.flatMap_cons, List.append_assoc, List.append_assoc]

lemma eq_or_mem_of_mem_intercalate {sep c : Char} {pieces : List (List Char)}
    (hc : c ∈ [sep].intercalate pieces) : c = sep ∨ ∃ piece ∈ pieces, c ∈ piece := by
  cases pieces with
  | nil => rw [List.intercalate_nil] at hc; cases hc
  | cons first rest =>
    simp only [intercalate_cons, List.mem_append, List.mem_flatMap, List.mem_singleton] at hc
    rcases hc with hc | ⟨piece, hpiece, hc | hc⟩
    · exact Or.inr ⟨first, List.mem_cons_self, hc⟩
    · exact Or.inl hc
    · exact Or.inr ⟨piece, List.mem_cons_of_mem _ hpiece, hc⟩

lemma splitOnP_intercalate {p : Char → Bool} {sep : Char} (hsep : p sep = true)
    {pieces : List (List Char)} (hne : pieces ≠ [])
    (hfree : ∀ piece ∈ pieces, ∀ c ∈ piece, p c = false) :
    ([sep].intercalate pieces).splitOnP p = pieces := by
  induction pieces with
  | nil => exact absurd rfl hne
  | cons piece pieces ih =>
    obtain ⟨hpiece, hrest⟩ := List.forall_mem_cons.mp hfree
    cases pieces with
    | nil => rw [List.intercalate_singleton, List.splitOnP_eq_singleton hpiece]
    | cons next pieces =>
      rw [List.intercalate_cons_cons, List.append_assoc, List.singleton_append,
        List.splitOnP_append_cons_of_forall_mem hpiece sep hsep, ih (List.cons_ne_nil _ _) hrest]

/-- Each line is a piece, and after the last one there is an empty piece. -/
lemma splitOn_lines {lines : List (List Char)} (hfree : ∀ line ∈ lines, '\n' ∉ line) :
    (lines.flatMap (· ++ ['\n'])).splitOn '\n' = lines ++ [[]] := by
  rw [List.splitOn_eq_splitOnP]
  induction lines with
  | nil => rfl
  | cons line lines ih =>
    obtain ⟨hline, hrest⟩ := List.forall_mem_cons.mp hfree
    have hline' : ∀ c ∈ line, (c == '\n') = false := by
      intro c hc
      rw [beq_eq_false_iff_ne]
      rintro rfl
      exact hline hc
    rw [List.flatMap_cons, List.append_assoc, List.singleton_append,
      List.splitOnP_append_cons_of_forall_mem hline' '\n' rfl, ih hrest, List.cons_append]

lemma toList_join_lines (lines : List String) :
    ("".intercalate (lines.map (· ++ "\n"))).toList =
      (lines.map String.toList).flatMap (· ++ ['\n']) := by
  rw [String.toList_intercalate]
  cases lines with
  | nil => rfl
  | cons line lines =>
    rw [List.map_cons, List.map_cons, List.map_cons, List.flatMap_cons]
    show [].intercalate _ = _
    rw [intercalate_cons]
    simp [List.flatMap_map]

lemma lines?_join_lines {lines : List String} (hfree : ∀ line ∈ lines, '\n' ∉ line.toList) :
    lines? ("".intercalate (lines.map (· ++ "\n"))) = some lines := by
  unfold lines?
  rw [toList_join_lines, splitOn_lines (List.forall_mem_map.mpr hfree)]
  simp

/-! ### Keys of words -/

variable {c d : Combination} {cs : List Combination} {x : String}

lemma toList_key : c.key.toList = [','].intercalate (c.toList.map String.toList) :=
  String.toList_intercalate

lemma key_ne_nil (hc : ∀ x ∈ c, IsWord x) (hne : c ≠ ∅) : c.key.toList ≠ [] := by
  rw [toList_key]
  cases h : c.toList with
  | nil => exact absurd (Std.ExtTreeSet.toList_eq_nil_iff.mp h) hne
  | cons x rest =>
    have hx : IsWord x := hc x (Std.ExtTreeSet.mem_toList.mp (h ▸ List.mem_cons_self))
    have hnil : x.toList ≠ [] := by simpa using hx.1
    rw [List.map_cons, intercalate_cons]
    simp [hnil]

/-- A key falls into the names it was made from, also where more than commas separate names. -/
lemma namesBetween_key {p : Char → Bool} (hsep : p ',' = true) (hc : ∀ x ∈ c, IsWord x)
    (hfree : ∀ x ∈ c, ∀ ch ∈ x.toList, p ch = false) : namesBetween p c.key.toList = c := by
  unfold namesBetween
  by_cases hne : c = ∅
  · rw [hne]
    rfl
  · have hpieces : c.toList.map String.toList ≠ [] := by
      rw [Ne, List.map_eq_nil_iff, Std.ExtTreeSet.toList_eq_nil_iff]
      exact hne
    have hfree' : ∀ piece ∈ c.toList.map String.toList, ∀ ch ∈ piece, p ch = false := by
      rw [List.forall_mem_map]
      exact fun x hx => hfree x (Std.ExtTreeSet.mem_toList.mp hx)
    rw [if_neg (key_ne_nil hc hne), toList_key, splitOnP_intercalate hsep hpieces hfree',
      List.map_map]
    simp only [Function.comp_def, String.ofList_toList, List.map_id', NameSet.ofList_toList]

lemma IsWord.ne_of_mem (hx : IsWord x) {ch : Char} (hch : ch ∈ x.toList) :
    ch ≠ ',' ∧ ch ≠ '\n' ∧ ch ≠ ' ' := by
  obtain ⟨-, hcomma, hfeed, hblank⟩ := hx
  refine ⟨?_, ?_, ?_⟩
  · rintro rfl
    exact hcomma hch
  · rintro rfl
    exact hfeed hch
  · rintro rfl
    exact hblank hch

lemma readKey_key (hc : ∀ x ∈ c, IsWord x) : readKey c.key = c := by
  refine namesBetween_key rfl hc fun x hx ch hch => ?_
  rw [beq_eq_false_iff_ne]
  exact ((hc x hx).ne_of_mem hch).1

lemma key_injective (hc : ∀ x ∈ c, IsWord x) (hd : ∀ x ∈ d, IsWord x) (h : c.key = d.key) :
    c = d := by
  rw [← readKey_key hc, ← readKey_key hd, h]

lemma feed_not_mem_key (hc : ∀ x ∈ c, IsWord x) : '\n' ∉ c.key.toList := by
  intro h
  rw [toList_key] at h
  rcases eq_or_mem_of_mem_intercalate h with h | ⟨piece, hpiece, h⟩
  · exact absurd h (by decide)
  · obtain ⟨x, hx, rfl⟩ := List.mem_map.mp hpiece
    exact ((hc x (Std.ExtTreeSet.mem_toList.mp hx)).ne_of_mem h).2.1 rfl

/-! ### Lines of arguments -/

lemma arguments_empty : arguments ∅ = "--no-default-features" := rfl

lemma arguments_of_ne (hne : c ≠ ∅) :
    arguments c = "--no-default-features" ++ (" --features " ++ c.key) := by
  have hempty : c.isEmpty = false := by simpa using hne
  unfold arguments
  rw [hempty, ← String.append_assoc]
  rfl

lemma feed_not_mem_arguments (hc : ∀ x ∈ c, IsWord x) : '\n' ∉ (arguments c).toList := by
  by_cases hne : c = ∅
  · rw [hne, arguments_empty]
    decide
  · have hlead : '\n' ∉ "--no-default-features".toList ∧ '\n' ∉ " --features ".toList := by decide
    simp only [arguments_of_ne hne, String.toList_append, List.mem_append, not_or]
    exact ⟨hlead.1, hlead.2, feed_not_mem_key hc⟩

lemma readArguments?_arguments (hc : ∀ x ∈ c, IsWord x) :
    readArguments? (arguments c) = some c := by
  unfold readArguments?
  by_cases hne : c = ∅
  · rw [hne, arguments_empty]
    rfl
  · have hread : namesBetween (fun ch => ch == ',' || ch == ' ') c.key.toList = c := by
      refine namesBetween_key rfl hc fun x hx ch hch => ?_
      obtain ⟨hcomma, -, hblank⟩ := (hc x hx).ne_of_mem hch
      simp [hcomma, hblank]
    rw [arguments_of_ne hne, String.toList_append, String.toList_append,
      List.dropPrefix?_append_of_beq _ (beq_self_eq_true _), Option.map_some,
      List.dropPrefix?_append_of_beq _ (beq_self_eq_true _), Option.getD_some, hread]

/-! ### Whole texts -/

lemma render_of_ne (build : Build) {format : Format} (h : format ≠ .json) :
    render build cs format = .ok (text cs format) := by
  unfold render Build.writes
  simp [h]

lemma lines?_text_plain (hcs : ∀ c ∈ cs, ∀ x ∈ c, IsWord x) :
    lines? (text cs .plain) = some (cs.map Combination.key) := by
  have hfree : ∀ line ∈ cs.map Combination.key, '\n' ∉ line.toList :=
    List.forall_mem_map.mpr fun c hc => feed_not_mem_key (hcs c hc)
  rw [← lines?_join_lines hfree, List.map_map]
  rfl

lemma lines?_text_cargo (hcs : ∀ c ∈ cs, ∀ x ∈ c, IsWord x) :
    lines? (text cs .cargo) = some (cs.map arguments) := by
  have hfree : ∀ line ∈ cs.map arguments, '\n' ∉ line.toList :=
    List.forall_mem_map.mpr fun c hc => feed_not_mem_arguments (hcs c hc)
  rw [← lines?_join_lines hfree, List.map_map]
  rfl

lemma readPlain?_text (hcs : ∀ c ∈ cs, ∀ x ∈ c, IsWord x) :
    readPlain? (text cs .plain) = some cs := by
  have hread : ∀ c ∈ cs, readKey c.key = c := fun c hc => readKey_key (hcs c hc)
  rw [readPlain?, lines?_text_plain hcs, Option.map_some, List.map_map]
  exact congrArg some ((List.map_congr_left hread).trans (List.map_id _))

lemma readCargo?_text (hcs : ∀ c ∈ cs, ∀ x ∈ c, IsWord x) :
    readCargo? (text cs .cargo) = some cs := by
  rw [readCargo?, lines?_text_cargo hcs, Option.bind_some]
  induction cs with
  | nil => rfl
  | cons c cs ih =>
    obtain ⟨hc, hcs⟩ := List.forall_mem_cons.mp hcs
    rw [List.map_cons, List.mapM_cons, readArguments?_arguments hc, ih hcs]
    rfl

end Output

namespace Plan

variable {table : FeatureTable} {settings : Settings} {plan : Plan}

/-- In the order of keys and members the keys come first, and no two of them are the same. -/
lemma keys_pairwise_lt
    (hwords : ∀ c ∈ plan.combinations, ∀ x ∈ c, Output.IsWord x) :
    (plan.combinations.map Combination.key).Pairwise
      fun k l => Text.bytes k < Text.bytes l := by
  rw [List.pairwise_map]
  refine plan.combinations_precedes.imp_of_mem fun {c d} hc hd hcd => ?_
  rcases hcd with hlt | ⟨hkey, hlt⟩
  · exact hlt
  · rw [Output.key_injective (hwords c hc) (hwords d hd) hkey] at hlt
    exact absurd hlt (List.lt_irrefl _)

end Plan

/-- **Plain lines and lines of arguments can be read back** where names are words. A plan of words
is then printed in plain lines that strictly ascend by their bytes, and so none is repeated. -/
theorem Output.lines_read_back :
    (∀ (build : Build) (cs : List Combination), (∀ c ∈ cs, ∀ x ∈ c, IsWord x) →
      (∃ text, render build cs .plain = .ok text ∧ readPlain? text = some cs) ∧
      ∃ text, render build cs .cargo = .ok text ∧ readCargo? text = some cs) ∧
    ∀ (build : Build) (table : FeatureTable) (settings : Settings),
      (table.selectable settings.exclude).card ≤ 64 →
      (∀ x ∈ table.selectable settings.exclude, IsWord x) →
        ∃ plan, Plan.make table settings = .ok plan ∧ ∃ text lines,
          render build plan.combinations .plain = .ok text ∧ lines? text = some lines ∧
          lines.Pairwise (fun k l => Text.bytes k < Text.bytes l) ∧ lines.Nodup := by
  refine ⟨fun build cs hcs => ⟨?_, ?_⟩, fun build table settings hsize hwords => ?_⟩
  · exact ⟨_, render_of_ne build nofun, readPlain?_text hcs⟩
  · exact ⟨_, render_of_ne build nofun, readCargo?_text hcs⟩
  · obtain ⟨plan, hplan, hretained⟩ := Plan.exists_make hsize
    have hwords' : ∀ c ∈ plan.combinations, ∀ x ∈ c, IsWord x := fun c hc x hx =>
      hwords x (FeatureTable.mem_selectable.mpr (hretained ▸ Plan.mem_retained hplan hc x hx))
    have hlt := Plan.keys_pairwise_lt hwords'
    refine ⟨plan, hplan, _, _, render_of_ne build nofun, lines?_text_plain hwords', hlt, ?_⟩
    refine hlt.imp ?_
    rintro k l hkl rfl
    exact List.lt_irrefl _ hkl

/-- The empty combination has a line of its own, in either format. -/
theorem Output.lines_read_back_chain :
    (∀ c ∈ ([∅, {"a"}, {"b", "c"}] : List Combination), ∀ x ∈ c, IsWord x) ∧
    (∃ text, render ⟨false⟩ [∅, {"a"}, {"b", "c"}] .plain = .ok text ∧
      readPlain? text = some [∅, {"a"}, {"b", "c"}]) ∧
    (∃ text, render ⟨false⟩ [∅, {"a"}, {"b", "c"}] .cargo = .ok text ∧
      readCargo? text = some [∅, {"a"}, {"b", "c"}]) ∧
    (FeatureTable.chain.selectable ∅).card ≤ 64 ∧
    (∀ x ∈ FeatureTable.chain.selectable ∅, IsWord x) ∧
    ∃ plan, Plan.make .chain ⟨∅, ∅⟩ = .ok plan ∧ ∃ text lines,
      render ⟨false⟩ plan.combinations .plain = .ok text ∧ lines? text = some lines ∧
      lines.Pairwise (fun k l => Text.bytes k < Text.bytes l) ∧ lines.Nodup := by
  have hwords : ∀ c ∈ ([∅, {"a"}, {"b", "c"}] : List Combination), ∀ x ∈ c, IsWord x := by
    decide +kernel
  have hsize : (FeatureTable.chain.selectable ∅).card ≤ 64 := by decide +kernel
  have hchain : ∀ x ∈ FeatureTable.chain.selectable ∅, IsWord x := by decide +kernel
  obtain ⟨hread, hlines⟩ := lines_read_back
  obtain ⟨hplain, hcargo⟩ := hread ⟨false⟩ [∅, {"a"}, {"b", "c"}] hwords
  exact ⟨hwords, hplain, hcargo, hsize, hchain, hlines ⟨false⟩ .chain ⟨∅, ∅⟩ hsize hchain⟩

end FeatureMatrix
