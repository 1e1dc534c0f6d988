import FeatureMatrix.Proofs.Layering
import FeatureMatrix.Proofs.Manifest.Lists

/-!
The settings that a manifest gives.

On the way to them a value that is no table leads no further, as if the key were missing: then the
manifest has no settings, and that is no fault. What is found at the end of the way must be a table,
and the lists in it must be lists of names. A list that is missing is not given, which is not the
same as a list that is empty. The result is settled by these two entries, and by whether there is a
table to look for them.
-/

namespace FeatureMatrix.Manifest

open Toml (Value)

variable {manifest other found found' : Value} {group : Group} {given : Option (List String)}
  {layer : Layer} {why : Fault}

/-- The keys that lead to the settings. -/
def settingsPath : List String := ["package", "metadata", "feature-combos"]

/-- Why the settings in a manifest cannot be read. -/
inductive Unsettled (manifest : Value) : Fault → Prop
  | notATable {found : Value} (hfound : manifest.at? settingsPath = some found)
      (h : found.kind ≠ .table) : Unsettled manifest .settingsNotATable
  | exclude {found list : Value} {why : Mistyped}
      (hfound : manifest.at? settingsPath = some found)
      (hlist : found.get? "exclude" = some list) (hwhy : NotNames list why) :
      Unsettled manifest (.setting .exclude why)
  | require {found list : Value} {why : Mistyped}
      (hfound : manifest.at? settingsPath = some found)
      (hexclude : ∀ list, found.get? "exclude" = some list → IsNames list)
      (hlist : found.get? "require" = some list) (hwhy : NotNames list why) :
      Unsettled manifest (.setting .require why)

/-! ### One list -/

lemma setting_eq_ok_iff : setting found group = .ok given ↔
    found.get? group.name = given.map fun texts => .array (texts.map .string) := by
  unfold setting
  cases found.get? group.name with
  | none => cases given <;> simp
  | some v =>
    cases given with
    | none => cases h : names v <;> simp [h]
    | some texts =>
      rw [Option.map_some, Option.some.injEq, ← names_eq_ok_iff]
      cases h : names v <;> simp [h]

lemma exists_setting_iff : (∃ given, setting found group = .ok given) ↔
    ∀ list, found.get? group.name = some list → IsNames list := by
  simp only [isNames_iff]
  unfold setting
  cases found.get? group.name with
  | none => simp
  | some v => cases h : names v <;> simp [h]

lemma setting_eq_error_iff : setting found group = .error why ↔
    ∃ list m, found.get? group.name = some list ∧ NotNames list m ∧ .setting group m = why := by
  simp only [← names_eq_error_iff]
  unfold setting
  cases found.get? group.name with
  | none => simp
  | some v => cases h : names v <;> simp [h]

lemma setting_congr (h : found.get? group.name = found'.get? group.name) :
    setting found group = setting found' group := by
  unfold setting
  rw [h]

/-! ### Both lists -/

lemma found_eq : (do (← (← manifest.get? "package").get? "metadata").get? settingsKey) =
    manifest.at? settingsPath := by
  simp [Value.at?, settingsPath, settingsKey]

lemma layer_of_none (h : manifest.at? settingsPath = none) :
    Manifest.layer manifest = .ok none := by
  unfold Manifest.layer
  rw [found_eq, h]

lemma layer_of_some (h : manifest.at? settingsPath = some found) : Manifest.layer manifest =
    if found.kind = .table then
      setting found .exclude >>= fun exclude => setting found .require >>= fun require =>
        .ok (some { exclude, require })
    else .error .settingsNotATable := by
  unfold Manifest.layer
  rw [found_eq, h]
  cases found <;> rfl

lemma layer_eq_ok_none_iff :
    Manifest.layer manifest = .ok none ↔ manifest.at? settingsPath = none := by
  refine ⟨fun hlayer => ?_, layer_of_none⟩
  by_contra hne
  obtain ⟨found, hfound⟩ := Option.ne_none_iff_exists'.mp hne
  rw [layer_of_some hfound] at hlayer
  split_ifs at hlayer
  obtain ⟨exclude, -, hrest⟩ := bind_eq_ok.mp hlayer
  obtain ⟨require, -, hsome⟩ := bind_eq_ok.mp hrest
  cases hsome

lemma layer_eq_ok_some_iff : Manifest.layer manifest = .ok (some layer) ↔
    ∃ found, manifest.at? settingsPath = some found ∧ found.kind = .table ∧ ∀ group : Group,
      found.get? group.name = (layer.given group).map fun texts => .array (texts.map .string) := by
  constructor
  · intro hlayer
    cases hfound : manifest.at? settingsPath with
    | none =>
      rw [layer_of_none hfound] at hlayer
      cases hlayer
    | some found =>
      rw [layer_of_some hfound] at hlayer
      split_ifs at hlayer with htable
      obtain ⟨exclude, hexclude, hrest⟩ := bind_eq_ok.mp hlayer
      obtain ⟨require, hrequire, hsome⟩ := bind_eq_ok.mp hrest
      obtain rfl := Option.some.inj (Except.ok.inj hsome)
      refine ⟨found, rfl, htable, Group.forall_iff.mpr ?_⟩
      exact ⟨setting_eq_ok_iff.mp hexclude, setting_eq_ok_iff.mp hrequire⟩
  · rintro ⟨found, hfound, htable, hlists⟩
    obtain ⟨hexclude, hrequire⟩ := Group.forall_iff.mp hlists
    rw [layer_of_some hfound, if_pos htable, setting_eq_ok_iff.mpr hexclude,
      setting_eq_ok_iff.mpr hrequire]
    rfl

lemma layer_eq_error_iff : Manifest.layer manifest = .error why ↔ Unsettled manifest why := by
  constructor
  · intro hlayer
    cases hfound : manifest.at? settingsPath with
    | none =>
      rw [layer_of_none hfound] at hlayer
      cases hlayer
    | some found =>
      rw [layer_of_some hfound] at hlayer
      split_ifs at hlayer with htable
      · rcases bind_eq_error.mp hlayer with hexclude | ⟨exclude, hexclude, hrest⟩
        · obtain ⟨list, m, hlist, hm, rfl⟩ := setting_eq_error_iff.mp hexclude
          exact .exclude hfound hlist hm
        · rcases bind_eq_error.mp hrest with hrequire | ⟨require, -, hsome⟩
          · obtain ⟨list, m, hlist, hm, rfl⟩ := setting_eq_error_iff.mp hrequire
            exact .require hfound (exists_setting_iff.mp ⟨exclude, hexclude⟩) hlist hm
          · cases hsome
      · obtain rfl := Except.error.inj hlayer
        exact .notATable hfound htable
  · intro h
    cases h with
    | notATable hfound h => rw [layer_of_some hfound, if_neg h]
    | @exclude found list why hfound hlist hwhy =>
      have hexclude : setting found .exclude = .error (.setting .exclude why) :=
        setting_eq_error_iff.mpr ⟨list, why, hlist, hwhy, rfl⟩
      rw [layer_of_some hfound, if_pos (Value.kind_of_get? hlist), hexclude]
      rfl
    | @require found list why hfound hnames hlist hwhy =>
      have hexclude : ∃ given, setting found .exclude = .ok given := exists_setting_iff.mpr hnames
      have hrequire : setting found .require = .error (.setting .require why) :=
        setting_eq_error_iff.mpr ⟨list, why, hlist, hwhy, rfl⟩
      obtain ⟨given, hgiven⟩ := hexclude
      rw [layer_of_some hfound, if_pos (Value.kind_of_get? hlist), hgiven, hrequire]
      rfl

/-- Nothing but the two lists counts, and whether there is a table for them. -/
lemma layer_congr
    (htable : (manifest.at? settingsPath).map (·.kind == .table) =
      (other.at? settingsPath).map (·.kind == .table))
    (hlists : ∀ group : Group, manifest.at? (settingsPath ++ [group.name]) =
      other.at? (settingsPath ++ [group.name])) :
    Manifest.layer manifest = Manifest.layer other := by
  simp only [Value.at?_concat] at hlists
  cases hfound : manifest.at? settingsPath with
  | none =>
    rw [hfound, Option.map_none, eq_comm, Option.map_eq_none_iff] at htable
    rw [layer_of_none hfound, layer_of_none htable]
  | some found =>
    rw [hfound, Option.map_some, eq_comm, Option.map_eq_some_iff] at htable
    obtain ⟨found', hfound', htable⟩ := htable
    rw [hfound, hfound'] at hlists
    have hkind : found'.kind = .table ↔ found.kind = .table := by
      rw [← beq_iff_eq, htable, beq_iff_eq]
    rw [layer_of_some hfound, layer_of_some hfound', setting_congr (hlists .exclude),
      setting_congr (hlists .require)]
    exact if_congr hkind.symm rfl rfl

lemma exists_unsettled_iff : (∃ why, Unsettled manifest why) ↔
    ∃ found, manifest.at? settingsPath = some found ∧ (found.kind ≠ .table ∨
      ∃ group : Group, ∃ list, found.get? group.name = some list ∧ ¬ IsNames list) := by
  constructor
  · rintro ⟨why, h⟩
    cases h with
    | notATable hfound h => exact ⟨_, hfound, Or.inl h⟩
    | exclude hfound hlist hwhy =>
      exact ⟨_, hfound, Or.inr ⟨.exclude, _, hlist, not_isNames_iff.mpr ⟨_, hwhy⟩⟩⟩
    | require hfound _ hlist hwhy =>
      exact ⟨_, hfound, Or.inr ⟨.require, _, hlist, not_isNames_iff.mpr ⟨_, hwhy⟩⟩⟩
  · rintro ⟨found, hfound, h | ⟨group, list, hlist, hnot⟩⟩
    · exact ⟨_, .notATable hfound h⟩
    · by_cases hexclude : ∃ list, found.get? "exclude" = some list ∧ ¬ IsNames list
      · obtain ⟨list', hlist', hnot'⟩ := hexclude
        obtain ⟨m, hm⟩ := not_isNames_iff.mp hnot'
        exact ⟨_, .exclude hfound hlist' hm⟩
      · cases group with
        | exclude => exact absurd ⟨list, hlist, hnot⟩ hexclude
        | require =>
          have hnames : ∀ list, found.get? "exclude" = some list → IsNames list :=
            fun list' hlist' => by_contra fun hnot' => hexclude ⟨list', hlist', hnot'⟩
          obtain ⟨m, hm⟩ := not_isNames_iff.mp hnot
          exact ⟨_, .require hfound hnames hlist hm⟩

/-- **What settings a manifest gives.** It gives none just when the way to them breaks off, where a
key is missing or what was reached is no table. It has a fault just when no table is found at the
end, or one with a list that is no list of names, and of two such lists `exclude` is reported.
Otherwise it gives a layer, in which a list is not given just when it is missing, and else has the
strings of the array as they stand. Nothing else in the manifest plays a part. The report of a
faulty list names its key. -/
theorem layer_exact (manifest : Value) :
    (Manifest.layer manifest = .ok none ↔ ∃ front key rest reached,
      settingsPath = front ++ key :: rest ∧ manifest.at? front = some reached ∧
        reached.Lacks key) ∧
    ((∃ why, Manifest.layer manifest = .error why) ↔
      ∃ found, manifest.at? settingsPath = some found ∧ (found.kind ≠ .table ∨
        ∃ group : Group, ∃ list, found.get? group.name = some list ∧ ¬ IsNames list)) ∧
    (∀ why, Manifest.layer manifest = .error why ↔ Unsettled manifest why) ∧
    (∀ layer : Layer, Manifest.layer manifest = .ok (some layer) ↔
      ∃ found, manifest.at? settingsPath = some found ∧ found.kind = .table ∧ ∀ group : Group,
        found.get? group.name = (layer.given group).map fun texts => .array (texts.map .string)) ∧
    (∀ other : Value,
      (manifest.at? settingsPath).map (·.kind == .table) =
        (other.at? settingsPath).map (·.kind == .table) →
      (∀ group : Group, manifest.at? (settingsPath ++ [group.name]) =
        other.at? (settingsPath ++ [group.name])) →
      Manifest.layer manifest = Manifest.layer other) ∧
    ∀ group why, (Fault.setting group why).report =
      ⟨"[package.metadata.feature-combos] `" ++ group.name ++ "`", some why.message⟩ := by
  refine ⟨layer_eq_ok_none_iff.trans Value.at?_eq_none_iff, ?_, fun why => layer_eq_error_iff,
    fun layer => layer_eq_ok_some_iff, fun other => layer_congr, fun group why => ?_⟩
  · simp only [layer_eq_error_iff, exists_unsettled_iff]
  · cases group <;> rfl

/-- A manifest with these settings, and with other entries on the way to them. -/
def withSettings (settings : Value) (others : List (String × Value)) : Value :=
  .table (("package", .table (("metadata", .table (("feature-combos", settings) :: others)) ::
    others)) :: others)

/-- Neither list is a list of names. -/
def faultySettings : Value :=
  .table [("require", .string "a"), ("exclude", .array [.string "a", .boolean true, .integer 1])]

/-- Of two faulty lists one is reported, whatever else there is. What is blank or stands twice in a
list stays in it, and a list that is missing is not given. -/
theorem layer_exact_withSettings :
    Manifest.layer (withSettings faultySettings []) =
      .error (.setting .exclude (.notAName .boolean)) ∧
    Manifest.layer (withSettings faultySettings [("exclude", .array [])]) =
      .error (.setting .exclude (.notAName .boolean)) ∧
    Manifest.layer (withSettings (.table [("exclude", .array [.string " a", .string "",
      .string " a"])]) []) = .ok (some ⟨some [" a", "", " a"], none⟩) := by
  obtain ⟨-, -, herror, -, hcongr, -⟩ := layer_exact (withSettings faultySettings [])
  have hfound : (withSettings faultySettings []).at? settingsPath = some faultySettings := rfl
  have hwhy : NotNames (.array ([.string "a"] ++ .boolean true :: [.integer 1]))
      (.notAName .boolean) :=
    .notAName (by simp [Value.kind]) (by simp [Value.kind])
  have hfault : Manifest.layer (withSettings faultySettings []) =
      .error (.setting .exclude (.notAName .boolean)) :=
    (herror _).mpr (.exclude hfound rfl hwhy)
  have hsame : Manifest.layer (withSettings faultySettings []) =
      Manifest.layer (withSettings faultySettings [("exclude", .array [])]) :=
    hcongr _ rfl fun group => by cases group <;> rfl
  refine ⟨hfault, hsame ▸ hfault, ?_⟩
  obtain ⟨-, -, -, hgives, -, -⟩ := layer_exact (withSettings (.table [("exclude",
    .array [.string " a", .string "", .string " a"])]) [])
  exact (hgives _).mpr ⟨_, rfl, rfl, fun group => by cases group <;> rfl⟩

end FeatureMatrix.Manifest
