import FeatureMatrix.Proofs.ByteOrder
import FeatureMatrix.Proofs.Dependencies
import FeatureMatrix.Proofs.Manifest.Lists

/-!
Which features a manifest declares, and what is reported if they cannot be read.

The entries of the table are looked at by key in order. If all of them are lists of names, the
features are the keys, and each lists the strings of its array. If not, the first entry that is no
such list is reported. Keys ascend, so it is the one with the least key, wherever it stands in the
document, and nothing is left of the entries before it.
-/

namespace FeatureMatrix

lemma FeatureTable.ofList_toList {table : FeatureTable} :
    (.ofList table.toList : FeatureTable) = table := by
  refine Std.ExtTreeMap.ext_getElem? fun name => ?_
  cases h : table[name]? with
  | none =>
    refine Std.ExtTreeMap.getElem?_ofList_of_contains_eq_false ?_
    rw [Std.ExtTreeMap.map_fst_toList_eq_keys, ← Bool.not_eq_true, List.contains_iff_mem,
      Std.ExtTreeMap.mem_keys, Std.ExtTreeMap.mem_iff_isSome_getElem?, h]
    exact Bool.false_ne_true
  | some labels =>
    exact Std.ExtTreeMap.getElem?_ofList_of_mem Std.ReflCmp.compare_self
      Std.ExtTreeMap.distinct_keys_toList (Std.ExtTreeMap.mem_toList_iff_getElem?_eq_some.mpr h)

namespace Manifest

open Toml (Value)

variable {manifest v : Value} {entries : Std.ExtTreeMap String Value compare}
  {table : FeatureTable} {key label : String} {items : List Value} {why : Fault}

/-- Why the features of a manifest cannot be read. -/
inductive Unlisted (manifest : Value) : Fault → Prop
  | noFeatures (h : manifest.Lacks "features") : Unlisted manifest .noFeatures
  | notATable {found : Value} (hfound : manifest.get? "features" = some found)
      (h : found.kind ≠ .table) : Unlisted manifest .featuresNotATable
  | feature {entries : Std.ExtTreeMap String Value compare} {key : String} {value : Value}
      {why : Mistyped} (hentries : (manifest.get? "features").bind (·.entries?) = some entries)
      (hvalue : entries[key]? = some value) (hwhy : NotNames value why)
      (hleast : ∀ (lower : String) (other : Value), entries[lower]? = some other →
        Text.bytes lower < Text.bytes key → IsNames other) :
      Unlisted manifest (.feature key why)

/-! ### One entry -/

/-- The names in a list; none if the value is no list of names. -/
def labelsOf (v : Value) : NameSet :=
  match names v with
  | .error _ => ∅
  | .ok texts => .ofList texts

lemma mem_labelsOf (h : IsNames (.array items)) :
    label ∈ labelsOf (.array items) ↔ .string label ∈ items := by
  obtain ⟨texts, htexts⟩ := isNames_iff.mp h
  obtain rfl := Value.array.inj (names_eq_ok_iff.mp htexts)
  rw [labelsOf, htexts, NameSet.mem_ofList_iff, List.mem_map]
  simp

lemma feature_eq_ok (h : IsNames v) : feature (key, v) = .ok (key, labelsOf v) := by
  obtain ⟨texts, htexts⟩ := isNames_iff.mp h
  simp only [feature, labelsOf, htexts]

lemma exists_feature_iff : (∃ row, feature (key, v) = .ok row) ↔ IsNames v := by
  constructor
  · rintro ⟨row, hrow⟩
    rw [isNames_iff]
    cases h : names v with
    | error m => simp [feature, h] at hrow
    | ok texts => exact ⟨texts, rfl⟩
  · exact fun h => ⟨_, feature_eq_ok h⟩

lemma feature_eq_error_iff :
    feature (key, v) = .error why ↔ ∃ m, NotNames v m ∧ .feature key m = why := by
  simp only [feature, ← names_eq_error_iff]
  cases names v <;> simp

/-! ### All entries -/

lemma features_of_entries (h : (manifest.get? "features").bind (·.entries?) = some entries) :
    features manifest = entries.toList.mapM feature >>= fun rows => .ok (.ofList rows) := by
  obtain ⟨found, hfound, hentries⟩ := Option.bind_eq_some_iff.mp h
  unfold features
  rw [hfound]
  dsimp only
  rw [hentries]
  rfl

/-- Where all entries are lists of names, these are the features. -/
lemma features_eq_ok (h : (manifest.get? "features").bind (·.entries?) = some entries)
    (hnames : ∀ (key : String) (value : Value), entries[key]? = some value → IsNames value) :
    features manifest = .ok (entries.map fun _ value => labelsOf value) := by
  have hrows : entries.toList.mapM feature =
      .ok (entries.map fun _ value => labelsOf value).toList := by
    rw [mapM_eq_ok_iff, Std.ExtTreeMap.toList_map, List.forall₂_map_right_iff, List.forall₂_same]
    rintro ⟨key, value⟩ hentry
    have hvalue := Std.ExtTreeMap.mem_toList_iff_getElem?_eq_some.mp hentry
    exact feature_eq_ok (hnames key value hvalue)
  rw [features_of_entries h, hrows]
  exact congrArg Except.ok FeatureTable.ofList_toList

/-- What is looked at before an entry are the entries with smaller keys. -/
lemma mem_before_iff {before after : List (String × Value)} {lower : String} {other : Value}
    (hlist : entries.toList = before ++ (key, v) :: after) :
    (lower, other) ∈ before ↔
      entries[lower]? = some other ∧ Text.bytes lower < Text.bytes key := by
  have hordered := Std.ExtTreeMap.ordered_keys_toList (t := entries)
  rw [hlist, List.pairwise_append] at hordered
  obtain ⟨-, hafter, hbefore⟩ := hordered
  rw [← Std.ExtTreeMap.mem_toList_iff_getElem?_eq_some, hlist]
  constructor
  · intro hmem
    have hlt := hbefore _ hmem _ List.mem_cons_self
    exact ⟨List.mem_append_left _ hmem, Text.compare_eq_lt_iff.mp hlt⟩
  · rintro ⟨hmem, hlt⟩
    rcases List.mem_append.mp hmem with hmem | hmem
    · exact hmem
    · -- neither the entry itself nor one behind it has a smaller key
      rcases List.mem_cons.mp hmem with heq | hmem
      · obtain ⟨rfl, rfl⟩ := Prod.mk.inj heq
        exact absurd hlt (List.lt_irrefl _)
      · have hgt := (List.pairwise_cons.mp hafter).1 _ hmem
        exact absurd (Text.compare_eq_lt_iff.mp hgt) (List.lt_asymm hlt)

/-- The first entry that is no list of names is the one with the least key. -/
lemma mapM_feature_eq_error_iff : entries.toList.mapM feature = .error why ↔
    ∃ key value m, entries[key]? = some value ∧ NotNames value m ∧ .feature key m = why ∧
      ∀ (lower : String) (other : Value), entries[lower]? = some other →
        Text.bytes lower < Text.bytes key → IsNames other := by
  rw [mapM_eq_error_iff]
  constructor
  · rintro ⟨before, ⟨key, value⟩, after, hlist, hbefore, herror⟩
    obtain ⟨m, hm, hwhy⟩ := feature_eq_error_iff.mp herror
    have hvalue : entries[key]? = some value := by
      rw [← Std.ExtTreeMap.mem_toList_iff_getElem?_eq_some, hlist]
      exact List.mem_append_right _ List.mem_cons_self
    refine ⟨key, value, m, hvalue, hm, hwhy, fun lower other hother hlt => ?_⟩
    exact exists_feature_iff.mp (hbefore _ ((mem_before_iff hlist).mpr ⟨hother, hlt⟩))
  · rintro ⟨key, value, m, hvalue, hm, hwhy, hleast⟩
    obtain ⟨before, after, hlist⟩ :=
      List.append_of_mem (Std.ExtTreeMap.mem_toList_iff_getElem?_eq_some.mpr hvalue)
    refine ⟨before, (key, value), after, hlist, ?_, feature_eq_error_iff.mpr ⟨m, hm, hwhy⟩⟩
    rintro ⟨lower, other⟩ hmem
    obtain ⟨hother, hlt⟩ := (mem_before_iff hlist).mp hmem
    exact exists_feature_iff.mpr (hleast lower other hother hlt)

/-! ### The whole table -/

lemma exists_features_iff : (∃ table, features manifest = .ok table) ↔
    ∃ entries, (manifest.get? "features").bind (·.entries?) = some entries ∧
      ∀ (key : String) (value : Value), entries[key]? = some value → IsNames value := by
  constructor
  · rintro ⟨table, h⟩
    unfold features at h
    split at h
    case h_1 => cases h
    case h_2 found hfound =>
      split at h
      case h_1 => cases h
      case h_2 entries hentries =>
        obtain ⟨rows, hrows, -⟩ := bind_eq_ok.mp h
        refine ⟨entries, hfound ▸ hentries, fun key value hvalue => ?_⟩
        have hmem := Std.ExtTreeMap.mem_toList_iff_getElem?_eq_some.mpr hvalue
        exact exists_feature_iff.mp (exists_mapM_eq_ok_iff.mp ⟨rows, hrows⟩ (key, value) hmem)
  · rintro ⟨entries, hentries, hnames⟩
    exact ⟨_, features_eq_ok hentries hnames⟩

lemma features_eq_error_iff : features manifest = .error why ↔ Unlisted manifest why := by
  constructor
  · intro h
    cases hfound : manifest.get? "features" with
    | none =>
      unfold features at h
      rw [hfound] at h
      obtain rfl := Except.error.inj h
      exact .noFeatures (Value.get?_eq_none_iff.mp hfound)
    | some found =>
      cases hentries : found.entries? with
      | none =>
        unfold features at h
        simp only [hfound, hentries] at h
        obtain rfl := Except.error.inj h
        exact .notATable hfound (Value.entries?_eq_none_iff.mp hentries)
      | some entries =>
        have hbind : (manifest.get? "features").bind (·.entries?) = some entries :=
          hfound ▸ hentries
        rw [features_of_entries hbind, bind_eq_error] at h
        rcases h with h | ⟨rows, -, h⟩
        · obtain ⟨key, value, m, hvalue, hm, rfl, hleast⟩ := mapM_feature_eq_error_iff.mp h
          exact .feature hbind hvalue hm hleast
        · cases h
  · intro h
    cases h with
    | noFeatures h =>
      unfold features
      rw [Value.get?_eq_none_iff.mpr h]
    | notATable hfound h =>
      unfold features
      simp only [hfound, Value.entries?_eq_none_iff.mpr h]
    | feature hentries hvalue hwhy hleast =>
      rw [features_of_entries hentries, bind_eq_error]
      exact Or.inl (mapM_feature_eq_error_iff.mpr ⟨_, _, _, hvalue, hwhy, rfl, hleast⟩)

/-- **Features are read just when every entry is a list of strings.** Then the features are the keys
of the table, and each lists the strings of its array, however they are ordered and repeated there.
Otherwise it is reported that there is no table, or what is wrong with the entry of the least key
that is no such list: its type, or the type of its first item that is no string. The report names
the key and the type. -/
theorem features_exact (manifest : Value) :
    ((∃ table, features manifest = .ok table) ↔
      ∃ entries, (manifest.get? "features").bind (·.entries?) = some entries ∧
        ∀ (key : String) (value : Value), entries[key]? = some value → IsNames value) ∧
    (∀ table, features manifest = .ok table →
      ∀ entries, (manifest.get? "features").bind (·.entries?) = some entries →
        (∀ key, key ∈ table ↔ key ∈ entries) ∧
        ∀ key label, table.Lists key label ↔
          ∃ items, entries[key]? = some (.array items) ∧ .string label ∈ items) ∧
    (∀ why, features manifest = .error why ↔ Unlisted manifest why) ∧
    ∀ key kind, (Fault.feature key (.notAList kind)).report =
        ⟨"feature `" ++ key ++ "`", some ("expected an array of strings, found " ++ kind.name)⟩ ∧
      (Fault.feature key (.notAName kind)).report =
        ⟨"feature `" ++ key ++ "`", some ("expected a string, found " ++ kind.name)⟩ := by
  refine ⟨exists_features_iff, fun table h entries hentries => ?_,
    fun why => features_eq_error_iff, fun key kind => ⟨rfl, rfl⟩⟩
  obtain ⟨entries', hentries', hnames⟩ := exists_features_iff.mp ⟨table, h⟩
  obtain rfl := Option.some.inj (hentries.symm.trans hentries')
  obtain rfl := Except.ok.inj (h.symm.trans (features_eq_ok hentries hnames))
  refine ⟨fun key => Std.ExtTreeMap.mem_map, fun key label => ?_⟩
  rw [FeatureTable.lists_iff, Std.ExtTreeMap.getElem?_map]
  constructor
  · rintro ⟨listed, hlisted, hlabel⟩
    obtain ⟨value, hvalue, rfl⟩ := Option.map_eq_some_iff.mp hlisted
    obtain ⟨items, rfl, -⟩ := hnames key value hvalue
    exact ⟨items, hvalue, (mem_labelsOf (hnames key _ hvalue)).mp hlabel⟩
  · rintro ⟨items, hitems, hlabel⟩
    exact ⟨_, hitems ▸ rfl, (mem_labelsOf (hnames key _ hitems)).mpr hlabel⟩

/-- Of these features only the first by name lists strings and nothing else. -/
def oddFeatures : Value := .table [("features", .table [("c", .integer 1),
  ("b", .array [.string "a", .boolean true, .integer 2]), ("a", .array [])])]

/-- Of two faulty entries the one with the lesser key is reported, of two items in it the first. A
label that stands twice is listed once. -/
theorem features_exact_odd :
    features oddFeatures = .error (.feature "b" (.notAName .boolean)) ∧
    ∃ table, features (.table [("features", .table [("b", .array [.string "a", .string "dep:x",
        .string "a"])])]) = .ok table ∧
      (∀ key, key ∈ table ↔ key = "b") ∧
      ∀ label, table.Lists "b" label ↔ label = "a" ∨ label = "dep:x" := by
  constructor
  · let odd : Value := .array ([.string "a"] ++ .boolean true :: [.integer 2])
    let entries : Std.ExtTreeMap String Value compare :=
      .ofList [("c", Value.integer 1), ("b", odd), ("a", .array [])]
    have hentries : (oddFeatures.get? "features").bind (·.entries?) = some entries := rfl
    have hlist : entries.toList = [("a", .array []), ("b", odd), ("c", .integer 1)] := rfl
    have hleast : ∀ (lower : String) (other : Value), entries[lower]? = some other →
        Text.bytes lower < Text.bytes "b" → IsNames other := by
      intro lower other hother hlt
      rw [← Std.ExtTreeMap.mem_toList_iff_getElem?_eq_some, hlist] at hother
      rw [Text.bytes_lt_iff] at hlt
      simp only [List.mem_cons, Prod.mk.injEq, List.not_mem_nil, or_false] at hother
      rcases hother with ⟨rfl, rfl⟩ | ⟨rfl, rfl⟩ | ⟨rfl, rfl⟩
      · exact ⟨[], rfl, by simp⟩
      · exact absurd hlt (by decide)
      · exact absurd hlt (by decide)
    have hwhy : NotNames odd (.notAName .boolean) :=
      .notAName (by simp [Value.kind]) (by simp [Value.kind])
    exact ((features_exact oddFeatures).2.2.1 _).mpr (.feature hentries rfl hwhy hleast)
  · let items : List Value := [.string "a", .string "dep:x", .string "a"]
    let manifest : Value := .table [("features", .table [("b", .array items)])]
    let entries : Std.ExtTreeMap String Value compare := .ofList [("b", Value.array items)]
    have hvalue : ∀ (key : String) (value : Value),
        entries[key]? = some value ↔ key = "b" ∧ value = .array items := by
      intro key value
      rw [← Std.ExtTreeMap.mem_toList_iff_getElem?_eq_some]
      show (key, value) ∈ [("b", Value.array items)] ↔ _
      simp
    obtain ⟨haccepts, hresult, -⟩ := features_exact manifest
    have hnames : ∀ (key : String) (value : Value), entries[key]? = some value → IsNames value := by
      intro key value h
      obtain ⟨-, rfl⟩ := (hvalue key value).mp h
      exact ⟨items, rfl, by simp [items, Value.kind]⟩
    obtain ⟨table, htable⟩ := haccepts.mpr ⟨entries, rfl, hnames⟩
    obtain ⟨hkeys, hlists⟩ := hresult table htable entries rfl
    refine ⟨table, htable, fun key => ?_, fun label => ?_⟩
    · rw [hkeys, Std.ExtTreeMap.mem_iff_isSome_getElem?, Option.isSome_iff_exists]
      simp [hvalue]
    · have hitems : Value.string label ∈ items ↔ label = "a" ∨ label = "dep:x" := by
        simp only [items, List.mem_cons, Value.string.injEq, List.not_mem_nil]
        tauto
      rw [hlists]
      simp [hvalue, hitems]

end Manifest

end FeatureMatrix
