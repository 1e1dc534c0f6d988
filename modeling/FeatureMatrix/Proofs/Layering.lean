import FeatureMatrix.Proofs.NameSets
import FeatureMatrix.Settings
import Mathlib.Tactic.SplitIfs

/-!
Which layer decides, and which blank name is reported.

Layers are laid on one by one, up to the first that has a blank name. So a blank name counts also
in a list that a later layer replaces, and what is reported is its layer's first group that has
one. If there is none, either group is settled by the last layer that gives it, whatever the
layers say of the other group.
-/

namespace FeatureMatrix

/-! ### What layers say -/

lemma Group.forall_iff {p : Group → Prop} : (∀ group, p group) ↔ p .exclude ∧ p .require :=
  ⟨fun h => ⟨h .exclude, h .require⟩, fun ⟨he, hr⟩ group => by cases group <;> assumption⟩

lemma Group.exists_iff {p : Group → Prop} : (∃ group, p group) ↔ p .exclude ∨ p .require := by
  constructor
  · rintro ⟨_ | _, h⟩
    · exact Or.inl h
    · exact Or.inr h
  · rintro (h | h)
    · exact ⟨_, h⟩
    · exact ⟨_, h⟩

namespace Layer

/-- The list for a group, if the layer gives it. -/
def given (layer : Layer) : Group → Option (List String)
  | .exclude => layer.exclude
  | .require => layer.require

/-- The layer gives a list for the group, with a name of which trimming leaves nothing. -/
def BlankIn (layer : Layer) (group : Group) : Prop :=
  ∃ list ∈ layer.given group, ∃ name ∈ list, Text.trim name = ""

instance (layer : Layer) (group : Group) : Decidable (layer.BlankIn group) :=
  inferInstanceAs (Decidable (∃ list ∈ layer.given group, ∃ name ∈ list, Text.trim name = ""))

/-- The list of the last layer that gives one for the group. -/
def lastGiven (layers : List Layer) (group : Group) : Option (List String) :=
  (layers.filterMap (·.given group)).getLast?

end Layer

namespace Settings

variable {base settings : Settings} {layer : Layer} {layers : List Layer} {group : Group}
  {list : List String} {inForce : NameSet} {why : BlankName}

/-- The names of a group. -/
def members (settings : Settings) : Group → NameSet
  | .exclude => settings.exclude
  | .require => settings.require

lemma eq_iff_members : base = settings ↔ ∀ group, settings.members group = base.members group := by
  obtain ⟨exclude, require⟩ := base
  obtain ⟨exclude', require'⟩ := settings
  rw [Group.forall_iff, Settings.mk.injEq, eq_comm, @eq_comm _ require]
  rfl

/-- The trimmed names of a list where it is given, else those in force. -/
def settle (given : Option (List String)) (inForce : NameSet) : NameSet :=
  given.elim inForce fun list => .ofList (list.map Text.trim)

lemma settle_lastGiven_cons : settle (Layer.lastGiven (layer :: layers) group) inForce =
    settle (Layer.lastGiven layers group) (settle (layer.given group) inForce) := by
  unfold Layer.lastGiven
  rw [List.filterMap_cons]
  cases layer.given group with
  | none => rfl
  | some list =>
    dsimp only
    rw [List.getLast?_cons]
    cases (layers.filterMap (·.given group)).getLast? with
    | none => rfl
    | some last => rfl

/-! ### One layer -/

lemma names_eq : names group list =
    if ∃ name ∈ list, Text.trim name = "" then .error ⟨group⟩
    else .ok (.ofList (list.map Text.trim)) := by
  have hblank : (list.map Text.trim).contains "" = true ↔ ∃ name ∈ list, Text.trim name = "" := by
    rw [List.contains_iff_mem, List.mem_map]
  unfold names
  exact if_congr hblank rfl rfl

lemma override_eq {given : Option (List String)} : override group given inForce =
    if ∃ list ∈ given, ∃ name ∈ list, Text.trim name = "" then .error ⟨group⟩
    else .ok (settle given inForce) := by
  cases given with
  | none => simp [override, settle]
  | some list => simp [override, settle, names_eq]

lemma override_given : override group (layer.given group) inForce =
    if layer.BlankIn group then .error ⟨group⟩ else .ok (settle (layer.given group) inForce) :=
  override_eq

/-- Of the two lists of a layer, `exclude` is looked at first. -/
lemma apply_eq : base.apply layer =
    if layer.BlankIn .exclude then .error ⟨.exclude⟩
    else if layer.BlankIn .require then .error ⟨.require⟩
    else .ok ⟨settle (layer.given .exclude) (base.members .exclude),
      settle (layer.given .require) (base.members .require)⟩ := by
  show (override .exclude (layer.given .exclude) (base.members .exclude) >>= fun exclude =>
    override .require (layer.given .require) (base.members .require) >>= fun require =>
      pure (Settings.mk exclude require)) = _
  rw [override_given, override_given]
  split_ifs <;> rfl

lemma apply_eq_ok_iff : base.apply layer = .ok settings ↔ (∀ group, ¬ layer.BlankIn group) ∧
    ∀ group, settings.members group = settle (layer.given group) (base.members group) := by
  rw [apply_eq, Group.forall_iff (p := fun group => ¬ layer.BlankIn group)]
  split_ifs with hexclude hrequire
  · simp [hexclude]
  · simp [hrequire]
  · rw [Except.ok.injEq, eq_iff_members, Group.forall_iff, Group.forall_iff]
    exact (and_iff_right ⟨hexclude, hrequire⟩).symm

lemma apply_eq_error_iff : base.apply layer = .error why ↔ (∃ group, layer.BlankIn group) ∧
    why.group = if layer.BlankIn .exclude then .exclude else .require := by
  obtain ⟨group⟩ := why
  rw [apply_eq, Group.exists_iff]
  split_ifs with hexclude hrequire
  · simp [hexclude, eq_comm]
  · simp [hrequire, eq_comm]
  · simp [hexclude, hrequire]

/-! ### All layers -/

lemma applyAll_cons : base.applyAll (layer :: layers) =
    base.apply layer >>= fun next => next.applyAll layers :=
  List.foldlM_cons

lemma applyAll_eq_ok_iff : base.applyAll layers = .ok settings ↔
    (∀ layer ∈ layers, ∀ group, ¬ layer.BlankIn group) ∧ ∀ group,
      settings.members group = settle (Layer.lastGiven layers group) (base.members group) := by
  induction layers generalizing base with
  | nil =>
    show Except.ok base = Except.ok settings ↔ _
    rw [Except.ok.injEq, eq_iff_members]
    simp [Layer.lastGiven, settle]
  | cons layer layers ih =>
    rw [applyAll_cons, List.forall_mem_cons]
    cases h : base.apply layer with
    | error why =>
      obtain ⟨⟨group, hblank⟩, -⟩ := apply_eq_error_iff.mp h
      constructor
      · intro herror
        cases herror
      · rintro ⟨⟨hfree, -⟩, -⟩
        exact absurd hblank (hfree group)
    | ok next =>
      obtain ⟨hfree, hnext⟩ := apply_eq_ok_iff.mp h
      show next.applyAll layers = .ok settings ↔ _
      simp only [ih, hnext, settle_lastGiven_cons, and_iff_right hfree]

lemma applyAll_eq_error_iff : base.applyAll layers = .error why ↔
    ∃ below layer above, layers = below ++ layer :: above ∧
      (∀ lower ∈ below, ∀ group, ¬ lower.BlankIn group) ∧ (∃ group, layer.BlankIn group) ∧
        why.group = if layer.BlankIn .exclude then .exclude else .require := by
  induction layers generalizing base with
  | nil =>
    show Except.ok base = Except.error why ↔ _
    simp
  | cons layer layers ih =>
    rw [applyAll_cons]
    cases h : base.apply layer with
    | error why' =>
      show Except.error why' = Except.error why ↔ _
      rw [← h, apply_eq_error_iff]
      constructor
      · exact fun hwhy => ⟨[], layer, layers, rfl, by simp, hwhy⟩
      · rintro ⟨_ | ⟨lower, below⟩, top, above, heq, hfree, hwhy⟩
        · obtain ⟨rfl, rfl⟩ := List.cons.inj heq
          exact hwhy
        · -- the first layer has a blank name, and so no other one is the first to have one
          obtain ⟨rfl, -⟩ := List.cons.inj heq
          obtain ⟨⟨group, hblank⟩, -⟩ := apply_eq_error_iff.mp h
          exact absurd hblank (hfree layer List.mem_cons_self group)
    | ok next =>
      obtain ⟨hfree, -⟩ := apply_eq_ok_iff.mp h
      show next.applyAll layers = .error why ↔ _
      rw [ih]
      constructor
      · rintro ⟨below, top, above, rfl, hbelow, hwhy⟩
        exact ⟨layer :: below, top, above, rfl, List.forall_mem_cons.mpr ⟨hfree, hbelow⟩, hwhy⟩
      · rintro ⟨_ | ⟨lower, below⟩, top, above, heq, hbelow, ⟨group, hblank⟩, hwhy⟩
        · obtain ⟨rfl, -⟩ := List.cons.inj heq
          exact absurd hblank (hfree group)
        · obtain ⟨rfl, rfl⟩ := List.cons.inj heq
          exact ⟨below, top, above, rfl, (List.forall_mem_cons.mp hbelow).2, ⟨group, hblank⟩, hwhy⟩

/-- **The last layer wins, and the first blank name is reported.** Layers can be laid on just when
no list that any of them gives has a blank name. Each group then has the trimmed names of the last
list given for it, and those it had before if there is none. Otherwise the lowest layer with a
blank name is reported, by its group `exclude` if that list has one, else by `require`. The
settings of a run are laid on the built-in ones. -/
theorem applyAll_last_wins (base : Settings) (layers : List Layer) :
    ((∃ settings, base.applyAll layers = .ok settings) ↔
      ∀ layer ∈ layers, ∀ group, ¬ layer.BlankIn group) ∧
    (∀ settings, base.applyAll layers = .ok settings ↔
      (∀ layer ∈ layers, ∀ group, ¬ layer.BlankIn group) ∧ ∀ group,
        settings.members group = settle (Layer.lastGiven layers group) (base.members group)) ∧
    (∀ why, base.applyAll layers = .error why ↔
      ∃ below layer above, layers = below ++ layer :: above ∧
        (∀ lower ∈ below, ∀ group, ¬ lower.BlankIn group) ∧ (∃ group, layer.BlankIn group) ∧
          why.group = if layer.BlankIn .exclude then .exclude else .require) ∧
    (∀ group, BlankName.message ⟨group⟩ =
      "`" ++ group.name ++ "` contains a blank feature name") ∧
    resolve layers = builtIn.applyAll layers := by
  refine ⟨⟨?_, fun hfree => ?_⟩, fun settings => applyAll_eq_ok_iff,
    fun why => applyAll_eq_error_iff, fun group => ?_, rfl⟩
  · rintro ⟨settings, h⟩
    exact (applyAll_eq_ok_iff.mp h).1
  · let found := fun group => settle (Layer.lastGiven layers group) (base.members group)
    refine ⟨⟨found .exclude, found .require⟩, applyAll_eq_ok_iff.mpr ⟨hfree, ?_⟩⟩
    rw [Group.forall_iff]
    exact ⟨rfl, rfl⟩
  · cases group <;> decide

/-- A blank name counts although the list it is in is replaced. -/
example : resolve [⟨some ["a"], some ["b", " "]⟩, ⟨none, some []⟩] = .error ⟨.require⟩ := rfl

end Settings

end FeatureMatrix
