import FeatureMatrix.Proofs.CommandLine.Accepted
import FeatureMatrix.Proofs.Manifest.Layer

/-!
When a group of the settings is empty.

The built-in groups are not empty, and a list of names makes a group of as many members as it has
different names: names are trimmed, a blank one makes the list fail, and so none is lost. A list
on the command line has a name for each of its occurrences at least, if only the empty one. That
leaves the lists that are empty as they are written: the one in a manifest, and the one that
`--no-require` stands for.
-/

namespace FeatureMatrix

/-! ### In a manifest -/

namespace Manifest

open Toml (Value)

variable {manifest : Value} {group : Group} {layer : Option Layer}

/-- The settings in the manifest give the empty list for the group. -/
def Clears (manifest : Value) (group : Group) : Prop :=
  manifest.at? ["package", "metadata", "feature-combos", group.name] = some (.array [])

/-- A manifest by which nothing is required. -/
def unconstrained : Value :=
  .table [("package", .table [("metadata", .table [("feature-combos",
    .table [("require", .array [])])])])]

/-- The settings of a manifest give an empty list just where one is written. -/
lemma given_eq_nil_iff (h : Manifest.layer manifest = .ok layer) :
    (layer.getD .unset).given group = some [] ↔ Clears manifest group := by
  have hclears : Clears manifest group ↔
      (manifest.at? settingsPath).bind (·.get? group.name) = some (.array []) := by
    rw [← Value.at?_concat]
    rfl
  cases layer with
  | none =>
    rw [hclears, layer_eq_ok_none_iff.mp h]
    cases group <;> simp [Layer.given, Layer.unset]
  | some layer =>
    obtain ⟨found, hfound, -, hlists⟩ := layer_eq_ok_some_iff.mp h
    rw [hclears, hfound, Option.bind_some, hlists, Option.getD_some]
    cases layer.given group <;> simp

end Manifest

/-! ### In the settings -/

namespace Settings

variable {given : Option (List String)} {inForce : NameSet} {lower upper : Layer} {group : Group}

lemma settle_eq_empty_iff (h : inForce ≠ ∅) : settle given inForce = ∅ ↔ given = some [] := by
  cases given with
  | none => simp [settle, h]
  | some list => simp [settle]

lemma builtIn_members_ne_empty : builtIn.members group ≠ ∅ := by
  cases group <;> decide +kernel

/-- Of two layers the upper one decides where it gives the group. -/
lemma lastGiven_pair : Layer.lastGiven [lower, upper] group =
    (upper.given group).or (lower.given group) := by
  unfold Layer.lastGiven
  cases hupper : upper.given group <;> cases hlower : lower.given group <;> simp [hupper, hlower]

/-- A list of the command line that is not empty hides the one below. -/
lemma or_given_eq_nil_iff {names : List String} {given : Option (List String)} :
    (CommandLine.Options.given names).or given = some [] ↔ names = [] ∧ given = some [] := by
  cases names <;> simp [CommandLine.Options.given]

/-- **A group is empty only on request.** Where a command line and a manifest are accepted, and
their settings can be laid on, the required group is empty just when `--no-require` is given, or
else `--require` is not and the manifest has an empty list for it. Nothing is excluded just when
`--exclude` is not given and the manifest has an empty list for that. A list that has a name in it,
whatever it is and however it is repeated, leaves no group empty that it decides. -/
theorem cleared_iff_asked (line : List String) (o : CommandLine.Options) (manifest : Toml.Value)
    (layer : Option Layer) (settings : Settings) (hread : CommandLine.read line = .ok o)
    (hlayer : Manifest.layer manifest = .ok layer)
    (hsettings : resolve [layer.getD .unset, o.layer] = .ok settings) :
    (settings.require = ∅ ↔ CommandLine.Gives line (.flag .noRequire) ∨
      ¬ CommandLine.Gives line (.field .require) ∧ Manifest.Clears manifest .require) ∧
    (settings.exclude = ∅ ↔
      ¬ CommandLine.Gives line (.field .exclude) ∧ Manifest.Clears manifest .exclude) ∧
    ∀ group, ∀ list ∈ Layer.lastGiven [layer.getD .unset, o.layer] group,
      list ≠ [] → settings.members group ≠ ∅ := by
  obtain ⟨hflag, hnames⟩ := CommandLine.gives_iff hread
  have hnoRequire : o.noRequire = true ↔ CommandLine.Gives line (.flag .noRequire) :=
    hflag .noRequire
  have hexclude : o.exclude ≠ [] ↔ CommandLine.Gives line (.field .exclude) := hnames .exclude
  have hrequire : o.require ≠ [] ↔ CommandLine.Gives line (.field .require) := hnames .require
  obtain ⟨-, hmembers⟩ := applyAll_eq_ok_iff.mp hsettings
  have hempty : ∀ group, settings.members group = ∅ ↔
      Layer.lastGiven [layer.getD .unset, o.layer] group = some [] := by
    intro group
    rw [hmembers, settle_eq_empty_iff builtIn_members_ne_empty]
  simp only [← Manifest.given_eq_nil_iff hlayer, ← hnoRequire, ← hexclude, ← hrequire, not_not]
  refine ⟨?_, ?_, fun group list hlist hne hmem => ?_⟩
  · rw [← or_given_eq_nil_iff]
    refine (hempty .require).trans ?_
    rw [lastGiven_pair]
    show Option.or (if o.noRequire then some [] else _) _ = _ ↔ _
    cases o.noRequire <;> simp
  · rw [← or_given_eq_nil_iff]
    refine (hempty .exclude).trans ?_
    rw [lastGiven_pair]
    rfl
  · rw [hempty, Option.mem_def.mp hlist, Option.some.injEq] at hmem
    exact hne hmem

/-- Nothing is required by the manifest, and what the command line excludes has names in it. -/
theorem cleared_iff_asked_unconstrained :
    let line := ["cargo-fc", "--exclude= a ,b,a"]
    let settings : Settings := ⟨.ofList ["a", "b", "a"], ∅⟩
    CommandLine.read line = .ok { CommandLine.Options.none with exclude := [" a ", "b", "a"] } ∧
    Manifest.layer Manifest.unconstrained = .ok (some ⟨none, some []⟩) ∧
    resolve [⟨none, some []⟩, ⟨some [" a ", "b", "a"], none⟩] = .ok settings ∧
    (CommandLine.Gives line (.flag .noRequire) ∨ ¬ CommandLine.Gives line (.field .require) ∧
      Manifest.Clears Manifest.unconstrained .require) ∧
    ¬ (¬ CommandLine.Gives line (.field .exclude) ∧
      Manifest.Clears Manifest.unconstrained .exclude) := by
  intro line settings
  have hread : CommandLine.read line =
      .ok { CommandLine.Options.none with exclude := [" a ", "b", "a"] } := by decide +kernel
  have hlayer : Manifest.layer Manifest.unconstrained = .ok (some ⟨none, some []⟩) := by
    decide +kernel
  have hsettings : resolve [⟨none, some []⟩, ⟨some [" a ", "b", "a"], none⟩] = .ok settings := rfl
  obtain ⟨hrequire, hexclude, -⟩ := cleared_iff_asked line _ _ _ settings hread hlayer hsettings
  have hne : settings.exclude ≠ ∅ := by decide +kernel
  exact ⟨hread, hlayer, hsettings, hrequire.mp rfl, fun h => hne (hexclude.mpr h)⟩

end Settings

end FeatureMatrix
