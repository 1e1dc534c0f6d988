import FeatureMatrix.Proofs.CommandLine.Accepted
import FeatureMatrix.Proofs.Work

/-!
How a run of the program ends.

A run that is asked neither for help nor for the version goes through seven stages, and each takes
up what those before it came to. What it is for all of them to succeed, and for one to be the first
that fails, is said here of the stages alone, apart from how the program strings them together.
Either all succeed or one is the first to fail, and either settles what the program makes of its
stages. So the one never holds beside the other, and no two problems are the first.

The search prints nothing, as none of its stages does. The last stage writes a text to its end, or
does not begin it.
-/

namespace FeatureMatrix

lemma Manifest.result_loggedFeatures (manifest : Toml.Value) :
    (loggedFeatures manifest).result = features manifest := by
  unfold loggedFeatures
  cases features manifest <;> rfl

namespace Program

open CommandLine (Options)
open Text (bytes)

variable {host : Host} {o : Options} {text : String} {why : Problem} {found : List Combination}

/-! ### The stages -/

/-- The manifest is found and read. -/
def Loads (host : Host) (o : Options) (manifest : Toml.Value) : Prop :=
  ∃ path, manifestPath o.manifestPath o.locate host.locator = .ok path ∧
    Manifest.load path (host.read path) = .ok manifest

/-- The manifest is sound, and so are the settings, those of the command line on top. -/
def Settles (host : Host) (o : Options) (table : FeatureTable) (settings : Settings) : Prop :=
  ∃ manifest layer, Loads host o manifest ∧ Manifest.features manifest = .ok table ∧
    Manifest.layer manifest = .ok layer ∧
    Settings.resolve [layer.getD .unset, o.layer] = .ok settings

/-- These combinations are found. -/
def Finds (host : Host) (o : Options) (found : List Combination) : Prop :=
  ∃ table settings plan, Settles host o table settings ∧ Plan.make table settings = .ok plan ∧
    plan.combinations = found

/-- The build does not have the format asked for. -/
def Lacks (host : Host) (o : Options) : Prop := o.format = .json ∧ host.build.json = false

/-- All stages succeed, and this is the text of what is found. -/
def Succeeds (host : Host) (o : Options) (text : String) : Prop :=
  ∃ found, Finds host o found ∧ ¬ Lacks host o ∧ text = Output.text found o.format

/-- The first stage that fails has this problem. -/
inductive Fails (host : Host) (o : Options) : Problem → Prop
  | locator {e : Locator.Failure}
      (h : manifestPath o.manifestPath o.locate host.locator = .error e) :
      Fails host o (.locator e)
  | load {path : String} {e : Manifest.LoadError}
      (hpath : manifestPath o.manifestPath o.locate host.locator = .ok path)
      (h : Manifest.load path (host.read path) = .error e) : Fails host o (.load e)
  | features {manifest : Toml.Value} {e : Manifest.Fault} (hload : Loads host o manifest)
      (h : Manifest.features manifest = .error e) : Fails host o (.manifest e)
  | layer {manifest : Toml.Value} {table : FeatureTable} {e : Manifest.Fault}
      (hload : Loads host o manifest) (hfeatures : Manifest.features manifest = .ok table)
      (h : Manifest.layer manifest = .error e) : Fails host o (.manifest e)
  | settings {manifest : Toml.Value} {table : FeatureTable} {layer : Option Layer} {e : BlankName}
      (hload : Loads host o manifest) (hfeatures : Manifest.features manifest = .ok table)
      (hlayer : Manifest.layer manifest = .ok layer)
      (h : Settings.resolve [layer.getD .unset, o.layer] = .error e) : Fails host o (.settings e)
  | plan {table : FeatureTable} {settings : Settings} {e : TooManyFeatures}
      (hsettings : Settles host o table settings) (h : Plan.make table settings = .error e) :
      Fails host o (.plan e)
  | output {found : List Combination} (hfound : Finds host o found) (h : Lacks host o) :
      Fails host o (.output (.unsupported .json))

/-- Each stage fails or hands on to the next. -/
lemma succeeds_or_fails (host : Host) (o : Options) :
    (∃ text, Succeeds host o text) ∨ ∃ why, Fails host o why := by
  cases hpath : manifestPath o.manifestPath o.locate host.locator with
  | error why => exact .inr ⟨_, .locator hpath⟩
  | ok path =>
  cases hread : Manifest.load path (host.read path) with
  | error why => exact .inr ⟨_, .load hpath hread⟩
  | ok manifest =>
  have hload : Loads host o manifest := ⟨path, hpath, hread⟩
  cases hfeatures : Manifest.features manifest with
  | error why => exact .inr ⟨_, .features hload hfeatures⟩
  | ok table =>
  cases hlayer : Manifest.layer manifest with
  | error why => exact .inr ⟨_, .layer hload hfeatures hlayer⟩
  | ok layer =>
  cases hresolve : Settings.resolve [layer.getD .unset, o.layer] with
  | error why => exact .inr ⟨_, .settings hload hfeatures hlayer hresolve⟩
  | ok settings =>
  have hsettings : Settles host o table settings :=
    ⟨manifest, layer, hload, hfeatures, hlayer, hresolve⟩
  cases hplan : Plan.make table settings with
  | error why => exact .inr ⟨_, .plan hsettings hplan⟩
  | ok plan =>
  have hfound : Finds host o plan.combinations := ⟨table, settings, plan, hsettings, hplan, rfl⟩
  by_cases hlacks : Lacks host o
  · exact .inr ⟨_, .output hfound hlacks⟩
  · exact .inl ⟨_, plan.combinations, hfound, hlacks, rfl⟩

/-! ### What the program makes of them -/

/-- The stages of the search as they follow one another. -/
lemma yields_search (host : Host) (o : Options) : (search host o).Yields (do
    let path ← (manifestPath o.manifestPath o.locate host.locator).mapError .locator
    let manifest ← (Manifest.load path (host.read path)).mapError .load
    let table ← (Manifest.features manifest).mapError .manifest
    let layer ← (Manifest.layer manifest).mapError .manifest
    let settings ← (Settings.resolve [layer.getD .unset, o.layer]).mapError .settings
    ((Plan.make table settings).map Plan.combinations).mapError .plan) := by
  refine (Work.yields_ofExcept _ _).bind fun path => ?_
  refine (Work.yields_ofLogged _ _).bind fun manifest => ?_
  rw [← Manifest.result_loggedFeatures]
  refine (Work.yields_ofLogged _ _).bind fun table => ?_
  refine (Work.yields_ofExcept _ _).bind fun layer => ?_
  refine (Work.yields_ofExcept _ _).bind fun settings => ?_
  refine Work.Yields.after_tell ?_ _
  refine (Work.yields_ofLogged _ _).bind_ok fun found => ?_
  exact (Work.yields_pure found).after_tell _

lemma Finds.yields_search (h : Finds host o found) : (search host o).Yields (.ok found) := by
  obtain ⟨table, settings, plan, hsettings, hplan, rfl⟩ := h
  obtain ⟨manifest, layer, ⟨path, hpath, hread⟩, hfeatures, hlayer, hresolve⟩ := hsettings
  have hyields := Program.yields_search host o
  simp only [bind, Except.bind, Except.mapError, Except.map, *] at hyields
  exact hyields

/-- A stage that fails before anything is printed ends the search. -/
lemma Fails.yields_search (h : Fails host o why) :
    (search host o).Yields (.error why) ∨
      ∃ found, Finds host o found ∧ Lacks host o ∧ why = .output (.unsupported .json) := by
  have hyields := Program.yields_search host o
  cases h with
  | locator h =>
    simp only [bind, Except.bind, Except.mapError, h] at hyields
    exact .inl hyields
  | load hpath h =>
    simp only [bind, Except.bind, Except.mapError, hpath, h] at hyields
    exact .inl hyields
  | features hload h =>
    obtain ⟨path, hpath, hread⟩ := hload
    simp only [bind, Except.bind, Except.mapError, *] at hyields
    exact .inl hyields
  | layer hload hfeatures h =>
    obtain ⟨path, hpath, hread⟩ := hload
    simp only [bind, Except.bind, Except.mapError, *] at hyields
    exact .inl hyields
  | settings hload hfeatures hlayer h =>
    obtain ⟨path, hpath, hread⟩ := hload
    simp only [bind, Except.bind, Except.mapError, *] at hyields
    exact .inl hyields
  | plan hsettings h =>
    obtain ⟨manifest, layer, ⟨path, hpath, hread⟩, hfeatures, hlayer, hresolve⟩ := hsettings
    simp only [bind, Except.bind, Except.mapError, Except.map, *] at hyields
    exact .inl hyields
  | output hfound h => exact .inr ⟨_, hfound, h, rfl⟩

lemma writes_iff_not_lacks : host.build.writes o.format = true ↔ ¬ Lacks host o := by
  unfold Build.writes Lacks
  cases host.build.json <;> simp

section Command

variable (hversion : o.version = false)
include hversion

lemma run_command : (command host o).run.run {} =
    (search host o >>= fun found => Work.print host.build found o.format).run.run
      { events := [.options o] } := by
  unfold command
  rw [hversion]
  rfl

lemma run_command_of_error (h : (search host o).Yields (.error why)) :
    ∃ events, (command host o).run.run {} = (.error why, { events }) := by
  obtain ⟨events, hsearch⟩ := h { events := [.options o] }
  refine ⟨events, ?_⟩
  rw [run_command hversion, ExceptT.run_bind, StateT.run_bind, hsearch]
  rfl

/-- What the search has found is rendered. -/
lemma run_command_of_ok (h : (search host o).Yields (.ok found)) :
    ∃ events, (command host o).run.run {} =
      match Output.render host.build found o.format with
      | .ok text => (.ok (), { events, stdout := ⟨none, bytes text⟩ })
      | .error why => (.error (.output (.unsupported why)), { events }) := by
  obtain ⟨events, hsearch⟩ := h { events := [.options o] }
  refine ⟨events, ?_⟩
  rw [run_command hversion, ExceptT.run_bind, StateT.run_bind, hsearch]
  exact Work.run_print rfl

lemma Succeeds.run_command (h : Succeeds host o text) :
    ∃ events, (command host o).run.run {} =
      (.ok (), { events, stdout := ⟨none, bytes text⟩ }) := by
  obtain ⟨found, hfound, hlacks, rfl⟩ := h
  obtain ⟨events, hrun⟩ := run_command_of_ok hversion hfound.yields_search
  rw [Output.render, if_pos (writes_iff_not_lacks.mpr hlacks)] at hrun
  exact ⟨events, hrun⟩

lemma Fails.run_command (h : Fails host o why) :
    ∃ events, (command host o).run.run {} = (.error why, { events }) := by
  rcases h.yields_search with hsearch | ⟨found, hfound, hlacks, rfl⟩
  · exact run_command_of_error hversion hsearch
  · obtain ⟨events, hrun⟩ := run_command_of_ok hversion hfound.yields_search
    rw [Output.render, if_neg fun hwrites => writes_iff_not_lacks.mp hwrites hlacks] at hrun
    exact ⟨events, hrun⟩

/-- All stages succeed just where the program does, with the text it has printed. -/
lemma succeeds_iff : Succeeds host o text ↔
    ((command host o).run.run {}).1 = .ok () ∧
      ((command host o).run.run {}).2.stdout.taken = bytes text := by
  constructor
  · intro h
    obtain ⟨events, hrun⟩ := h.run_command hversion
    rw [hrun]
    exact ⟨rfl, rfl⟩
  · rintro ⟨hok, htaken⟩
    rcases succeeds_or_fails host o with ⟨text', hs⟩ | ⟨why, hf⟩
    · obtain ⟨events, hrun⟩ := hs.run_command hversion
      rw [hrun] at htaken
      exact Text.bytes_injective htaken ▸ hs
    · obtain ⟨events, hrun⟩ := hf.run_command hversion
      rw [hrun] at hok
      cases hok

lemma fails_iff : Fails host o why ↔ ((command host o).run.run {}).1 = .error why := by
  constructor
  · intro h
    obtain ⟨events, hrun⟩ := h.run_command hversion
    rw [hrun]
  · intro h
    rcases succeeds_or_fails host o with ⟨text, hs⟩ | ⟨other, hf⟩
    · obtain ⟨events, hrun⟩ := hs.run_command hversion
      rw [hrun] at h
      cases h
    · obtain ⟨events, hrun⟩ := hf.run_command hversion
      rw [hrun, Except.error.injEq] at h
      exact h ▸ hf

/-- No two problems are the first. -/
lemma Fails.eq {other : Problem} (h : Fails host o why) (h' : Fails host o other) :
    other = why := by
  have heq := ((fails_iff hversion).mp h').symm.trans ((fails_iff hversion).mp h)
  exact Except.error.inj heq

lemma Fails.not_succeeds (h : Fails host o why) : ¬ ∃ text, Succeeds host o text := by
  rintro ⟨text, hs⟩
  have hok := ((succeeds_iff hversion).mp hs).1
  rw [(fails_iff hversion).mp h] at hok
  cases hok

end Command

/-! ### How it ends -/

section Exit

variable {args : List String}
  (hread : CommandLine.read (CommandLine.programName :: args) = .ok o)
include hread

lemma version_iff :
    o.version = true ↔ CommandLine.Gives (CommandLine.programName :: args) (.flag .version) :=
  (CommandLine.gives_iff hread).1 .version

lemma run_eq_conclude : run host args = conclude host (command host o) := by
  unfold run
  rw [hread]

/-- Asked for the version, the program looks no further. -/
lemma exit_of_version (hversion : o.version = true) :
    (run host args).exit = ⟨.success, bytes (host.build.banner ++ "\n"), ""⟩ := by
  rw [run_eq_conclude hread]
  unfold conclude command
  rw [hversion]
  rfl

/-- Otherwise it ends as its stages do. -/
lemma exit_of_succeeds (hversion : o.version = false) (h : Succeeds host o text) :
    (run host args).exit = ⟨.success, bytes text, ""⟩ := by
  obtain ⟨events, hrun⟩ := h.run_command hversion
  rw [run_eq_conclude hread, conclude, hrun]

lemma exit_of_fails (hversion : o.version = false) (h : Fails host o why) :
    (run host args).exit = ⟨.failure why, [], (why.report host.complaint).paragraphs⟩ := by
  obtain ⟨events, hrun⟩ := h.run_command hversion
  rw [run_eq_conclude hread, conclude, hrun]
  rfl

end Exit

/-- **All or nothing.** Where a command line is accepted that asks neither for help nor for the
version, either all stages succeed and just their text is printed, or nothing is printed and the
problem of the first stage that fails is reported. Nothing is printed either where the command line
is refused, and the version is told by the build alone. -/
theorem run_all_or_nothing (host : Host) (args : List String) :
    let line := CommandLine.programName :: args
    let exit := (run host args).exit
    (∀ o, CommandLine.read line = .ok o → ¬ CommandLine.Gives line (.flag .version) →
      (∀ text, Succeeds host o text →
        exit.status = 0 ∧ exit.stdout = bytes text ∧ exit.stderr = "") ∧
      ((¬ ∃ text, Succeeds host o text) → exit.status = 1 ∧ exit.stdout = [] ∧
        ∃ why, (∀ other, Fails host o other ↔ other = why) ∧
          exit.stderr = (why.report host.complaint).paragraphs)) ∧
    (∀ o, CommandLine.read line = .ok o → CommandLine.Gives line (.flag .version) →
      exit.status = 0 ∧ exit.stdout = bytes (host.build.banner ++ "\n")) ∧
    ∀ why, CommandLine.read line = .error (.refused why) → exit.status = 2 ∧ exit.stdout = [] := by
  intro line exit
  refine ⟨fun o hread hversion => ?_, fun o hread hversion => ?_, fun why hread => ?_⟩
  · have hasked : o.version = false := Bool.eq_false_iff.mpr (mt (version_iff hread).mp hversion)
    refine ⟨fun text h => ?_, fun h => ?_⟩
    · have hexit : exit = ⟨.success, bytes text, ""⟩ := exit_of_succeeds hread hasked h
      rw [hexit]
      exact ⟨rfl, rfl, rfl⟩
    · obtain ⟨why, hfails⟩ := (succeeds_or_fails host o).resolve_left h
      have hexit : exit = ⟨.failure why, [], (why.report host.complaint).paragraphs⟩ :=
        exit_of_fails hread hasked hfails
      have hfirst : ∀ other, Fails host o other ↔ other = why :=
        fun other => ⟨hfails.eq hasked, fun hother => hother ▸ hfails⟩
      rw [hexit]
      exact ⟨rfl, rfl, why, hfirst, rfl⟩
  · have hexit : exit = ⟨.success, bytes (host.build.banner ++ "\n"), ""⟩ :=
      exit_of_version hread ((version_iff hread).mpr hversion)
    rw [hexit]
    exact ⟨rfl, rfl⟩
  · have hexit : exit = ⟨.usage why, [], ""⟩ := by
      show (run host args).exit = _
      unfold run
      rw [hread]
    rw [hexit]
    exact ⟨rfl, rfl⟩

/-- A sound manifest in the usual place; one with a fault in its features and another in its
settings; any other is no document. The build has no JSON. -/
def threeManifests : Host where
  build := ⟨false⟩
  read path :=
    if path = Manifest.usualPath then .ok "[features]".toUTF8.toList
    else if path = "x" then
      .ok "[features.a]\n[[package.metadata.feature-combos]]".toUTF8.toList
    else .ok "[features\na = [".toUTF8.toList
  locator := none
  complaint text := "no end:\n" ++ text

/-- A run for each way to end. Of two faults the one in the features is reported, and that there
is no JSON only when all else is done. -/
theorem run_all_or_nothing_threeManifests :
    let exit := fun args => (run threeManifests args).exit
    ((exit ["--no-require"]).status = 0 ∧ (exit ["--no-require"]).stdout = bytes "\n") ∧
    ((exit ["--manifest-path=x"]).status = 1 ∧ (exit ["--manifest-path=x"]).stdout = [] ∧
      (exit ["--manifest-path=x"]).stderr =
        "Error: feature `a`\n\nCaused by:\n    expected an array of strings, found table\n") ∧
    ((exit ["--manifest-path=y"]).stdout = [] ∧ (exit ["--manifest-path=y"]).stderr =
      "Error: failed to parse y\n\nCaused by:\n    no end:\n    [features\n    a = [\n") ∧
    ((exit ["--no-require", "--format=json"]).stdout = [] ∧
      (exit ["--no-require", "--format=json"]).stderr =
        "Error: JSON output needs cargo-fc built with the `uses_serde` feature\n") ∧
    (exit ["-v", "--locate"]).stdout = bytes "cargo-fc 0.1.0 [\"!uses_serde\"]\n" ∧
    (exit ["--format"]).status = 2 := by
  intro exit
  have hfailure : ∀ (args : List String) {o : Options} {why : Problem},
      CommandLine.read (CommandLine.programName :: args) = .ok o → o.version = false →
      Fails threeManifests o why → (exit args).status = 1 ∧ (exit args).stdout = [] ∧
        (exit args).stderr = (why.report threeManifests.complaint).paragraphs := by
    intro args o why hread hflag hfails
    have hversion : ¬ CommandLine.Gives (CommandLine.programName :: args) (.flag .version) :=
      mt (version_iff hread).mpr (Bool.eq_false_iff.mp hflag)
    obtain ⟨hone, hnothing, first, hfirst, hstderr⟩ :=
      ((run_all_or_nothing threeManifests args).1 o hread hversion).2 (hfails.not_succeeds hflag)
    obtain rfl := (hfirst why).mp hfails
    exact ⟨hone, hnothing, hstderr⟩
  have hopen : CommandLine.read [CommandLine.programName, "--no-require"] =
      .ok { Options.none with noRequire := true } := by decide +kernel
  have hsucceeds : Succeeds threeManifests { Options.none with noRequire := true } "\n" :=
    (succeeds_iff rfl).mpr (by decide +kernel)
  have hfaults : Fails threeManifests { Options.none with manifestPath := some "x" }
      (.manifest (.feature "a" (.notAList .table))) := (fails_iff rfl).mpr (by decide +kernel)
  have hbroken : Fails threeManifests { Options.none with manifestPath := some "y" }
      (.load (.malformed "y" "[features\na = [")) := (fails_iff rfl).mpr (by decide +kernel)
  have hjson : Fails threeManifests { Options.none with noRequire := true, format := .json }
      (.output (.unsupported .json)) := (fails_iff rfl).mpr (by decide +kernel)
  have hversion : CommandLine.read [CommandLine.programName, "-v", "--locate"] =
      .ok { Options.none with version := true, locate := true } := by decide +kernel
  have hformat : CommandLine.read [CommandLine.programName, "--format"] =
      .error (.refused .invalidValue) := by decide +kernel
  obtain ⟨hzero, hline, -⟩ := ((run_all_or_nothing threeManifests ["--no-require"]).1 _ hopen
    (mt (version_iff hopen).mpr (by decide))).1 _ hsucceeds
  obtain ⟨hone, hnothing, hstderr⟩ := hfailure ["--manifest-path=x"] (by decide +kernel) rfl hfaults
  obtain ⟨-, hnothing', hstderr'⟩ := hfailure ["--manifest-path=y"] (by decide +kernel) rfl hbroken
  obtain ⟨-, hnothing'', hstderr''⟩ :=
    hfailure ["--no-require", "--format=json"] (by decide +kernel) rfl hjson
  obtain ⟨-, hbanner⟩ := (run_all_or_nothing threeManifests ["-v", "--locate"]).2.1 _ hversion
    ((version_iff hversion).mp rfl)
  obtain ⟨htwo, -⟩ := (run_all_or_nothing threeManifests ["--format"]).2.2 _ hformat
  refine ⟨⟨hzero, hline⟩, ⟨hone, hnothing, hstderr.trans ?_⟩, ⟨hnothing', hstderr'.trans ?_⟩,
    ⟨hnothing'', hstderr''.trans ?_⟩, hbanner, htwo⟩
  · decide +kernel
  · decide +kernel
  · decide +kernel

end Program

end FeatureMatrix
