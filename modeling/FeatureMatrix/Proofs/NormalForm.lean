import FeatureMatrix.Proofs.Layering
import FeatureMatrix.Session
import Mathlib.Data.List.DropRight

/-!
Settings are in normal form: no name in them is blank, and none has blanks around it.

The built-in names are of this kind. A layer brings in trimmed names, or else it fails and all
stays as it is, so every run of layers keeps to this form, and so does every session. Trimming
takes away whatever blanks were put around a name, and a set does not tell in which order or how
often a name was written. So settings in normal form can be written down in many ways as a layer,
and each of them leads back to these settings, wherever it is laid on.
-/

namespace FeatureMatrix

/-! ### Trimmed texts -/

namespace Text

variable {cs blanks : List Char} {name text : String}

/-- The text is the name with blanks around it, as many as there may be on either side. -/
def Padded (name text : String) : Prop :=
  ∃ before after : String, (∀ c ∈ before.toList, isBlank c = true) ∧
    (∀ c ∈ after.toList, isBlank c = true) ∧ text = before ++ name ++ after

lemma trimEnd_append (h : ∀ c ∈ blanks, isBlank c = true) :
    trimEnd (cs ++ blanks) = trimEnd cs := by
  unfold trimEnd
  rw [List.reverse_append, List.dropWhile_append_of_pos]
  exact fun c hc => h c (List.mem_reverse.mp hc)

/-- A text is what trimming leaves of it, with blanks around that. -/
lemma padded_trim (text : String) : Padded (trim text) text := by
  have hend : ∀ cs : List Char, trimEnd cs ++ cs.rtakeWhile isBlank = cs :=
    fun cs => List.rdropWhile_append_rtakeWhile
  refine ⟨.ofList (text.toList.takeWhile isBlank),
    .ofList ((text.toList.dropWhile isBlank).rtakeWhile isBlank),
    fun c hc => ?_, fun c hc => ?_, ?_⟩
  · exact List.mem_takeWhile_imp (String.toList_ofList ▸ hc)
  · exact List.mem_rtakeWhile_imp (String.toList_ofList ▸ hc)
  · refine String.toList_injective ?_
    rw [String.toList_append, String.toList_append, String.toList_ofList, String.toList_ofList,
      trim, String.toList_ofList, List.append_assoc, hend, List.takeWhile_append_dropWhile]

/-- Blanks around a name do not matter. -/
lemma Padded.trim_eq (h : Padded name text) : trim text = trim name := by
  obtain ⟨before, after, hbefore, hafter, rfl⟩ := h
  have hdrop : (before ++ name ++ after).toList.dropWhile isBlank =
      (name.toList ++ after.toList).dropWhile isBlank := by
    rw [String.toList_append, String.toList_append, List.append_assoc,
      List.dropWhile_append_of_pos hbefore]
  unfold trim
  rw [hdrop, List.dropWhile_append]
  split_ifs with hblank
  · -- the name is blank, and then all is
    rw [List.isEmpty_iff.mp hblank, List.dropWhile_eq_nil_iff.mpr hafter]
  · rw [trimEnd_append hafter]

lemma trim_trim : trim (trim text) = trim text := (padded_trim text).trim_eq.symm

end Text

/-! ### Settings -/

namespace Settings

variable {base settings : Settings} {layer : Layer} {group : Group} {given : Option (List String)}
  {list : List String} {names inForce : NameSet}

/-- No name is blank or has blanks around it. -/
def Normal (settings : Settings) : Prop :=
  ∀ group, ∀ name ∈ settings.members group, name ≠ "" ∧ Text.trim name = name

/-- Lays a layer on top where it can be; otherwise all stays as it is. -/
def tryApply (base : Settings) (layer : Layer) : Settings :=
  match base.apply layer with
  | .error _ => base
  | .ok settings => settings

/-- Tries one layer after the other, the first one lowest. -/
def tryAll (base : Settings) (layers : List Layer) : Settings := layers.foldl tryApply base

/-- What is in the list are the names, each once at least, with any blanks around them. -/
def Writes (list : List String) (names : NameSet) : Prop :=
  (∀ text ∈ list, ∃ name ∈ names, Text.Padded name text) ∧
    ∀ name ∈ names, ∃ text ∈ list, Text.Padded name text

/-! ### One layer -/

lemma builtIn_normal : Normal builtIn := by
  rw [Normal, Group.forall_iff]
  decide +kernel

lemma Normal.apply (h : Normal base) (happly : base.apply layer = .ok settings) :
    Normal settings := by
  obtain ⟨hfree, hmembers⟩ := apply_eq_ok_iff.mp happly
  intro group name hname
  rw [hmembers] at hname
  cases hgiven : layer.given group with
  | none =>
    rw [hgiven] at hname
    exact h group name hname
  | some list =>
    rw [hgiven] at hname
    obtain ⟨text, htext, rfl⟩ := List.mem_map.mp (NameSet.mem_ofList_iff.mp hname)
    exact ⟨fun hblank => hfree group ⟨list, hgiven, text, htext, hblank⟩, Text.trim_trim⟩

lemma Normal.tryApply (h : Normal base) : Normal (base.tryApply layer) := by
  unfold Settings.tryApply
  cases happly : base.apply layer with
  | error why => exact h
  | ok settings => exact h.apply happly

lemma settle_settle : settle given (settle given inForce) = settle given inForce := by
  cases given <;> rfl

/-- What fails once fails again, and what was laid on is there already. -/
lemma apply_apply : (base.apply layer >>= fun once => once.apply layer) = base.apply layer := by
  cases happly : base.apply layer with
  | error why => rfl
  | ok once =>
    obtain ⟨hfree, hmembers⟩ := apply_eq_ok_iff.mp happly
    refine apply_eq_ok_iff.mpr ⟨hfree, fun group => ?_⟩
    rw [hmembers, settle_settle]

/-- Trimmed names are found again by trimming, in whatever way they are written. -/
lemma writes_iff (htrim : ∀ name ∈ names, Text.trim name = name) :
    Writes list names ↔ (.ofList (list.map Text.trim) : NameSet) = names := by
  constructor
  · rintro ⟨htexts, hnames⟩
    ext name
    rw [NameSet.mem_ofList_iff, List.mem_map]
    constructor
    · rintro ⟨text, htext, rfl⟩
      obtain ⟨name, hname, hpadded⟩ := htexts text htext
      rwa [hpadded.trim_eq, htrim name hname]
    · intro hname
      obtain ⟨text, htext, hpadded⟩ := hnames name hname
      exact ⟨text, htext, hpadded.trim_eq.trans (htrim name hname)⟩
  · rintro rfl
    refine ⟨fun text htext => ?_, fun name hname => ?_⟩
    · have hmem : Text.trim text ∈ list.map Text.trim := List.mem_map_of_mem htext
      exact ⟨Text.trim text, NameSet.mem_ofList_iff.mpr hmem, Text.padded_trim text⟩
    · obtain ⟨text, htext, rfl⟩ := List.mem_map.mp (NameSet.mem_ofList_iff.mp hname)
      exact ⟨text, htext, Text.padded_trim text⟩

lemma Normal.apply_eq_of_writes (h : Normal settings)
    (hwrites : ∀ group, ∃ list ∈ layer.given group, Writes list (settings.members group)) :
    base.apply layer = .ok settings := by
  refine apply_eq_ok_iff.mpr ⟨fun group => ?_, fun group => ?_⟩
  · rintro ⟨list, hlist, text, htext, hblank⟩
    obtain ⟨list', hlist', hwritten⟩ := hwrites group
    obtain rfl := Option.mem_unique hlist hlist'
    obtain ⟨name, hname, hpadded⟩ := hwritten.1 text htext
    obtain ⟨hne, htrim⟩ := h group name hname
    exact hne (htrim.symm.trans (hpadded.trim_eq.symm.trans hblank))
  · obtain ⟨list, hlist, hwritten⟩ := hwrites group
    rw [Option.mem_def.mp hlist]
    exact ((writes_iff fun name hname => (h group name hname).2).mp hwritten).symm

/-! ### Many layers -/

lemma Normal.tryAll (h : Normal base) (layers : List Layer) : Normal (base.tryAll layers) := by
  induction layers generalizing base with
  | nil => exact h
  | cons layer layers ih => exact ih h.tryApply

/-- **Settings are in normal form.** Whatever layers are laid on the built-in settings, where those
that fail change nothing, no name is then blank or has blanks around it. A layer that lists these
names in any order, any number of times and with any blanks around them leads to the same settings,
whatever it is laid on. And to lay on a layer twice is to lay it on once. -/
theorem normal_form (layers : List Layer) :
    let settings := builtIn.tryAll layers
    Normal settings ∧
    (∀ (base : Settings) (layer : Layer),
      (∀ group, ∃ list ∈ layer.given group, Writes list (settings.members group)) →
        base.apply layer = .ok settings) ∧
    ∀ (base : Settings) (layer : Layer),
      (base.apply layer >>= fun once => once.apply layer) = base.apply layer := by
  intro settings
  have hnormal : Normal settings := builtIn_normal.tryAll layers
  exact ⟨hnormal, fun _ _ => hnormal.apply_eq_of_writes, fun _ _ => apply_apply⟩

/-- The first layer fails, and nothing of it is left. Blanks inside a name are part of it. -/
theorem normal_form_relisted :
    let layers : List Layer := [⟨some ["a"], some ["d", "\u3000"]⟩, ⟨some ["\tb c"], none⟩]
    let settings : Settings := ⟨{"b c"}, builtIn.require⟩
    let layer : Layer :=
      ⟨some ["b c", "\u2003b c\u00a0"], some [" ripe-geo", "maxminddb", "ripe-geo"]⟩
    builtIn.tryAll layers = settings ∧
    (∀ group, ∃ list ∈ layer.given group, Writes list (settings.members group)) ∧
    apply ⟨∅, ∅⟩ layer = .ok settings := by
  intro layers settings layer
  have hreached : builtIn.tryAll layers = settings := by decide +kernel
  obtain ⟨hnormal, hrelist, -⟩ := normal_form layers
  rw [hreached] at hnormal hrelist
  have hwrites : ∀ group, ∃ list ∈ layer.given group, Writes list (settings.members group) := by
    intro group
    have htrim := fun name hname => (hnormal group name hname).2
    cases group with
    | exclude => exact ⟨_, rfl, (writes_iff htrim).mpr (by decide +kernel)⟩
    | require => exact ⟨_, rfl, (writes_iff htrim).mpr (by decide +kernel)⟩
  exact ⟨hreached, hwrites, hrelist _ layer hwrites⟩

end Settings

/-! ### Sessions -/

namespace Session

variable {s : Session}

lemma settings_withLayer {layer : Layer} :
    (s.withLayer layer).session.settings = s.settings.tryApply layer := by
  unfold withLayer Settings.tryApply
  cases s.settings.apply layer <;> rfl

/-- A manifest without fault brings in its settings. -/
lemma settings_withManifest {text : String} :
    ∃ layers, (s.withManifest text).session.settings = s.settings.tryAll layers := by
  unfold withManifest
  dsimp only
  split
  · exact ⟨[], rfl⟩
  · rename_i layer _
    refine ⟨[layer], ?_⟩
    show _ = s.settings.tryApply layer
    unfold Settings.tryApply
    cases s.settings.apply layer <;> rfl

lemma settings_step (step : Step) :
    ∃ layers, (s.step step).session.settings = s.settings.tryAll layers := by
  cases step with
  | manifest text => exact settings_withManifest
  | layer layer => exact ⟨[layer], settings_withLayer⟩
  | options line =>
    unfold Session.step
    dsimp only
    split
    · exact ⟨[], rfl⟩
    · exact ⟨[_], settings_withLayer⟩
  | plan =>
    refine ⟨[], ?_⟩
    unfold Session.step
    dsimp only
    split <;> rfl
  | pick index =>
    refine ⟨[], ?_⟩
    unfold Session.step
    dsimp only
    split <;> rfl
  | _ => exact ⟨[], rfl⟩

/-- Whatever a session goes through, its settings come from layers, and are in normal form. -/
theorem settings_normal_of_mem_steps {steps : List Step} (h : s.settings.Normal) {outcome : Outcome}
    (houtcome : outcome ∈ s.steps steps) : outcome.session.settings.Normal := by
  induction steps generalizing s with
  | nil => cases houtcome
  | cons first rest ih =>
    obtain ⟨layers, hlayers⟩ := settings_step (s := s) first
    have hnormal : (s.step first).session.settings.Normal := by
      rw [hlayers]
      exact h.tryAll layers
    rcases List.mem_cons.mp houtcome with rfl | hrest
    · exact hnormal
    · exact ih hnormal hrest

end Session

end FeatureMatrix
