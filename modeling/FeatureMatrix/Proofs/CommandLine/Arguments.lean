import FeatureMatrix.CommandLine.Reading
import Mathlib.Data.List.TakeDrop
import Mathlib.Data.List.TakeWhile
import Mathlib.Tactic.Lemma

/-!
How arguments are written, and which switch an argument gives.

A switch is written by its name after two dashes, a value after an equals sign, and some have a
letter after a single dash as well. No name holds an equals sign, so what stands before the first
one is the name, and an argument gives one switch at most. Flags and lists of names have their
place in the options.
-/

namespace FeatureMatrix.CommandLine

variable {w : Switch} {arg : String} {a : Argument}

/-! ### Switches by name -/

namespace Switch

/-- The name after two dashes. -/
def name : Switch → String
  | flag .version => "version"
  | flag .locate => "locate"
  | flag .noRequire => "no-require"
  | field .manifestPath => "manifest-path"
  | field .exclude => "exclude"
  | field .require => "require"
  | field .format => "format"
  | help => "help"

/-- The letter after a single dash, if there is one. -/
def letter? : Switch → Option Char
  | flag .version => some 'v'
  | help => some 'h'
  | _ => none

/-- The argument is the switch, with a value or without one. -/
def GivenBy (w : Switch) (arg : String) : Prop :=
  arg = "--" ++ w.name ∨ (∃ value, arg = "--" ++ w.name ++ "=" ++ value) ∨
    ∃ c, w.letter? = some c ∧ arg = String.ofList ['-', c]

lemma ofName?_name : ofName? w.name = some w := by
  cases w with
  | flag flag => cases flag <;> rfl
  | field field => cases field <;> rfl
  | help => rfl

lemma ofName?_eq_some_iff {name : String} : ofName? name = some w ↔ name = w.name := by
  constructor
  · unfold ofName?
    split <;> simp only [Option.some.injEq, reduceCtorEq, IsEmpty.forall_iff]
    all_goals
      rintro rfl
      rfl
  · rintro rfl
    exact ofName?_name

lemma name_ne_empty : w.name ≠ "" := by
  cases w with
  | flag flag => cases flag <;> decide
  | field field => cases field <;> decide
  | help => decide

lemma equals_not_mem_name : '=' ∉ w.name.toList := by
  cases w with
  | flag flag => cases flag <;> decide
  | field field => cases field <;> decide
  | help => decide

end Switch

/-! ### Options by switch -/

/-- The field for a list of names. -/
def Field.ofGroup : Group → Field
  | .exclude => .exclude
  | .require => .require

namespace Options

/-- Whether a flag is set. -/
def flag (o : Options) : Flag → Bool
  | .version => o.version
  | .locate => o.locate
  | .noRequire => o.noRequire

/-- The names in a list. -/
def names (o : Options) : Group → List String
  | .exclude => o.exclude
  | .require => o.require

end Options

/-! ### The form of an argument -/

namespace Argument

lemma ne_equals {cs : List Char} (hcs : '=' ∉ cs) : ∀ c ∈ cs, (c != '=') = true := by
  intro c hc
  rw [bne_iff_ne]
  rintro rfl
  exact hcs hc

/-- What is written for a form. -/
inductive Written : Argument → String → Prop
  | separator : Written separator "--"
  | name {name : String} (hne : name ≠ "") (hname : '=' ∉ name.toList) :
      Written (long name none) ("--" ++ name)
  | assigned {name value : String} (hname : '=' ∉ name.toList) :
      Written (long name (some value)) ("--" ++ name ++ "=" ++ value)
  | short {c : Char} {cs : List Char} (hc : c ≠ '-') :
      Written (short (c :: cs)) (String.ofList ('-' :: c :: cs))
  | plain {text : String} (htext : ∀ c cs, text.toList ≠ '-' :: c :: cs) :
      Written (plain text) text

lemma ofString_of_written (h : Written a arg) : ofString arg = a := by
  cases h with
  | separator => rfl
  | @name name hne hname =>
    have harg : ("--" ++ name).toList = '-' :: '-' :: name.toList := by
      rw [String.toList_append]
      rfl
    have hnil : name.toList ≠ [] := by simpa using hne
    unfold ofString
    rw [harg]
    simp [List.takeWhile_eq_self_iff.mpr (ne_equals hname),
      List.dropWhile_eq_nil_iff.mpr (ne_equals hname)]
  | @assigned name value hname =>
    have harg : ("--" ++ name ++ "=" ++ value).toList =
        '-' :: '-' :: (name.toList ++ '=' :: value.toList) := by
      simp [String.toList_append]
    unfold ofString
    rw [harg]
    simp [List.takeWhile_append_of_pos (ne_equals hname),
      List.dropWhile_append_of_pos (ne_equals hname)]
  | @short c cs hc =>
    unfold ofString
    rw [String.toList_ofList]
    simp [hc]
  | @plain text htext =>
    unfold ofString
    split
    · exact absurd ‹_› (htext _ _)
    · exact absurd ‹_› (htext _ _)
    · exact absurd ‹_› (htext _ _)
    · rfl

/-- Every argument is written in some form. -/
lemma exists_written (arg : String) : ∃ a, Written a arg := by
  by_cases htext : ∀ c cs, arg.toList ≠ '-' :: c :: cs
  · exact ⟨_, .plain htext⟩
  · push Not at htext
    obtain ⟨c, cs, harg⟩ := htext
    have harg' : arg = String.ofList ('-' :: c :: cs) := by rw [← harg, String.ofList_toList]
    by_cases hc : c = '-'
    · subst hc
      by_cases heq : '=' ∈ cs
      · obtain ⟨name, value, rfl, hname⟩ := List.eq_append_cons_of_mem heq
        refine ⟨long (String.ofList name) (some (String.ofList value)), ?_⟩
        have hwritten : arg =
            "--" ++ String.ofList name ++ "=" ++ String.ofList value := by
          rw [harg', ← String.toList_inj]
          simp [String.toList_append]
        rw [hwritten]
        exact .assigned (by rwa [String.toList_ofList])
      · by_cases hnil : cs = []
        · subst hnil
          rw [harg']
          exact ⟨_, .separator⟩
        · have hwritten : arg = "--" ++ String.ofList cs := by
            rw [harg', ← String.toList_inj]
            simp [String.toList_append]
          rw [hwritten]
          exact ⟨_, .name (by simpa using hnil) (by rwa [String.toList_ofList])⟩
    · rw [harg']
      exact ⟨_, .short hc⟩

lemma written_ofString (arg : String) : Written (ofString arg) arg := by
  obtain ⟨a, ha⟩ := exists_written arg
  rwa [ofString_of_written ha]

/-- The switch that an argument of this form gives. -/
def switch? : Argument → Option Switch
  | long name _ => Switch.ofName? name
  | short ['v'] => some (.flag .version)
  | short ['h'] => some .help
  | _ => none

lemma givenBy_iff : w.GivenBy arg ↔ (ofString arg).switch? = some w := by
  constructor
  · rintro (rfl | ⟨value, rfl⟩ | ⟨c, hc, rfl⟩)
    · rw [ofString_of_written (.name Switch.name_ne_empty Switch.equals_not_mem_name)]
      exact Switch.ofName?_name
    · rw [ofString_of_written (.assigned Switch.equals_not_mem_name)]
      exact Switch.ofName?_name
    · unfold Switch.letter? at hc
      split at hc
      · obtain rfl := Option.some.inj hc
        rfl
      · obtain rfl := Option.some.inj hc
        rfl
      · cases hc
  · have hw := written_ofString arg
    generalize ofString arg = a at hw
    intro ha
    unfold switch? at ha
    split at ha
    · obtain rfl := Switch.ofName?_eq_some_iff.mp ha
      cases hw with
      | name => exact Or.inl rfl
      | assigned => exact Or.inr (Or.inl ⟨_, rfl⟩)
    · obtain rfl := Option.some.inj ha
      cases hw
      exact Or.inr (Or.inr ⟨'v', rfl, rfl⟩)
    · obtain rfl := Option.some.inj ha
      cases hw
      exact Or.inr (Or.inr ⟨'h', rfl, rfl⟩)
    · cases ha

end Argument

end FeatureMatrix.CommandLine
