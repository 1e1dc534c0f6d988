import FeatureMatrix.Proofs.CommandLine.Arguments
import FeatureMatrix.Proofs.Outcomes
import Mathlib.Tactic.SplitIfs

/-!
What an accepted command line gives.

While arguments are read, a switch is known if it is a flag that was set, or a field for which
there is a value or one that is still to be looked at. Each argument that is not refused adds the
switch that it gives, and no other. So at the end just those switches are known that some argument
gives, wherever it stands.
-/

namespace FeatureMatrix

namespace CommandLine

/-- One of the arguments gives the switch. -/
def Gives (line : List String) (w : Switch) : Prop :=
  ∃ arg ∈ (dropSubcommand line).tail, w.GivenBy arg

/-- The field whose value is still to be looked at. -/
def Pending.field? : Pending → Option Field
  | nothing => none
  | awaiting field => some field
  | holding field _ => some field

namespace Reading

variable {r s : Reading} {program arg value : String} {args : List String} {field : Field}
  {flag : Flag} {w : Switch}

/-- There is a value for the field. -/
def Holds (r : Reading) : Field → Prop
  | .manifestPath => r.manifestPath ≠ none
  | .exclude => r.exclude ≠ []
  | .require => r.require ≠ []
  | .format => r.format ≠ none

/-- The switch was given up to here. -/
def Knows (r : Reading) : Switch → Prop
  | .flag flag => flag ∈ r.flags
  | .field field => r.Holds field ∨ r.pending.field? = some field
  | .help => False

/-- Neither flags nor what is pending are values. -/
@[simp]
lemma holds_with {flags : List Flag} {pending : Pending} {closed : Bool} :
    Holds { r with flags, pending, closed } field ↔ r.Holds field := by
  cases field <;> rfl

/-! ### One argument -/

lemma commaNames_ne_nil : commaNames value ≠ [] := by
  unfold commaNames
  rw [Ne, List.map_eq_nil_iff]
  exact List.splitOn_ne_nil _ _

lemma assign_eq_ok (h : r.assign field value = .ok s) :
    s.flags = r.flags ∧ s.pending = r.pending ∧ ∀ f, s.Holds f ↔ f = field ∨ r.Holds f := by
  cases field with
  | exclude =>
    obtain rfl := Except.ok.inj h
    refine ⟨rfl, rfl, fun f => ?_⟩
    cases f <;> simp [Holds, commaNames_ne_nil]
  | require =>
    obtain rfl := Except.ok.inj h
    refine ⟨rfl, rfl, fun f => ?_⟩
    cases f <;> simp [Holds, commaNames_ne_nil]
  | manifestPath =>
    simp only [assign] at h
    split_ifs at h
    · cases h
    · cases h
    · obtain rfl := Except.ok.inj h
      refine ⟨rfl, rfl, fun f => ?_⟩
      cases f <;> simp [Holds]
  | format =>
    simp only [assign] at h
    split_ifs at h
    · cases h
    · split at h
      · cases h
      · obtain rfl := Except.ok.inj h
        refine ⟨rfl, rfl, fun f => ?_⟩
        cases f <;> simp [Holds]

/-- A value that is looked at stays known. -/
lemma settle_eq_ok (h : r.settle = .ok s) :
    s.pending = .nothing ∧ ∀ w, s.Knows w ↔ r.Knows w := by
  unfold settle at h
  split at h
  case h_1 hpending =>
    obtain rfl := Except.ok.inj h
    exact ⟨hpending, fun w => Iff.rfl⟩
  case h_2 => cases h
  case h_3 field value hpending =>
    obtain ⟨hflags, hnothing, hholds⟩ := assign_eq_ok h
    refine ⟨hnothing, fun w => ?_⟩
    cases w with
    | flag flag => simp [Knows, hflags]
    | field f => simp [Knows, hholds, hnothing, hpending, Pending.field?, or_comm, eq_comm]
    | help => rfl

lemma setFlag_eq_ok (h : r.setFlag flag = .ok s) :
    ¬ r.Knows (.flag flag) ∧ ∀ w, s.Knows w ↔ w = .flag flag ∨ r.Knows w := by
  obtain ⟨t, hsettle, h⟩ := bind_eq_ok.mp h
  obtain ⟨-, hknows⟩ := settle_eq_ok hsettle
  split_ifs at h with hflag
  · cases h
  · obtain rfl := Except.ok.inj h
    rw [List.contains_iff_mem] at hflag
    refine ⟨fun hr => hflag ((hknows (.flag flag)).mpr hr), fun w => ?_⟩
    rw [← hknows]
    cases w <;> simp [Knows]

lemma showHelp_ne_ok {text : String} : r.showHelp text ≠ .ok s := by
  intro h
  obtain ⟨t, -, h⟩ := bind_eq_ok.mp h
  cases h

lemma letter_eq_ok {c : Char} (h : r.letter program c = .ok s) :
    c = 'v' ∧ r.setFlag .version = .ok s := by
  unfold letter at h
  split at h
  · exact ⟨rfl, h⟩
  · exact absurd h showHelp_ne_ok
  · cases h

/-- Of letters only one is accepted at a time, since no flag is set twice. -/
lemma letters_eq_ok {letters : List Char} (h : letters.foldlM (letter program) r = .ok s) :
    s.Knows w ↔ (Argument.short letters).switch? = some w ∨ r.Knows w := by
  cases letters with
  | nil =>
    obtain rfl := Except.ok.inj h
    simp [Argument.switch?]
  | cons c cs =>
    rw [List.foldlM_cons] at h
    obtain ⟨t, hc, hrest⟩ := bind_eq_ok.mp h
    obtain ⟨rfl, hset⟩ := letter_eq_ok hc
    obtain ⟨-, hknows⟩ := setFlag_eq_ok hset
    cases cs with
    | nil =>
      obtain rfl := Except.ok.inj hrest
      rw [hknows]
      simp [Argument.switch?, eq_comm]
    | cons c' cs =>
      rw [List.foldlM_cons] at hrest
      obtain ⟨t', hc', -⟩ := bind_eq_ok.mp hrest
      obtain ⟨-, hset'⟩ := letter_eq_ok hc'
      exact absurd ((hknows _).mpr (Or.inl rfl)) (setFlag_eq_ok hset').1

/-- An argument that is not refused makes known what it gives. -/
lemma next_eq_ok (h : r.next program arg = .ok s) :
    s.Knows w ↔ w.GivenBy arg ∨ r.Knows w := by
  rw [Argument.givenBy_iff]
  unfold next at h
  split_ifs at h
  · cases h
  · generalize Argument.ofString arg = a at h
    split at h
    case h_1 =>
      obtain rfl := Except.ok.inj h
      cases w <;> simp [Knows, Argument.switch?]
    case h_2 text =>
      split at h
      case h_1 field hpending =>
        obtain rfl := Except.ok.inj h
        cases w <;> simp [Knows, Argument.switch?, hpending, Pending.field?]
      case h_2 => cases h
    case h_3 letters => exact letters_eq_ok h
    case h_4 name value =>
      show _ ↔ Switch.ofName? name = some w ∨ _
      split at h
      case h_1 => cases h
      case h_2 field hname =>
        obtain ⟨t, hsettle, hnext⟩ := bind_eq_ok.mp h
        obtain ⟨hnothing, hknows⟩ := settle_eq_ok hsettle
        obtain rfl := Except.ok.inj hnext
        rw [hname, ← hknows]
        cases w <;> simp [Knows, hnothing, Pending.field?, or_comm]
      case h_3 field value hname =>
        obtain ⟨t, hsettle, hnext⟩ := bind_eq_ok.mp h
        obtain ⟨hnothing, hknows⟩ := settle_eq_ok hsettle
        obtain ⟨hflags, hpending, hholds⟩ := assign_eq_ok hnext
        rw [hname, ← hknows]
        cases w <;> simp [Knows, hflags, hpending, hnothing, hholds, Pending.field?, eq_comm]
      case h_4 flag hname =>
        rw [hname, (setFlag_eq_ok h).2, Option.some.injEq, eq_comm]
      case h_5 => exact absurd h showHelp_ne_ok
      case h_6 => cases h
      case h_7 => cases h

/-! ### All arguments -/

lemma foldlM_next_eq_ok (h : args.foldlM (next program) r = .ok s) :
    s.Knows w ↔ (∃ arg ∈ args, w.GivenBy arg) ∨ r.Knows w := by
  induction args generalizing r with
  | nil =>
    obtain rfl := Except.ok.inj h
    simp
  | cons arg args ih =>
    rw [List.foldlM_cons] at h
    obtain ⟨t, hnext, hrest⟩ := bind_eq_ok.mp h
    simp only [ih hrest, next_eq_ok hnext, List.mem_cons, exists_eq_or_imp]
    exact or_left_comm.trans or_assoc.symm

lemma finish_eq_ok {o : Options} (h : r.finish = .ok o) :
    (∀ f, o.flag f = true ↔ r.Knows (.flag f)) ∧
    ∀ group, o.names group ≠ [] ↔ r.Knows (.field (.ofGroup group)) := by
  obtain ⟨t, hsettle, hfinish⟩ := bind_eq_ok.mp h
  obtain ⟨hnothing, hknows⟩ := settle_eq_ok hsettle
  split_ifs at hfinish
  · cases hfinish
  · cases hfinish
  · obtain rfl := Except.ok.inj hfinish
    simp only [← hknows]
    constructor
    · intro f
      cases f <;> simp [Options.flag, Knows]
    · intro group
      cases group <;>
        simp [Options.names, Field.ofGroup, Knows, Holds, hnothing, Pending.field?]

end Reading

/-- Of an accepted command line the options tell what was given. -/
lemma gives_iff {line : List String} {o : Options} (h : read line = .ok o) :
    (∀ f, o.flag f = true ↔ Gives line (.flag f)) ∧
    ∀ group, o.names group ≠ [] ↔ Gives line (.field (.ofGroup group)) := by
  have hstart : ∀ w, ¬ Reading.start.Knows w := by
    intro w
    cases w with
    | flag flag => cases flag <;> simp [Reading.Knows, Reading.start]
    | field field =>
      cases field <;> simp [Reading.Knows, Reading.Holds, Reading.start, Pending.field?]
    | help => exact id
  unfold read at h
  unfold Gives
  split at h
  case h_1 hline =>
    rw [hline]
    simpa [hstart] using Reading.finish_eq_ok h
  case h_2 path args hline =>
    obtain ⟨r, hrun, hfinish⟩ := bind_eq_ok.mp h
    rw [hline, List.tail_cons]
    simpa [Reading.foldlM_next_eq_ok hrun, hstart] using Reading.finish_eq_ok hfinish

end CommandLine

end FeatureMatrix
