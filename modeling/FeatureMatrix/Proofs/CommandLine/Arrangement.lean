import FeatureMatrix.Proofs.CommandLine.Accepted
import Mathlib.Data.List.Induction
import Mathlib.Data.List.Nodup

/-!
Command lines are read back, in any order.

Options are written as tokens: a flag by its name, a path or a format with its value, and a list
of names in pieces, each a token of its own. Tokens of different kinds may stand in any order, so
an arrangement is told from what is left of it when all tokens but those of one kind are taken
out. While tokens are read, the reading holds for each kind just what the tokens up to there say,
and only at the end it is asked whether switches exclude each other.
-/

namespace FeatureMatrix.CommandLine

/-! ### Tokens -/

/-- What is written in one argument. -/
inductive Token where
  /-- A flag; for the one that has a letter, that may stand instead of its name. -/
  | flag (flag : Flag) (short : Bool)
  | path (path : String)
  | format (format : Format)
  /-- Some names of a list, one after the other. -/
  | names (group : Group) (names : List String)
  deriving DecidableEq

/-- A field with its value. -/
def Field.text (field : Field) (value : String) : String :=
  "--" ++ (Switch.field field).name ++ "=" ++ value

namespace Token

/-- The argument for a token. -/
def text : Token → String
  | flag .version true => "-v"
  | flag f _ => "--" ++ (Switch.flag f).name
  | path p => Field.manifestPath.text p
  | format f => Field.format.text f.name
  | names group ns => (Field.ofGroup group).text (",".intercalate ns)

@[simp]
def flag? : Token → Option Flag
  | flag f _ => some f
  | _ => none

@[simp]
def path? : Token → Option String
  | path p => some p
  | _ => none

@[simp]
def format? : Token → Option Format
  | format f => some f
  | _ => none

@[simp]
def names? (group : Group) : Token → Option (List String)
  | names g ns => if g = group then some ns else none
  | _ => none

/-- A token that can be read back by itself. -/
def Sound : Token → Prop
  | path p => p ≠ ""
  | names _ ns => ns ≠ [] ∧ ∀ name ∈ ns, ',' ∉ name.toList
  | _ => True

end Token

namespace Options

/-- Switches are set that exclude each other. -/
def Conflict (o : Options) : Prop :=
  o.locate = true ∧ o.manifestPath.isSome = true ∨ o.noRequire = true ∧ o.require ≠ []

instance (o : Options) : Decidable o.Conflict :=
  inferInstanceAs (Decidable (_ ∧ _ ∨ _ ∧ _))

end Options

/-- The tokens say what the options say: each flag that is set once, the path and the format once,
and either list in pieces that are not empty, one after the other. The plain format may be left
out. -/
structure Arranges (tokens : List Token) (o : Options) : Prop where
  flags : ∀ f, (tokens.filterMap Token.flag?).count f = if o.flag f then 1 else 0
  path : tokens.filterMap Token.path? = o.manifestPath.toList
  format : tokens.filterMap Token.format? = [o.format] ∨
    tokens.filterMap Token.format? = [] ∧ o.format = .plain
  names : ∀ group, (tokens.filterMap (Token.names? group)).flatten = o.names group
  pieces : ∀ group, [] ∉ tokens.filterMap (Token.names? group)

/-! ### One token -/

namespace Reading

variable {r s : Reading} {program value : String} {done tokens : List Token} {t : Token} {f : Flag}

lemma settle_nothing (h : r.pending = .nothing) : r.settle = .ok r := by
  unfold settle
  rw [h]

lemma setFlag_of_not_mem (hpending : r.pending = .nothing) (hf : f ∉ r.flags) :
    r.setFlag f = .ok { r with flags := f :: r.flags } := by
  have hcontains : r.flags.contains f = false := by simpa using hf
  unfold setFlag
  rw [settle_nothing hpending]
  show (if r.flags.contains f then _ else _) = _
  rw [hcontains]
  rfl

lemma next_flag (hclosed : r.closed = false) (short : Bool) :
    r.next program (Token.flag f short).text = r.setFlag f := by
  have hname : r.next program ("--" ++ (Switch.flag f).name) = r.setFlag f := by
    unfold next
    rw [hclosed, Argument.ofString_of_written
      (.name Switch.name_ne_empty Switch.equals_not_mem_name)]
    simp only [Switch.ofName?_name]
    rfl
  have hletter : r.next program "-v" = r.setFlag .version := by
    have hform : Argument.ofString "-v" = .short ['v'] := rfl
    unfold next
    rw [hclosed, hform]
    show ['v'].foldlM (letter program) r = _
    rw [List.foldlM_cons]
    exact bind_pure _
  cases f with
  | version =>
    cases short with
    | true => exact hletter
    | false => exact hname
  | locate => exact hname
  | noRequire => exact hname

lemma next_field (hpending : r.pending = .nothing) (hclosed : r.closed = false) (field : Field) :
    r.next program (field.text value) = r.assign field value := by
  unfold next Field.text
  rw [hclosed, Argument.ofString_of_written (.assigned Switch.equals_not_mem_name)]
  simp only [Switch.ofName?_name, settle_nothing hpending]
  rfl

lemma commaNames_intercalate {names : List String} (hne : names ≠ [])
    (hcomma : ∀ name ∈ names, ',' ∉ name.toList) :
    commaNames (",".intercalate names) = names := by
  have hpieces : (",".intercalate names).toList.splitOn ',' = names.map String.toList := by
    rw [String.toList_intercalate]
    exact List.splitOn_intercalate ',' (List.forall_mem_map.mpr hcomma) (by simpa using hne)
  rw [commaNames, hpieces, List.map_map]
  simp [Function.comp_def]

/-- The reading after some tokens holds what they say. -/
structure Reads (r : Reading) (done : List Token) : Prop where
  flags : ∀ f, f ∈ r.flags ↔ f ∈ done.filterMap Token.flag?
  path : r.manifestPath.toList = done.filterMap Token.path?
  format : r.format.toList = done.filterMap Token.format?
  exclude : r.exclude = (done.filterMap (Token.names? .exclude)).flatten
  require : r.require = (done.filterMap (Token.names? .require)).flatten
  pending : r.pending = .nothing
  closed : r.closed = false

lemma reads_start : start.Reads [] := by
  constructor <;> simp [start]

/-- Nothing is said twice but names. -/
structure Once (tokens : List Token) : Prop where
  flags : (tokens.filterMap Token.flag?).Nodup
  path : (tokens.filterMap Token.path?).length ≤ 1
  format : (tokens.filterMap Token.format?).length ≤ 1
  sound : ∀ t ∈ tokens, t.Sound

lemma eq_none_of_once {α : Type} {x : Option α} {l : List α} {a : α} (hx : x.toList = l)
    (h : (l ++ [a]).length ≤ 1) : x = none := by
  cases x with
  | none => rfl
  | some b =>
    subst hx
    simp at h

lemma Once.init (h : Once (done ++ [t])) : Once done := by
  obtain ⟨hflags, hpath, hformat, hsound⟩ := h
  simp only [List.filterMap_append, List.length_append] at hflags hpath hformat
  refine ⟨hflags.of_append_left, ?_, ?_, fun t ht => hsound t (List.mem_append_left _ ht)⟩
  · omega
  · omega

/-- A token that was not there before is read. -/
lemma Reads.next (program : String) (hr : r.Reads done) (h : Once (done ++ [t])) :
    ∃ s, r.next program t.text = .ok s ∧ s.Reads (done ++ [t]) := by
  have hsound := h.sound t (by simp)
  obtain ⟨honce, honcePath, honceFormat, -⟩ := h
  obtain ⟨hflags, hpath, hformat, hexclude, hrequire, hpending, hclosed⟩ := hr
  cases t with
  | flag f short =>
    have hf : f ∉ r.flags := by
      rw [hflags]
      rw [List.filterMap_append] at honce
      exact fun hf => (List.disjoint_of_nodup_append honce) hf (by simp)
    refine ⟨_, (next_flag hclosed short).trans (setFlag_of_not_mem hpending hf), ?_⟩
    constructor <;> simp [*, or_comm]
  | path p =>
    have hp : p ≠ "" := hsound
    rw [List.filterMap_append] at honcePath
    have hnone : r.manifestPath = none := eq_none_of_once hpath honcePath
    have hnil : done.filterMap Token.path? = [] := by rw [← hpath, hnone, Option.toList_none]
    refine ⟨{ r with manifestPath := some p }, ?_, ?_⟩
    · rw [Token.text, next_field hpending hclosed, assign]
      simp [hnone, hp]
    · constructor <;> simp [*]
  | format f =>
    rw [List.filterMap_append] at honceFormat
    have hnone : r.format = none := eq_none_of_once hformat honceFormat
    have hnil : done.filterMap Token.format? = [] := by rw [← hformat, hnone, Option.toList_none]
    have hname : Format.ofName? f.name = some f := by cases f <;> rfl
    refine ⟨{ r with format := some f }, ?_, ?_⟩
    · rw [Token.text, next_field hpending hclosed, assign]
      simp [hnone, hname]
    · constructor <;> simp [*]
  | names group ns =>
    obtain ⟨hne, hcomma⟩ := hsound
    rw [Token.text, next_field hpending hclosed]
    cases group with
    | exclude =>
      refine ⟨{ r with exclude := r.exclude ++ ns }, ?_, ?_⟩
      · show Except.ok { r with exclude := r.exclude ++ commaNames _ } = _
        rw [commaNames_intercalate hne hcomma]
      · constructor <;> simp [*]
    | require =>
      refine ⟨{ r with require := r.require ++ ns }, ?_, ?_⟩
      · show Except.ok { r with require := r.require ++ commaNames _ } = _
        rw [commaNames_intercalate hne hcomma]
      · constructor <;> simp [*]

/-! ### All tokens -/

lemma foldlM_next_text (program : String) (h : Once tokens) :
    ∃ r, (tokens.map Token.text).foldlM (next program) start = .ok r ∧ r.Reads tokens := by
  induction tokens using List.reverseRecOn with
  | nil => exact ⟨start, rfl, reads_start⟩
  | append_singleton done t ih =>
    obtain ⟨r, hrun, hr⟩ := ih h.init
    obtain ⟨s, hnext, hs⟩ := hr.next program h
    refine ⟨s, ?_, hs⟩
    rw [List.map_append, List.foldlM_append, hrun]
    show [t.text].foldlM (Reading.next program) r = _
    rw [List.foldlM_cons, hnext]
    rfl

/-- What the tokens say is what the options say, unless switches exclude each other. -/
lemma Reads.finish (hr : r.Reads tokens) {o : Options} (h : Arranges tokens o) :
    r.finish = if o.Conflict then refuse .argumentConflict else .ok o := by
  have hflag : ∀ f, r.flags.contains f = o.flag f := by
    intro f
    rw [Bool.eq_iff_iff, List.contains_iff_mem, hr.flags, ← List.count_pos_iff, h.flags]
    cases o.flag f <;> simp
  have hpath : r.manifestPath = o.manifestPath := by
    rw [← Option.head?_toList (o := r.manifestPath), hr.path, h.path, Option.head?_toList]
  have hformat : r.format.getD .plain = o.format := by
    have hread := hr.format
    rcases h.format with hsome | ⟨hnone, hplain⟩
    · rw [hsome] at hread
      rw [Option.toList_eq_singleton_iff.mp hread, Option.getD_some]
    · rw [hnone] at hread
      rw [Option.toList_eq_nil_iff.mp hread, hplain, Option.getD_none]
  have hexclude : r.exclude = o.exclude := hr.exclude.trans (h.names .exclude)
  have hrequire : r.require = o.require := hr.require.trans (h.names .require)
  have hrest : r.finish =
      if o.locate && o.manifestPath.isSome then refuse .argumentConflict
      else if o.noRequire && !o.require.isEmpty then refuse .argumentConflict
      else .ok o := by
    unfold Reading.finish
    rw [settle_nothing hr.pending]
    show (if r.flags.contains .locate && r.manifestPath.isSome then refuse .argumentConflict
      else if r.flags.contains .noRequire && !r.require.isEmpty then refuse .argumentConflict
      else pure _) = _
    simp only [hflag, hpath, hexclude, hrequire, hformat]
    rfl
  rw [hrest]
  by_cases hlocate : o.locate = true ∧ o.manifestPath.isSome = true
  · have hconflict : o.Conflict := Or.inl hlocate
    rw [if_pos (by simpa using hlocate), if_pos hconflict]
  · rw [if_neg (by simpa using hlocate)]
    refine if_congr ?_ rfl rfl
    simp [Options.Conflict, hlocate]

end Reading

/-! ### All tokens in any order -/

variable {tokens : List Token} {o : Options}

/-- An arrangement says nothing twice, and each of its tokens can be read back. -/
lemma Arranges.once (h : Arranges tokens o) (hpath : o.manifestPath ≠ some "")
    (hcomma : ∀ group, ∀ name ∈ o.names group, ',' ∉ name.toList) : Reading.Once tokens where
  flags := by
    refine List.nodup_iff_count_le_one.mpr fun f => ?_
    rw [h.flags]
    split_ifs <;> omega
  path := by
    rw [h.path]
    cases o.manifestPath <;> simp
  format := by
    rcases h.format with hsome | ⟨hnone, -⟩
    · simp [hsome]
    · simp [hnone]
  sound := by
    intro t ht
    cases t with
    | flag => trivial
    | format => trivial
    | path p =>
      have hp : p ∈ tokens.filterMap Token.path? := List.mem_filterMap.mpr ⟨_, ht, rfl⟩
      rw [h.path, Option.mem_toList] at hp
      rintro rfl
      exact hpath hp
    | names group ns =>
      have hns : ns ∈ tokens.filterMap (Token.names? group) :=
        List.mem_filterMap.mpr ⟨_, ht, if_pos rfl⟩
      refine ⟨?_, fun name hname => hcomma group name ?_⟩
      · rintro rfl
        exact h.pieces group hns
      · rw [← h.names]
        exact List.mem_flatten.mpr ⟨ns, hns, hname⟩

lemma Token.text_ne_subcommand {t : Token} : t.text ≠ "fc" := by
  have hdash : t.text.toList.head? = some '-' := by
    unfold Token.text
    split <;> simp [Field.text, String.toList_append]
  intro h
  rw [h] at hdash
  exact absurd hdash (by decide)

lemma dropSubcommand_tokens {program : String} :
    dropSubcommand (program :: tokens.map Token.text) = program :: tokens.map Token.text := by
  unfold dropSubcommand
  split
  · rename_i heq
    cases tokens with
    | nil => cases heq
    | cons t ts =>
      simp only [List.map_cons, List.cons.injEq] at heq
      exact absurd heq.2.1 Token.text_ne_subcommand
  · rfl

/-- **Command lines are read back, in any order.** However the tokens for some options are arranged
and either list of names is cut into pieces, with or without the name of the subcommand in front,
reading them gives just those options; unless two of them exclude each other, which is what every
arrangement of them is refused for. -/
theorem read_arranged (program : String) (tokens : List Token) (o : Options)
    (h : Arranges tokens o) (hpath : o.manifestPath ≠ some "")
    (hcomma : ∀ group, ∀ name ∈ o.names group, ',' ∉ name.toList)
    (subcommand : List String) (hsub : subcommand = [] ∨ subcommand = ["fc"]) :
    read (program :: (subcommand ++ tokens.map Token.text)) =
      if o.Conflict then .error (.refused .argumentConflict) else .ok o := by
  have hdrop : dropSubcommand (program :: (subcommand ++ tokens.map Token.text)) =
      program :: tokens.map Token.text := by
    rcases hsub with rfl | rfl
    · exact dropSubcommand_tokens
    · rfl
  obtain ⟨r, hrun, hr⟩ := Reading.foldlM_next_text (calledName program) (h.once hpath hcomma)
  unfold read
  rw [hdrop]
  show (tokens.map Token.text).foldlM (Reading.next (calledName program)) .start >>=
    Reading.finish = _
  rw [hrun]
  exact hr.finish h

/-- Names may be empty or look like switches, and other tokens may come between the pieces. -/
theorem read_arranged_pieces :
    let tokens : List Token := [.names .require ["--locate"], .flag .version true, .path "a=b",
      .names .exclude ["", "e"], .names .require ["fc", "fc"], .format .json]
    let o : Options := ⟨true, some "a=b", false, ["", "e"], ["--locate", "fc", "fc"], false, .json⟩
    Arranges tokens o ∧ o.manifestPath ≠ some "" ∧
    (∀ group, ∀ name ∈ o.names group, ',' ∉ name.toList) ∧
    read (["cargo-fc", "fc"] ++ tokens.map Token.text) = .ok o := by
  intro tokens o
  have h : Arranges tokens o := by
    constructor
    · intro f
      cases f <;> decide
    · decide
    · decide
    · intro group
      cases group <;> decide
    · intro group
      cases group <;> decide
  have hpath : o.manifestPath ≠ some "" := by decide
  have hcomma : ∀ group, ∀ name ∈ o.names group, ',' ∉ name.toList := by
    intro group
    cases group <;> decide
  exact ⟨h, hpath, hcomma, read_arranged "cargo-fc" tokens o h hpath hcomma ["fc"] (Or.inr rfl)⟩

end FeatureMatrix.CommandLine
