import FeatureMatrix.Proofs.Json.Grammar
import FeatureMatrix.Proofs.Lines

/-!
JSON texts can be read back, whatever the names are.

Two halves: the text of a list spells it, and it spells nothing else. For the second it is enough
to look at the front of a text. A text that starts with a quote spells a string, and one that
starts with a bracket spells an array. What a string holds is fixed character by character, since
no spelling of a character is the beginning of another one; what an array holds is fixed item by
item, since after the text of an item there is nothing left but blanks, and where the program
writes there are none.
-/

namespace FeatureMatrix.Output

namespace Json

/-! ### Characters -/

lemma hexDigit?_digitChar {n : ℕ} (h : n < 16) : hexDigit? (Nat.digitChar n) = some n := by
  revert n
  decide

/-- A control character has a code of two zeros and two digits. -/
lemma codeUnit_of_lt {n : ℕ} (h : n < 0x20) :
    CodeUnit ['0', '0', Nat.digitChar (n / 16), Nat.digitChar (n % 16)] n := by
  have hhigh := hexDigit?_digitChar (by omega : n / 16 < 16)
  have hlow := hexDigit?_digitChar (by omega : n % 16 < 16)
  refine ⟨rfl, ?_⟩
  have hzero : hexDigit? '0' = some 0 := rfl
  simp only [List.foldlM_cons, List.foldlM_nil, hzero, hhigh, hlow, Option.map_some,
    Option.bind_eq_bind, Option.bind_some, Option.pure_def, Option.some.injEq]
  omega

lemma spelling_escape (c : Char) : Spelling (escape c) c := by
  unfold escape
  split
  · exact .escaped (.short rfl)
  · exact .escaped (.short rfl)
  · exact .escaped (.short rfl)
  · exact .escaped (.short rfl)
  · exact .escaped (.short rfl)
  · exact .escaped (.short rfl)
  · exact .escaped (.short rfl)
  · next hquote hback _ _ _ _ _ =>
    split_ifs with h
    · exact .escaped (.code (codeUnit_of_lt h))
    · exact .plain (not_lt.mp h) hquote hback

lemma CodeUnit.unique {u v r r' : List Char} {m n : ℕ} (hu : CodeUnit u m) (hv : CodeUnit v n)
    (h : u ++ r = v ++ r') : m = n ∧ r = r' := by
  obtain ⟨rfl, hr⟩ := List.append_inj h (hu.1.trans hv.1.symm)
  exact ⟨Option.some.inj (hu.2.symm.trans hv.2), hr⟩

/-- The code of a character is not that of half a character. -/
lemma not_half (c : Char) : ¬ (0xd800 ≤ c.toNat ∧ c.toNat < 0xdc00) := by
  have h := c.valid
  unfold UInt32.isValidChar Nat.isValidChar at h
  rw [Char.toNat]
  omega

/-- No escape is the beginning of another one. -/
lemma Escape.unique {u v r r' : List Char} {c d : Char} (hu : Escape u c) (hv : Escape v d)
    (h : u ++ r = v ++ r') : c = d ∧ r = r' := by
  cases hu with
  | short he =>
    cases hv with
    | short he' =>
      obtain ⟨rfl, hr⟩ := List.cons.inj h
      exact ⟨Option.some.inj (he.symm.trans he'), hr⟩
    | code =>
      obtain ⟨rfl, -⟩ := List.cons.inj h
      cases he
    | pair =>
      obtain ⟨rfl, -⟩ := List.cons.inj h
      cases he
  | code hc =>
    cases hv with
    | short he' =>
      obtain ⟨rfl, -⟩ := List.cons.inj h
      cases he'
    | code hd =>
      obtain ⟨hcode, hr⟩ := hc.unique hd (List.cons.inj h).2
      exact ⟨Char.toNat_inj.mp hcode, hr⟩
    | pair hhigh' _ hhigh =>
      -- the first half of a pair would be the whole character
      rw [List.cons_append, List.cons_append, List.cons_append, List.append_assoc] at h
      obtain ⟨rfl, -⟩ := hc.unique hhigh' (List.cons.inj h).2
      exact absurd hhigh (not_half c)
  | pair hu hv' hhigh hlow hc =>
    rw [List.cons_append, List.cons_append, List.append_assoc] at h
    cases hv with
    | short he' =>
      obtain ⟨rfl, -⟩ := List.cons.inj h
      cases he'
    | code hd =>
      obtain ⟨rfl, -⟩ := hu.unique hd (List.cons.inj h).2
      exact absurd hhigh (not_half d)
    | pair hu' hv'' hhigh' hlow' hd =>
      rw [List.cons_append, List.cons_append, List.append_assoc] at h
      obtain ⟨rfl, hrest⟩ := hu.unique hu' (List.cons.inj h).2
      obtain ⟨rfl, hr⟩ := hv'.unique hv'' (List.cons.inj (List.cons.inj hrest).2).2
      exact ⟨Char.toNat_inj.mp (hc.trans hd.symm), hr⟩

lemma Spelling.unique {u v r r' : List Char} {c d : Char} (hu : Spelling u c)
    (hv : Spelling v d) (h : u ++ r = v ++ r') : c = d ∧ r = r' := by
  cases hu with
  | plain _ _ hback =>
    cases hv with
    | plain => exact List.cons.inj h
    | escaped => exact absurd (List.cons.inj h).1 hback
  | escaped hu =>
    cases hv with
    | plain _ _ hback => exact absurd (List.cons.inj h).1.symm hback
    | escaped hv => exact hu.unique hv (List.cons.inj h).2

/-- A quote that is not escaped ends a string. -/
lemma Spelling.ne_quote {u r r' : List Char} {c : Char} (h : Spelling u c) :
    u ++ r ≠ '"' :: r' := by
  intro heq
  cases h with
  | plain _ hquote _ => exact hquote (List.cons.inj heq).1
  | escaped _ => exact absurd (List.cons.inj heq).1 (by decide)

/-! ### Strings -/

/-- What is between two quotes is read in one way, and to the same end. -/
lemma Chars.unique {u v r r' s t : List Char} (hu : Chars u s) (hv : Chars v t)
    (h : u ++ '"' :: r = v ++ '"' :: r') : s = t ∧ r = r' := by
  induction hu generalizing v t with
  | nil =>
    cases hv with
    | nil => exact ⟨rfl, (List.cons.inj h).2⟩
    | cons hd _ =>
      rw [List.append_assoc] at h
      exact absurd h.symm hd.ne_quote
  | cons hc _ ih =>
    rw [List.append_assoc] at h
    cases hv with
    | nil => exact absurd h hc.ne_quote
    | cons hd hv =>
      rw [List.append_assoc] at h
      obtain ⟨rfl, hrest⟩ := hc.unique hd h
      obtain ⟨rfl, hr⟩ := ih hv hrest
      exact ⟨rfl, hr⟩

lemma chars_escape (s : List Char) : Chars (s.flatMap escape) s := by
  induction s with
  | nil => exact .nil
  | cons c s ih => exact .cons (spelling_escape c) ih

lemma le_digitChar {n : ℕ} (h : n < 16) : 0x20 ≤ (Nat.digitChar n).toNat := by
  revert n
  decide

/-- Nothing below a space is left inside a string. -/
lemma le_of_mem_escape {c d : Char} (hd : d ∈ escape c) : 0x20 ≤ d.toNat := by
  unfold escape at hd
  split at hd
  case h_8 =>
    split_ifs at hd with hlt
    · have hhigh := le_digitChar (by omega : c.toNat / 16 < 16)
      have hlow := le_digitChar (by omega : c.toNat % 16 < 16)
      simp only [List.mem_cons, List.not_mem_nil, or_false] at hd
      rcases hd with rfl | rfl | rfl | rfl | rfl | rfl
      · decide
      · decide
      · decide
      · decide
      · exact hhigh
      · exact hlow
    · rw [List.mem_singleton.mp hd]
      exact not_lt.mp hlt
  all_goals
    simp only [List.mem_cons, List.not_mem_nil, or_false] at hd
    rcases hd with rfl | rfl <;> decide

/-! ### Values by their first character -/

lemma Number.exists_head {u : List Char} (h : Number u) :
    ∃ c rest, u = c :: rest ∧ (c = '-' ∨ c.isDigit = true) := by
  obtain ⟨hsign, ⟨hne, hdigits⟩, -, -, -⟩ := h
  rcases hsign with rfl | rfl
  · obtain ⟨c, rest, rfl⟩ := List.exists_cons_of_ne_nil hne
    exact ⟨c, _, rfl, Or.inr (hdigits c List.mem_cons_self)⟩
  · exact ⟨'-', _, rfl, Or.inl rfl⟩

/-- What is between the brackets of an array: blanks, or items. -/
inductive Items : List Char → List Value → Prop where
  | none {inside : List Char} (h : Blank inside) : Items inside []
  | some {items : List (List Char × Value)} (hne : items ≠ [])
      (h : ∀ item ∈ items, Spells item.1 item.2) :
      Items ([','].intercalate (items.map (·.1))) (items.map (·.2))

/-- A text without the blanks around it: that of a string, of an array, or one that starts with
neither a quote nor a bracket. -/
inductive Shape : List Char → Value → Prop where
  | string {inside s : List Char} (h : Chars inside s) :
      Shape ('"' :: inside ++ ['"']) (.string (String.ofList s))
  | array {inside : List Char} {values : List Value} (h : Items inside values) :
      Shape ('[' :: inside ++ [']']) (.array values)
  | other {c : Char} {rest : List Char} {v : Value}
      (hc : c ∉ ['"', '[', ']', ' ', '\t', '\n', '\r']) : Shape (c :: rest) v

lemma front_ne {marks rest rest' : List Char} {c d : Char} (hc : c ∉ marks) (hd : d ∈ marks) :
    c :: rest ≠ d :: rest' := by
  intro heq
  rw [(List.cons.inj heq).1] at hc
  exact hc hd

lemma Spells.exists_shape {u : List Char} {v : Value} (h : Spells u v) :
    ∃ before core after, Blank before ∧ Blank after ∧ u = before ++ core ++ after ∧
      Shape core v := by
  have hnil : Blank [] := by decide
  -- a text that no blanks were added to
  have hbare : ∀ {u v}, Shape u v → ∃ before core after, Blank before ∧ Blank after ∧
      u = before ++ core ++ after ∧ Shape core v :=
    fun {u v} h => ⟨[], u, [], hnil, hnil, by simp, h⟩
  induction h with
  | null => exact hbare (.other (by decide))
  | true => exact hbare (.other (by decide))
  | false => exact hbare (.other (by decide))
  | number h =>
    obtain ⟨c, rest, hu, hc⟩ := h.exists_head
    rw [hu]
    refine hbare (.other fun hmem => ?_)
    simp only [List.mem_cons, List.not_mem_nil, or_false] at hmem
    rcases hmem with rfl | rfl | rfl | rfl | rfl | rfl | rfl <;> revert hc <;> decide
  | string h => exact hbare (.string h)
  | emptyArray h => exact hbare (.array (.none h))
  | array hne h _ => exact hbare (.array (.some hne h))
  | emptyObject _ => exact hbare (.other (by decide))
  | object _ _ _ _ => exact hbare (.other (by decide))
  | @blank before after u v hbefore hafter _ ih =>
    obtain ⟨before', core, after', hbefore', hafter', rfl, hshape⟩ := ih
    refine ⟨before ++ before', core, after' ++ after, ?_, ?_, by simp, hshape⟩
    · exact List.forall_mem_append.mpr ⟨hbefore, hbefore'⟩
    · exact List.forall_mem_append.mpr ⟨hafter', hafter⟩

/-- At the front of a text that starts with no blank there are none. -/
lemma Spells.exists_shape_of_front {u r rest : List Char} {c : Char} {v : Value} (h : Spells u v)
    (heq : u ++ r = c :: rest) (hc : ¬ Blank [c]) :
    ∃ core after, Blank after ∧ Shape core v ∧ core ++ (after ++ r) = c :: rest := by
  obtain ⟨before, core, after, hbefore, hafter, rfl, hshape⟩ := h.exists_shape
  cases before with
  | nil => exact ⟨core, after, hafter, hshape, by simpa using heq⟩
  | cons b before =>
    obtain ⟨rfl, -⟩ := List.cons.inj heq
    refine absurd (fun d hd => ?_) hc
    rw [List.mem_singleton.mp hd]
    exact hbefore b List.mem_cons_self

/-! ### Texts that are read in one way -/

/-- The text starts with a quote or a bracket and spells the value. Whatever follows it, nothing
else can be read at its front; what is read may take blanks of what follows. -/
structure Reads (t : List Char) (v : Value) : Prop where
  front : ∃ rest, t = '"' :: rest ∨ t = '[' :: rest
  spells : Spells t v
  unique : ∀ {u r r' v'}, Spells u v' → u ++ r = t ++ r' → v' = v ∧ ∃ w, Blank w ∧ r' = w ++ r

lemma reads_string (s : String) : Reads (string s) (.string s) where
  front := ⟨_, Or.inl rfl⟩
  spells := by
    have h := Spells.string (chars_escape s.toList)
    rwa [String.ofList_toList] at h
  unique := by
    intro u r r' v' hu heq
    obtain ⟨core, after, hafter, hshape, hcore⟩ := hu.exists_shape_of_front heq (by decide)
    cases hshape with
    | @string inside s' hinside =>
      have hinner : inside ++ '"' :: (after ++ r) = s.toList.flatMap escape ++ '"' :: r' := by
        simpa [string] using hcore
      obtain ⟨rfl, hrest⟩ := hinside.unique (chars_escape s.toList) hinner
      exact ⟨by rw [String.ofList_toList], after, hafter, hrest.symm⟩
    | array => exact absurd (List.cons.inj hcore).1 (by decide)
    | other hc => exact absurd hcore (front_ne hc (by decide))

/-- The rest of an array after an item: others with a comma before each, the bracket, and what
follows it. -/
def closing (texts : List (List Char)) (r : List Char) : List Char :=
  texts.flatMap (',' :: ·) ++ ']' :: r

lemma closing_cons (t : List Char) (texts : List (List Char)) (r : List Char) :
    closing (t :: texts) r = ',' :: (t ++ closing texts r) := by
  simp [closing]

lemma array_cons_append (t : List Char) (texts : List (List Char)) (r : List Char) :
    array (t :: texts) ++ r = '[' :: (t ++ closing texts r) := by
  simp [array, Output.intercalate_cons, closing]

/-- No blank stands before a comma or a bracket. -/
lemma closing_eq_append {texts : List (List Char)} {w u r : List Char} (hw : Blank w)
    (h : closing texts r = w ++ u) : w = [] := by
  cases w with
  | nil => rfl
  | cons b w =>
    have hb := hw b List.mem_cons_self
    cases texts with
    | nil =>
      obtain ⟨rfl, -⟩ := List.cons.inj h
      exact absurd hb (by decide)
    | cons t texts =>
      rw [closing_cons] at h
      obtain ⟨rfl, -⟩ := List.cons.inj h
      exact absurd hb (by decide)

/-- Items that are read after others are those that were written there. -/
lemma closing_unique {written read : List (List Char × Value)} {r r' : List Char}
    (hwritten : ∀ item ∈ written, Reads item.1 item.2)
    (hread : ∀ item ∈ read, Spells item.1 item.2)
    (h : closing (read.map (·.1)) r = closing (written.map (·.1)) r') :
    read.map (·.2) = written.map (·.2) ∧ r = r' := by
  induction written generalizing read with
  | nil =>
    cases read with
    | nil => exact ⟨rfl, (List.cons.inj h).2⟩
    | cons item read =>
      rw [List.map_cons, closing_cons] at h
      exact absurd (List.cons.inj h).1 (by decide)
  | cons first written ih =>
    obtain ⟨hfirst, hwritten⟩ := List.forall_mem_cons.mp hwritten
    rw [List.map_cons, closing_cons] at h
    cases read with
    | nil => exact absurd (List.cons.inj h).1 (by decide)
    | cons item read =>
      obtain ⟨hitem, hread⟩ := List.forall_mem_cons.mp hread
      rw [List.map_cons, closing_cons] at h
      -- the item read may take blanks behind the one written, but a comma or a bracket follows
      obtain ⟨hvalue, w, hw, hrest⟩ := hfirst.unique hitem (List.cons.inj h).2
      obtain rfl := closing_eq_append hw hrest
      obtain ⟨hvalues, hr⟩ := ih hwritten hread hrest.symm
      exact ⟨by rw [List.map_cons, List.map_cons, hvalue, hvalues], hr⟩

lemma Reads.not_blank_front {t w r r' : List Char} {v : Value} (h : Reads t v) (hw : Blank w) :
    t ++ r ≠ w ++ ']' :: r' := by
  intro heq
  obtain ⟨rest, rfl | rfl⟩ := h.front
  all_goals
    cases w with
    | nil => exact absurd (List.cons.inj heq).1 (by decide)
    | cons b w =>
      obtain ⟨rfl, -⟩ := List.cons.inj heq
      exact absurd (hw _ List.mem_cons_self) (by decide)

/-- An item that is read starts with no closing bracket. -/
lemma Spells.ne_bracket {u r r' : List Char} {v : Value} (h : Spells u v) :
    u ++ r ≠ ']' :: r' := by
  intro heq
  obtain ⟨core, after, -, hshape, hcore⟩ := h.exists_shape_of_front heq (by decide)
  cases hshape with
  | string => exact absurd (List.cons.inj hcore).1 (by decide)
  | array => exact absurd (List.cons.inj hcore).1 (by decide)
  | other hc => exact absurd hcore (front_ne hc (by decide))

/-- What is read between brackets is what was written there. -/
lemma Items.unique {written : List (List Char × Value)} {values : List Value}
    {inside r r' : List Char} (hwritten : ∀ item ∈ written, Reads item.1 item.2)
    (hread : Items inside values)
    (h : '[' :: inside ++ [']'] ++ r = array (written.map (·.1)) ++ r') :
    values = written.map (·.2) ∧ r = r' := by
  cases hread with
  | none hblank =>
    have hinside : '[' :: inside ++ [']'] ++ r = '[' :: (inside ++ ']' :: r) := by simp
    rw [hinside] at h
    cases written with
    | nil =>
      have hclose : closing [] r' = inside ++ ']' :: r := (List.cons.inj h).2.symm
      obtain rfl := closing_eq_append hblank hclose
      exact ⟨rfl, (List.cons.inj hclose).2.symm⟩
    | cons first written =>
      rw [List.map_cons, array_cons_append] at h
      have hfirst := hwritten first List.mem_cons_self
      exact absurd (List.cons.inj h).2.symm (hfirst.not_blank_front hblank)
  | @some read hne hread =>
    obtain ⟨item, read, rfl⟩ := List.exists_cons_of_ne_nil hne
    have hinside : '[' :: [','].intercalate ((item :: read).map (·.1)) ++ [']'] ++ r =
      '[' :: (item.1 ++ closing (read.map (·.1)) r) := array_cons_append _ _ _
    rw [hinside] at h
    cases written with
    | nil => exact absurd (List.cons.inj h).2 (hread item List.mem_cons_self).ne_bracket
    | cons first written =>
      rw [List.map_cons, array_cons_append] at h
      refine closing_unique hwritten hread ?_
      rw [List.map_cons, List.map_cons, closing_cons, closing_cons, (List.cons.inj h).2]

lemma reads_array (items : List (List Char × Value))
    (hitems : ∀ item ∈ items, Reads item.1 item.2) :
    Reads (array (items.map (·.1))) (.array (items.map (·.2))) where
  front := ⟨_, Or.inr rfl⟩
  spells := by
    by_cases hne : items = []
    · rw [hne]
      exact .emptyArray (w := []) (by decide)
    · exact .array hne fun item hitem => (hitems item hitem).spells
  unique := by
    intro u r r' v' hu heq
    -- the blanks around what is read are all behind it, and the bracket makes it an array
    obtain ⟨core, after, hafter, hshape, hcore⟩ := hu.exists_shape_of_front heq (by decide)
    cases hshape with
    | string => exact absurd (List.cons.inj hcore).1 (by decide)
    | array hread =>
      obtain ⟨rfl, hr⟩ := hread.unique hitems hcore
      exact ⟨rfl, after, hafter, hr.symm⟩
    | other hc => exact absurd hcore (front_ne hc (by decide))

/-- With blanks behind it, a text still spells what it is read as, and nothing else. -/
lemma Reads.spells_iff {t w : List Char} {v v' : Value} (h : Reads t v) (hw : Blank w) :
    Spells (t ++ w) v' ↔ v' = v := by
  constructor
  · intro hspells
    exact (h.unique hspells (List.append_nil _)).1
  · rintro rfl
    have hnone : Blank [] := by decide
    exact .blank hnone hw h.spells

lemma Reads.spells_iff_self {t : List Char} {v v' : Value} (h : Reads t v) :
    Spells t v' ↔ v' = v := by
  simpa using h.spells_iff (w := []) (by decide)

/-! ### Lists of combinations -/

/-- The array that has an array of strings for each row. -/
def Value.ofRows (rows : List (List String)) : Value :=
  .array (rows.map fun row => .array (row.map .string))

lemma Value.ofRows_injective : Function.Injective Value.ofRows := by
  have hstring : Function.Injective Value.string := fun s t h => by
    injection h
  have hrow : Function.Injective fun row : List String => Value.array (row.map .string) := by
    intro row row' h
    injection h with h
    exact hstring.list_map h
  intro rows rows' h
  injection h with h
  exact hrow.list_map h

variable {c : Combination} {cs : List Combination}

lemma reads_combination (c : Combination) :
    Reads (combination c) (.array (c.toList.map .string)) := by
  have h := reads_array (c.toList.map fun s => (string s, .string s))
    (List.forall_mem_map.mpr fun s _ => reads_string s)
  rwa [List.map_map, List.map_map] at h

lemma reads_combinations (cs : List Combination) :
    Reads (array (cs.map combination)) (.ofRows (cs.map (·.toList))) := by
  have h := reads_array (cs.map fun c => (combination c, .array (c.toList.map .string)))
    (List.forall_mem_map.mpr fun c _ => reads_combination c)
  rw [List.map_map, List.map_map] at h
  unfold Value.ofRows
  rwa [List.map_map]

lemma le_of_mem_string {s : String} {d : Char} (hd : d ∈ string s) : 0x20 ≤ d.toNat := by
  simp only [string, List.cons_append, List.mem_cons, List.mem_append, List.mem_flatMap,
    List.not_mem_nil, or_false] at hd
  rcases hd with rfl | ⟨c, -, hd⟩ | rfl
  · decide
  · exact le_of_mem_escape hd
  · decide

lemma le_of_mem_array {items : List (List Char)} (h : ∀ item ∈ items, ∀ d ∈ item, 0x20 ≤ d.toNat)
    {d : Char} (hd : d ∈ array items) : 0x20 ≤ d.toNat := by
  simp only [array, List.cons_append, List.mem_cons, List.mem_append, List.not_mem_nil,
    or_false] at hd
  rcases hd with rfl | hd | rfl
  · decide
  · rcases eq_or_mem_of_mem_intercalate hd with rfl | ⟨item, hitem, hd⟩
    · decide
    · exact h item hitem d hd
  · decide

lemma le_of_mem_combinations {d : Char} (hd : d ∈ array (cs.map combination)) :
    0x20 ≤ d.toNat := by
  refine le_of_mem_array (List.forall_mem_map.mpr fun c _ d hd => ?_) hd
  exact le_of_mem_array (List.forall_mem_map.mpr fun s _ d hd => le_of_mem_string hd) hd

end Json

variable {cs : List Combination}

lemma render_json {build : Build} (h : build.json = true) : render build cs .json =
    .ok (String.ofList (Json.array (cs.map Json.combination) ++ ['\n'])) := by
  unfold render Build.writes
  rw [h]
  simp [text, pieces, Json.text]

lemma pairwise_toList (c : Combination) : c.toList.Pairwise fun s t => s.toList < t.toList :=
  Std.ExtTreeSet.ordered_toList.imp fun h => Text.bytes_lt_iff.mp (Text.compare_eq_lt_iff.mp h)

/-- **JSON can be read back, whatever the names are.** What is written for a list is one line: a
text without control characters, and a line feed. By the grammar it spells an array of arrays of
strings and nothing else. These are the members of the combinations, in the order of their code
points. So different lists are written differently. -/
theorem json_read_back (build : Build) (hjson : build.json = true) :
    (∀ cs : List Combination, ∃ (line : List Char) (rows : List (List String)),
      render build cs .json = .ok (String.ofList (line ++ ['\n'])) ∧
      (∀ c ∈ line, 0x20 ≤ c.toNat) ∧
      (∀ v, Json.Spells line v ↔ v = .ofRows rows) ∧
      (∀ v, Json.Spells (line ++ ['\n']) v ↔ v = .ofRows rows) ∧
      rows.map (fun row => (.ofList row : Combination)) = cs ∧
      ∀ row ∈ rows, row.Pairwise fun s t => s.toList < t.toList) ∧
    ∀ cs cs' : List Combination, render build cs .json = render build cs' .json → cs = cs' := by
  refine ⟨fun cs => ⟨Json.array (cs.map Json.combination), cs.map (·.toList), render_json hjson,
    fun c => Json.le_of_mem_combinations, fun v => ?_, fun v => ?_, ?_, ?_⟩, fun cs cs' h => ?_⟩
  · exact (Json.reads_combinations cs).spells_iff_self
  · exact (Json.reads_combinations cs).spells_iff (by decide)
  · rw [List.map_map]
    exact (List.map_congr_left fun c _ => NameSet.ofList_toList).trans (List.map_id _)
  · exact List.forall_mem_map.mpr fun c _ => pairwise_toList c
  · rw [render_json hjson, render_json hjson, Except.ok.injEq, String.ofList_inj,
      List.append_cancel_right_eq] at h
    have hvalue : Json.Value.ofRows (cs.map (·.toList)) = .ofRows (cs'.map (·.toList)) := by
      have hspells := (Json.reads_combinations cs).spells
      rw [h] at hspells
      exact (Json.reads_combinations cs').spells_iff_self.mp hspells
    exact (List.map_injective_iff.mpr fun c d => Std.ExtTreeSet.toList_inj.mp)
      (Json.Value.ofRows_injective hvalue)

/-- A quote, a backslash, a line feed and what would separate names are told from one another, and
a list with the empty name from the list with none. -/
theorem json_read_back_separators : (Build.mk true).json = true ∧
    (∃ (line : List Char) (rows : List (List String)),
      render ⟨true⟩ [∅, {""}, {"\"", "\\", "],[\n\x00"}] .json = .ok (String.ofList (line ++ ['\n'])) ∧
      (∀ c ∈ line, 0x20 ≤ c.toNat) ∧ (∀ v, Json.Spells line v ↔ v = .ofRows rows) ∧
      rows.map (fun row => (.ofList row : Combination)) =
        [∅, {""}, {"\"", "\\", "],[\n\x00"}]) ∧
    render ⟨true⟩ [∅] .json ≠ render ⟨true⟩ [{""}] .json := by
  have hjson : (Build.mk true).json = true := rfl
  obtain ⟨hread, hinj⟩ := json_read_back ⟨true⟩ hjson
  obtain ⟨line, rows, hrender, hline, hspells, -, hrows, -⟩ :=
    hread [∅, {""}, {"\"", "\\", "],[\n\x00"}]
  refine ⟨hjson, ⟨line, rows, hrender, hline, hspells, hrows⟩, fun h => ?_⟩
  have hempty : ([∅] : List Combination) ≠ [{""}] := by decide +kernel
  exact hempty (hinj [∅] [{""}] h)

end FeatureMatrix.Output
