/-!
The grammar of JSON: which texts spell which values.

A value may have blanks around it, wherever it stands. What a number stands for is left open, so
it is kept as it is written; an object keeps its members in the order in which they stand. A
string is a text, so an escape that is one half of a character alone spells nothing.
-/

namespace FeatureMatrix.Output.Json

inductive Value where
  | null
  | bool (b : Bool)
  | number (written : String)
  | string (s : String)
  | array (items : List Value)
  | object (members : List (String × Value))

def Blank (u : List Char) : Prop := ∀ c ∈ u, c = ' ' ∨ c = '\t' ∨ c = '\n' ∨ c = '\r'

instance (u : List Char) : Decidable (Blank u) := List.decidableBAll _ u

/-! ### Numbers -/

/-- One digit or several. -/
def Digits (u : List Char) : Prop := u ≠ [] ∧ ∀ c ∈ u, c.isDigit = true

/-- A sign or none, a whole number without needless zeros, then what is behind the point and an
exponent, where there are such. -/
inductive Number : List Char → Prop where
  | mk {sign whole fraction exponent : List Char} (hsign : sign = [] ∨ sign = ['-'])
      (hwhole : Digits whole) (hzero : whole.head? = some '0' → whole = ['0'])
      (hfraction : fraction = [] ∨ ∃ u, Digits u ∧ fraction = '.' :: u)
      (hexponent : exponent = [] ∨ ∃ e s u, (e = 'e' ∨ e = 'E') ∧
        (s = [] ∨ s = ['+'] ∨ s = ['-']) ∧ Digits u ∧ exponent = e :: s ++ u) :
      Number (sign ++ whole ++ fraction ++ exponent)

/-! ### Strings -/

def hexDigit? (c : Char) : Option Nat :=
  let n := c.toNat
  if 0x30 ≤ n && n ≤ 0x39 then some (n - 0x30)
  else if 0x41 ≤ n && n ≤ 0x46 then some (n - 0x41 + 10)
  else if 0x61 ≤ n && n ≤ 0x66 then some (n - 0x61 + 10)
  else none

/-- Four hexadecimal digits. -/
def CodeUnit (u : List Char) (n : Nat) : Prop :=
  u.length = 4 ∧ u.foldlM (fun n c => (hexDigit? c).map (16 * n + ·)) 0 = some n

/-- What a backslash and one more character stand for. -/
def unescape? : Char → Option Char
  | '"' => some '"'
  | '\\' => some '\\'
  | '/' => some '/'
  | 'b' => some '\x08'
  | 'f' => some '\x0c'
  | 'n' => some '\n'
  | 'r' => some '\r'
  | 't' => some '\t'
  | _ => none

/-- What may follow a backslash: a letter, the code of a character, or the codes of the two
halves of one, the second with a backslash of its own. -/
inductive Escape : List Char → Char → Prop where
  | short {e c : Char} (h : unescape? e = some c) : Escape [e] c
  | code {u : List Char} {c : Char} (h : CodeUnit u c.toNat) : Escape ('u' :: u) c
  | pair {u v : List Char} {high low : Nat} {c : Char} (hu : CodeUnit u high) (hv : CodeUnit v low)
      (hhigh : 0xd800 ≤ high ∧ high < 0xdc00) (hlow : 0xdc00 ≤ low ∧ low < 0xe000)
      (hc : c.toNat = 0x10000 + 0x400 * (high - 0xd800) + (low - 0xdc00)) :
      Escape ('u' :: u ++ '\\' :: 'u' :: v) c

/-- One character of a string. -/
inductive Spelling : List Char → Char → Prop where
  | plain {c : Char} (hc : 0x20 ≤ c.toNat) (hquote : c ≠ '"') (hback : c ≠ '\\') : Spelling [c] c
  | escaped {u : List Char} {c : Char} (h : Escape u c) : Spelling ('\\' :: u) c

/-- The inside of a string. -/
inductive Chars : List Char → List Char → Prop where
  | nil : Chars [] []
  | cons {u v : List Char} {c : Char} {s : List Char} (hu : Spelling u c) (hv : Chars v s) :
      Chars (u ++ v) (c :: s)

/-- The name of a member, which may have blanks around it. -/
def MemberName (u : List Char) (s : String) : Prop :=
  ∃ before inside after, Blank before ∧ Blank after ∧ Chars inside s.toList ∧
    u = before ++ '"' :: inside ++ '"' :: after

/-! ### Values -/

/-- The text spells the value. -/
inductive Spells : List Char → Value → Prop where
  | null : Spells "null".toList .null
  | true : Spells "true".toList (.bool true)
  | false : Spells "false".toList (.bool false)
  | number {u : List Char} (h : Number u) : Spells u (.number (String.ofList u))
  | string {u s : List Char} (h : Chars u s) :
      Spells ('"' :: u ++ ['"']) (.string (String.ofList s))
  | emptyArray {w : List Char} (h : Blank w) : Spells ('[' :: w ++ [']']) (.array [])
  | array {items : List (List Char × Value)} (hne : items ≠ [])
      (h : ∀ item ∈ items, Spells item.1 item.2) :
      Spells ('[' :: [','].intercalate (items.map (·.1)) ++ [']']) (.array (items.map (·.2)))
  | emptyObject {w : List Char} (h : Blank w) : Spells ('{' :: w ++ ['}']) (.object [])
  | object {members : List ((List Char × String) × (List Char × Value))} (hne : members ≠ [])
      (hname : ∀ m ∈ members, MemberName m.1.1 m.1.2) (h : ∀ m ∈ members, Spells m.2.1 m.2.2) :
      Spells ('{' :: [','].intercalate (members.map fun m => m.1.1 ++ ':' :: m.2.1) ++ ['}'])
        (.object (members.map fun m => (m.1.2, m.2.2)))
  | blank {before after u : List Char} {v : Value} (hbefore : Blank before) (hafter : Blank after)
      (h : Spells u v) : Spells (before ++ u ++ after) v

end FeatureMatrix.Output.Json
