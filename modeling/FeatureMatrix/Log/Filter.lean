import FeatureMatrix.Log.Event
import FeatureMatrix.Log.Pattern

/-!
Which events a log shows. A filter is a list of directives with commas between, such as
`info` or `cargo_fc::fc_combos=debug`: a level for all targets, or for those that begin
with the given one. The most special directive that applies decides. A filter with a piece
that is no directive shows nothing.
-/

namespace FeatureMatrix.Log

/-- What a directive asks of an event besides its target. -/
inductive Scope where
  | anywhere
  /-- It has this field. -/
  | field (name : String)
  /-- It happens in a span, which no event does here. A value of a field is asked only of
  spans. -/
  | span
  deriving DecidableEq, Repr

/-- The detail shown of all targets that begin like `target`, in some scope. -/
structure Directive where
  target : String
  scope : Scope
  detail : Nat
  deriving DecidableEq, Repr

structure Filter where
  directives : List Directive
  deriving DecidableEq, Repr

/-! ### Values -/

def exponent : Text.Reader Unit := do
  let _ ← Text.Reader.char fun c => c == 'e' || c == 'E'
  let _ ← optional (Text.Reader.char fun c => c == '+' || c == '-')
  let _ ← Text.Reader.char Char.isDigit
  let _ ← Text.Reader.run Char.isDigit

def decimal : Text.Reader Unit := do
  let whole ← Text.Reader.run Char.isDigit
  let fraction ← optional do Text.Reader.exactly ['.']; Text.Reader.run Char.isDigit
  if whole.isEmpty && (fraction.getD []).isEmpty then failure
  let _ ← optional exponent

/-- A decimal number or the name of a limit, with its sign if there is one. -/
def isNumber (cs : List Char) : Bool :=
  let unsigned := if cs.head? == some '+' || cs.head? == some '-' then cs.tail else cs
  ["inf", "infinity", "nan"].contains (String.ofList (unsigned.map Char.toLower)) ||
    (Text.Reader.whole decimal unsigned).isSome

/-- The value a field may be asked to have: a number, or else a pattern for its text. -/
def isValue (cs : List Char) : Bool := isNumber cs || Pattern.isUsable cs

/-! ### Pieces -/

/-- A piece of a filter. Its parts are found in the text without the blanks around it, but
then the text with the blanks is cut, at as many bytes from its start. So blanks in front
spoil the parts after them, while blanks at the end belong to a last part only. -/
structure Piece where
  text : List Char
  deriving DecidableEq, Repr

namespace Piece

def core (p : Piece) : List Char := Text.trimEnd (p.text.dropWhile Text.isBlank)

/-- The number of bytes in front of `rest`, which is an end of the core. -/
def before (p : Piece) (rest : List Char) : Nat :=
  (String.ofList (p.core.take (p.core.length - rest.length))).utf8ByteSize

/-- The text from byte `start` on; nothing if that is inside a character. -/
def fromByte? (p : Piece) (start : Nat) : Option (List Char) :=
  (Text.Utf8.strict? ((String.ofList p.text).toUTF8.toList.drop start)).map String.toList

def between? (p : Piece) (start stop : Nat) : Option (List Char) :=
  (Text.Utf8.strict? (((String.ofList p.text).toUTF8.toList.take stop).drop start)).map
    String.toList

end Piece

namespace Directive

/-- A level by name, in letters of either case. -/
def named? (cs : List Char) : Option Nat :=
  match String.ofList (cs.map Char.toLower) with
  | "off" => some 0
  | "error" => some Level.error.detail
  | "warn" => some Level.warn.detail
  | "info" => some Level.info.detail
  | "debug" => some Level.debug.detail
  | "trace" => some Level.trace.detail
  | _ => none

/-- A level by number, which may have a plus and zeros in front. -/
def numbered? (cs : List Char) : Option Nat :=
  let digits := if cs.head? == some '+' then cs.tail else cs
  let n := digits.foldl (fun n c => n * 10 + (c.toNat - '0'.toNat)) 0
  if !digits.isEmpty && digits.all Char.isDigit && n ≤ Level.trace.detail then some n else none

def detail? (cs : List Char) : Option Nat := named? cs <|> numbered? cs

/-- The level after an equals sign; all is shown if there is none. -/
def level? (p : Piece) : List Char → Option Nat
  | [] => some Level.trace.detail
  | '=' :: rest => do
    match ← p.fromByte? (p.before rest) with
    | [] => return Level.trace.detail
    | text => detail? text
  | _ => none

/-- What stands between brackets: the name of a span, a field in braces, or both. Takes what
follows the opening bracket, and also says what follows the closing one. -/
def scope? (p : Piece) (inner : List Char) : Option (Scope × List Char) :=
  match inner.span fun c => c != ']' && c != '\x7b' with
  | (_, ']' :: after) => some (.span, after)
  | (name, _ :: inner) =>
    match inner.span (· != '\x7d') with
    | ([], _) => none
    | (_, '\x7d' :: ']' :: after) => do
      let field ← p.between? (p.before inner) (p.before ('\x7d' :: ']' :: after))
      match field.span (· != '=') with
      | (label, []) =>
        return (if name.isEmpty then .field (String.ofList label) else .span, after)
      | (_, _ :: value) =>
        if isValue (value.takeWhile (· != '=')) then return (.span, after) else failure
    | _ => none
  | _ => none

def startsTarget (c : Char) : Bool :=
  Text.isAlphanumeric c || c == '-' || c == ':' || c == '_'

def ofPiece? (p : Piece) : Option Directive := do
  let first ← p.core.head?
  if first != '[' && !startsTarget first then failure
  match p.core.span fun c => c != '=' && c != '[' with
  | (_, []) =>
    match detail? p.text with
    | some detail => return ⟨"", .anywhere, detail⟩
    | none => return ⟨String.ofList p.text, .anywhere, Level.trace.detail⟩
  | (_, rest) =>
    let target := String.ofList (← p.between? 0 (p.before rest))
    match rest with
    | '[' :: inner =>
      let (scope, after) ← scope? p inner
      return ⟨target, scope, ← level? p after⟩
    | _ => return ⟨target, .anywhere, ← level? p rest⟩

/-- Whether it is about events with this target. Events here are in no span, and all they
have is a field for the message. -/
def applies (d : Directive) (target : String) : Bool :=
  d.target.toList.isPrefixOf target.toList &&
    match d.scope with
    | .anywhere => true
    | .field name => name == "message"
    | .span => false

/-- A longer target is more special, and with equal targets one that asks for a field. -/
def weight (d : Directive) : Nat :=
  2 * d.target.length + if d.scope = .anywhere then 0 else 1

end Directive

namespace Filter

def off : Filter := ⟨[]⟩

/-- Empty pieces do not count. -/
def ofString (s : String) : Filter :=
  match ((s.toList.splitOn ',').filter (· ≠ [])).mapM (Directive.ofPiece? ⟨·⟩) with
  | some directives => ⟨directives⟩
  | none => off

/-- The directive that decides about a target: of several equally special ones, the last. -/
def decisive? (f : Filter) (target : String) : Option Directive :=
  let heavier (best : Option Directive) (d : Directive) :=
    if best.all (·.weight ≤ d.weight) then some d else best
  (f.directives.filter (·.applies target)).foldl heavier none

def shows (f : Filter) (e : Event) : Bool :=
  (f.decisive? e.target).any (e.level.detail ≤ ·.detail)

end Filter

end FeatureMatrix.Log
