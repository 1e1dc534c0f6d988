import FeatureMatrix.CommandLine.Help
import FeatureMatrix.CommandLine.Options

/-!
Reading a command line. Arguments are looked at in order. The value of a switch is only
looked at when the next switch comes, or the end: an argument that means nothing is
reported before a bad value in front of it, while a switch that is known is not. Switches
that exclude each other are found at the end, so their order does not matter.
-/

namespace FeatureMatrix.CommandLine

inductive Refusal where
  | unknownArgument
  /-- A value is missing or is none of those allowed. -/
  | invalidValue
  /-- A switch is repeated, or comes with one that excludes it. -/
  | argumentConflict
  /-- A value is given to a switch that takes none. -/
  | tooManyValues
  deriving DecidableEq, Repr

/-- Why reading ends before the options are known. -/
inductive Stop where
  | refused (why : Refusal)
  | help (text : String)
  deriving DecidableEq, Repr

/-! ### Arguments -/

/-- The switches that are given or not. -/
inductive Flag where
  | version
  | locate
  | noRequire
  deriving DecidableEq, Repr

/-- The switches that come with a value. -/
inductive Field where
  | manifestPath
  | exclude
  | require
  | format
  deriving DecidableEq, Repr

inductive Switch where
  | flag (flag : Flag)
  | field (field : Field)
  | help
  deriving DecidableEq, Repr

/-- The switch with this name after two dashes. -/
def Switch.ofName? : String → Option Switch
  | "version" => some (.flag .version)
  | "locate" => some (.flag .locate)
  | "no-require" => some (.flag .noRequire)
  | "manifest-path" => some (.field .manifestPath)
  | "exclude" => some (.field .exclude)
  | "require" => some (.field .require)
  | "format" => some (.field .format)
  | "help" => some .help
  | _ => none

/-- What the form of an argument makes of it. -/
inductive Argument where
  /-- A name after two dashes, and what stands after an equals sign. -/
  | long (name : String) (value : Option String)
  /-- Letters after a dash. -/
  | short (letters : List Char)
  /-- Two dashes: no switch follows. -/
  | separator
  | plain (text : String)
  deriving DecidableEq, Repr

def Argument.ofString (s : String) : Argument :=
  match s.toList with
  | ['-', '-'] => separator
  | '-' :: '-' :: cs =>
    match cs.span (· != '=') with
    | (name, []) => long (String.ofList name) none
    | (name, _ :: value) => long (String.ofList name) (some (String.ofList value))
  | '-' :: c :: cs => short (c :: cs)
  | _ => plain s

/-! ### What is known so far -/

/-- A switch whose value is still to be looked at. -/
inductive Pending where
  | nothing
  /-- The value comes with the next argument, unless that is a switch. -/
  | awaiting (field : Field)
  | holding (field : Field) (value : String)
  deriving DecidableEq, Repr

structure Reading where
  flags : List Flag
  manifestPath : Option String
  format : Option Format
  exclude : List String
  require : List String
  pending : Pending
  /-- Two dashes came, and no argument may follow. -/
  closed : Bool
  deriving DecidableEq, Repr

namespace Reading

def start : Reading where
  flags := []
  manifestPath := none
  format := none
  exclude := []
  require := []
  pending := .nothing
  closed := false

def refuse {α : Type} (why : Refusal) : Except Stop α := .error (.refused why)

/-- The names between the commas; there is always one, if only the empty name. -/
def commaNames (value : String) : List String :=
  (value.toList.splitOn ',').map String.ofList

/-- Gives a field its value. Names add up; a path or a format is given once. -/
def assign (r : Reading) (field : Field) (value : String) : Except Stop Reading :=
  match field with
  | .exclude => .ok { r with exclude := r.exclude ++ commaNames value }
  | .require => .ok { r with require := r.require ++ commaNames value }
  | .manifestPath =>
    if r.manifestPath.isSome then refuse .argumentConflict
    else if value == "" then refuse .invalidValue
    else .ok { r with manifestPath := some value }
  | .format =>
    if r.format.isSome then refuse .argumentConflict
    else
      match Format.ofName? value with
      | none => refuse .invalidValue
      | some format => .ok { r with format := some format }

def settle (r : Reading) : Except Stop Reading :=
  match r.pending with
  | .nothing => .ok r
  | .awaiting _ => refuse .invalidValue
  | .holding field value => { r with pending := .nothing }.assign field value

def setFlag (r : Reading) (flag : Flag) : Except Stop Reading := do
  let r ← r.settle
  if r.flags.contains flag then refuse .argumentConflict
  else return { r with flags := flag :: r.flags }

def showHelp (r : Reading) (text : String) : Except Stop Reading := do
  let _ ← r.settle
  throw (.help text)

def letter (program : String) (r : Reading) : Char → Except Stop Reading
  | 'v' => r.setFlag .version
  | 'h' => r.showHelp (Help.short program)
  | _ => refuse .unknownArgument

def next (program : String) (r : Reading) (arg : String) : Except Stop Reading :=
  if r.closed then refuse .unknownArgument
  else
    match Argument.ofString arg with
    | .separator => .ok { r with closed := true }
    | .plain text =>
      match r.pending with
      | .awaiting field => .ok { r with pending := .holding field text }
      | _ => refuse .unknownArgument
    | .short letters => letters.foldlM (letter program) r
    | .long name value =>
      match Switch.ofName? name, value with
      | none, _ => refuse .unknownArgument
      | some (.field field), none => do return { ← r.settle with pending := .awaiting field }
      | some (.field field), some value => do (← r.settle).assign field value
      | some (.flag flag), none => r.setFlag flag
      | some .help, none => r.showHelp (Help.long program)
      | some (.flag _), some _ | some .help, some _ => refuse .tooManyValues

def finish (r : Reading) : Except Stop Options := do
  let r ← r.settle
  if r.flags.contains .locate && r.manifestPath.isSome then refuse .argumentConflict
  else if r.flags.contains .noRequire && !r.require.isEmpty then refuse .argumentConflict
  else return {
    version := r.flags.contains .version
    manifestPath := r.manifestPath
    locate := r.flags.contains .locate
    exclude := r.exclude
    require := r.require
    noRequire := r.flags.contains .noRequire
    format := r.format.getD .plain }

end Reading

/-! ### The command line -/

/-- Called as `cargo fc`, the program finds the name `fc` in front of its own arguments. -/
def dropSubcommand : List String → List String
  | program :: "fc" :: args => program :: args
  | line => line

/-- Reads a command line; its first word is the path the program was called by. -/
def read (line : List String) : Except Stop Options := do
  match dropSubcommand line with
  | [] => Reading.start.finish
  | path :: args => (← args.foldlM (Reading.next (calledName path)) Reading.start).finish

end FeatureMatrix.CommandLine
