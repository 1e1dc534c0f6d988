import FeatureMatrix.Text.Terminal

/-!
The help texts. The short one has a line for each option, the long one a paragraph.
-/

namespace FeatureMatrix.CommandLine

/-- The name shown when the program was called by none. -/
def programName : String := "cargo-fc"

/-- The last part of the path a program was called by; slashes and dots at the end of the
path do not count. -/
def calledName (path : String) : String :=
  let parts := (path.toList.splitOn '/').map String.ofList
  match parts.reverse.dropWhile fun part => part == "" || part == "." with
  | [] | ".." :: _ => programName
  | part :: _ => part

namespace Help

structure Entry where
  left : String
  short : String
  long : List String

def entries : List Entry :=
  [⟨"-v, --version", "Print version and feature flags in JSON format",
      ["Print version and feature flags in JSON format"]⟩,
   ⟨"    --manifest-path <PATH>", "Path to Cargo.toml (default: ./Cargo.toml).",
      ["Path to Cargo.toml (default: ./Cargo.toml)."]⟩,
   ⟨"    --locate", "Find the manifest with `cargo locate-project`.",
      ["Find the manifest with `cargo locate-project`."]⟩,
   ⟨"    --exclude <NAME>", "Feature that never takes part in a combination (repeatable).",
      ["Feature that never takes part in a combination (repeatable)."]⟩,
   ⟨"    --require <NAME>",
      "At least one of these features must be in every combination (repeatable).",
      ["At least one of these features must be in every combination (repeatable)."]⟩,
   ⟨"    --no-require", "Keep every combination, with or without a required feature.",
      ["Keep every combination, with or without a required feature."]⟩,
   ⟨"    --format <FORMAT>", "[default: plain] [possible values: plain, cargo, json]",
      ["Possible values:",
       "- plain: `a,b,c` per line",
       "- cargo: `--no-default-features --features a,b,c` per line",
       "- json:  A single JSON array of arrays",
       "",
       "[default: plain]"]⟩,
   ⟨"-h, --help", "Print help (see more with '--help')",
      ["Print help (see a summary with '-h')"]⟩]

/-- The column at which short helps begin, after two blanks in front and two between. -/
def column : Nat := (entries.map (·.left.length)).foldl max 0 + 4

def heading (program : String) : String :=
  s!"cargo-fc is for Feature Combos.\n\nUsage: {Text.Terminal.plain program} [OPTIONS]\n\n" ++
    "Options:\n"

def Entry.shortText (e : Entry) : String :=
  let left := "  " ++ e.left
  left ++ String.ofList (List.replicate (column - left.length) ' ') ++ e.short ++ "\n"

def Entry.longText (e : Entry) : String :=
  "  " ++ e.left ++ "\n" ++ "".intercalate (e.long.map fun line => s!"          {line}\n")

def short (program : String) : String :=
  heading program ++ "".intercalate (entries.map Entry.shortText)

def long (program : String) : String :=
  heading program ++ "\n".intercalate (entries.map Entry.longText)

end Help

end FeatureMatrix.CommandLine
