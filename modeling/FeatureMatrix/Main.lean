import FeatureMatrix.Program

/-!
The command itself. No other program can be asked from here, so looking for the manifest
with `cargo` ends as it does where `cargo` is not installed. Of a manifest that is not TOML it
is told no more than that.
-/

namespace FeatureMatrix.Command

def fileError : IO.Error → FileError
  | .noFileOrDirectory .. => .notFound
  | .inappropriateType .. => .isADirectory
  | e => .other (toString e)

def readFile (path : String) : IO (Except FileError (List UInt8)) := do
  try return .ok (← IO.FS.readBinFile path).toList
  catch e => return .error (fileError e)

/-- The file that a run with these arguments reads. -/
def wantedFile (args : List String) : String :=
  match CommandLine.read (CommandLine.programName :: args) with
  | .ok o => o.manifestPath.getD Manifest.usualPath
  | .error _ => Manifest.usualPath

end FeatureMatrix.Command

open FeatureMatrix in
def main (args : List String) : IO UInt32 := do
  let content ← Command.readFile (Command.wantedFile args)
  let host : Program.Host :=
    { build := ⟨true⟩
      read := fun _ => content
      locator := none
      complaint := fun _ => "TOML parse error" }
  let run := Program.run host args
  let filter := (← IO.getEnv "RUST_LOG").elim Log.Filter.off Log.Filter.ofString
  for event in run.events.filter filter.shows do
    IO.eprintln event.entry
  (← IO.getStdout).write ⟨run.exit.stdout.toArray⟩
  IO.eprint run.exit.stderr
  if let .usage _ := run.exit.ending then
    IO.eprintln "error: invalid arguments; for more information, try '--help'."
  return run.exit.status
