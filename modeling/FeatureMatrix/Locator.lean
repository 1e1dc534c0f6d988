import FeatureMatrix.Report
import FeatureMatrix.Text.Blank
import FeatureMatrix.Text.Utf8

/-!
Asking another program, `cargo`, where the manifest is. What it prints is the answer, and
when it fails, what it complained about.
-/

namespace FeatureMatrix.Locator

/-- What a program leaves behind when it has ended. -/
structure Reply where
  status : Int
  stdout : List UInt8
  stderr : List UInt8
  deriving DecidableEq

/-- Of a status no more than the low byte is passed on. -/
def Reply.succeeded (r : Reply) : Bool := r.status % 256 == 0

/-- What the program is asked; for the manifest of the whole workspace if need be. -/
def arguments (workspace : Bool) : List String :=
  ["locate-project", "--message-format", "plain"] ++ if workspace then ["--workspace"] else []

inductive Failure where
  /-- There is no such program. -/
  | notStarted
  | failed (complaint : String)
  | nothingFound
  deriving DecidableEq, Repr

def Failure.report : Failure → Report
  | notStarted =>
    ⟨"failed to run cargo locate-project", some "No such file or directory (os error 2)"⟩
  | failed complaint => ⟨s!"cargo locate-project failed: {complaint}", none⟩
  | nothingFound => ⟨"No Cargo.toml found", none⟩

/-- The path in a reply; there is no reply if the program was not started. -/
def path : Option Reply → Except Failure String
  | none => .error .notStarted
  | some r =>
    if r.succeeded then
      let answer := Text.trim (Text.Utf8.lossy r.stdout)
      if answer == "" then .error .nothingFound else .ok answer
    else .error (.failed (Text.trim (Text.Utf8.lossy r.stderr)))

end FeatureMatrix.Locator
