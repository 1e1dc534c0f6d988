/-!
What is told about a failure: a sentence, and what is told about its cause if there is one.
-/

namespace FeatureMatrix

structure Report where
  message : String
  cause : Option String := none
  deriving DecidableEq, Repr

namespace Report

def oneLine (r : Report) : String :=
  match r.cause with
  | none => r.message
  | some cause => r.message ++ ": " ++ cause

/-- All lines of a text by four blanks further in. -/
def setIn (text : String) : String :=
  "    " ++ "\n    ".intercalate ((text.toList.splitOn '\n').map String.ofList)

/-- As a program says it before it gives up, the cause in a paragraph of its own. -/
def paragraphs (r : Report) : String :=
  "Error: " ++ r.message ++ "\n" ++
    match r.cause with
    | none => ""
    | some cause => "\nCaused by:\n" ++ setIn cause ++ "\n"

end Report

end FeatureMatrix
