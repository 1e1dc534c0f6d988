import FeatureMatrix.Toml.Datetime
import FeatureMatrix.Toml.Grammar.Text

/-!
Dates and times of a TOML document.
-/

namespace FeatureMatrix.Toml.Grammar

open FeatureMatrix.Text FeatureMatrix.Text.Reader

/-- A number of exactly `count` decimal digits. -/
def fixed (count : Nat) : Reader Nat := do
  return number 10 (← (List.replicate count ()).mapM fun _ => char Char.isDigit)

def date : Reader Date := do
  let year ← fixed 4
  exactly ['-']
  let month ← fixed 2
  exactly ['-']
  let day ← fixed 2
  let d : Date := ⟨year, month, day⟩
  if d.isValid then return d else failure

/-- The fraction of a second; what is finer than a nanosecond is cut off. -/
def nanoseconds : Reader Nat := do
  exactly ['.']
  let first ← char Char.isDigit
  let others ← run Char.isDigit
  return number 10 ((first :: others ++ List.replicate 8 '0').take 9)

def timeOfDay : Reader TimeOfDay := do
  let hour ← fixed 2
  exactly [':']
  let minute ← fixed 2
  exactly [':']
  let second ← fixed 2
  let nanosecond ← optional nanoseconds
  let t : TimeOfDay := ⟨hour, minute, second, nanosecond.getD 0⟩
  if t.isValid then return t else failure

def offset : Reader Offset := do
  match ← char fun c => c == 'Z' || c == 'z' || c == '+' || c == '-' with
  | 'Z' | 'z' => return .utc
  | mark =>
    let hour ← fixed 2
    exactly [':']
    let minute ← fixed 2
    if hour < 24 && minute < 60 then
      let ahead : Int := hour * 60 + minute
      return .minutes (if mark == '-' then -ahead else ahead)
    else failure

/-- A date may have a time after a `T` or a blank, and that time an offset. -/
def moment : Reader Datetime :=
  (do
    let d ← date
    let time ← optional do
      let _ ← char fun c => c == 'T' || c == 't' || c == ' '
      let t ← timeOfDay
      return (t, ← optional offset)
    match time with
    | none => return .dateOnly d
    | some (t, none) => return .atLocal d t
    | some (t, some o) => return .withOffset d t o) <|>
  (do return .timeOnly (← timeOfDay))

end FeatureMatrix.Toml.Grammar
