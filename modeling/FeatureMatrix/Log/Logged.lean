import FeatureMatrix.Log.Event

/-!
Work that may fail and leaves a log either way.
-/

namespace FeatureMatrix.Log

/-- A result, and what was told up to it. -/
structure Logged (ε α : Type) where
  events : List Event
  result : Except ε α

namespace Logged

variable {ε α β : Type}

/-- Goes on where the first part succeeds; the log grows. -/
def andThen (first : Logged ε α) (rest : α → Logged ε β) : Logged ε β :=
  match first.result with
  | .error e => ⟨first.events, .error e⟩
  | .ok a =>
    let next := rest a
    ⟨first.events ++ next.events, next.result⟩

instance : Monad (Logged ε) where
  pure a := ⟨[], .ok a⟩
  bind := andThen

/-- A result that tells nothing, its error seen from outside. -/
def ofExcept {δ : Type} (outer : δ → ε) (r : Except δ α) : Logged ε α := ⟨[], r.mapError outer⟩

def mapError {δ : Type} (outer : δ → ε) (l : Logged δ α) : Logged ε α :=
  ⟨l.events, l.result.mapError outer⟩

end Logged

end FeatureMatrix.Log
