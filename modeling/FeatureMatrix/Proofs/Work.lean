import FeatureMatrix.Program
import FeatureMatrix.Proofs.Sink

/-!
What work tells and prints.

Work may print at any time, and what it has printed stays when it fails. That nothing is printed
is kept from one piece of work to the next, and so holds of any work put together from such
pieces, however it ends.
-/

namespace FeatureMatrix.Program.Work

open Log (Logged)
open Text (bytes)

/-! ### Work that prints nothing -/

variable {δ α β : Type} {w : Work α} {r : Except Problem α}

/-- The work comes to this result and prints nothing, whatever went before. -/
def Yields (w : Work α) (r : Except Problem α) : Prop :=
  ∀ t : Trace, ∃ events, w.run.run t = (r, { t with events })

lemma yields_pure (a : α) : Yields (pure a) (.ok a) := fun t => ⟨t.events, rfl⟩

lemma yields_ofExcept (outer : δ → Problem) (r : Except δ α) :
    Yields (ofExcept outer r) (r.mapError outer) := fun t => ⟨t.events, rfl⟩

/-- The trace goes on where the first part has left it. -/
lemma Yields.bind {f : α → Work β} {g : α → Except Problem β} (hw : Yields w r)
    (hf : ∀ a, Yields (f a) (g a)) : Yields (w >>= f) (r >>= g) := by
  intro t
  obtain ⟨events, hrun⟩ := hw t
  rw [ExceptT.run_bind, StateT.run_bind, hrun]
  cases r with
  | error why => exact ⟨events, rfl⟩
  | ok a => exact hf a { t with events }

/-- What only hands on a result leaves it as it was. -/
lemma Yields.bind_ok {f : α → Work α} (hw : Yields w r) (hf : ∀ a, Yields (f a) (.ok a)) :
    Yields (w >>= f) r := by
  have h : Yields (w >>= f) (r >>= pure) := hw.bind hf
  rwa [bind_pure] at h

lemma Yields.after_tell (h : Yields w r) (events : List Log.Event) :
    Yields (tell events >>= fun _ => w) r :=
  fun t => h { t with events := t.events ++ events }

lemma yields_ofLogged (outer : δ → Problem) (l : Logged δ α) :
    Yields (ofLogged outer l) (l.result.mapError outer) :=
  (yields_ofExcept outer l.result).after_tell l.events

/-! ### Work that prints -/

/-- Combinations are printed to their end or not at all, where there is room for all. -/
lemma run_print {build : Build} {cs : List Combination} {format : Format} {t : Trace}
    (h : t.stdout = .endless) : (print build cs format).run.run t =
      match Output.render build cs format with
      | .ok text => (.ok (), { t with stdout := ⟨none, bytes text⟩ })
      | .error why => (.error (.output (.unsupported why)), t) := by
  show (((Output.write build cs format t.stdout).2.mapError Problem.output,
    { t with stdout := (Output.write build cs format t.stdout).1 }) : Except Problem Unit × Trace) = _
  rw [h, Output.write_endless]
  cases Output.render build cs format with
  | ok text => rfl
  | error why => rw [← h]; rfl

end FeatureMatrix.Program.Work
