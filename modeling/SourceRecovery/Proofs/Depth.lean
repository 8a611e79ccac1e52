import SourceRecovery.Engine.Dispatch

/-! # Depth of a run

Dispatch gives up once sites are handed back more deeply than it was told. Giving up is the only
thing that a greater depth can change: a run that ended well or failed is the same run, step by
step, at every greater depth. The statements hold of any catalog and any plan.
-/

namespace SourceRecovery

namespace Run

/-- The run ended well or failed; it was not cut short. -/
def Finished (r : Run) : Prop := r.outcome ≠ .exhausted

@[simp] theorem finished_after (r : Run) (steps : List Step) :
    (r.after steps).Finished ↔ r.Finished := Iff.rfl

theorem finished_andThen (r : Run) (next : Sink → Run) :
    (r.andThen next).Finished ↔ r.Finished ∧ (r.outcome = .ok → (next r.sink).Finished) := by
  cases h : r.outcome <;> simp [andThen, Finished, h]

theorem finished_resume (r : Run) (next : Except GenerationError Unit → Run) :
    (r.resume next).Finished ↔
      r.Finished ∧ (r.outcome = .ok → (next (.ok ())).Finished) ∧
        ∀ e, r.outcome = .error e → (next (.error e)).Finished := by
  cases h : r.outcome <;> simp [resume, Finished, h]

/-- How a run goes on matters only at the sink where it goes on. -/
theorem andThen_congr {r : Run} {f g : Sink → Run} (h : r.outcome = .ok → f r.sink = g r.sink) :
    r.andThen f = r.andThen g := by
  unfold andThen
  split
  · next hok => rw [h hok]
  · rfl

theorem resume_congr {r : Run} {f g : Except GenerationError Unit → Run}
    (hok : r.outcome = .ok → f (.ok ()) = g (.ok ()))
    (herr : ∀ e, r.outcome = .error e → f (.error e) = g (.error e)) :
    r.resume f = r.resume g := by
  unfold resume
  split
  · next h => rw [hok h]
  · next e h => rw [herr e h]
  · rfl

end Run

/-- Wherever the second finishes, the first does the same. -/
def Dispatcher.Extends (wide narrow : Dispatcher) : Prop :=
  ∀ ctx site sink, (narrow ctx site sink).Finished → wide ctx site sink = narrow ctx site sink

theorem Dispatcher.Extends.trans {a b c : Dispatcher} (hab : a.Extends b) (hbc : b.Extends c) :
    a.Extends c := by
  intro ctx site sink hc
  have hb := hbc ctx site sink hc
  rw [← hb] at hc ⊢
  exact hab ctx site sink hc

/-- Plans keep the order of their dispatchers. -/
theorem Plan.run_extends {wide narrow : Dispatcher} (h : wide.Extends narrow) (p : Plan)
    (sink : Sink) (finished : (p.run narrow sink).Finished) :
    p.run wide sink = p.run narrow sink := by
  induction p generalizing sink with
  | done => rfl
  | fail e => rfl
  | write piece next ih =>
      simp only [run] at finished ⊢
      split
      · next hput =>
          rw [hput] at finished
          rw [ih _ finished]
      · rfl
  | mark m next ih =>
      simp only [run, Run.finished_after] at finished ⊢
      rw [ih sink finished]
  | delegate ctx site next ih =>
      simp only [run, Run.finished_andThen] at finished ⊢
      rw [h ctx site sink finished.1]
      exact Run.andThen_congr fun hok => ih _ (finished.2 hok)
  | attempt body next ihb ihn =>
      simp only [run, Run.finished_resume] at finished ⊢
      rw [ihb sink finished.1]
      exact Run.resume_congr (fun hok => ihn _ _ (finished.2.1 hok))
        fun e herr => ihn _ _ (finished.2.2 e herr)
  | capture body next ihb ihn =>
      simp only [run, Run.finished_resume] at finished ⊢
      rw [ihb {} finished.1]
      exact Run.resume_congr (fun hok => ihn _ _ _ (finished.2.1 hok))
        fun e herr => ihn _ _ _ (finished.2.2 e herr)

namespace Catalog

variable (catalog : Catalog) (fallback : Rule)

theorem dispatch_extends_succ (depth : Nat) :
    (catalog.dispatch fallback (depth + 1)).Extends (catalog.dispatch fallback depth) := by
  induction depth with
  | zero =>
      intro ctx site sink finished
      exact absurd rfl finished
  | succ depth ih =>
      intro ctx site sink finished
      rw [dispatch, Run.finished_after] at finished
      rw [dispatch, Plan.run_extends ih _ sink finished, dispatch]

/-- A finished run does not depend on how much deeper it might have gone. -/
theorem dispatch_extends_of_le {depth deeper : Nat} (h : depth ≤ deeper) :
    (catalog.dispatch fallback deeper).Extends (catalog.dispatch fallback depth) := by
  induction h with
  | refl => exact fun _ _ _ _ => rfl
  | step _ ih => exact (dispatch_extends_succ catalog fallback _).trans ih

theorem finished_of_le {depth deeper : Nat} (h : depth ≤ deeper) {ctx : Context} {site : Site}
    {sink : Sink} (finished : (catalog.dispatch fallback depth ctx site sink).Finished) :
    (catalog.dispatch fallback deeper ctx site sink).Finished := by
  rw [dispatch_extends_of_le catalog fallback h ctx site sink finished]
  exact finished

/-- Finished runs are the same at whatever depths. -/
theorem dispatch_eq_of_finished {a b : Nat} {ctx : Context} {site : Site} {sink : Sink}
    (ha : (catalog.dispatch fallback a ctx site sink).Finished)
    (hb : (catalog.dispatch fallback b ctx site sink).Finished) :
    catalog.dispatch fallback a ctx site sink = catalog.dispatch fallback b ctx site sink := by
  rcases Nat.le_total a b with hle | hle
  · exact (dispatch_extends_of_le catalog fallback hle ctx site sink ha).symm
  · exact dispatch_extends_of_le catalog fallback hle ctx site sink hb

end Catalog

end SourceRecovery
