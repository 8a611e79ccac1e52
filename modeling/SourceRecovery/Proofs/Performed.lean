import SourceRecovery.Proofs.Handed
import SourceRecovery.Proofs.Printer

/-! # Plans performed by a printer

A plan can be performed with any printer for the sites it hands back. Nothing is recorded and no
depth is counted then. A run that is not cut short leaves the same outcome and the same sink as the
performance, if its dispatcher does so at every site.
-/

namespace SourceRecovery

open Java (Printer)

/-- What a run leaves behind: how it ended and the sink. A run that was cut short leaves nothing. -/
def Run.observed (r : Run) : Option (Except GenerationError Unit × Sink) :=
  match r.outcome with
  | .ok => some (.ok (), r.sink)
  | .error e => some (.error e, r.sink)
  | .exhausted => none

/-- Performs a plan, with `sub` for the sites it hands back. -/
def Plan.perform (sub : Context → Site → Printer) : Plan → Printer
  | done => pure ()
  | fail e => throw e
  | write piece next => do
      Printer.write piece
      next.perform sub
  | mark _ next => next.perform sub
  | delegate ctx site next => do
      sub ctx site
      next.perform sub
  | attempt body next => fun sink =>
      (body.perform sub sink).bind fun y => (next y.1).perform sub y.2
  | capture body next => fun sink =>
      (body.perform sub {}).bind fun y => (next y.1 y.2.text).perform sub sink

namespace Java.Printer

def goOn (next : Printer) (y : Except GenerationError Unit × Sink) :
    Option (Except GenerationError Unit × Sink) :=
  match y.1 with
  | .ok _ => next y.2
  | .error e => some (.error e, y.2)

theorem bind_apply (p : Printer) (next : Unit → Printer) (sink : Sink) :
    (p >>= next) sink = (p sink).bind (goOn (next ())) := by
  show (p sink >>= fun y => ExceptT.bindCont next y.1 y.2) = _
  congr 1
  funext y
  rcases y with ⟨result, sink⟩
  cases result <;> rfl

end Java.Printer

namespace Plan

variable (sub : Context → Site → Printer)

/-- Performing one plan after the other is performing the first and then the second. -/
@[simp] theorem perform_append (p q : Plan) :
    (p ++ q).perform sub = (do p.perform sub; q.perform sub) := by
  induction p with
  | done => simp [perform]
  | fail e => rfl
  | write piece next ih => simp [perform, ih]
  | mark m next ih => exact ih
  | delegate ctx site next ih => simp [perform, ih]
  | attempt body next _ ih =>
      funext sink
      simp only [attempt_append, perform, ih, Printer.bind_apply, Option.bind_assoc]
  | capture body next _ ih =>
      funext sink
      simp only [capture_append, perform, ih, Printer.bind_apply, Option.bind_assoc]

@[simp] theorem perform_text (piece : String) : (text piece).perform sub = Printer.write piece := by
  simp [text, perform]

@[simp] theorem perform_texts (pieces : List String) :
    (texts pieces).perform sub = Printer.writeAll pieces := by
  induction pieces with
  | nil => rfl
  | cons piece rest ih =>
      have hsplit : texts (piece :: rest) = text piece ++ texts rest := rfl
      rw [hsplit, perform_append, perform_text, ih]
      rfl

@[simp] theorem perform_done : done.perform sub = pure () := rfl

@[simp] theorem perform_fail (e : GenerationError) : (fail e).perform sub = throw e := rfl

@[simp] theorem perform_mark (m : Mark) (p : Plan) : (mark m p).perform sub = p.perform sub := rfl

@[simp] theorem perform_generate (ctx : Context) (site : Site) (e : Element) :
    (ctx.generate site e).perform sub = sub ctx (site.focus e) := by
  simp [Context.generate, perform]

end Plan

/-! ## Runs and performances -/

namespace Run

@[simp] theorem observed_after (r : Run) (steps : List Step) :
    (r.after steps).observed = r.observed := rfl

theorem observed_andThen (r : Run) (next : Sink → Run) :
    (r.andThen next).observed =
      r.observed.bind (Printer.goOn fun sink => (next sink).observed) := by
  cases h : r.outcome <;> simp [andThen, observed, h, Printer.goOn]

theorem observed_resume (r : Run) (next : Except GenerationError Unit → Run) :
    (r.resume next).observed = r.observed.bind fun y => (next y.1).observed := by
  cases h : r.outcome <;> simp [resume, observed, h]

theorem observed_sink {r : Run} {y : Except GenerationError Unit × Sink}
    (h : r.observed = some y) : r.sink = y.2 := by
  unfold observed at h
  split at h
  · cases h; rfl
  · cases h; rfl
  · exact nomatch h

theorem observed_withSink (r : Run) (sink : Sink) :
    Run.observed { r with sink := sink } = r.observed.map fun y => (y.1, sink) := by
  cases h : r.outcome <;> simp [observed, h]

theorem observed_isSome_iff {r : Run} : r.observed.isSome ↔ r.Finished := by
  cases h : r.outcome <;> simp [observed, Finished, h]

end Run

/-- If there is a first result, the second is the same. -/
def Refines {α : Type} (a b : Option α) : Prop := ∀ y, a = some y → b = some y

namespace Refines

theorem refl {α : Type} (a : Option α) : Refines a a := fun _ h => h

theorem bind {α β : Type} {a b : Option α} {f g : α → Option β} (h : Refines a b)
    (hnext : ∀ x, Refines (f x) (g x)) : Refines (a.bind f) (b.bind g) := by
  intro y hy
  obtain ⟨x, hx, hxy⟩ := Option.bind_eq_some_iff.mp hy
  rw [h x hx]
  exact hnext x y hxy

theorem goOn {p q : Printer} (h : ∀ sink, Refines (p sink) (q sink))
    (y : Except GenerationError Unit × Sink) : Refines (Printer.goOn p y) (Printer.goOn q y) := by
  rcases y with ⟨result, sink⟩
  cases result with
  | ok _ => exact h sink
  | error e => exact .refl _

end Refines

/-- A plan is performed as it is run, if its sites are. -/
theorem Plan.run_refines {dispatcher : Dispatcher} {sub : Context → Site → Printer}
    (h : ∀ ctx site sink, Refines (dispatcher ctx site sink).observed (sub ctx site sink))
    (p : Plan) (sink : Sink) :
    Refines (p.run dispatcher sink).observed (p.perform sub sink) := by
  induction p generalizing sink with
  | done => exact .refl _
  | fail e => exact .refl _
  | write piece next ih =>
      simp only [run, perform, Printer.bind_apply, Printer.write]
      rcases sink.put piece with ⟨after, taken⟩
      cases taken with
      | true => exact ih after
      | false => exact .refl _
  | mark m next ih => exact ih sink
  | delegate ctx site next ih =>
      rw [run, Run.observed_andThen, perform, Printer.bind_apply]
      exact (h ctx site sink).bind (.goOn ih)
  | attempt body next ihbody ihnext =>
      intro y hy
      simp only [run, Run.observed_resume] at hy
      obtain ⟨x, hx, hxy⟩ := Option.bind_eq_some_iff.mp hy
      rw [Run.observed_sink hx] at hxy
      simp only [perform, ihbody sink x hx]
      exact ihnext x.1 x.2 y hxy
  | capture body next ihbody ihnext =>
      intro y hy
      simp only [run, Run.observed_resume, Run.observed_withSink] at hy
      obtain ⟨z, hz, hzy⟩ := Option.bind_eq_some_iff.mp hy
      obtain ⟨x, hx, hxz⟩ := Option.map_eq_some_iff.mp hz
      rw [Run.observed_sink hx, ← hxz] at hzy
      simp only [perform, ihbody {} x hx]
      exact ihnext x.1 x.2.text sink y hzy

/-! ## Plans read beforehand -/

variable {p : Plan} {sites : List (Context × Site)}

/-- Only the printers of the sites handed back matter. -/
theorem Plan.Hands.perform_refines (h : p.Hands sites) {sub other : Context → Site → Printer}
    (hsites : ∀ x ∈ sites, ∀ sink, Refines (sub x.1 x.2 sink) (other x.1 x.2 sink)) (sink : Sink) :
    Refines (p.perform sub sink) (p.perform other sink) := by
  induction h generalizing sink with
  | done => exact .refl _
  | fail e => exact .refl _
  | write piece _ ih =>
      simp only [perform, Printer.bind_apply]
      exact (Refines.refl _).bind (.goOn (ih hsites))
  | mark m _ ih => exact ih hsites sink
  | delegate ctx site _ ih =>
      have hfirst := hsites (ctx, site) List.mem_cons_self
      have hrest := ih fun x hx => hsites x (List.mem_cons_of_mem _ hx)
      simp only [perform, Printer.bind_apply]
      exact (hfirst sink).bind (.goOn hrest)
  | skip _ hsub ih => exact ih (fun x hx => hsites x (hsub.subset hx)) sink

theorem Java.Printer.bind_isSome {first next : Printer} (hfirst : ∀ sink, (first sink).isSome)
    (hnext : ∀ sink, (next sink).isSome) (sink : Sink) :
    ((do first; next : Printer) sink).isSome := by
  obtain ⟨y, hy⟩ := Option.isSome_iff_exists.mp (hfirst sink)
  rw [bind_apply, hy, Option.bind_some]
  rcases y with ⟨result, after⟩
  cases result with
  | ok _ => exact hnext after
  | error e => rfl

theorem Java.Printer.write_isSome (piece : String) (sink : Sink) : (write piece sink).isSome := by
  unfold write
  split <;> rfl

/-- A plan has a result if every site handed back has one. -/
theorem Plan.Hands.perform_isSome (h : p.Hands sites) {sub : Context → Site → Printer}
    (hsites : ∀ x ∈ sites, ∀ sink, (sub x.1 x.2 sink).isSome) (sink : Sink) :
    (p.perform sub sink).isSome := by
  induction h generalizing sink with
  | done => rfl
  | fail e => rfl
  | write piece _ ih => exact Printer.bind_isSome (Printer.write_isSome piece) (ih hsites) sink
  | mark m _ ih => exact ih hsites sink
  | delegate ctx site _ ih =>
      have hfirst := hsites (ctx, site) List.mem_cons_self
      have hrest := ih fun x hx => hsites x (List.mem_cons_of_mem _ hx)
      exact Printer.bind_isSome hfirst hrest sink
  | skip _ hsub ih => exact ih (fun x hx => hsites x (hsub.subset hx)) sink

end SourceRecovery
