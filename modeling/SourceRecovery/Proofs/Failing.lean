import SourceRecovery.Proofs.Refusal

/-! # Plans that fail and plans that do not

A plan may be certain not to fail of itself, whatever becomes of the sites it hands back, or it may
be certain to fail before it hands back any. If every plan is of one of the two kinds, then a run
into a sink that takes everything fails exactly when it comes to a site whose plan fails: that site
is the last one given to the rules, and its error is the outcome.
-/

namespace SourceRecovery

/-! ## Plans -/

/-- The plan looks at no results and ends well if all the sites it hands back do. -/
inductive Plan.NeverFails : Plan → Prop
  | done : NeverFails .done
  | write (piece : String) {next : Plan} : NeverFails next → NeverFails (.write piece next)
  | mark (m : Mark) {next : Plan} : NeverFails next → NeverFails (.mark m next)
  | delegate (ctx : Context) (site : Site) {next : Plan} :
      NeverFails next → NeverFails (.delegate ctx site next)

/-- The plan hands nothing back, writes these pieces and fails. -/
inductive Plan.Breaks (e : GenerationError) : List String → Plan → Prop
  | fail : Breaks e [] (.fail e)
  | write (piece : String) {pieces : List String} {next : Plan} :
      Breaks e pieces next → Breaks e (piece :: pieces) (.write piece next)
  | mark (m : Mark) {pieces : List String} {next : Plan} :
      Breaks e pieces next → Breaks e pieces (.mark m next)

namespace Plan.NeverFails

theorem append {p q : Plan} (hp : p.NeverFails) (hq : q.NeverFails) : (p ++ q).NeverFails := by
  induction hp with
  | done => exact hq
  | write piece _ ih => exact ih.write piece
  | mark m _ ih => exact ih.mark m
  | delegate ctx site _ ih => exact ih.delegate ctx site

theorem text (piece : String) : (Plan.text piece).NeverFails := done.write piece

theorem generate (ctx : Context) (site : Site) (e : Element) :
    (ctx.generate site e).NeverFails := done.delegate ctx (site.focus e)

theorem concat {plans : List Plan} (h : ∀ p ∈ plans, p.NeverFails) :
    (Plan.concat plans).NeverFails := by
  induction plans with
  | nil => exact done
  | cons p rest ih =>
      obtain ⟨hp, hrest⟩ := List.forall_mem_cons.mp h
      exact hp.append (ih hrest)

theorem indentation (ctx : Context) : ctx.indentation.NeverFails := by
  apply concat
  intro p hp
  rw [List.eq_of_mem_replicate hp]
  exact text _

end Plan.NeverFails

namespace Plan.Breaks

variable {e : GenerationError} {pieces : List String}

theorem append {p : Plan} (h : p.Breaks e pieces) (q : Plan) : (p ++ q).Breaks e pieces := by
  induction h with
  | fail => exact fail
  | write piece _ ih => exact ih.write piece
  | mark m _ ih => exact ih.mark m

/-- Texts before a plan that fails come to the sink first. -/
theorem separated {before : List String} {p : Plan} (h : p.Breaks e pieces) (separator : String)
    (after : List Plan) :
    (Plan.separated separator (before.map Plan.text ++ p :: after)).Breaks e
      (before.flatMap (fun piece => [piece, separator]) ++ pieces) := by
  induction before with
  | nil =>
      cases after with
      | nil => exact h
      | cons q rest => exact (h.append (Plan.text separator)).append _
  | cons piece rest ih =>
      have hmore : ∃ q more, rest.map Plan.text ++ p :: after = q :: more :=
        List.exists_cons_of_ne_nil (by simp)
      obtain ⟨q, more, hcons⟩ := hmore
      rw [hcons] at ih
      rw [List.map_cons, List.cons_append, hcons]
      exact (ih.write separator).write piece

end Plan.Breaks

theorem Plan.Breaks.unique {p : Plan} {e f : GenerationError} {pieces others : List String}
    (h : p.Breaks e pieces) (h' : p.Breaks f others) : e = f := by
  induction h generalizing others with
  | fail => cases h'; rfl
  | write piece _ ih =>
      cases h' with
      | write _ hnext => exact ih hnext
  | mark m _ ih =>
      cases h' with
      | mark _ hnext => exact ih hnext

/-! ## Sites given to the rules -/

def Step.dispatched? : Step → Option (Nat × Site)
  | .dispatch level site _ _ => some (level, site)
  | .write _ => none
  | .mark _ => none

/-- The sites given to the rules in a run, with their levels, in order. -/
def Run.dispatches (r : Run) : List (Nat × Site) := r.steps.filterMap Step.dispatched?

theorem Run.dispatches_after (r : Run) (steps : List Step) :
    (r.after steps).dispatches = steps.filterMap Step.dispatched? ++ r.dispatches :=
  List.filterMap_append

theorem Plan.Breaks.run {p : Plan} {e : GenerationError} {pieces : List String}
    (h : p.Breaks e pieces) (dispatcher : Dispatcher) {sink : Sink} (hopen : sink.Open) :
    (p.run dispatcher sink).outcome = .error e ∧ (p.run dispatcher sink).dispatches = [] := by
  induction h generalizing sink with
  | fail => exact ⟨rfl, rfl⟩
  | write piece _ ih =>
      have hafter : Sink.Open { sink with text := sink.text ++ piece } := hopen
      rw [Plan.run_write_of_open dispatcher hopen]
      exact ih hafter
  | mark m _ ih => exact ih hopen

/-! ## Runs that fail at a fault -/

/-- Sites at which a run has to fail, with the errors it fails with there. -/
abbrev FaultAt := Nat × Site → GenerationError → Prop

/-- A run that failed has the error of its last site and came to no fault before; any other run came
to no fault at all. -/
inductive Run.StopsAtFault (fault : FaultAt) (r : Run) : Prop
  | failed {e : GenerationError} {before : List (Nat × Site)} {last : Nat × Site} :
      r.outcome = .error e → r.dispatches = before ++ [last] → fault last e →
      (∀ x ∈ before, ∀ f, ¬ fault x f) → StopsAtFault fault r
  | clear : (∀ e, r.outcome ≠ .error e) → (∀ x ∈ r.dispatches, ∀ f, ¬ fault x f) →
      StopsAtFault fault r

namespace Run.StopsAtFault

variable {fault : FaultAt} {r : Run}

/-- Steps that come to no fault may stand before. -/
theorem after (h : r.StopsAtFault fault) {steps : List Step}
    (hsteps : ∀ x ∈ steps.filterMap Step.dispatched?, ∀ f, ¬ fault x f) :
    (r.after steps).StopsAtFault fault := by
  have hjoin {xs : List (Nat × Site)} (hxs : ∀ x ∈ xs, ∀ f, ¬ fault x f) :
      ∀ x ∈ steps.filterMap Step.dispatched? ++ xs, ∀ f, ¬ fault x f :=
    fun x hx => (List.mem_append.mp hx).elim (hsteps x) (hxs x)
  cases h with
  | failed he hlast hfault hbefore =>
      refine failed he ?_ hfault (hjoin hbefore)
      rw [Run.dispatches_after, hlast, List.append_assoc]
  | clear hnone hsites =>
      refine clear hnone ?_
      rw [Run.dispatches_after]
      exact hjoin hsites

theorem andThen (h : r.StopsAtFault fault) {next : Sink → Run}
    (hnext : (next r.sink).StopsAtFault fault) : (r.andThen next).StopsAtFault fault := by
  by_cases hok : r.outcome = .ok
  · rw [Run.andThen_of_ok hok]
    cases h with
    | failed he _ _ _ => rw [hok] at he; cases he
    | clear _ hsites => exact hnext.after hsites
  · rw [Run.andThen_of_ne_ok hok]
    exact h

/-- A run fails with the errors of the faults it comes to. -/
theorem outcome_eq_error_iff (h : r.StopsAtFault fault)
    (hunique : ∀ x e f, fault x e → fault x f → e = f) (e : GenerationError) :
    r.outcome = .error e ↔ ∃ x ∈ r.dispatches, fault x e := by
  cases h with
  | @failed f before last hf hlast hfault hbefore =>
      rw [hf, hlast, Outcome.error.injEq]
      constructor
      · intro he
        rw [← he]
        exact ⟨last, List.mem_append_right _ List.mem_cons_self, hfault⟩
      · rintro ⟨x, hx, hx'⟩
        rcases List.mem_append.mp hx with hx | hx
        · exact absurd hx' (hbefore x hx e)
        · rw [List.mem_singleton.mp hx] at hx'
          exact hunique last f e hfault hx'
  | clear hnone hsites =>
      constructor
      · exact fun he => absurd he (hnone e)
      · rintro ⟨x, hx, hx'⟩
        exact absurd hx' (hsites x hx e)

/-- Only the last site can be at fault. -/
theorem not_fault_of_mem_dropLast (h : r.StopsAtFault fault) {x : Nat × Site}
    (hx : x ∈ r.dispatches.dropLast) (f : GenerationError) : ¬ fault x f := by
  cases h with
  | failed _ hlast _ hbefore =>
      rw [hlast, List.dropLast_concat] at hx
      exact hbefore x hx f
  | clear _ hsites => exact hsites x (List.dropLast_subset _ hx) f

end Run.StopsAtFault

/-- A plan that never fails of itself runs into the faults of the sites it hands back. -/
theorem Plan.NeverFails.stopsAtFault {p : Plan} (h : p.NeverFails) {dispatcher : Dispatcher}
    (hkeeps : dispatcher.KeepsPolicy) {fault : FaultAt}
    (hsites : ∀ x ∈ p.sites, ∀ sink : Sink, sink.Open →
      (dispatcher x.1 x.2 sink).StopsAtFault fault)
    {sink : Sink} (hopen : sink.Open) : (p.run dispatcher sink).StopsAtFault fault := by
  induction h generalizing sink with
  | done => exact .clear (fun _ => Outcome.noConfusion) (List.forall_mem_nil _)
  | write piece _ ih =>
      have hafter : Sink.Open { sink with text := sink.text ++ piece } := hopen
      rw [Plan.run_write_of_open dispatcher hopen]
      exact (ih hsites hafter).after (List.forall_mem_nil _)
  | mark m _ ih => exact (ih hsites hopen).after (List.forall_mem_nil _)
  | delegate ctx site _ ih =>
      have hfirst := hsites (ctx, site) List.mem_cons_self sink hopen
      have hafter := hopen.of_policy_eq (hkeeps ctx site sink)
      have hrest := ih (fun x hx => hsites x (List.mem_cons_of_mem _ hx)) hafter
      exact hfirst.andThen hrest

end SourceRecovery
