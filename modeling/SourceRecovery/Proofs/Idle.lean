import SourceRecovery.Proofs.Handed
import SourceRecovery.Proofs.Registration

/-! # Registrations that make no difference

An advice that only goes on to the next stage, and a rule behind one that takes every element of its
kind, change nothing wherever they are registered: not the outcome, not the text, not the elements
that are given to the rules. The rules and advices around them are arbitrary, and what is equal for
a site is equal for every site handed back below it.
-/

namespace SourceRecovery

/-! ## Plans with two dispatchers -/

/-- Plans cannot tell dispatchers apart whose runs come to the same. -/
theorem Plan.run_alike {d d' : Dispatcher}
    (h : ∀ ctx site sink, (d ctx site sink).Alike (d' ctx site sink)) (p : Plan) (sink : Sink) :
    (p.run d sink).Alike (p.run d' sink) := by
  induction p generalizing sink with
  | done => exact .refl _
  | fail e => exact .refl _
  | write piece next ih =>
      simp only [run]
      split
      · exact (ih _).after rfl
      · exact .refl _
  | mark m next ih => exact (ih sink).after rfl
  | delegate ctx site next ih => exact (h ctx site sink).andThen ih
  | attempt body next ihbody ihnext =>
      have hbody := ihbody sink
      simp only [run]
      rw [hbody.sink]
      exact hbody.resume fun result => ihnext result _
  | capture body next ihbody ihnext =>
      have hbody := ihbody {}
      have hkept : Run.Alike { body.run d {} with sink := sink }
          { body.run d' {} with sink := sink } := ⟨hbody.outcome, rfl, hbody.visited⟩
      simp only [run]
      rw [hbody.sink]
      exact hkept.resume fun result => ihnext result _ sink

/-! ## Idle registrations -/

/-- After these registrations the next one makes no difference: it is an advice that goes on once
with what it was given, or a rule for a kind whose elements are all taken already. -/
inductive Registration.Idle (before : List Registration) : Registration → Prop
  | advice (selector : Selector) {advice : Advice} :
      (∀ next ctx site, advice next ctx site = next ctx site) →
      Idle before (.around selector advice)
  | rule (selector : Selector) (rule : Rule) {earlier : Rule} :
      .on (.ofKind selector.kind) earlier ∈ before → Idle before (.on selector rule)

theorem Selector.accepts_ofKind (kind : Kind) (ctx : Context) (site : Site) :
    (Selector.ofKind kind).accepts ctx site = decide (site.element.kind = kind) := by
  by_cases h : site.element.kind = kind <;>
    simp [Selector.accepts, Selector.consult, Selector.ofKind, Predicate.consultAll, h]

namespace Registration

variable {before after : List Registration} (ctx : Context) (site : Site)

theorem firstRule?_around (selector : Selector) (advice : Advice) :
    firstRule? (before ++ .around selector advice :: after) ctx site =
      firstRule? (before ++ after) ctx site := by
  simp only [firstRule?, List.filterMap_append]
  rfl

theorem allAdvices_on (selector : Selector) (rule : Rule) :
    allAdvices (before ++ .on selector rule :: after) ctx site =
      allAdvices (before ++ after) ctx site := by
  simp only [allAdvices, List.filterMap_append]
  rfl

/-- A rule that stands behind one for all elements of its kind is never the first. -/
theorem firstRule?_on_of_mem {selector : Selector} {earlier : Rule}
    (h : .on (.ofKind selector.kind) earlier ∈ before) (rule : Rule) :
    firstRule? (before ++ .on selector rule :: after) ctx site =
      firstRule? (before ++ after) ctx site := by
  have hmem : ⟨.ofKind selector.kind, earlier⟩ ∈ before.filterMap rule? :=
    List.mem_filterMap.mpr ⟨_, h, rfl⟩
  have hsplit : (.on selector rule :: after).filterMap rule? =
      ⟨selector, rule⟩ :: after.filterMap rule? := rfl
  simp only [firstRule?, List.filterMap_append, List.find?_append, hsplit]
  cases hfirst : (before.filterMap rule?).find? (Candidate.accepts ctx site) with
  | some c => rfl
  | none =>
      -- Nothing before takes the site, so it is of another kind and the new rule rejects it too.
      have hrejected := List.find?_eq_none.mp hfirst _ hmem
      have hnew : ¬ Candidate.accepts ctx site ⟨selector, rule⟩ = true := by
        intro haccepts
        have hkind : selector.kind = site.element.kind :=
          of_decide_eq_true (Catalog.isFor_of_accepts haccepts)
        apply hrejected
        show (Selector.ofKind selector.kind).accepts ctx site = true
        rw [Selector.accepts_ofKind]
        exact decide_eq_true hkind.symm
      rw [List.find?_cons_of_neg hnew]

/-- An advice that only goes on is nothing around the stages after it. -/
theorem foldr_allAdvices_around (selector : Selector) {advice : Advice}
    (h : ∀ next ctx site, advice next ctx site = next ctx site) (stage : Rule) :
    (allAdvices (before ++ .around selector advice :: after) ctx site).foldr
        (fun advice next => advice next) stage =
      (allAdvices (before ++ after) ctx site).foldr (fun advice next => advice next) stage := by
  have hadvice (next : Rule) : advice next = next := funext fun ctx => funext (h next ctx)
  have hsplit : (.around selector advice :: after).filterMap advice? =
      ⟨selector, advice⟩ :: after.filterMap advice? := rfl
  simp only [allAdvices, List.filterMap_append, List.filter_append, List.map_append,
    List.foldr_append, hsplit]
  cases haccepts : Candidate.accepts ctx site ⟨selector, advice⟩ with
  | true =>
      rw [List.filter_cons_of_pos haccepts, List.map_cons, List.foldr_cons]
      exact congrArg (List.foldr _ · _) (hadvice _)
  | false => rw [List.filter_cons_of_neg (by simp [haccepts])]

end Registration

namespace Catalog

open Registration

variable {before after : List Registration} {r : Registration}

/-- One step: the stages for a site are the same with an idle registration and without it. -/
theorem stages_insert_idle (h : r.Idle before) (fallback : Rule) (ctx : Context) (site : Site) :
    ((ofList (before ++ r :: after)).select ctx site).stages fallback =
      ((ofList (before ++ after)).select ctx site).stages fallback := by
  obtain ⟨hrule, hadvices⟩ := select_ofList (before ++ r :: after) ctx site
  obtain ⟨hrule', hadvices'⟩ := select_ofList (before ++ after) ctx site
  rw [Selection.stages, Selection.stages, Selection.proceed_eq_foldr, Selection.proceed_eq_foldr,
    List.drop_zero, List.drop_zero, hrule, hadvices, hrule', hadvices']
  cases h with
  | advice selector hpasses =>
      rw [firstRule?_around, foldr_allAdvices_around ctx site selector hpasses]
  | rule selector rule hmem => rw [firstRule?_on_of_mem ctx site hmem, allAdvices_on]

theorem opening_visited (catalog : Catalog) (ctx : Context) (site : Site) :
    ((catalog.select ctx site).opening ctx site).filterMap Step.visited? = [site.element] := by
  rw [Selection.opening, List.filterMap_append, List.filterMap_map]
  have hnotes (notes : List String) :
      notes.filterMap (Step.visited? ∘ fun text => .mark (.note text)) = [] := by
    induction notes with
    | nil => rfl
    | cons note rest ih => exact ih
  rw [hnotes]
  rfl

/-- Wherever an idle registration is put into a sequence, every generation ends as it does without
it, leaves the same sink and gives the same elements to the rules, at whatever depth. -/
theorem dispatch_insert_idle (before after : List Registration) (r : Registration)
    (h : r.Idle before) (c : Collaborators) (depth : Nat) (ctx : Context) (site : Site)
    (sink : Sink) :
    ((Generator.mk (ofList (before ++ r :: after)) c).dispatcher depth ctx site sink).Alike
      ((Generator.mk (ofList (before ++ after)) c).dispatcher depth ctx site sink) := by
  simp only [Generator.dispatcher]
  induction depth generalizing ctx site sink with
  | zero => exact .refl _
  | succ depth ih =>
      rw [dispatch, dispatch, stages_insert_idle h]
      refine (Plan.run_alike ih _ sink).after ?_
      rw [opening_visited, opening_visited]

namespace Surplus

def returns : Registration := .on (.ofKind .returnValue) (Script.rule [.write "give ", .children])

def constants : Registration := .on (.ofKind .constant) (Script.rule [.type])

def doubled : Registration :=
  .around (.ofKind .constant) (Script.advice [.proceed, .write "/", .proceed])

/-- Comes after the rule for all returns. -/
def shadowed : Registration :=
  .on ((Selector.ofKind .returnValue).filter (.atLevel 0)) (Script.rule [.write "never"])

def passing : Registration :=
  .around ((Selector.ofKind .constant).filter (.noting "asked" true)) (Script.advice [.proceed])

def site : Site := Layered.site.focus (.returnValue (.constant (.ofValue (.int 1))))

theorem shadowed_idle : shadowed.Idle [returns, constants] :=
  .rule _ _ List.mem_cons_self

theorem passing_idle : passing.Idle [returns, doubled] := by
  refine .advice _ fun next ctx site => ?_
  exact Plan.append_done (next ctx site)

def render (registrations : List Registration) : Run :=
  (Generator.mk (ofList registrations) Layered.context.collaborators).dispatcher 3 Layered.context
    site {}

end Surplus

theorem dispatch_insert_idle_surplus :
    (Surplus.shadowed.Idle [Surplus.returns, Surplus.constants] ∧
      (Surplus.render [Surplus.returns, Surplus.constants, Surplus.shadowed,
        Surplus.doubled]).Alike
        (Surplus.render [Surplus.returns, Surplus.constants, Surplus.doubled])) ∧
    (Surplus.passing.Idle [Surplus.returns, Surplus.doubled] ∧
      (Surplus.render [Surplus.returns, Surplus.doubled, Surplus.passing,
        Surplus.constants]).Alike
        (Surplus.render [Surplus.returns, Surplus.doubled, Surplus.constants])) ∧
    (Surplus.render [Surplus.returns, Surplus.doubled, Surplus.passing,
      Surplus.constants]).sink.text = "give int/int" := by
  refine ⟨⟨Surplus.shadowed_idle, ?_⟩, ⟨Surplus.passing_idle, ?_⟩, by decide⟩
  · exact dispatch_insert_idle [Surplus.returns, Surplus.constants] [Surplus.doubled] _
      Surplus.shadowed_idle _ 3 _ _ _
  · exact dispatch_insert_idle [Surplus.returns, Surplus.doubled] [Surplus.constants] _
      Surplus.passing_idle _ 3 _ _ _

end Catalog

end SourceRecovery
