import Mathlib.Data.List.Flatten
import SourceRecovery.Element.Walk
import SourceRecovery.Proofs.Depth

/-! # Sites that a plan hands back

A plan that never looks at the result of a part of it can be read beforehand: the sites it may hand
back, and their order, do not depend on the sink or on the rules. Two facts about its runs follow
from the sites alone: whether the run finishes, and which elements are given to the rules in it.
-/

namespace SourceRecovery

/-! ## Plans read beforehand -/

/-- The plan looks at no results, and hands back some of these sites, in this order. -/
inductive Plan.Hands : Plan → List (Context × Site) → Prop
  | done : Hands .done []
  | fail (e : GenerationError) : Hands (.fail e) []
  | write (piece : String) {next : Plan} {sites : List (Context × Site)} :
      Hands next sites → Hands (.write piece next) sites
  | mark (m : Mark) {next : Plan} {sites : List (Context × Site)} :
      Hands next sites → Hands (.mark m next) sites
  | delegate (ctx : Context) (site : Site) {next : Plan} {sites : List (Context × Site)} :
      Hands next sites → Hands (.delegate ctx site next) ((ctx, site) :: sites)
  | skip {p : Plan} {sites more : List (Context × Site)} :
      Hands p sites → sites.Sublist more → Hands p more

namespace Plan.Hands

theorem nothing {p : Plan} (h : p.Hands []) (sites : List (Context × Site)) : p.Hands sites :=
  h.skip (List.nil_sublist sites)

theorem append {p q : Plan} {a b : List (Context × Site)} (hp : p.Hands a) (hq : q.Hands b) :
    (p ++ q).Hands (a ++ b) := by
  induction hp with
  | done => exact hq
  | fail e => exact (fail e).nothing _
  | write piece _ ih => exact ih.write piece
  | mark m _ ih => exact ih.mark m
  | delegate ctx site _ ih => exact ih.delegate ctx site
  | skip _ hsub ih => exact ih.skip (hsub.append_right b)

theorem text (piece : String) : (Plan.text piece).Hands [] := done.write piece

theorem text_append (piece : String) {p : Plan} {sites : List (Context × Site)}
    (h : p.Hands sites) : (Plan.text piece ++ p).Hands sites := (text piece).append h

theorem append_text {p : Plan} {sites : List (Context × Site)} (h : p.Hands sites)
    (piece : String) : (p ++ Plan.text piece).Hands sites := by
  simpa using h.append (text piece)

theorem texts (pieces : List String) : (Plan.texts pieces).Hands [] := by
  induction pieces with
  | nil => exact done
  | cons piece rest ih => exact text_append piece ih

theorem generate (ctx : Context) (site : Site) (e : Element) :
    (ctx.generate site e).Hands [(ctx, site.focus e)] := done.delegate ctx (site.focus e)

end Plan.Hands

/-- The sites in a plan, up to where it looks at a result. -/
def Plan.sites : Plan → List (Context × Site)
  | done => []
  | fail _ => []
  | write _ next => next.sites
  | mark _ next => next.sites
  | delegate ctx site next => (ctx, site) :: next.sites
  | attempt _ _ => []
  | capture _ _ => []

theorem Plan.Hands.sites_sublist {p : Plan} {sites : List (Context × Site)} (h : p.Hands sites) :
    p.sites.Sublist sites := by
  induction h with
  | done => exact .slnil
  | fail e => exact .slnil
  | write piece _ ih => exact ih
  | mark m _ ih => exact ih
  | delegate ctx site _ ih => exact ih.cons_cons (ctx, site)
  | skip _ hsub ih => exact ih.trans hsub

/-! ## Runs of such plans -/

/-- A run can only be cut short at a site that was handed back. -/
theorem Plan.Hands.finished {p : Plan} {sites : List (Context × Site)} (h : p.Hands sites)
    {dispatcher : Dispatcher}
    (hsites : ∀ x ∈ sites, ∀ sink, (dispatcher x.1 x.2 sink).Finished) (sink : Sink) :
    (p.run dispatcher sink).Finished := by
  induction h generalizing sink with
  | done => simp [Plan.run, Run.Finished]
  | fail e => simp [Plan.run, Run.Finished]
  | write piece _ ih =>
      simp only [Plan.run]
      split
      · exact ih hsites _
      · simp [Run.Finished]
  | mark m _ ih => exact ih hsites sink
  | delegate ctx site _ ih =>
      have hfirst := hsites (ctx, site) List.mem_cons_self
      have hrest := ih fun x hx => hsites x (List.mem_cons_of_mem _ hx)
      rw [Plan.run, Run.finished_andThen]
      exact ⟨hfirst sink, fun _ => hrest _⟩
  | skip _ hsub ih => exact ih (fun x hx => hsites x (hsub.subset hx)) sink

def Step.visited? : Step → Option Element
  | .dispatch _ site _ _ => some site.element
  | .write _ => none
  | .mark _ => none

/-- The elements given to the rules in a run, in order. -/
def Run.visited (r : Run) : List Element := r.steps.filterMap Step.visited?

@[simp] theorem Run.visited_after (r : Run) (steps : List Step) :
    (r.after steps).visited = steps.filterMap Step.visited? ++ r.visited := by
  simp [Run.visited, Run.after]

/-! ## What is seen of a run -/

section

variable {α : Type} {view : Step → Option α}

theorem Run.filterMap_andThen_sublist {r : Run} {next : Sink → Run} {a b : List α}
    (ha : (r.steps.filterMap view).Sublist a)
    (hb : ∀ sink, ((next sink).steps.filterMap view).Sublist b) :
    ((r.andThen next).steps.filterMap view).Sublist (a ++ b) := by
  unfold Run.andThen
  split
  · rw [Run.after, List.filterMap_append]
    exact ha.append (hb r.sink)
  · exact ha.trans (List.sublist_append_left a b)

/-- If only dispatches are seen of a run, then what is seen is part of what is seen, in turn, of the
sites handed back. -/
theorem Plan.Hands.filterMap_sublist {p : Plan} {sites : List (Context × Site)} (h : p.Hands sites)
    (hwrite : ∀ piece, view (.write piece) = none) (hmark : ∀ m, view (.mark m) = none)
    {dispatcher : Dispatcher} {seen : Context × Site → List α}
    (hsites : ∀ x ∈ sites, ∀ sink,
      ((dispatcher x.1 x.2 sink).steps.filterMap view).Sublist (seen x)) (sink : Sink) :
    ((p.run dispatcher sink).steps.filterMap view).Sublist (sites.flatMap seen) := by
  induction h generalizing sink with
  | done => exact List.nil_sublist _
  | fail e => exact List.nil_sublist _
  | write piece _ ih =>
      have hnone : [Step.write piece].filterMap view = [] := by simp [hwrite]
      simp only [Plan.run]
      split
      · rw [Run.after, List.filterMap_append, hnone]
        exact ih hsites _
      · rw [hnone]
        exact List.nil_sublist _
  | mark m _ ih =>
      have hnone : [Step.mark m].filterMap view = [] := by simp [hmark]
      rw [Plan.run, Run.after, List.filterMap_append, hnone]
      exact ih hsites sink
  | delegate ctx site _ ih =>
      have hfirst := hsites (ctx, site) List.mem_cons_self
      have hrest := ih fun x hx => hsites x (List.mem_cons_of_mem _ hx)
      rw [Plan.run, List.flatMap_cons]
      exact Run.filterMap_andThen_sublist (hfirst sink) hrest
  | skip _ hsub ih =>
      have hrun := ih (fun x hx => hsites x (hsub.subset hx)) sink
      exact hrun.trans (hsub.flatMap _)

end

/-- If every site handed back visits some nodes of its own element, in order, then the run visits
some nodes of the elements handed back, in order. -/
theorem Plan.Hands.visited_sublist {p : Plan} {sites : List (Context × Site)} (h : p.Hands sites)
    {dispatcher : Dispatcher}
    (hsites : ∀ x ∈ sites, ∀ sink, (dispatcher x.1 x.2 sink).visited.Sublist x.2.element.nodes)
    (sink : Sink) :
    (p.run dispatcher sink).visited.Sublist (sites.flatMap fun x => x.2.element.nodes) :=
  h.filterMap_sublist (fun _ => rfl) (fun _ => rfl) hsites sink

/-! ## Runs of one plan with two dispatchers -/

/-- A relation between runs that passes through the steps of a run holds between the runs of a plan
if it holds at the sites the plan hands back. -/
theorem Plan.Hands.run_related {related : Run → Run → Prop} {d d' : Dispatcher}
    (hrefl : ∀ r, related r r)
    (hafter : ∀ r s steps, related r s → related (r.after steps) (s.after steps))
    (handThen : ∀ ctx site sink (next : Plan), related (d ctx site sink) (d' ctx site sink) →
      (∀ sink, related (next.run d sink) (next.run d' sink)) →
      related ((d ctx site sink).andThen (next.run d)) ((d' ctx site sink).andThen (next.run d')))
    {p : Plan} {sites : List (Context × Site)} (h : p.Hands sites)
    (hsites : ∀ x ∈ sites, ∀ sink, related (d x.1 x.2 sink) (d' x.1 x.2 sink)) (sink : Sink) :
    related (p.run d sink) (p.run d' sink) := by
  induction h generalizing sink with
  | done => exact hrefl _
  | fail e => exact hrefl _
  | write piece _ ih =>
      simp only [Plan.run]
      split
      · exact hafter _ _ _ (ih hsites _)
      · exact hrefl _
  | mark m _ ih => exact hafter _ _ _ (ih hsites sink)
  | delegate ctx site _ ih =>
      have hfirst := hsites (ctx, site) List.mem_cons_self
      have hrest := ih fun x hx => hsites x (List.mem_cons_of_mem _ hx)
      exact handThen ctx site sink _ (hfirst sink) hrest
  | skip _ hsub ih => exact ih (fun x hx => hsites x (hsub.subset hx)) sink

/-- Only what is done at the sites handed back matters to a run. -/
theorem Plan.Hands.run_congr {d d' : Dispatcher} {p : Plan} {sites : List (Context × Site)}
    (h : p.Hands sites)
    (hsites : ∀ x ∈ sites, ∀ sink, d x.1 x.2 sink = d' x.1 x.2 sink) (sink : Sink) :
    p.run d sink = p.run d' sink := by
  refine h.run_related (fun _ => rfl) ?_ ?_ hsites sink
  · intro r s steps hrs
    rw [hrs]
  · intro ctx site sink next hfirst hrest
    rw [hfirst, funext hrest]

/-! ## Runs that come to the same -/

/-- The runs end alike, leave the same sink and give the same elements to the rules. How they chose
rules and advices may differ. -/
structure Run.Alike (r s : Run) : Prop where
  outcome : r.outcome = s.outcome
  sink : r.sink = s.sink
  visited : r.visited = s.visited

namespace Run.Alike

theorem refl (r : Run) : r.Alike r := ⟨rfl, rfl, rfl⟩

variable {r s : Run}

theorem trans {t : Run} (hrs : r.Alike s) (hst : s.Alike t) : r.Alike t :=
  ⟨hrs.outcome.trans hst.outcome, hrs.sink.trans hst.sink, hrs.visited.trans hst.visited⟩

theorem after (h : r.Alike s) {steps others : List Step}
    (hsteps : steps.filterMap Step.visited? = others.filterMap Step.visited?) :
    (r.after steps).Alike (s.after others) where
  outcome := h.outcome
  sink := h.sink
  visited := by rw [visited_after, visited_after, hsteps, h.visited]

theorem andThen (h : r.Alike s) {f g : Sink → Run} (hnext : ∀ sink, (f sink).Alike (g sink)) :
    (r.andThen f).Alike (s.andThen g) := by
  unfold Run.andThen
  rw [h.outcome, h.sink]
  split
  · exact (hnext s.sink).after h.visited
  · exact h

theorem resume (h : r.Alike s) {f g : Except GenerationError Unit → Run}
    (hnext : ∀ result, (f result).Alike (g result)) : (r.resume f).Alike (s.resume g) := by
  unfold Run.resume
  rw [h.outcome]
  split
  · exact (hnext _).after h.visited
  · exact (hnext _).after h.visited
  · exact h

end Run.Alike

theorem Plan.Hands.run_alike {p : Plan} {sites : List (Context × Site)} (h : p.Hands sites)
    {d d' : Dispatcher}
    (hsites : ∀ x ∈ sites, ∀ sink, (d x.1 x.2 sink).Alike (d' x.1 x.2 sink)) (sink : Sink) :
    (p.run d sink).Alike (p.run d' sink) := by
  refine h.run_related Run.Alike.refl ?_ ?_ hsites sink
  · intro r s steps hrs
    exact hrs.after rfl
  · intro ctx site sink next hfirst hrest
    exact hfirst.andThen hrest

end SourceRecovery
