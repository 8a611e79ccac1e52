import SourceRecovery.Proofs.Refusal

/-! # Plans in two styles

The same plan in two styles differs in the names it writes and in whether it shows a `this` that a
style leaves out. Runs of two such plans into sinks that take everything end alike and make the same
requests. If no `this` is shown on one side only and all names are the same, they leave the same
text as well.

Showing `this` takes one more dispatch, so the second run may be cut short where the first is not;
here the dispatchers of the two runs are related at the sites that are handed back, at whatever
depths.
-/

namespace SourceRecovery

def Collaborators.inStyle (c : Collaborators) (style : CodeStyle) : Collaborators :=
  { c with style }

/-! ## What a run asks for -/

def Step.request? : Step → Option Mark
  | .mark (.decompile method) => some (.decompile method)
  | .mark (.resolveClass type) => some (.resolveClass type)
  | _ => none

/-- The requests to the decompiler and for class files in a run, in order. -/
def Run.requests (r : Run) : List Mark := r.steps.filterMap Step.request?

theorem Run.requests_after (r : Run) (steps : List Step) :
    (r.after steps).requests = steps.filterMap Step.request? ++ r.requests :=
  List.filterMap_append

theorem Run.requests_andThen_of_ok {r : Run} (h : r.outcome = .ok) (next : Sink → Run) :
    (r.andThen next).requests = r.requests ++ (next r.sink).requests := by
  rw [andThen_of_ok h, requests_after]
  rfl

/-- The second run ends as the first and makes the same requests; in strict relation it leaves the
same text as well. -/
structure Run.Echoes (strict : Prop) (r echo : Run) : Prop where
  outcome : echo.outcome = r.outcome
  requests : echo.requests = r.requests
  text : strict → echo.sink.text = r.sink.text

theorem Run.Echoes.after {strict : Prop} {r echo : Run} (h : r.Echoes strict echo)
    {steps echoSteps : List Step}
    (hsteps : echoSteps.filterMap Step.request? = steps.filterMap Step.request?) :
    (r.after steps).Echoes strict (echo.after echoSteps) where
  outcome := h.outcome
  requests := by rw [requests_after, requests_after, hsteps, h.requests]
  text := h.text

/-- The runs are related from sinks that take everything, as far as the first finishes and, for
the strict relation, asks only for what is known. -/
def Echoing (strict : Prop) (known : Mark → Prop) (first second : Sink → Run) : Prop :=
  ∀ a b : Sink, a.Open → b.Open → (strict → b.text = a.text) → (first a).Finished →
    (strict → ∀ m ∈ (first a).requests, known m) → (first a).Echoes strict (second b)

/-- A run that ends well without a request, unless it is cut short. -/
def Run.Silent (r : Run) : Prop := r.Finished → r.outcome = .ok ∧ r.requests = []

namespace Echoing

variable {strict : Prop} {known : Mark → Prop}

theorem after {f g : Sink → Run} (h : Echoing strict known f g) {steps echoSteps : List Step}
    (hsteps : echoSteps.filterMap Step.request? = steps.filterMap Step.request?) :
    Echoing strict known (fun a => (f a).after steps) (fun b => (g b).after echoSteps) := by
  intro a b ha hb htext hfinished hknown
  have hrest : strict → ∀ m ∈ (f a).requests, known m := by
    intro hstrict m hm
    apply hknown hstrict m
    rw [Run.requests_after]
    exact List.mem_append_right _ hm
  exact (h a b ha hb htext hfinished hrest).after hsteps

theorem andThen {f g next echoNext : Sink → Run} (h : Echoing strict known f g)
    (hf : ∀ a, (f a).sink.policy = a.policy) (hg : ∀ b, (g b).sink.policy = b.policy)
    (hnext : Echoing strict known next echoNext) :
    Echoing strict known (fun a => (f a).andThen next) (fun b => (g b).andThen echoNext) := by
  intro a b ha hb htext hfinished hknown
  dsimp only at hknown ⊢
  obtain ⟨hfirst, hlater⟩ := (Run.finished_andThen _ _).mp hfinished
  by_cases hok : (f a).outcome = .ok
  · simp only [Run.requests_andThen_of_ok hok, List.mem_append] at hknown
    have hecho := h a b ha hb htext hfirst fun hstrict m hm => hknown hstrict m (.inl hm)
    have hechoNext := hnext (f a).sink (g b).sink (ha.of_policy_eq (hf a)) (hb.of_policy_eq (hg b))
      hecho.text (hlater hok) fun hstrict m hm => hknown hstrict m (.inr hm)
    have hechoOk : (g b).outcome = .ok := hecho.outcome.trans hok
    rw [Run.andThen_of_ok hok, Run.andThen_of_ok hechoOk]
    exact hechoNext.after hecho.requests
  · rw [Run.andThen_of_ne_ok hok] at hknown ⊢
    have hecho := h a b ha hb htext hfirst hknown
    have hechoFails : (g b).outcome ≠ .ok := by rwa [hecho.outcome]
    rw [Run.andThen_of_ne_ok hechoFails]
    exact hecho

/-- What is silent may be left out on one side, if the text does not matter. -/
theorem silent_andThen (hloose : ¬ strict) {f next g : Sink → Run}
    (hf : ∀ a, (f a).sink.policy = a.policy) (hsilent : ∀ a, a.Open → (f a).Silent)
    (hnext : Echoing strict known next g) :
    Echoing strict known (fun a => (f a).andThen next) g := by
  intro a b ha hb htext hfinished hknown
  dsimp only
  obtain ⟨hfirst, hlater⟩ := (Run.finished_andThen _ _).mp hfinished
  obtain ⟨hok, hnone⟩ := hsilent a ha hfirst
  have hecho := hnext (f a).sink b (ha.of_policy_eq (hf a)) hb (fun h => absurd h hloose)
    (hlater hok) fun h => absurd h hloose
  refine ⟨?_, ?_, fun h => absurd h hloose⟩
  · rw [Run.andThen_of_ok hok, Run.after_outcome, hecho.outcome]
  · rw [Run.requests_andThen_of_ok hok, hnone, List.nil_append, hecho.requests]

theorem andThen_silent (hloose : ¬ strict) {f g next : Sink → Run}
    (hg : ∀ b, (g b).sink.policy = b.policy) (hfinishes : ∀ b, b.Open → (g b).Finished)
    (hsilent : ∀ b, b.Open → (g b).Silent) (hnext : Echoing strict known f next) :
    Echoing strict known f (fun b => (g b).andThen next) := by
  intro a b ha hb htext hfinished hknown
  dsimp only
  obtain ⟨hok, hnone⟩ := hsilent b hb (hfinishes b hb)
  have hecho := hnext a (g b).sink ha (hb.of_policy_eq (hg b)) (fun h => absurd h hloose)
    hfinished fun h => absurd h hloose
  refine ⟨?_, ?_, fun h => absurd h hloose⟩
  · rw [Run.andThen_of_ok hok, Run.after_outcome, hecho.outcome]
  · rw [Run.requests_andThen_of_ok hok, hnone, List.nil_append, hecho.requests]

end Echoing

/-! ## Plans -/

/-- The plans differ only in what the style decides: the first is in style `s`, the second in style
`t`. In strict relation the names are the same and `this` is shown in both or in neither. -/
inductive Plan.Restyled (c : Collaborators) (s t : CodeStyle) (strict : Prop) : Plan → Plan → Prop
  | done : Restyled c s t strict .done .done
  | fail (e : GenerationError) : Restyled c s t strict (.fail e) (.fail e)
  | write {a b : String} {p q : Plan} : (strict → b = a) → Restyled c s t strict p q →
      Restyled c s t strict (.write a p) (.write b q)
  | mark (m : Mark) {p q : Plan} : Restyled c s t strict p q →
      Restyled c s t strict (.mark m p) (.mark m q)
  | delegate (level : Nat) (site : Site) {p q : Plan} : Restyled c s t strict p q →
      Restyled c s t strict (.delegate ⟨c.inStyle s, level⟩ site p)
        (.delegate ⟨c.inStyle t, level⟩ site q)
  | shown (level : Nat) {site : Site} {p q : Plan} : ¬ strict → site.element.isThis = true →
      Restyled c s t strict p q →
      Restyled c s t strict (.delegate ⟨c.inStyle s, level⟩ site (.write "." p)) q
  | omitted (level : Nat) {site : Site} {p q : Plan} : ¬ strict → site.element.isThis = true →
      Restyled c s t strict p q →
      Restyled c s t strict p (.delegate ⟨c.inStyle t, level⟩ site (.write "." q))

namespace Plan.Restyled

variable {c : Collaborators} {s t : CodeStyle} {strict : Prop}

theorem append {p q p' q' : Plan} (h : Restyled c s t strict p q)
    (h' : Restyled c s t strict p' q') : Restyled c s t strict (p ++ p') (q ++ q') := by
  induction h with
  | done => exact h'
  | fail e => exact .fail e
  | write hpiece _ ih => exact .write hpiece ih
  | mark m _ ih => exact .mark m ih
  | delegate level site _ ih => exact .delegate level site ih
  | shown level hloose hthis _ ih => exact .shown level hloose hthis ih
  | omitted level hloose hthis _ ih => exact .omitted level hloose hthis ih

theorem text (piece : String) : Restyled c s t strict (.text piece) (.text piece) :=
  .write (fun _ => rfl) .done

theorem name {a b : String} (h : strict → b = a) :
    Restyled c s t strict (.text a) (.text b) := .write h .done

theorem generate (level : Nat) (site : Site) (e : Element) :
    Restyled c s t strict (Context.generate ⟨c.inStyle s, level⟩ site e)
      (Context.generate ⟨c.inStyle t, level⟩ site e) := .delegate level (site.focus e) .done

/-- A plan that hands nothing back is the same in every style. -/
theorem of_hands {p : Plan} (h : p.Hands []) : Restyled c s t strict p p := by
  generalize hsites : ([] : List (Context × Site)) = sites at h
  induction h with
  | done => exact .done
  | fail e => exact .fail e
  | write piece _ ih => exact .write (fun _ => rfl) (ih hsites)
  | mark m _ ih => exact .mark m (ih hsites)
  | delegate ctx site _ _ => cases hsites
  | skip _ hsub ih =>
      rw [← hsites] at hsub
      exact ih (List.sublist_nil.mp hsub).symm

/-! ## Runs of related plans -/

theorem run_dot (d : Dispatcher) {sink : Sink} (h : sink.Open) :
    (Plan.text ".").run d sink =
      ⟨.ok, { sink with text := sink.text ++ "." }, [.write "."]⟩ := by
  rw [Plan.text, Plan.run_write_of_open d h]
  rfl

variable {d d' : Dispatcher} {ctx : Context} {site : Site}

theorem finished_this (hd : d.KeepsPolicy) {a : Sink} (ha : a.Open)
    (h : (d ctx site a).Finished) : ((Plan.delegate ctx site (.text ".")).run d a).Finished := by
  rw [Plan.run, Run.finished_andThen, run_dot d (ha.of_policy_eq (hd ctx site a))]
  exact ⟨h, fun _ => Outcome.noConfusion⟩

/-- `this` with its dot makes no request. -/
theorem silent_this (hd : d.KeepsPolicy) {a : Sink} (ha : a.Open) (h : (d ctx site a).Silent) :
    ((Plan.delegate ctx site (.text ".")).run d a).Silent := by
  intro hfinished
  rw [Plan.run, Run.finished_andThen] at hfinished
  obtain ⟨hok, hnone⟩ := h hfinished.1
  have hdot := run_dot d (ha.of_policy_eq (hd ctx site a))
  constructor
  · rw [Plan.run, Run.andThen_of_ok hok, Run.after_outcome, hdot]
  · rw [Plan.run, Run.requests_andThen_of_ok hok, hnone, hdot]
    rfl

/-- Related plans have related runs, if their dispatchers are related at the sites handed back. -/
theorem echoing {p q : Plan} (h : Restyled c s t strict p q) {known : Mark → Prop}
    (hd : d.KeepsPolicy) (hd' : d'.KeepsPolicy)
    (hthis : ∀ level site a, site.element.isThis = true → a.Open →
      (d ⟨c.inStyle s, level⟩ site a).Silent)
    (hthis' : ∀ level site b, site.element.isThis = true → b.Open →
      (d' ⟨c.inStyle t, level⟩ site b).Finished ∧ (d' ⟨c.inStyle t, level⟩ site b).Silent)
    (hsites : ∀ level site, ((⟨c.inStyle s, level⟩ : Context), site) ∈ p.sites →
      Echoing strict known (d ⟨c.inStyle s, level⟩ site) (d' ⟨c.inStyle t, level⟩ site)) :
    Echoing strict known (p.run d) (q.run d') := by
  induction h with
  | done => exact fun a b _ _ htext _ _ => ⟨rfl, rfl, htext⟩
  | fail e => exact fun a b _ _ htext _ _ => ⟨rfl, rfl, htext⟩
  | @write first second p q hpiece _ ih =>
      intro a b ha hb htext hfinished hknown
      have ha' : Sink.Open { a with text := a.text ++ first } := ha
      have hb' : Sink.Open { b with text := b.text ++ second } := hb
      rw [Plan.run_write_of_open d ha] at hfinished hknown ⊢
      rw [Plan.run_write_of_open d' hb]
      refine (ih hsites _ _ ha' hb' (fun hstrict => ?_) hfinished hknown).after rfl
      rw [htext hstrict, hpiece hstrict]
  | mark m _ ih => exact (ih hsites).after rfl
  | delegate level site _ ih =>
      have hfirst := hsites level site List.mem_cons_self
      have hrest := ih fun level site h => hsites level site (List.mem_cons_of_mem _ h)
      exact hfirst.andThen (hd _ site) (hd' _ site) hrest
  | @shown level site p q hloose hsite _ ih =>
      have hrest := ih fun level site h => hsites level site (List.mem_cons_of_mem _ h)
      have hsplit : (Plan.delegate ⟨c.inStyle s, level⟩ site (.write "." p)).run d =
          fun a => ((Plan.delegate ⟨c.inStyle s, level⟩ site (.text ".")).run d a).andThen
            (p.run d) :=
        funext (Plan.run_append d (.delegate ⟨c.inStyle s, level⟩ site (.text ".")) p)
      rw [hsplit]
      exact Echoing.silent_andThen hloose (Plan.run_policy hd _)
        (fun a ha => silent_this hd ha (hthis level site a hsite ha)) hrest
  | @omitted level site p q hloose hsite _ ih =>
      have hsplit : (Plan.delegate ⟨c.inStyle t, level⟩ site (.write "." q)).run d' =
          fun b => ((Plan.delegate ⟨c.inStyle t, level⟩ site (.text ".")).run d' b).andThen
            (q.run d') :=
        funext (Plan.run_append d' (.delegate ⟨c.inStyle t, level⟩ site (.text ".")) q)
      rw [hsplit]
      exact Echoing.andThen_silent hloose (Plan.run_policy hd' _)
        (fun b hb => finished_this hd' hb (hthis' level site b hsite hb).1)
        (fun b hb => silent_this hd' hb (hthis' level site b hsite hb).2) (ih hsites)

end Plan.Restyled

end SourceRecovery
