import SourceRecovery.Proofs.Registration

/-! # Predicates in the order they are asked

Choosing the rule and the advices for a site asks predicates, and a predicate may leave notes each
time. Which are asked, and in which order, is told here from the sequence of registrations: the rules
for the kind of the element up to the first that fits, then all advices for it, and of each the
predicates up to the first that rejects. The notes of these stand in front of everything that a
dispatch does, and the stages are made of handlers alone, so going on to the next asks nobody.
-/

namespace SourceRecovery

/-! ## What is asked -/

/-- The elements up to and including the first that passes the test, or all if none does. -/
def upToFirst {α : Type} (test : α → Bool) (xs : List α) : List α := xs.take (xs.findIdx test + 1)

namespace Predicate

def rejects (ctx : Context) (site : Site) (p : Predicate) : Bool := !(p ctx site).accepts

def notes (ctx : Context) (site : Site) (asked : List Predicate) : List String :=
  asked.flatMap fun p => (p ctx site).notes

end Predicate

namespace Candidate

variable {α : Type}

def fits (ctx : Context) (site : Site) (c : Candidate α) : Bool :=
  c.selector.predicates.all fun p => (p ctx site).accepts

/-- The predicates in the order they were added, up to the first that rejects the site. -/
def asked (ctx : Context) (site : Site) (c : Candidate α) : List Predicate :=
  upToFirst (Predicate.rejects ctx site) c.selector.predicates

end Candidate

namespace Registration

/-- The predicates asked while choosing for a site. -/
def asked (registrations : List Registration) (ctx : Context) (site : Site) : List Predicate :=
  let rules := (registrations.filterMap rule?).filter (Candidate.isFor site.element.kind)
  let advices := (registrations.filterMap advice?).filter (Candidate.isFor site.element.kind)
  (upToFirst (Candidate.fits ctx site) rules).flatMap (Candidate.asked ctx site) ++
    advices.flatMap (Candidate.asked ctx site)

end Registration

/-! ## Asking -/

section UpToFirst

variable {α : Type} {test : α → Bool} {x : α}

theorem upToFirst_cons_of_pos (h : test x = true) (xs : List α) :
    upToFirst test (x :: xs) = [x] := by
  rw [upToFirst, List.findIdx_cons, h]
  rfl

theorem upToFirst_cons_of_neg (h : test x = false) (xs : List α) :
    upToFirst test (x :: xs) = x :: upToFirst test xs := by
  rw [upToFirst, List.findIdx_cons, h]
  rfl

theorem mem_of_mem_upToFirst {xs : List α} (h : x ∈ upToFirst test xs) : x ∈ xs :=
  List.mem_of_mem_take h

end UpToFirst

section Asking

variable {α : Type} (ctx : Context) (site : Site)

theorem Predicate.notes_append (first second : List Predicate) :
    notes ctx site (first ++ second) = notes ctx site first ++ notes ctx site second :=
  List.flatMap_append

theorem Predicate.consultAll_eq (ps : List Predicate) :
    consultAll ctx site ps =
      ⟨ps.all fun p => (p ctx site).accepts, notes ctx site (upToFirst (rejects ctx site) ps)⟩ := by
  induction ps with
  | nil => rfl
  | cons p rest ih =>
      cases haccepts : (p ctx site).accepts with
      | false =>
          have hrejects : rejects ctx site p = true := by rw [rejects, haccepts]; rfl
          rw [consultAll, Verdict.and, if_neg (by simp [haccepts]), upToFirst_cons_of_pos hrejects,
            notes, List.flatMap_singleton, List.all_cons, haccepts, Bool.false_and, ← haccepts]
      | true =>
          have hgoesOn : rejects ctx site p = false := by rw [rejects, haccepts]; rfl
          rw [consultAll, Verdict.and, if_pos haccepts, ih, upToFirst_cons_of_neg hgoesOn,
            List.all_cons, haccepts, Bool.true_and]
          rfl

/-- A candidate for the kind of the element asks its predicates and fits if they all accept. -/
theorem Candidate.consult_eq {c : Candidate α} (h : c.isFor site.element.kind = true) :
    c.selector.consult ctx site = ⟨c.fits ctx site, Predicate.notes ctx site (c.asked ctx site)⟩ := by
  have hkind : site.element.kind = c.selector.kind := (of_decide_eq_true h).symm
  rw [Selector.consult, if_pos hkind, Predicate.consultAll_eq]
  rfl

namespace Catalog

/-- Looking for a rule asks the candidates up to the first that fits. -/
theorem firstMatch_notes {cs : List (Candidate α)}
    (h : ∀ c ∈ cs, c.isFor site.element.kind = true) :
    (firstMatch ctx site cs).2 = Predicate.notes ctx site
      ((upToFirst (Candidate.fits ctx site) cs).flatMap (Candidate.asked ctx site)) := by
  induction cs with
  | nil => rfl
  | cons c rest ih =>
      obtain ⟨hfor, hrest⟩ := List.forall_mem_cons.mp h
      rw [firstMatch, Candidate.consult_eq ctx site hfor]
      cases hfits : c.fits ctx site with
      | true =>
          rw [upToFirst_cons_of_pos hfits, List.flatMap_singleton]
          rfl
      | false =>
          rw [upToFirst_cons_of_neg hfits, List.flatMap_cons, Predicate.notes_append, ← ih hrest]
          rfl

/-- Looking for advices asks all candidates. -/
theorem allMatches_notes {cs : List (Candidate α)}
    (h : ∀ c ∈ cs, c.isFor site.element.kind = true) :
    (allMatches ctx site cs).2 =
      Predicate.notes ctx site (cs.flatMap (Candidate.asked ctx site)) := by
  induction cs with
  | nil => rfl
  | cons c rest ih =>
      obtain ⟨hfor, hrest⟩ := List.forall_mem_cons.mp h
      rw [allMatches, Candidate.consult_eq ctx site hfor, List.flatMap_cons,
        Predicate.notes_append, ← ih hrest]

theorem isFor_of_mem_filter {kind : Kind} {c : Candidate α} {cs : List (Candidate α)}
    (h : c ∈ cs.filter (Candidate.isFor kind)) : c.isFor kind = true := (List.mem_filter.mp h).2

/-- Choosing leaves the notes of the predicates that are asked, in their order. -/
theorem select_notes (registrations : List Registration) :
    ((ofList registrations).select ctx site).notes =
      Predicate.notes ctx site (Registration.asked registrations ctx site) := by
  rw [Registration.asked, Predicate.notes_append, ← rules_ofList, ← advices_ofList,
    ← firstMatch_notes, ← allMatches_notes]
  · rfl
  · rw [advices_ofList]
    exact fun c hc => isFor_of_mem_filter hc
  · rw [rules_ofList]
    exact fun c hc => isFor_of_mem_filter hc

end Catalog

end Asking

/-! ## Dispatch -/

namespace Catalog

open Registration

theorem opening_ofList (registrations : List Registration) (ctx : Context) (site : Site) :
    ((ofList registrations).select ctx site).opening ctx site =
      (Predicate.notes ctx site (asked registrations ctx site)).map
          (fun text => .mark (.note text)) ++
        [.dispatch ctx.level site (firstRule? registrations ctx site).isSome
          (allAdvices registrations ctx site).length] := by
  obtain ⟨hrule, hadvices⟩ := select_ofList registrations ctx site
  rw [Selection.opening, select_notes, hrule, hadvices]

theorem exists_registration_of_mem_view {α : Type} {view : Registration → Option (Candidate α)}
    (hview : ∀ r c, view r = some c → r.selector = c.selector) {registrations : List Registration}
    {ctx : Context} {site : Site} {c : Candidate α}
    (hc : c ∈ (registrations.filterMap view).filter (Candidate.isFor site.element.kind))
    {p : Predicate} (hp : p ∈ c.asked ctx site) :
    ∃ r ∈ registrations, p ∈ r.selector.predicates := by
  obtain ⟨r, hr, hshown⟩ := List.mem_filterMap.mp (List.mem_filter.mp hc).1
  refine ⟨r, hr, ?_⟩
  rw [hview r c hshown]
  exact mem_of_mem_upToFirst hp

/-- Only registered predicates are asked. -/
theorem exists_registration_of_mem_asked {registrations : List Registration} {ctx : Context}
    {site : Site} {p : Predicate} (h : p ∈ asked registrations ctx site) :
    ∃ r ∈ registrations, p ∈ r.selector.predicates := by
  rcases List.mem_append.mp h with hrule | hadvice
  · obtain ⟨c, hc, hp⟩ := List.mem_flatMap.mp hrule
    exact exists_registration_of_mem_view selector_of_rule? (mem_of_mem_upToFirst hc) hp
  · obtain ⟨c, hc, hp⟩ := List.mem_flatMap.mp hadvice
    exact exists_registration_of_mem_view selector_of_advice? hc hp

/-- A dispatch begins with the notes of the predicates asked for the site, and everything that the
stages do comes behind them. The stages are the chosen advices around the chosen rule, from every
index on and for every context and site that they are given, with no predicate among them. If each
predicate notes its name when it is asked, the notes are the names of those asked, in order. -/
theorem dispatch_asks_before_running (registrations : List Registration) (fallback : Rule)
    (ctx : Context) (site : Site) :
    (∀ depth sink, ((ofList registrations).dispatch fallback (depth + 1) ctx site sink).steps =
      (Predicate.notes ctx site (asked registrations ctx site)).map
          (fun text => .mark (.note text)) ++
        .dispatch ctx.level site (firstRule? registrations ctx site).isSome
          (allAdvices registrations ctx site).length ::
        (((allAdvices registrations ctx site).foldr (fun advice next => advice next)
          ((firstRule? registrations ctx site).getD fallback) ctx site).run
            ((ofList registrations).dispatch fallback depth) sink).steps) ∧
    (∀ index, ((ofList registrations).select ctx site).proceed fallback index =
      ((allAdvices registrations ctx site).drop index).foldr (fun advice next => advice next)
        ((firstRule? registrations ctx site).getD fallback)) ∧
    (∀ name : Predicate → String,
      (∀ r ∈ registrations, ∀ p ∈ r.selector.predicates, (p ctx site).notes = [name p]) →
      Predicate.notes ctx site (asked registrations ctx site) =
        (asked registrations ctx site).map name) := by
  refine ⟨?_, proceed_ofList registrations fallback ctx site, ?_⟩
  · intro depth sink
    rw [dispatch, Selection.stages, proceed_ofList, opening_ofList, List.drop_zero, Run.after,
      List.append_assoc, List.singleton_append]
  · intro name hnotes
    rw [Predicate.notes, ← List.flatMap_pure_eq_map]
    apply List.flatMap_congr
    intro p hp
    obtain ⟨r, hr, hlisted⟩ := exists_registration_of_mem_asked hp
    exact hnotes r hr p hlisted

namespace Noted

def selector (kind : Kind) (predicates : List (String × Bool)) : Selector :=
  ⟨kind, predicates.map fun (text, answer) => .noting text answer⟩

/-- The second rule fits; one advice fits and goes on twice. -/
def registrations : List Registration :=
  [.around (selector .constant [("outer", true)]) (Script.advice [.proceed, .proceed]),
   .on (selector .constant [("first", true), ("then", false), ("never", true)])
     (Script.rule [.write "?"]),
   .on (selector .return [("elsewhere", true)]) (Script.rule [.write "return"]),
   .on (selector .constant [("second", true)]) (Script.rule [.kind, .note "ran"]),
   .on (selector .constant [("late", true)]) (Script.rule [.write "!"]),
   .around (selector .constant [("inner", false), ("hidden", true)]) (Script.advice [])]

def run : Run :=
  (ofList registrations).dispatch Java.builtin 1 Layered.context Layered.site {}

end Noted

theorem dispatch_asks_before_running_noted :
    (asked Noted.registrations Layered.context Layered.site).map
        (fun p => String.join (p Layered.context Layered.site).notes) =
      ["first", "then", "second", "outer", "inner"] ∧
    Predicate.notes Layered.context Layered.site
        (asked Noted.registrations Layered.context Layered.site) =
      ["first", "then", "second", "outer", "inner"] ∧
    Noted.run.notes = ["first", "then", "second", "outer", "inner", "ran", "ran"] := by
  have hnames := (dispatch_asks_before_running Noted.registrations Java.builtin Layered.context
    Layered.site).2.2 (fun p => String.join (p Layered.context Layered.site).notes) (by decide)
  have hasked : (asked Noted.registrations Layered.context Layered.site).map
        (fun p => String.join (p Layered.context Layered.site).notes) =
      ["first", "then", "second", "outer", "inner"] := by decide
  exact ⟨hasked, hnames.trans hasked, by decide⟩

end Catalog

end SourceRecovery
