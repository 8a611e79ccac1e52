import Mathlib.Data.List.Basic
import SourceRecovery.Generator
import SourceRecovery.Script

/-! # Registrations

A catalog is set up by a sequence of registrations and keeps them by kind. What it finds for a site
can be read off the sequence itself: the list for a kind holds the registrations for that kind, in
order, and no selector accepts an element of another kind. A dispatch nests the advices found, the
first outermost, around the rule found.
-/

namespace SourceRecovery

/-! ## The sequence -/

def Candidate.isFor {α : Type} (kind : Kind) (c : Candidate α) : Bool := c.selector.kind = kind

def Candidate.accepts {α : Type} (ctx : Context) (site : Site) (c : Candidate α) : Bool :=
  c.selector.accepts ctx site

namespace Registration

def selector : Registration → Selector
  | on selector _ => selector
  | around selector _ => selector

def rule? : Registration → Option (Candidate Rule)
  | on selector rule => some ⟨selector, rule⟩
  | around .. => none

def advice? : Registration → Option (Candidate Advice)
  | on .. => none
  | around selector advice => some ⟨selector, advice⟩

theorem selector_of_rule? (r : Registration) (c : Candidate Rule) (h : r.rule? = some c) :
    r.selector = c.selector := by
  cases r with
  | on selector rule =>
      cases h
      rfl
  | around selector advice => cases h

theorem selector_of_advice? (r : Registration) (c : Candidate Advice) (h : r.advice? = some c) :
    r.selector = c.selector := by
  cases r with
  | on selector rule => cases h
  | around selector advice =>
      cases h
      rfl

/-- The rule of the first registration in the sequence that accepts the site. -/
def firstRule? (registrations : List Registration) (ctx : Context) (site : Site) : Option Rule :=
  ((registrations.filterMap rule?).find? (Candidate.accepts ctx site)).map Candidate.handler

/-- The advices of all registrations in the sequence that accept the site. -/
def allAdvices (registrations : List Registration) (ctx : Context) (site : Site) : List Advice :=
  ((registrations.filterMap advice?).filter (Candidate.accepts ctx site)).map Candidate.handler

/-- Both sequences have the same rules and the same advices for every kind, in the same order. How
rules, advices and kinds alternate may differ. -/
def SameByKind (first second : List Registration) : Prop :=
  ∀ kind,
    (first.filterMap rule?).filter (Candidate.isFor kind) =
      (second.filterMap rule?).filter (Candidate.isFor kind) ∧
    (first.filterMap advice?).filter (Candidate.isFor kind) =
      (second.filterMap advice?).filter (Candidate.isFor kind)

end Registration

/-! ## The lists of a catalog -/

theorem Buckets.insert_apply {α : Type} (buckets : Buckets α) (c : Candidate α) (kind : Kind) :
    buckets.insert c kind = buckets kind ++ [c].filter (Candidate.isFor kind) := by
  by_cases h : kind = c.selector.kind
  · have hfor : c.isFor kind = true := decide_eq_true h.symm
    rw [h, insert_self, ← h, List.filter_cons_of_pos hfor, List.filter_nil]
  · have hfor : c.isFor kind = false := decide_eq_false (Ne.symm h)
    rw [insert_of_ne buckets h, List.filter_cons_of_neg (by simp [hfor]), List.filter_nil,
      List.append_nil]

namespace Catalog

open Registration

/-- One registration adds at most one candidate, to the list of its kind. -/
theorem register_rules (catalog : Catalog) (r : Registration) (kind : Kind) :
    (catalog.register r).rules kind =
      catalog.rules kind ++ r.rule?.toList.filter (Candidate.isFor kind) := by
  cases r with
  | on selector rule => exact Buckets.insert_apply catalog.rules ⟨selector, rule⟩ kind
  | around selector advice => exact (List.append_nil _).symm

theorem register_advices (catalog : Catalog) (r : Registration) (kind : Kind) :
    (catalog.register r).advices kind =
      catalog.advices kind ++ r.advice?.toList.filter (Candidate.isFor kind) := by
  cases r with
  | on selector rule => exact (List.append_nil _).symm
  | around selector advice => exact Buckets.insert_apply catalog.advices ⟨selector, advice⟩ kind

/-- If every registration adds to a list what it shows, the list shows the whole sequence. -/
theorem foldl_register {α : Type} (view : Catalog → List α) (shown : Registration → List α)
    (hstep : ∀ catalog r, view (register catalog r) = view catalog ++ shown r)
    (catalog : Catalog) (registrations : List Registration) :
    view (registrations.foldl register catalog) = view catalog ++ registrations.flatMap shown := by
  induction registrations generalizing catalog with
  | nil => exact (List.append_nil _).symm
  | cons r rest ih =>
      rw [List.foldl_cons, ih, hstep, List.flatMap_cons, List.append_assoc]

theorem rules_ofList (registrations : List Registration) (kind : Kind) :
    (ofList registrations).rules kind =
      (registrations.filterMap rule?).filter (Candidate.isFor kind) := by
  have hfold := foldl_register (·.rules kind) (·.rule?.toList.filter (Candidate.isFor kind))
    (fun catalog r => register_rules catalog r kind) {} registrations
  rw [List.filterMap_eq_flatMap_toList, List.filter_flatMap]
  exact hfold

theorem advices_ofList (registrations : List Registration) (kind : Kind) :
    (ofList registrations).advices kind =
      (registrations.filterMap advice?).filter (Candidate.isFor kind) := by
  have hfold := foldl_register (·.advices kind) (·.advice?.toList.filter (Candidate.isFor kind))
    (fun catalog r => register_advices catalog r kind) {} registrations
  rw [List.filterMap_eq_flatMap_toList, List.filter_flatMap]
  exact hfold

theorem ofList_eq_of_sameByKind {first second : List Registration} (h : SameByKind first second) :
    ofList first = ofList second := by
  have hrules : (ofList first).rules = (ofList second).rules := by
    funext kind
    rw [rules_ofList, rules_ofList, (h kind).1]
  have hadvices : (ofList first).advices = (ofList second).advices := by
    funext kind
    rw [advices_ofList, advices_ofList, (h kind).2]
  calc ofList first = ⟨(ofList first).rules, (ofList first).advices⟩ := rfl
    _ = ⟨(ofList second).rules, (ofList second).advices⟩ := by rw [hrules, hadvices]
    _ = ofList second := rfl

/-! ## What is found for a site -/

theorem isFor_of_accepts {α : Type} {c : Candidate α} {ctx : Context} {site : Site}
    (h : c.accepts ctx site = true) : c.isFor site.element.kind = true := by
  unfold Candidate.accepts Selector.accepts Selector.consult at h
  split at h
  · next hkind => exact decide_eq_true hkind.symm
  · exact absurd h Bool.false_ne_true

/-- Looking only at the candidates for its kind misses no candidate that accepts the site. -/
theorem filter_accepts_filter_isFor {α : Type} (ctx : Context) (site : Site)
    (cs : List (Candidate α)) :
    (cs.filter (Candidate.isFor site.element.kind)).filter (Candidate.accepts ctx site) =
      cs.filter (Candidate.accepts ctx site) := by
  rw [List.filter_filter]
  apply List.filter_congr
  intro c _
  cases h : c.accepts ctx site with
  | false => rfl
  | true => rw [isFor_of_accepts h]; rfl

theorem select_ofList (registrations : List Registration) (ctx : Context) (site : Site) :
    ((ofList registrations).select ctx site).rule = firstRule? registrations ctx site ∧
      ((ofList registrations).select ctx site).advices = allAdvices registrations ctx site := by
  constructor
  · calc ((ofList registrations).select ctx site).rule
        = (((ofList registrations).rules site.element.kind).find? (Candidate.accepts ctx site)).map
            Candidate.handler := firstMatch_fst ctx site _
      _ = firstRule? registrations ctx site := by
          rw [rules_ofList, ← List.head?_filter, filter_accepts_filter_isFor, List.head?_filter]
          rfl
  · calc ((ofList registrations).select ctx site).advices
        = (((ofList registrations).advices site.element.kind).filter
            (Candidate.accepts ctx site)).map Candidate.handler := allMatches_fst ctx site _
      _ = allAdvices registrations ctx site := by
          rw [advices_ofList, filter_accepts_filter_isFor]
          rfl

/-- What a catalog finds is what its registrations say in the order they were made, and only their
order for each kind matters to a generation. -/
theorem ofList_reads_sequence :
    (∀ (registrations : List Registration) (ctx : Context) (site : Site),
      ((ofList registrations).select ctx site).rule = firstRule? registrations ctx site ∧
      ((ofList registrations).select ctx site).advices = allAdvices registrations ctx site) ∧
    (∀ first second : List Registration, SameByKind first second →
      ∀ (c : Collaborators) (depth : Nat) (ctx : Context) (site : Site) (sink : Sink),
        (Generator.mk (ofList first) c).dispatcher depth ctx site sink =
          (Generator.mk (ofList second) c).dispatcher depth ctx site sink) := by
  refine ⟨select_ofList, ?_⟩
  intro first second hsame c depth ctx site sink
  rw [ofList_eq_of_sameByKind hsame]

namespace Layered

def constants : Registration := .on (.ofKind .constant) (Script.rule [.kind])

def returns : Registration := .on (.ofKind .return) (Script.rule [.write "return"])

def outer : Registration :=
  .around (.ofKind .constant) (Script.advice [.write "[", .proceed, .write "]"])

/-- Goes on twice, the first time with another element. -/
def inner : Registration :=
  .around (.ofKind .constant) (Script.advice [.proceedOn .return, .write "/", .proceed])

def registrations : List Registration := [constants, outer, returns, inner]

def reordered : List Registration := [returns, outer, inner, constants]

def context : Context where
  collaborators := {
    types := fun _ => none
    classFiles := .ofTable []
    decompiler := .ofTable []
    style := ({} : StyleOptions).style }

def site : Site where
  classFile := { name := .ofText "Main" }
  method := { name := "main", signature := ⟨[], .void⟩, flags := 9 }
  element := .constant (.ofValue (.int 1))

end Layered

theorem ofList_reads_sequence_layered :
    SameByKind Layered.registrations Layered.reordered ∧
    ((ofList Layered.registrations).select Layered.context Layered.site).advices.length = 2 ∧
    (∀ (c : Collaborators) (depth : Nat) (ctx : Context) (site : Site) (sink : Sink),
      (Generator.mk (ofList Layered.registrations) c).dispatcher depth ctx site sink =
        (Generator.mk (ofList Layered.reordered) c).dispatcher depth ctx site sink) := by
  have hsame : SameByKind Layered.registrations Layered.reordered := by
    intro kind
    cases kind <;> exact ⟨rfl, rfl⟩
  refine ⟨hsame, ?_, ofList_reads_sequence.2 _ _ hsame⟩
  rw [(ofList_reads_sequence.1 _ _ _).2]
  rfl

/-! ## Nesting -/

/-- The advices still ahead stand around the rule, each given the stages after it. -/
theorem Selection.proceed_eq_foldr (s : Selection) (fallback : Rule) (index : Nat) :
    s.proceed fallback index =
      (s.advices.drop index).foldr (fun advice next => advice next) (s.rule.getD fallback) := by
  fun_induction s.proceed fallback index with
  | case1 index advice hadvice ih =>
      obtain ⟨hlt, hget⟩ := List.getElem?_eq_some_iff.mp hadvice
      rw [List.drop_eq_getElem_cons hlt, List.foldr_cons, hget, ih]
  | case2 index hnone =>
      have hle : s.advices.length ≤ index := List.getElem?_eq_none_iff.mp hnone
      rw [List.drop_eq_nil_of_le hle, List.foldr_nil]

/-- The stages from an index on are the advices that accept the site around the first rule that
does. -/
theorem proceed_ofList (registrations : List Registration) (fallback : Rule) (ctx : Context)
    (site : Site) (index : Nat) :
    ((ofList registrations).select ctx site).proceed fallback index =
      ((allAdvices registrations ctx site).drop index).foldr (fun advice next => advice next)
        ((firstRule? registrations ctx site).getD fallback) := by
  obtain ⟨hrule, hadvices⟩ := select_ofList registrations ctx site
  rw [Selection.proceed_eq_foldr, hrule, hadvices]

/-- A dispatch runs the advices that accept the site, in the order of the registrations, folded from
the right over the first rule that accepts it. The fold is made once for the site: it is the same
function whatever context and site a stage hands on to the next, and however often. -/
theorem dispatch_folds_advices (registrations : List Registration) (fallback : Rule)
    (ctx : Context) (site : Site) :
    (∀ index, ((ofList registrations).select ctx site).proceed fallback index =
      ((allAdvices registrations ctx site).drop index).foldr (fun advice next => advice next)
        ((firstRule? registrations ctx site).getD fallback)) ∧
    (∀ depth sink, (ofList registrations).dispatch fallback (depth + 1) ctx site sink =
      (((allAdvices registrations ctx site).foldr (fun advice next => advice next)
          ((firstRule? registrations ctx site).getD fallback) ctx site).run
        ((ofList registrations).dispatch fallback depth) sink).after
        (((ofList registrations).select ctx site).opening ctx site)) := by
  refine ⟨proceed_ofList registrations fallback ctx site, ?_⟩
  intro depth sink
  rw [dispatch, Selection.stages, proceed_ofList, List.drop_zero]

-- The inner advice goes on twice, the first time with a return statement. The rule stays the one
-- that was found for the constant.
example :
    ((ofList
      [.on (.ofKind .constant) (Script.rule [.kind]),
       .on (.ofKind .return) (Script.rule [.write "return"]),
       .around (.ofKind .constant) (Script.advice [.write "[", .proceed, .write "]"]),
       .around (.ofKind .constant) (Script.advice [.proceedOn .return, .write "/", .proceed])]
      ).dispatch Java.builtin 1
        ⟨⟨fun _ => none, .ofTable [], .ofTable [], ({} : StyleOptions).style⟩, 0⟩
        ⟨{ name := .ofText "Main" }, { name := "main", signature := ⟨[], .void⟩, flags := 9 },
          .constant (.ofValue (.int 1))⟩ {}).sink.text = "[RETURN/CONSTANT]" := by
  decide

end Catalog

end SourceRecovery
