import Mathlib.Data.Set.Defs
import SourceRecovery.Proofs.Refusal
import SourceRecovery.Proofs.Registration
import SourceRecovery.Proofs.Termination

/-! # Rules of the host beside the Java rules

A host may register rules and advices of its own before, between and after the Java rules. They
cannot be noticed until an element of one of their kinds is given to the rules. If the tree and the
bodies that come into it hold no such element, generation is the same run. If the host only adds
what the Java rules lack, a rule for assignments to fields, its run takes up where the other one
failed and keeps what was written there.
-/

namespace SourceRecovery

/-! ## Registrations of the host -/

/-- The third list is a merge of the first two, each in its own order. -/
inductive Interleaves {α : Type} : List α → List α → List α → Prop
  | nil : Interleaves [] [] []
  | left (x : α) {xs ys zs : List α} : Interleaves xs ys zs → Interleaves (x :: xs) ys (x :: zs)
  | right (y : α) {xs ys zs : List α} : Interleaves xs ys zs → Interleaves xs (y :: ys) (y :: zs)

namespace Interleaves

variable {α β : Type} {xs ys zs : List α}

theorem append (xs ys : List α) : Interleaves xs ys (xs ++ ys) := by
  induction xs with
  | nil =>
      induction ys with
      | nil => exact nil
      | cons y rest ih => exact ih.right y
  | cons x rest ih => exact ih.left x

theorem swap (h : Interleaves xs ys zs) : Interleaves ys xs zs := by
  induction h with
  | nil => exact nil
  | left x _ ih => exact ih.right x
  | right y _ ih => exact ih.left y

/-- A view that shows nothing of the second list shows the first. -/
theorem filterMap_eq (h : Interleaves xs ys zs) {f : α → Option β} (hys : ∀ y ∈ ys, f y = none) :
    zs.filterMap f = xs.filterMap f := by
  induction h with
  | nil => rfl
  | left x _ ih => rw [List.filterMap_cons, List.filterMap_cons, ih hys]
  | right y _ ih =>
      obtain ⟨hy, hrest⟩ := List.forall_mem_cons.mp hys
      rw [List.filterMap_cons, hy, ih hrest]

end Interleaves

namespace Registration

def kind (r : Registration) : Kind := r.selector.kind

end Registration

namespace Catalog

open Registration

variable {base host all : List Registration}

/-- Registrations for other kinds leave the candidates for a kind alone. -/
theorem filter_isFor_of_absent {α : Type} {view : Registration → Option (Candidate α)}
    (hview : ∀ r c, view r = some c → r.selector = c.selector) (h : Interleaves base host all)
    {kind : Kind} (habsent : ∀ r ∈ host, r.kind ≠ kind) :
    (all.filterMap view).filter (Candidate.isFor kind) =
      (base.filterMap view).filter (Candidate.isFor kind) := by
  rw [List.filter_filterMap, List.filter_filterMap]
  apply h.filterMap_eq
  intro r hr
  cases hc : view r with
  | none => rfl
  | some c =>
      have hother : c.selector.kind ≠ kind := by
        rw [← hview r c hc]
        exact habsent r hr
      simp [Option.filter, Candidate.isFor, hother]

theorem select_of_absent (h : Interleaves base host all) {site : Site}
    (habsent : ∀ r ∈ host, r.kind ≠ site.element.kind) (ctx : Context) :
    (ofList all).select ctx site = (ofList base).select ctx site := by
  have hrules := filter_isFor_of_absent selector_of_rule? h habsent
  have hadvices := filter_isFor_of_absent selector_of_advice? h habsent
  rw [select, select, rules_ofList, rules_ofList, advices_ofList, advices_ofList, hrules, hadvices]

end Catalog

/-! ## Trees without elements of some kinds -/

def Element.Avoids (kinds : Set Kind) (e : Element) : Prop := ∀ x ∈ e.nodes, x.kind ∉ kinds

/-- No statement that is returned for a method holds an element of one of these kinds. -/
def Decompiler.Avoids (kinds : Set Kind) (decompiler : Decompiler) : Prop :=
  ∀ method body, decompiler method = .ok body → ∀ e ∈ body, e.Avoids kinds

theorem Decompiler.avoids_ofTable {kinds : Set Kind}
    {bodies : List (String × Except DecompileError (List Element))}
    (h : ∀ entry ∈ bodies, ∀ e ∈ entry.2.toOption.getD [], e.Avoids kinds) :
    (ofTable bodies).Avoids kinds := by
  intro method body hbody
  unfold ofTable at hbody
  split at hbody
  · next found hlookup =>
      rw [hbody] at hlookup
      obtain ⟨before, after, hsplit, _⟩ := List.lookup_eq_some_iff.mp hlookup
      have hmem : (method.name, Except.ok body) ∈ bodies := by
        rw [hsplit]
        exact List.mem_append_right before List.mem_cons_self
      exact h _ hmem
  · cases hbody

namespace Element.Avoids

variable {kinds : Set Kind} {e x : Element}

theorem of_mem_nodes (h : e.Avoids kinds) (hx : x ∈ e.nodes) : x.Avoids kinds :=
  fun y hy => h y ((nodes_sublist_of_mem_nodes hx).subset hy)

theorem of_mem_body {decompiler : Decompiler} (h : decompiler.Avoids kinds) {file : ClassFile}
    {i : Inlining} (hx : x ∈ i.body decompiler file) : x.Avoids kinds := by
  obtain ⟨declared, _, hstatement⟩ := Inlining.exists_declared_of_mem_body hx
  cases hbody : decompiler (Java.withCaptured declared i.hasReceiver i.target.captured) with
  | error e =>
      rw [hbody] at hstatement
      cases hstatement
  | ok body =>
      rw [hbody] at hstatement
      exact h _ body hbody x hstatement

/-- Whatever is written for an element avoids the kinds again. -/
theorem of_mem_sources {decompiler : Decompiler} (hbodies : decompiler.Avoids kinds)
    (h : e.Avoids kinds) {file : ClassFile}
    (hx : x ∈ (e.sources decompiler file).flatMap Element.nodes) : x.Avoids kinds := by
  obtain ⟨source, hsource, hnode⟩ := List.mem_flatMap.mp hx
  refine of_mem_nodes ?_ hnode
  cases part_of_mem_sources hsource with
  | child hchild =>
      apply h.of_mem_nodes
      rw [nodes_eq]
      exact List.mem_cons_of_mem e (List.mem_flatMap.mpr ⟨source, hchild, source.mem_nodes_self⟩)
  | statement _ hstatement => exact of_mem_body hbodies hstatement

end Element.Avoids

namespace Java

section

variable {host all : List Registration} (h : Interleaves registrations host all)

include h

theorem dispatch_succ_of_absent {site : Site}
    (habsent : ∀ r ∈ host, r.kind ≠ site.element.kind) (depth : Nat) (ctx : Context)
    (sink : Sink) :
    (Catalog.ofList all).dispatch builtin (depth + 1) ctx site sink =
      ((plan ctx site).run ((Catalog.ofList all).dispatch builtin depth) sink).after
        [.dispatch ctx.level site (ruleFor? ctx site.element).isSome 0] := by
  have hselect : (Catalog.ofList all).select ctx site = ⟨ruleFor? ctx site.element, [], []⟩ :=
    (Catalog.select_of_absent h habsent ctx).trans (select_catalog ctx site)
  rw [Catalog.dispatch, hselect]
  rfl

/-- One step: what is handed back for a tree that avoids the kinds avoids them too, so it is enough
that the runs agree on such trees. -/
theorem dispatch_succ_eq_of_avoids {kinds : Set Kind} (hhost : ∀ r ∈ host, r.kind ∈ kinds)
    {c : Collaborators} (hbodies : c.decompiler.Avoids kinds) {depth : Nat} {site : Site}
    (htree : site.element.Avoids kinds)
    (hbelow : ∀ level y sink, y.Avoids kinds →
      (Catalog.ofList all).dispatch builtin depth ⟨c, level⟩ (site.focus y) sink =
        catalog.dispatch builtin depth ⟨c, level⟩ (site.focus y) sink)
    (level : Nat) (sink : Sink) :
    (Catalog.ofList all).dispatch builtin (depth + 1) ⟨c, level⟩ site sink =
      catalog.dispatch builtin (depth + 1) ⟨c, level⟩ site sink := by
  have habsent : ∀ r ∈ host, r.kind ≠ site.element.kind := by
    intro r hr hkind
    exact htree site.element site.element.mem_nodes_self (hkind ▸ hhost r hr)
  obtain ⟨next, hnext, hrenders⟩ := renders_plan ⟨c, level⟩ site
  obtain ⟨sites, hands, hsites⟩ := hrenders.exists_hands
  have hrun : (plan ⟨c, level⟩ site).run ((Catalog.ofList all).dispatch builtin depth) sink =
      (plan ⟨c, level⟩ site).run (catalog.dispatch builtin depth) sink := by
    apply hands.run_congr
    intro x hx sink
    obtain ⟨y, hy, hxy⟩ := hsites x hx
    have havoids : y.Avoids kinds := .of_mem_sources hbodies htree hy
    rw [hxy]
    rcases hnext with hnext | hnext
    · rw [hnext]
      exact hbelow level y sink havoids
    · rw [hnext]
      exact hbelow (level + 1) y sink havoids
  rw [dispatch_succ_of_absent h habsent, dispatch_succ, hrun]

end

/-- Rules and advices of the host for kinds that occur neither in the tree nor in a body the
decompiler returns make no difference, however they are mixed with the Java rules: the run is the
same, with its outcome, its text and its steps. -/
theorem generation_conservative (kinds : Set Kind) (host all : List Registration)
    (hhost : ∀ r ∈ host, r.kind ∈ kinds) (h : Interleaves registrations host all)
    (c : Collaborators) (hbodies : c.decompiler.Avoids kinds) (site : Site)
    (htree : site.element.Avoids kinds) (depth level : Nat) (sink : Sink) :
    (Generator.mk (.ofList all) c).dispatcher depth ⟨c, level⟩ site sink =
      (Generator.mk catalog c).dispatcher depth ⟨c, level⟩ site sink := by
  simp only [Generator.dispatcher]
  induction depth generalizing level site sink with
  | zero => rfl
  | succ depth ih =>
      apply dispatch_succ_eq_of_avoids h hhost hbodies htree
      intro level y sink havoids
      exact ih (site.focus y) havoids level sink

/-! ## Rules for elements that do not occur -/

namespace Absent

def kinds : Set Kind := {kind | kind = .constant ∨ kind = .goto}

/-- Would take constants away from the Java rules. -/
def constants : Registration := .on (.ofKind .constant) (Script.rule [.write "?"])

def jumps : Registration := .around (.ofKind .goto) (Script.advice [.proceed, .proceed])

def mixed : List Registration := constants :: (registrations ++ [jumps])

def bodies : List (String × Except DecompileError (List Element)) :=
  [("lambda$0", .ok [.returnValue (.lambda none (Nested.inPlace "lambda$1"))]),
   ("lambda$1", .ok [.return]),
   ("access$000", .ok
     [.returnValue (.fieldReference (some (.this Nested.outer)) ⟨Nested.outer, .int, "count"⟩)])]

def collaborators : Collaborators := { Nested.collaborators with decompiler := .ofTable bodies }

def site : Site where
  classFile := Nested.classFile
  method := { name := "main", signature := ⟨[], .void⟩, flags := 9 }
  element := Nested.root

theorem mem_kinds : ∀ r ∈ [constants, jumps], r.kind ∈ kinds := by
  intro r hr
  rcases List.mem_cons.mp hr with hr | hr
  · exact .inl (by rw [hr]; rfl)
  · exact .inr (by rw [List.mem_singleton.mp hr]; rfl)

theorem interleaves : Interleaves registrations [constants, jumps] mixed :=
  (Interleaves.append registrations [jumps]).right constants

theorem bodies_avoid : collaborators.decompiler.Avoids kinds :=
  Decompiler.avoids_ofTable
    (by decide : ∀ entry ∈ bodies, ∀ e ∈ entry.2.toOption.getD [], ∀ x ∈ e.nodes,
      ¬ (x.kind = .constant ∨ x.kind = .goto))

theorem tree_avoids : site.element.Avoids kinds :=
  (by decide : ∀ x ∈ Nested.root.nodes, ¬ (x.kind = .constant ∨ x.kind = .goto))

end Absent

theorem generation_conservative_absent :
    (∀ r ∈ [Absent.constants, Absent.jumps], r.kind ∈ Absent.kinds) ∧
    Interleaves registrations [Absent.constants, Absent.jumps] Absent.mixed ∧
    Absent.collaborators.decompiler.Avoids Absent.kinds ∧
    Absent.site.element.Avoids Absent.kinds ∧
    (Generator.mk (.ofList Absent.mixed) Absent.collaborators).dispatcher 9
        ⟨Absent.collaborators, 0⟩ Absent.site {} =
      (Generator.mk catalog Absent.collaborators).dispatcher 9 ⟨Absent.collaborators, 0⟩
        Absent.site {} ∧
    ((Generator.mk catalog Absent.collaborators).dispatcher 9 ⟨Absent.collaborators, 0⟩
      Absent.site {}).sink.text = "new Outer(() -> () -> \x7b\x7d, this.count)" :=
  ⟨Absent.mem_kinds, Absent.interleaves, Absent.bodies_avoid, Absent.tree_avoids,
   generation_conservative Absent.kinds [Absent.constants, Absent.jumps] Absent.mixed
     Absent.mem_kinds Absent.interleaves Absent.collaborators Absent.bodies_avoid Absent.site
     Absent.tree_avoids 9 0 {},
   by decide⟩

end Java

/-! ## Text is only appended -/

/-- The second sink holds the text of the first, and maybe more after it. -/
def Sink.GrowsTo (sink other : Sink) : Prop := ∃ rest, other.text = sink.text ++ rest

namespace Sink.GrowsTo

theorem refl (sink : Sink) : sink.GrowsTo sink := ⟨"", String.append_empty.symm⟩

theorem trans {a b c : Sink} (hab : a.GrowsTo b) (hbc : b.GrowsTo c) : a.GrowsTo c := by
  obtain ⟨first, hfirst⟩ := hab
  obtain ⟨second, hsecond⟩ := hbc
  refine ⟨first ++ second, ?_⟩
  rw [hsecond, hfirst, String.append_assoc]

/-- Also of a piece that is refused a part may be kept. -/
theorem put (sink : Sink) (piece : String) : sink.GrowsTo (sink.put piece).1 := by
  unfold Sink.put
  split
  · exact ⟨piece, rfl⟩
  · next kept _ => exact ⟨kept, rfl⟩

end Sink.GrowsTo

def Dispatcher.OnlyAppends (dispatcher : Dispatcher) : Prop :=
  ∀ ctx site (sink : Sink), sink.GrowsTo (dispatcher ctx site sink).sink

theorem Run.andThen_growsTo {r : Run} {next : Sink → Run}
    (hnext : r.sink.GrowsTo (next r.sink).sink) : r.sink.GrowsTo (r.andThen next).sink := by
  unfold andThen
  split
  · exact hnext
  · exact .refl _

theorem Run.resume_growsTo {r : Run} {next : Except GenerationError Unit → Run}
    (hnext : ∀ result, r.sink.GrowsTo (next result).sink) :
    r.sink.GrowsTo (r.resume next).sink := by
  unfold resume
  split
  · exact hnext _
  · exact hnext _
  · exact .refl _

/-- No plan takes back what was written, not even one that goes on after an error. -/
theorem Plan.run_growsTo {dispatcher : Dispatcher} (h : dispatcher.OnlyAppends) (p : Plan)
    (sink : Sink) : sink.GrowsTo (p.run dispatcher sink).sink := by
  induction p generalizing sink with
  | done => exact .refl _
  | fail e => exact .refl _
  | write piece next ih =>
      have hput := Sink.GrowsTo.put sink piece
      simp only [run]
      split
      · next after heq =>
          rw [heq] at hput
          exact hput.trans (ih after)
      · next after heq =>
          rw [heq] at hput
          exact hput
  | mark m next ih => exact ih sink
  | delegate ctx site next ih => exact (h ctx site sink).trans (Run.andThen_growsTo (ih _))
  | attempt body next ihbody ihnext =>
      exact (ihbody sink).trans (Run.resume_growsTo fun result => ihnext result _)
  | capture body next _ ihnext =>
      -- What the body writes goes to a sink of its own.
      rw [run]
      exact Run.resume_growsTo fun result => ihnext result _ sink

theorem Catalog.dispatch_onlyAppends (catalog : Catalog) (fallback : Rule) (depth : Nat) :
    (catalog.dispatch fallback depth).OnlyAppends := by
  induction depth with
  | zero => exact fun _ _ sink => .refl sink
  | succ depth ih =>
      intro ctx site sink
      rw [dispatch, Run.after_sink]
      exact Plan.run_growsTo ih _ sink

/-! ## Runs taken up where they failed -/

/-- The last element given to the rules is an assignment to a field, and the run failed because
there is no rule for it. -/
def Run.StopsAtAssignment (r : Run) : Prop :=
  ∃ e, r.visited.getLast? = some e ∧ e.kind = .fieldAssignment ∧
    r.outcome = .error (.unsupportedElement e.inspect)

/-- The second run is the first, or the first stopped at an assignment to a field and the second
keeps what was written up to there. -/
inductive Run.TakenUpBy (r : Run) : Run → Prop
  | same : TakenUpBy r r
  | further {s : Run} : r.StopsAtAssignment → r.sink.GrowsTo s.sink → TakenUpBy r s

namespace Run

theorem StopsAtAssignment.after {r : Run} (h : r.StopsAtAssignment) (steps : List Step) :
    (r.after steps).StopsAtAssignment := by
  obtain ⟨e, hlast, hkind, herror⟩ := h
  refine ⟨e, ?_, hkind, herror⟩
  rw [visited_after, List.getLast?_append, hlast]
  rfl

theorem StopsAtAssignment.outcome_ne_ok {r : Run} (h : r.StopsAtAssignment) : r.outcome ≠ .ok := by
  obtain ⟨e, _, _, herror⟩ := h
  rw [herror]
  exact Outcome.noConfusion

namespace TakenUpBy

variable {r s : Run}

theorem after (h : r.TakenUpBy s) (steps : List Step) :
    (r.after steps).TakenUpBy (s.after steps) := by
  cases h with
  | same => exact same
  | further hstops hgrows => exact further (hstops.after steps) hgrows

theorem andThen (h : r.TakenUpBy s) {f g : Sink → Run}
    (hnext : ∀ sink, (f sink).TakenUpBy (g sink))
    (hgrows : ∀ sink : Sink, sink.GrowsTo (g sink).sink) :
    (r.andThen f).TakenUpBy (s.andThen g) := by
  cases h with
  | same =>
      by_cases hok : r.outcome = .ok
      · rw [andThen_of_ok hok, andThen_of_ok hok]
        exact (hnext r.sink).after r.steps
      · rw [andThen_of_ne_ok hok, andThen_of_ne_ok hok]
        exact same
  | further hstops hkept =>
      -- The first run ends here. Whatever the second goes on with, it only appends.
      rw [andThen_of_ne_ok hstops.outcome_ne_ok]
      exact further hstops (hkept.trans (andThen_growsTo (hgrows s.sink)))

end TakenUpBy

end Run

theorem Plan.Hands.run_takenUpBy {d d' : Dispatcher} (hgrows : d'.OnlyAppends) {p : Plan}
    {sites : List (Context × Site)} (h : p.Hands sites)
    (hsites : ∀ x ∈ sites, ∀ sink, (d x.1 x.2 sink).TakenUpBy (d' x.1 x.2 sink)) (sink : Sink) :
    (p.run d sink).TakenUpBy (p.run d' sink) := by
  refine h.run_related (fun _ => .same) (fun _ _ steps hrs => hrs.after steps) ?_ hsites sink
  intro ctx site sink next hfirst hrest
  exact hfirst.andThen hrest (next.run_growsTo hgrows)

namespace Java

/-- The Java rules have nothing for an assignment to a field. -/
theorem plan_fieldAssignment (ctx : Context) {site : Site}
    (h : site.element.kind = .fieldAssignment) :
    plan ctx site = .fail (.unsupportedElement site.element.inspect) := by
  cases he : site.element
  case fieldAssignment target field value =>
      simp only [plan, he, ruleFor?, Option.getD_none, builtin]
      rfl
  all_goals
    rw [he] at h
    cases h

theorem dispatch_takenUpBy {host all : List Registration}
    (hhost : ∀ r ∈ host, r.kind = .fieldAssignment) (h : Interleaves registrations host all)
    (depth : Nat) (ctx : Context) (site : Site) (sink : Sink) :
    (catalog.dispatch builtin depth ctx site sink).TakenUpBy
      ((Catalog.ofList all).dispatch builtin depth ctx site sink) := by
  induction depth generalizing ctx site sink with
  | zero => exact .same
  | succ depth ih =>
      have hgrows := fun depth => (Catalog.ofList all).dispatch_onlyAppends builtin depth
      by_cases hkind : site.element.kind = .fieldAssignment
      · -- Here the runs part. The plain one fails at once, with nothing written for the site.
        rw [dispatch_succ, plan_fieldAssignment ctx hkind]
        exact .further ⟨site.element, rfl, hkind, rfl⟩ (hgrows (depth + 1) ctx site sink)
      · have habsent : ∀ r ∈ host, r.kind ≠ site.element.kind := by
          intro r hr hsame
          exact hkind (hsame ▸ hhost r hr)
        obtain ⟨next, _, hrenders⟩ := renders_plan ctx site
        obtain ⟨sites, hands, _⟩ := hrenders.exists_hands
        have hrun := hands.run_takenUpBy (hgrows depth) (fun x _ => ih x.1 x.2) sink
        rw [dispatch_succ_of_absent h habsent, dispatch_succ]
        exact hrun.after _

/-- Rules and advices of the host for assignments to fields, however they are mixed with the Java
rules, only extend what is written: the text of a run with the Java rules alone, whole or cut off by
an error, begins the text of the run with them. Unless the first run failed at an assignment to a
field that no rule is for, both are the same run, with its outcome, its text and its steps. -/
theorem generation_takenUpBy (host all : List Registration)
    (hhost : ∀ r ∈ host, r.kind = .fieldAssignment) (h : Interleaves registrations host all)
    (c : Collaborators) (site : Site) (depth level : Nat) (sink : Sink) :
    ((Generator.mk catalog c).dispatcher depth ⟨c, level⟩ site sink).sink.GrowsTo
      ((Generator.mk (.ofList all) c).dispatcher depth ⟨c, level⟩ site sink).sink ∧
    (¬ ((Generator.mk catalog c).dispatcher depth ⟨c, level⟩ site sink).StopsAtAssignment →
      (Generator.mk (.ofList all) c).dispatcher depth ⟨c, level⟩ site sink =
        (Generator.mk catalog c).dispatcher depth ⟨c, level⟩ site sink) := by
  have hruns := dispatch_takenUpBy hhost h depth ⟨c, level⟩ site sink
  simp only [Generator.dispatcher]
  generalize catalog.dispatch builtin depth ⟨c, level⟩ site sink = plain at hruns ⊢
  cases hruns with
  | same => exact ⟨.refl _, fun _ => rfl⟩
  | further hstops hgrows => exact ⟨hgrows, fun hother => absurd hstops hother⟩

/-! ## An assignment among the arguments -/

namespace Assigning

def assignment : Element :=
  .fieldAssignment none ⟨Nested.outer, .int, "count"⟩ (.ofValue (.int 1))

def minus : Element := .unaryOperator (.ofValue (.int 7)) .minus .int

def site (arguments : List Element) : Site where
  classFile := Nested.classFile
  method := { name := "main", signature := ⟨[], .void⟩, flags := 9 }
  element := .new Nested.outer ⟨[], .void⟩ arguments

def assigns : Registration :=
  .on (.ofKind .fieldAssignment) (Script.rule [.write "count = ", .children])

def refuses : Registration :=
  .on (.ofKind .fieldAssignment) (Script.rule [.write "count", .fail "read only"])

def render (all : List Registration) (arguments : List Element) : Run :=
  (Generator.mk (.ofList all) Nested.collaborators).dispatcher 9 ⟨Nested.collaborators, 0⟩
    (site arguments) {}

theorem assigns_kind : ∀ r ∈ [assigns], r.kind = .fieldAssignment :=
  List.forall_mem_singleton.mpr rfl

theorem refuses_kind : ∀ r ∈ [refuses], r.kind = .fieldAssignment :=
  List.forall_mem_singleton.mpr rfl

/-- The first argument fails for a reason of its own. -/
theorem not_stopsAtAssignment :
    ¬ (render registrations [minus, assignment]).StopsAtAssignment := by
  rintro ⟨e, _, _, herror⟩
  have hminus : (render registrations [minus, assignment]).outcome =
      .error (.unsupportedOperator .minus) := by decide
  rw [hminus] at herror
  cases herror

end Assigning

theorem generation_takenUpBy_assigning :
    ((∀ r ∈ [Assigning.assigns], r.kind = .fieldAssignment) ∧
      (Assigning.render registrations [.ofValue (.int 7), Assigning.assignment]).sink.GrowsTo
        (Assigning.render (registrations ++ [Assigning.assigns])
          [.ofValue (.int 7), Assigning.assignment]).sink) ∧
    (Assigning.render registrations [.ofValue (.int 7), Assigning.assignment]).sink.text =
      "new Outer(7, " ∧
    (Assigning.render (registrations ++ [Assigning.assigns])
      [.ofValue (.int 7), Assigning.assignment]).sink.text = "new Outer(7, count = 1)" ∧
    ((∀ r ∈ [Assigning.refuses], r.kind = .fieldAssignment) ∧
      ¬ (Assigning.render registrations
        [Assigning.minus, Assigning.assignment]).StopsAtAssignment ∧
      Assigning.render (Assigning.refuses :: registrations)
          [Assigning.minus, Assigning.assignment] =
        Assigning.render registrations [Assigning.minus, Assigning.assignment]) := by
  have hafter := Interleaves.append registrations [Assigning.assigns]
  have hbefore := (Interleaves.append [Assigning.refuses] registrations).swap
  refine ⟨⟨Assigning.assigns_kind, ?_⟩, by decide, by decide,
    Assigning.refuses_kind, Assigning.not_stopsAtAssignment, ?_⟩
  · exact (generation_takenUpBy _ _ Assigning.assigns_kind hafter Nested.collaborators
      (Assigning.site _) 9 0 {}).1
  · exact (generation_takenUpBy _ _ Assigning.refuses_kind hbefore Nested.collaborators
      (Assigning.site _) 9 0 {}).2 Assigning.not_stopsAtAssignment

end Java

end SourceRecovery
