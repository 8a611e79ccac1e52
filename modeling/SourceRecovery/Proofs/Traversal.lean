import SourceRecovery.Element.Build
import SourceRecovery.Generator
import SourceRecovery.Proofs.Delegation

/-! # Traversal by the Java rules

The rules go through a tree as a walk does. They skip nodes, but they give no node to a rule twice
and never go back, whether the run succeeds, fails or is cut short. Only lambdas written in place
leave the tree.
-/

namespace SourceRecovery

namespace Element

theorem inlinings_eq_nil_of_mem_nodes {x e : Element} (h : e.inlinings = []) (hx : x ∈ e.nodes) :
    x.inlinings = [] := by
  have hsub := inlinings_sublist_of_mem_nodes hx
  rw [h] at hsub
  exact List.sublist_nil.mp hsub

theorem inlining?_eq_none {e : Element} (h : e.inlinings = []) : e.inlining? = none := by
  rw [inlinings_eq] at h
  exact Option.toList_eq_nil_iff.mp (List.append_eq_nil_iff.mp h).1

end Element

/-! ## Events -/

def Event.isDispatch (event : Event) : Bool := event.message == "Dispatching element"

/-- There is one event for every element given to the rules, and it tells the kind. -/
theorem Run.dispatch_events (r : Run) :
    (r.events.filter Event.isDispatch).map (·.fields.lookup "element_type") =
      r.visited.map fun e => some e.kind.label := by
  unfold Run.events Run.visited
  induction r.steps with
  | nil => rfl
  | cons step rest ih =>
      cases step with
      | dispatch level site ruled advices =>
          simp only [List.filterMap_cons, Step.event?, Step.visited?]
          rw [List.filter_cons_of_pos rfl, List.map_cons, List.map_cons, ih]
          rfl
      | write piece => exact ih
      | mark m =>
          have hother : ∀ event, m.event? = some event → event.isDispatch = false := by
            intro event hevent
            cases m with
            | accessor method className statements => cases hevent; rfl
            | inlining method statements nodes captured => cases hevent; rfl
            | decompile method => cases hevent
            | resolveClass type => cases hevent
            | note text => cases hevent
          simp only [List.filterMap_cons, Step.event?, Step.visited?]
          cases hm : m.event? with
          | none => exact ih
          | some event =>
              rw [List.filter_cons_of_neg (by simp [hother event hm])]
              exact ih

namespace Java

/-! ## Order -/

variable (c : Collaborators) (file : ClassFile)

/-- One step: if the sites handed back are gone through in order, so is the tree. -/
theorem visited_sublist_succ {depth : Nat} {e : Element} (hnone : e.inlinings = [])
    (h : ∀ x ∈ e.nodes, ∀ level method sink,
      (catalog.dispatch builtin depth ⟨c, level⟩ ⟨file, method, x⟩ sink).visited.Sublist x.nodes)
    (level : Nat) (method : Method) (sink : Sink) :
    (catalog.dispatch builtin (depth + 1) ⟨c, level⟩ ⟨file, method, e⟩ sink).visited.Sublist
      e.nodes := by
  have hlambda : e.inlining? = none := Element.inlining?_eq_none hnone
  obtain ⟨es, hands, hes⟩ := renders_children ⟨c, level⟩ ⟨file, method, e⟩ hlambda
  have hbelow : ∀ x ∈ es, x ∈ e.nodes := by
    intro x hx
    rw [Element.nodes_eq]
    exact List.mem_cons_of_mem e (hes.subset (List.mem_flatMap.mpr ⟨x, hx, x.mem_nodes_self⟩))
  have hsites : ∀ x ∈ es.map (fun e => ((⟨c, level⟩ : Context), (⟨file, method, e⟩ : Site))),
      ∀ sink, (catalog.dispatch builtin depth x.1 x.2 sink).visited.Sublist x.2.element.nodes := by
    intro x hx
    obtain ⟨y, hy, hxy⟩ := List.mem_map.mp hx
    rw [← hxy]
    exact h y (hbelow y hy) level method
  have hplan := hands.visited_sublist hsites sink
  rw [List.flatMap_map] at hplan
  rw [dispatch_succ, Run.visited_after, Element.nodes_eq]
  exact (hplan.trans hes).cons_cons e

theorem visited_sublist (depth : Nat) {e : Element} (hnone : e.inlinings = []) (level : Nat)
    (method : Method) (sink : Sink) :
    (catalog.dispatch builtin depth ⟨c, level⟩ ⟨file, method, e⟩ sink).visited.Sublist e.nodes := by
  induction depth generalizing e level method sink with
  | zero => exact List.nil_sublist _
  | succ depth ih =>
      apply visited_sublist_succ c file hnone
      intro x hx
      exact ih (Element.inlinings_eq_nil_of_mem_nodes hnone hx)

/-- The elements given to the rules in a run are some nodes of the tree in source order, from the
root on; the events tell them. -/
structure GoesThrough (root : Element) (r : Run) : Prop where
  starts : r.visited.head? = some root
  inOrder : r.visited.Sublist root.nodes
  atMostOnce : ∀ p : Element → Bool, r.visited.countP p ≤ root.nodes.countP p
  counted : r.visited.length ≤ (Census.ofTrees [root]).total
  reported : (r.events.filter Event.isDispatch).map (·.fields.lookup "element_type") =
    r.visited.map fun e => some e.kind.label

/-- Trees without lambdas written in place are gone through in source order, at every depth. -/
theorem dispatch_goesThrough (root : Element) (hnone : root.inlinings = []) (c : Collaborators)
    (file : ClassFile) (method : Method) (level depth : Nat) (sink : Sink) :
    GoesThrough root
      (catalog.dispatch builtin (depth + 1) ⟨c, level⟩ ⟨file, method, root⟩ sink) := by
  have hsub := visited_sublist c file (depth + 1) hnone level method sink
  have htotal : (Census.ofTrees [root]).total = root.nodes.length := by
    rw [Census.ofTrees, List.foldl_cons, List.foldl_nil, Census.total_visit]
    exact Nat.zero_add _
  refine ⟨?_, hsub, fun _ => hsub.countP_le, ?_, Run.dispatch_events _⟩
  · rw [dispatch_succ, Run.visited_after]
    rfl
  · rw [htotal]
    exact hsub.length_le

/-! ## A call that spreads its arguments -/

namespace Spread

def lists : JavaType := .ofName "Lists"

def root : Element := .staticCall lists "of" ⟨[.array .int], lists⟩
  [.newArrayWith .int [.ofValue (.int 1), .ofValue (.int 2)]]

/-- The called method takes variable arguments, so the array and its length are skipped. -/
def collaborators : Collaborators where
  types := .ofTable [(lists, { methods := [⟨"of", ⟨[.array .int], lists⟩, true⟩] })]
  classFiles := .ofTable []
  decompiler := .ofTable []
  style := ({} : StyleOptions).style

def site : Site where
  classFile := { name := .ofText "Main" }
  method := { name := "main", signature := ⟨[], .void⟩, flags := 9 }
  element := root

end Spread

theorem dispatch_goesThrough_spread :
    Spread.root.inlinings = [] ∧
    GoesThrough Spread.root
      (catalog.dispatch builtin 10 ⟨Spread.collaborators, 0⟩ Spread.site {}) ∧
    (catalog.dispatch builtin 10 ⟨Spread.collaborators, 0⟩ Spread.site {}).visited.map
      Element.kind = [.methodCall, .constant, .constant] :=
  ⟨by decide,
   dispatch_goesThrough Spread.root (by decide) Spread.collaborators Spread.site.classFile
     Spread.site.method 0 9 {},
   by decide⟩

end Java

end SourceRecovery
