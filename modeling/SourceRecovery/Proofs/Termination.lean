import SourceRecovery.Element.Build
import SourceRecovery.Proofs.Delegation

/-! # Termination of Java generation

Rendering goes from a tree to nodes of its children and of the bodies written for its lambdas. If
the bodies can be ranked this comes to an end, and then there is a depth from which on no run is cut
short and all runs are the same. Accessors are decompiled for the name of a field only: nothing is
asked of their bodies.
-/

namespace SourceRecovery.Java

/-- At this depth no run on the tree is cut short. -/
def FinishesAt (c : Collaborators) (file : ClassFile) (depth : Nat) (e : Element) : Prop :=
  ∀ level method sink, (catalog.dispatch builtin depth ⟨c, level⟩ ⟨file, method, e⟩ sink).Finished

variable {c : Collaborators} {file : ClassFile}

theorem FinishesAt.of_le {depth deeper : Nat} (h : depth ≤ deeper) {e : Element}
    (finishes : FinishesAt c file depth e) : FinishesAt c file deeper e := by
  intro level method sink
  exact catalog.finished_of_le builtin h (finishes level method sink)

/-- One step: a tree finishes one level above everything that may be handed back for it. -/
theorem FinishesAt.succ {depth : Nat} {e : Element}
    (h : ∀ x ∈ (e.sources c.decompiler file).flatMap Element.nodes, FinishesAt c file depth x) :
    FinishesAt c file (depth + 1) e := by
  intro level method sink
  rw [dispatch_succ, Run.finished_after]
  obtain ⟨next, hnext, hrenders⟩ := renders_plan ⟨c, level⟩ ⟨file, method, e⟩
  obtain ⟨sites, hands, hsites⟩ := hrenders.exists_hands
  apply hands.finished
  intro x hx
  obtain ⟨y, hy, hxy⟩ := hsites x hx
  rw [hxy]
  rcases hnext with hnext | hnext
  · rw [hnext]
    exact h y hy level method
  · rw [hnext]
    exact h y hy (level + 1) method

/-- A tree that unfolds is rendered to the end. -/
theorem exists_finishesAt {e : Element} (h : e.Unfolds c.decompiler file) :
    ∃ depth, FinishesAt c file depth e := by
  -- The induction has to reach the nodes below a part as well: calls hand back grandchildren.
  suffices hnodes : ∀ x ∈ e.nodes, ∃ depth, FinishesAt c file depth x from
    hnodes e e.mem_nodes_self
  induction h with
  | intro e _ ih =>
      have hroot : ∃ depth, FinishesAt c file depth e := by
        have hsources : ∀ x ∈ (e.sources c.decompiler file).flatMap Element.nodes,
            ∃ depth, FinishesAt c file depth x := by
          intro x hx
          obtain ⟨y, hy, hxy⟩ := List.mem_flatMap.mp hx
          exact ih y (Element.part_of_mem_sources hy) x hxy
        obtain ⟨depth, hdepth⟩ := exists_common_bound hsources fun hle h => h.of_le hle
        exact ⟨depth + 1, .succ hdepth⟩
      intro x hx
      rw [Element.nodes_eq] at hx
      rcases List.mem_cons.mp hx with hself | hbelow
      · rw [hself]
        exact hroot
      · obtain ⟨y, hy, hxy⟩ := List.mem_flatMap.mp hbelow
        exact ih y (.child hy) x hxy

/-- From some depth on, no run on the tree is cut short and the depth makes no difference. -/
def Settles (c : Collaborators) (file : ClassFile) (e : Element) : Prop :=
  ∃ bound, ∀ depth, bound ≤ depth → ∀ level method sink,
    (catalog.dispatch builtin depth ⟨c, level⟩ ⟨file, method, e⟩ sink).outcome ≠ .exhausted ∧
    catalog.dispatch builtin depth ⟨c, level⟩ ⟨file, method, e⟩ sink =
      catalog.dispatch builtin bound ⟨c, level⟩ ⟨file, method, e⟩ sink

theorem FinishesAt.settles {depth : Nat} {e : Element} (h : FinishesAt c file depth e) :
    Settles c file e := by
  refine ⟨depth, fun deeper hle level method sink => ⟨h.of_le hle level method sink, ?_⟩⟩
  exact catalog.dispatch_extends_of_le builtin hle _ _ sink (h level method sink)

theorem settles_of_ranked {e : Element} {rank : String → Nat}
    (ranked : Inlining.Ranked c.decompiler file e rank) : Settles c file e := by
  obtain ⟨depth, hdepth⟩ := exists_finishesAt ranked.unfolds
  exact hdepth.settles

/-- Generation settles on every tree whose lambdas can be ranked, so on every tree without lambdas
to write in place, and whatever bodies accessors are given. -/
theorem generation_settles :
    (∀ (c : Collaborators) (file : ClassFile) (root : Element) (rank : String → Nat),
      Inlining.Ranked c.decompiler file root rank → Settles c file root) ∧
    (∀ (c : Collaborators) (file : ClassFile) (root : Element),
      root.inlinings = [] → Settles c file root) ∧
    (∀ (c : Collaborators) (file : ClassFile) (root : Element) (rank : String → Nat)
      (accessors : Decompiler),
      Inlining.Ranked c.decompiler file root rank →
      (∀ i, Inlining.Reached c.decompiler file root i →
        Method.marked Method.accessorMarker i.target.name = false) →
      Settles { c with decompiler := Inlining.withAccessors c.decompiler accessors } file
        root) := by
  refine ⟨?_, ?_, ?_⟩
  · intro c file root rank ranked
    exact settles_of_ranked ranked
  · intro c file root hnone
    exact settles_of_ranked
      (Inlining.ranked_of_inlinings_eq_nil hnone c.decompiler file fun _ => 0)
  · intro c file root rank accessors ranked hlambdas
    have hranked := ranked.withAccessors hlambdas accessors
    exact settles_of_ranked hranked

/-! ## A tree with nested lambdas and an accessor that calls itself -/

namespace Nested

def outer : JavaType := .ofName "Outer"

def inPlace (name : String) : LambdaTarget := .ofBacking .invokeStatic outer name ⟨[], .void⟩

def accessorCall : Element := .staticCall outer "access$000" ⟨[outer], .int⟩ [.this outer]

def root : Element := .new outer ⟨[], .void⟩ [.lambda none (inPlace "lambda$0"), accessorCall]

def classFile : ClassFile where
  name := .ofText "Outer"
  methods :=
    [{ name := "lambda$0", signature := ⟨[], .void⟩, flags := 0x100a },
     { name := "lambda$1", signature := ⟨[], .void⟩, flags := 0x100a },
     { name := "access$000", signature := ⟨[outer], .int⟩, flags := 0x1008 }]

def collaborators : Collaborators where
  types := fun _ => none
  classFiles := .ofTable [classFile]
  decompiler := .ofTable
    [("lambda$0", .ok [.returnValue (.lambda none (inPlace "lambda$1"))]),
     ("lambda$1", .ok [.return]),
     ("access$000", .ok [.returnValue accessorCall])]
  style := ({} : StyleOptions).style

def rank (name : String) : Nat := if name = "lambda$0" then 1 else 0

def lambdas : List Inlining := [⟨false, inPlace "lambda$0"⟩, ⟨false, inPlace "lambda$1"⟩]

theorem mem_lambdas {i : Inlining}
    (h : Inlining.Reached collaborators.decompiler classFile root i) : i ∈ lambdas :=
  h.mem_of_closed (by decide) (by decide)

theorem ranked : Inlining.Ranked collaborators.decompiler classFile root rank := by
  intro i hi
  exact (by decide : ∀ i ∈ lambdas, ∀ statement ∈ i.body collaborators.decompiler classFile,
    ∀ j ∈ statement.inlinings, rank j.target.name < rank i.target.name) i (mem_lambdas hi)

end Nested

theorem generation_settles_nested :
    Inlining.Ranked Nested.collaborators.decompiler Nested.classFile Nested.root Nested.rank ∧
    Settles Nested.collaborators Nested.classFile Nested.root ∧
    (Element.return.inlinings = [] ∧ Settles Nested.collaborators Nested.classFile .return) ∧
    Settles { Nested.collaborators with
      decompiler := Inlining.withAccessors Nested.collaborators.decompiler
        fun _ => .ok [Nested.root] } Nested.classFile Nested.root := by
  have hlambdas (i : Inlining)
      (hi : Inlining.Reached Nested.collaborators.decompiler Nested.classFile Nested.root i) :
      Method.marked Method.accessorMarker i.target.name = false :=
    (by decide : ∀ i ∈ Nested.lambdas, Method.marked Method.accessorMarker i.target.name = false)
      i (Nested.mem_lambdas hi)
  refine ⟨Nested.ranked, generation_settles.1 _ _ _ _ Nested.ranked, ⟨by decide, ?_⟩, ?_⟩
  · exact generation_settles.2.1 _ _ _ (by decide)
  · exact generation_settles.2.2 _ _ _ _ _ Nested.ranked hlambdas

end SourceRecovery.Java
