import SourceRecovery.Generator
import SourceRecovery.Proofs.Printed
import SourceRecovery.Proofs.Termination

/-! # The engine prints as the direct printer does

Bodies nest less deeply than dispatches, so a run that is not cut short at some depth is printed
with as much nesting, and more nesting changes nothing. Ranked lambdas need as much nesting as their
ranks say, and then every run that ends leaves what the printer leaves: the same outcome, and the
same text also where it fails.
-/

namespace SourceRecovery.Java

open Printer

/-! ## Nesting -/

/-- The printer for bodies that goes with a nesting. -/
def Printer.innerNested (file : ClassFile) : Nat → Context → Element → Printer
  | 0 => fun _ _ _ => none
  | nesting + 1 => printNested file nesting

theorem printNested_eq (file : ClassFile) (nesting : Nat) :
    printNested file nesting = print file (innerNested file nesting) := by
  cases nesting <;> rfl

def Printer.printSite (nesting : Nat) (ctx : Context) (site : Site) : Printer :=
  printNested site.classFile nesting ctx site.element

def Printer.innerSite (nesting : Nat) (ctx : Context) (site : Site) : Printer :=
  innerNested site.classFile nesting ctx site.element

variable {ctx : Context} {site : Site}

theorem perform_printSite (hnone : site.element.inlining? = none) (nesting : Nat) :
    (plan ctx site).perform (printSite nesting) = printSite nesting ctx site := by
  rw [printSite, printNested_eq]
  apply perform_plan hnone
  intro e
  rw [printSite, printNested_eq]
  rfl

theorem perform_innerSite {i : Inlining} (h : site.element.inlining? = some i) (nesting : Nat) :
    (plan ctx site).perform (innerSite nesting) = printSite nesting ctx site := by
  rw [printSite, printNested_eq]
  exact perform_plan_inlined h fun _ _ => rfl

/-- If a little more nesting changes no body, it changes no tree. -/
theorem printSite_refines_of_inner {nesting more : Nat}
    (hinner : ∀ ctx site sink,
      Refines (innerSite nesting ctx site sink) (innerSite more ctx site sink))
    (ctx : Context) (site : Site) (sink : Sink) :
    Refines (printSite nesting ctx site sink) (printSite more ctx site sink) := by
  obtain ⟨file, method, e⟩ := site
  induction e using Element.induction_below generalizing sink with
  | step e ih =>
      cases hlambda : e.inlining? with
      | none =>
          rw [← perform_printSite hlambda, ← perform_printSite hlambda]
          obtain ⟨sites, hands, hsites⟩ :=
            (renders_children ctx ⟨file, method, e⟩ hlambda).exists_hands
          apply hands.perform_refines
          intro x hx
          obtain ⟨y, hy, hxy⟩ := hsites x hx
          rw [hxy]
          exact ih y hy
      | some i =>
          rw [← perform_innerSite hlambda, ← perform_innerSite hlambda]
          obtain ⟨next, _, hrenders⟩ := renders_body ctx ⟨file, method, e⟩ hlambda
          obtain ⟨sites, hands, _⟩ := hrenders.exists_hands
          exact hands.perform_refines (fun x _ => hinner x.1 x.2) sink

theorem printSite_refines_succ (nesting : Nat) (ctx : Context) (site : Site) (sink : Sink) :
    Refines (printSite nesting ctx site sink) (printSite (nesting + 1) ctx site sink) := by
  induction nesting generalizing ctx site sink with
  | zero =>
      apply printSite_refines_of_inner
      intro ctx site sink y hy
      exact nomatch hy
  | succ nesting ih =>
      have hinner : ∀ ctx site sink, Refines (innerSite (nesting + 1) ctx site sink)
          (innerSite (nesting + 1 + 1) ctx site sink) := ih
      exact printSite_refines_of_inner hinner ctx site sink

theorem printSite_refines_of_le {nesting more : Nat} (h : nesting ≤ more) (ctx : Context)
    (site : Site) (sink : Sink) :
    Refines (printSite nesting ctx site sink) (printSite more ctx site sink) := by
  induction h with
  | refl => exact .refl _
  | step _ ih =>
      intro y hy
      exact printSite_refines_succ _ ctx site sink y (ih y hy)

/-- Ranks below the nesting are enough for printing to have a result. -/
theorem printSite_isSome {c : Collaborators} {file : ClassFile} {root : Element}
    {rank : String → Nat} (ranked : Inlining.Ranked c.decompiler file root rank) (nesting : Nat) :
    ∀ e : Element,
      (∀ i ∈ e.inlinings,
        Inlining.Reached c.decompiler file root i ∧ rank i.target.name < nesting) →
      ∀ level method sink,
        (printSite nesting ⟨c, level⟩ ⟨file, method, e⟩ sink).isSome := by
  induction nesting using Nat.strongRecOn with
  | ind nesting ihnesting =>
      intro e
      induction e using Element.induction_below with
      | step e ihtree =>
          intro hlambdas level method sink
          cases hlambda : e.inlining? with
          | none =>
              rw [← perform_printSite hlambda]
              obtain ⟨sites, hands, hsites⟩ :=
                (renders_children ⟨c, level⟩ ⟨file, method, e⟩ hlambda).exists_hands
              apply hands.perform_isSome
              intro x hx
              obtain ⟨y, hy, hxy⟩ := hsites x hx
              have hnode : y ∈ e.nodes := by
                rw [Element.nodes_eq]
                exact List.mem_cons_of_mem e hy
              have hsub := Element.inlinings_sublist_of_mem_nodes hnode
              rw [hxy]
              exact ihtree y hy (fun i hi => hlambdas i (hsub.subset hi)) level method
          | some i =>
              obtain ⟨hreached, hlower⟩ := hlambdas i (Element.mem_inlinings_of_root hlambda)
              cases nesting with
              | zero => exact absurd hlower (Nat.not_lt_zero _)
              | succ nesting =>
                  rw [← perform_innerSite hlambda]
                  obtain ⟨next, hnext, hrenders⟩ :=
                    renders_body ⟨c, level⟩ ⟨file, method, e⟩ hlambda
                  obtain ⟨sites, hands, hsites⟩ := hrenders.exists_hands
                  apply hands.perform_isSome
                  intro x hx
                  obtain ⟨y, hy, hxy⟩ := hsites x hx
                  obtain ⟨statement, hstatement, hnode⟩ := List.mem_flatMap.mp hy
                  have hsub := Element.inlinings_sublist_of_mem_nodes hnode
                  have hbody : ∀ j ∈ y.inlinings,
                      Inlining.Reached c.decompiler file root j ∧
                        rank j.target.name < nesting := by
                    intro j hj
                    have hj := hsub.subset hj
                    have := ranked i hreached statement hstatement j hj
                    exact ⟨hreached.body hstatement hj, by omega⟩
                  have hprinted := ihnesting nesting (Nat.lt_succ_self nesting) y hbody
                  rw [hxy]
                  rcases hnext with hnext | hnext
                  · rw [hnext]
                    exact hprinted level method
                  · rw [hnext]
                    exact hprinted (level + 1) method

/-! ## Runs -/

/-- Whatever the depth, a run that is not cut short leaves what is printed with as much nesting. -/
theorem dispatch_refines (depth : Nat) (ctx : Context) (site : Site) (sink : Sink) :
    Refines (catalog.dispatch builtin depth ctx site sink).observed
      (printSite depth ctx site sink) := by
  induction depth generalizing ctx site sink with
  | zero =>
      intro y hy
      exact nomatch hy
  | succ depth ih =>
      have hplan := Plan.run_refines ih (plan ctx site) sink
      rw [dispatch_succ, Run.observed_after]
      cases hlambda : site.element.inlining? with
      | none =>
          rw [perform_printSite hlambda] at hplan
          intro y hy
          exact printSite_refines_succ depth ctx site sink y (hplan y hy)
      | some i =>
          rw [← perform_innerSite hlambda]
          exact hplan

theorem observed_eq_printSite {depth nesting : Nat} {ctx : Context} {site : Site} {sink : Sink}
    (hrun : (catalog.dispatch builtin depth ctx site sink).Finished)
    (hprint : (printSite nesting ctx site sink).isSome) :
    (catalog.dispatch builtin depth ctx site sink).observed = printSite nesting ctx site sink := by
  obtain ⟨y, hy⟩ := Option.isSome_iff_exists.mp (Run.observed_isSome_iff.mpr hrun)
  obtain ⟨z, hz⟩ := Option.isSome_iff_exists.mp hprint
  -- Both results are the one with the larger nesting.
  have hyprint := dispatch_refines depth ctx site sink y hy
  have hymax := printSite_refines_of_le (Nat.le_max_left depth nesting) ctx site sink y hyprint
  have hzmax := printSite_refines_of_le (Nat.le_max_right depth nesting) ctx site sink z hz
  rw [hy, hz, ← hymax, hzmax]

/-- If the lambdas of a tree can be ranked, the direct printer has a result with any nesting above
the ranks, generation leaves that result from some depth on, and no run that ends leaves anything
else. -/
theorem generation_prints (c : Collaborators) (file : ClassFile) (root : Element)
    (rank : String → Nat) (ranked : Inlining.Ranked c.decompiler file root rank) (nesting : Nat)
    (hnesting : ∀ i ∈ root.inlinings, rank i.target.name < nesting) :
    (∀ level sink, (printNested file nesting ⟨c, level⟩ root sink).isSome) ∧
    (∃ bound, ∀ depth, bound ≤ depth → ∀ level method sink,
      ((Generator.mk catalog c).dispatcher depth ⟨c, level⟩ ⟨file, method, root⟩ sink).observed =
        printNested file nesting ⟨c, level⟩ root sink) ∧
    (∀ depth level method sink,
      ((Generator.mk catalog c).dispatcher depth ⟨c, level⟩ ⟨file, method, root⟩ sink).outcome ≠
        .exhausted →
      ((Generator.mk catalog c).dispatcher depth ⟨c, level⟩ ⟨file, method, root⟩ sink).observed =
        printNested file nesting ⟨c, level⟩ root sink) := by
  have hsome (level : Nat) (method : Method) (sink : Sink) :
      (printSite nesting ⟨c, level⟩ ⟨file, method, root⟩ sink).isSome :=
    printSite_isSome ranked nesting root (fun i hi => ⟨.root hi, hnesting i hi⟩) level method sink
  have hruns (depth level : Nat) (method : Method) (sink : Sink)
      (hfinished :
        (catalog.dispatch builtin depth ⟨c, level⟩ ⟨file, method, root⟩ sink).Finished) :
      (catalog.dispatch builtin depth ⟨c, level⟩ ⟨file, method, root⟩ sink).observed =
        printSite nesting ⟨c, level⟩ ⟨file, method, root⟩ sink :=
    observed_eq_printSite hfinished (hsome level method sink)
  refine ⟨fun level sink => ?_, ?_, hruns⟩
  · exact hsome level { name := "", signature := ⟨[], .void⟩, flags := 0 } sink
  · obtain ⟨bound, hbound⟩ := exists_finishesAt ranked.unfolds
    refine ⟨bound, fun depth hle level method sink => ?_⟩
    exact hruns depth level method sink (hbound.of_le hle level method sink)

/-- The accessor opens no field, so printing stops after the lambdas. -/
theorem generation_prints_nested :
    Inlining.Ranked Nested.collaborators.decompiler Nested.classFile Nested.root Nested.rank ∧
    (∀ i ∈ Nested.root.inlinings, Nested.rank i.target.name < 2) ∧
    (∃ bound, ∀ depth, bound ≤ depth → ∀ level method sink,
      ((Generator.mk catalog Nested.collaborators).dispatcher depth ⟨Nested.collaborators, level⟩
        ⟨Nested.classFile, method, Nested.root⟩ sink).observed =
          printNested Nested.classFile 2 ⟨Nested.collaborators, level⟩ Nested.root sink) ∧
    (printNested Nested.classFile 2 ⟨Nested.collaborators, 0⟩ Nested.root {}).map (·.2.text) =
      some "new Outer(() -> () -> \x7b\x7d, " := by
  have hnesting : ∀ i ∈ Nested.root.inlinings, Nested.rank i.target.name < 2 := by decide
  obtain ⟨_, hbound, _⟩ := generation_prints Nested.collaborators Nested.classFile Nested.root
    Nested.rank Nested.ranked 2 hnesting
  exact ⟨Nested.ranked, hnesting, hbound, by decide⟩

end SourceRecovery.Java
