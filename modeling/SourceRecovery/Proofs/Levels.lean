import SourceRecovery.Element.Build
import SourceRecovery.Generator
import SourceRecovery.Proofs.Failing

/-! # Places and levels

How an element is given to the rules depends on where it stands and on nothing else: on the class
file and the method of the root, and on the bodies of lambdas around it, each of which adds a level
if it is written as a block. What was rendered before the element plays no part.
-/

namespace SourceRecovery

/-- How many of the bodies of these lambdas are written as blocks. -/
def Inlining.blocks (decompiler : Decompiler) (file : ClassFile) (lambdas : List Inlining) : Nat :=
  lambdas.countP fun i => Java.writtenAsBlock (i.body decompiler file)

/-- An element of a tree, or of a body that is written in place, with the lambdas in whose bodies it
stands, from the outermost on. -/
structure Occurrence where
  around : List Inlining
  element : Element

namespace Element

variable (decompiler : Decompiler) (file : ClassFile)

/-- The element, and if it is a lambda written in place what stands in its body. Bodies inside one
another are gone into `nesting` times. -/
def unfolded : Nat → List Inlining → Element → List Occurrence
  | 0, around, e => [⟨around, e⟩]
  | nesting + 1, around, e =>
      ⟨around, e⟩ ::
        match e.inlining? with
        | none => []
        | some i =>
            ((i.body decompiler file).flatMap nodes).flatMap (unfolded nesting (around ++ [i]))

/-- The nodes of a tree in source order, each lambda written in place followed by what stands in its
body. -/
def occurrences (nesting : Nat) (around : List Inlining) (e : Element) : List Occurrence :=
  e.nodes.flatMap (unfolded decompiler file nesting around)

theorem unfolded_sublist_succ (nesting : Nat) (around : List Inlining) (e : Element) :
    (unfolded decompiler file nesting around e).Sublist
      (unfolded decompiler file (nesting + 1) around e) := by
  induction nesting generalizing around e with
  | zero =>
      rw [unfolded, unfolded]
      exact (List.nil_sublist _).cons_cons _
  | succ nesting ih =>
      rw [unfolded, unfolded]
      cases e.inlining? with
      | none => exact .refl _
      | some i => exact (List.Sublist.flatMap_right _ fun x _ => ih _ x).cons_cons _

/-- What is written for an element stands below it, with one more body around it if the element is a
lambda written in place. -/
theorem sources_sublist_occurrences (nesting : Nat) (around : List Inlining) (e : Element) :
    ((⟨around, e⟩ : Occurrence) :: ((e.sources decompiler file).flatMap nodes).flatMap
      (unfolded decompiler file nesting (around ++ e.inlining?.toList))).Sublist
        (occurrences decompiler file (nesting + 1) around e) := by
  rw [occurrences, nodes_eq, List.flatMap_cons, unfolded, sources]
  cases e.inlining? with
  | none =>
      rw [Option.toList_none, List.append_nil]
      exact (List.Sublist.flatMap_right _ fun x _ =>
        unfolded_sublist_succ decompiler file nesting around x).cons_cons _
  | some i => exact (List.sublist_append_left _ _).cons_cons _

end Element

namespace Java

open Inlining (blocks)

variable (c : Collaborators) (file : ClassFile) (method : Method)

/-- How an element is given to the rules where it stands. -/
def placed (o : Occurrence) : Nat × Site :=
  (blocks c.decompiler file o.around, ⟨file, method, o.element⟩)

/-- The same below a root that is itself at a level. -/
def placedFrom (level : Nat) (o : Occurrence) : Nat × Site :=
  (level + (placed c file method o).1, (placed c file method o).2)

theorem placedFrom_zero : placedFrom c file method 0 = placed c file method := by
  funext o
  rw [placedFrom, Nat.zero_add]

variable (level : Nat)

/-- The parts of an element are rendered at the level that goes with the bodies around them. -/
theorem innerContext_blocks (around : List Inlining) (e : Element) :
    innerContext ⟨c, level + blocks c.decompiler file around⟩ ⟨file, method, e⟩ =
      ⟨c, level + blocks c.decompiler file (around ++ e.inlining?.toList)⟩ := by
  simp only [innerContext, bodyContext, blocks, List.countP_append]
  cases e.inlining? with
  | none => rfl
  | some i =>
      simp only [Option.toList_some, List.countP_singleton]
      split <;> rfl

/-- One step: if everything below an element is given to the rules where it stands, so is the
element. -/
theorem dispatches_sublist_succ {depth : Nat}
    (h : ∀ around x sink,
      (catalog.dispatch builtin depth ⟨c, level + blocks c.decompiler file around⟩ ⟨file, method, x⟩
        sink).dispatches.Sublist
          ((x.occurrences c.decompiler file depth around).map (placedFrom c file method level)))
    (around : List Inlining) (e : Element) (sink : Sink) :
    (catalog.dispatch builtin (depth + 1) ⟨c, level + blocks c.decompiler file around⟩
      ⟨file, method, e⟩ sink).dispatches.Sublist
        ((e.occurrences c.decompiler file (depth + 1) around).map
          (placedFrom c file method level)) := by
  obtain ⟨parts, hands, hparts⟩ :=
    renders_sources ⟨c, level + blocks c.decompiler file around⟩ ⟨file, method, e⟩
  rw [innerContext_blocks] at hands
  have hsites : ∀ x ∈ parts.map fun x =>
        ((⟨c, level + blocks c.decompiler file (around ++ e.inlining?.toList)⟩ : Context),
          (⟨file, method, x⟩ : Site)),
      ∀ sink, (catalog.dispatch builtin depth x.1 x.2 sink).dispatches.Sublist
        ((x.2.element.occurrences c.decompiler file depth (around ++ e.inlining?.toList)).map
          (placedFrom c file method level)) := by
    intro x hx sink
    obtain ⟨y, hy, hxy⟩ := List.mem_map.mp hx
    rw [← hxy]
    exact h _ y sink
  have hplan := hands.filterMap_sublist (fun _ => rfl) (fun _ => rfl) hsites sink
  have hbelow := (hparts.flatMap (Element.unfolded c.decompiler file depth
    (around ++ e.inlining?.toList))).map (placedFrom c file method level)
  rw [List.flatMap_map, ← List.map_flatMap] at hplan
  rw [List.flatMap_assoc] at hbelow
  have hall := (Element.sources_sublist_occurrences c.decompiler file depth around e).map
    (placedFrom c file method level)
  rw [dispatch_succ, Run.dispatches_after]
  exact ((hplan.trans hbelow).cons_cons _).trans hall

theorem dispatches_sublist (depth : Nat) (around : List Inlining) (e : Element) (sink : Sink) :
    (catalog.dispatch builtin depth ⟨c, level + blocks c.decompiler file around⟩ ⟨file, method, e⟩
      sink).dispatches.Sublist
        ((e.occurrences c.decompiler file depth around).map (placedFrom c file method level)) := by
  induction depth generalizing around e sink with
  | zero => exact List.nil_sublist _
  | succ depth ih => exact dispatches_sublist_succ c file method level ih around e sink

/-- Whatever is given to the rules in a run stands below the root. -/
theorem exists_occurrence {depth : Nat} {site : Site} {sink : Sink} {x : Nat × Site}
    (h : x ∈ (catalog.dispatch builtin depth ⟨c, level⟩ site sink).dispatches) :
    ∃ o ∈ site.element.occurrences c.decompiler site.classFile depth [],
      x = placedFrom c site.classFile site.method level o := by
  have hplaces := dispatches_sublist c site.classFile site.method level depth [] site.element sink
  obtain ⟨o, ho, hx⟩ := List.mem_map.mp (hplaces.subset h)
  exact ⟨o, ho, hx.symm⟩

/-- The elements given to the rules in a run are some of those below the root, in source order. Each
comes with the class file and the method of the root, and with a level for every block around it. -/
structure KeepsPlaces (c : Collaborators) (root : Site) (depth : Nat) (r : Run) : Prop where
  inPlace : r.dispatches.Sublist
    ((root.element.occurrences c.decompiler root.classFile depth []).map
      (placed c root.classFile root.method))
  classFile : ∀ x ∈ r.dispatches, x.2.classFile = root.classFile
  method : ∀ x ∈ r.dispatches, x.2.method = root.method
  level : ∀ x ∈ r.dispatches,
    ∃ o ∈ root.element.occurrences c.decompiler root.classFile depth [],
      x.2.element = o.element ∧ x.1 = blocks c.decompiler root.classFile o.around

/-- Whatever a generation comes to, whether it ends well, fails or is cut short, is given to the
rules in its place. The rule of an element hands all its parts back in one context, so none of them
can tell what was rendered before it. -/
theorem generation_keeps_places (c : Collaborators) (root : Site) (depth : Nat) (sink : Sink) :
    KeepsPlaces c root depth
      ((Generator.mk catalog c).dispatcher depth ⟨c, 0⟩ root sink) ∧
    ∀ ctx site, ∃ parts : List Element,
      ((catalog.select ctx site).stages builtin ctx site).Hands
        (parts.map fun e => (innerContext ctx site, site.focus e)) := by
  have hplaces := dispatches_sublist c root.classFile root.method 0 depth [] root.element sink
  rw [placedFrom_zero] at hplaces
  refine ⟨⟨hplaces, ?_, ?_, ?_⟩, fun ctx site => ?_⟩
  · intro x hx
    obtain ⟨o, _, hplaced⟩ := exists_occurrence c 0 hx
    rw [hplaced]
    rfl
  · intro x hx
    obtain ⟨o, _, hplaced⟩ := exists_occurrence c 0 hx
    rw [hplaced]
    rfl
  · intro x hx
    obtain ⟨o, ho, hplaced⟩ := exists_occurrence c 0 hx
    rw [hplaced, placedFrom_zero]
    exact ⟨o, ho, rfl, rfl⟩
  · obtain ⟨parts, hands, _⟩ := renders_sources ctx site
    rw [select_catalog]
    exact ⟨parts, hands⟩

/-! ## A block inside a block -/

namespace Stacked

def inPlace (name : String) : Element :=
  .lambda none (.ofBacking .invokeStatic (.ofName "Outer") name ⟨[], .void⟩)

def collaborators : Collaborators where
  types := fun _ => none
  classFiles := .ofTable []
  decompiler := .ofTable
    [("lambda$0", .ok [.goto 1, inPlace "lambda$1", .goto 2]),
     ("lambda$1", .ok [.goto 3, .goto 4])]
  style := ({} : StyleOptions).style

def site : Site where
  classFile := {
    name := .ofText "Outer"
    methods :=
      [{ name := "lambda$0", signature := ⟨[], .void⟩, flags := 0x100a },
       { name := "lambda$1", signature := ⟨[], .void⟩, flags := 0x100a }] }
  method := { name := "main", signature := ⟨[], .void⟩, flags := 9 }
  element := inPlace "lambda$0"

end Stacked

/-- The statement after the inner block is back at the level of the outer one. -/
example :
    ((Generator.mk catalog Stacked.collaborators).dispatcher 9 ⟨Stacked.collaborators, 0⟩
      Stacked.site {}).dispatches.map (fun x => (x.1, x.2.element.kind)) =
        [(0, .lambda), (1, .goto), (1, .lambda), (2, .goto), (2, .goto), (1, .goto)] := by
  decide

end Java

end SourceRecovery
