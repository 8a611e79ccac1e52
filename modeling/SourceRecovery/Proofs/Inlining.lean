import SourceRecovery.Java.Lambda
import SourceRecovery.Proofs.Nodes

/-! # Lambdas written in place

A lambda that is written in place brings the body of its backing method into the tree, and that body
may hold further such lambdas. A tree unfolds when this comes to an end. Names of backing methods
that can be ranked, so that every body refers to lower ranks only, are enough for it; only bodies
that some lambda of the tree leads to are looked at.
-/

namespace SourceRecovery

/-- What the body of a lambda written in place depends on besides the class file. -/
structure Inlining where
  hasReceiver : Bool
  target : LambdaTarget
deriving DecidableEq

namespace Element

def inlining? : Element → Option Inlining
  | .lambda receiver target =>
      if Java.lambdaForm target = .inlined then some ⟨receiver.isSome, target⟩ else none
  | _ => none

theorem lambda_of_inlining? {e : Element} {i : Inlining} (h : e.inlining? = some i) :
    ∃ receiver : Option Element, e = .lambda receiver i.target ∧
      receiver.isSome = i.hasReceiver ∧ Java.lambdaForm i.target = .inlined := by
  cases e
  case lambda receiver target =>
      simp only [inlining?, Option.ite_none_right_eq_some, Option.some.injEq] at h
      obtain ⟨hform, hi⟩ := h
      cases hi
      exact ⟨receiver, rfl, rfl, hform⟩
  all_goals cases h

def inlinings (e : Element) : List Inlining := e.nodes.filterMap inlining?

theorem inlinings_eq (e : Element) :
    e.inlinings = e.inlining?.toList ++ e.children.flatMap inlinings := by
  rw [inlinings, nodes_eq, List.filterMap_cons, List.filterMap_flatMap]
  cases e.inlining? <;> rfl

theorem inlinings_sublist_of_mem_nodes {x e : Element} (h : x ∈ e.nodes) :
    x.inlinings.Sublist e.inlinings := (nodes_sublist_of_mem_nodes h).filterMap _

theorem mem_inlinings_of_root {e : Element} {i : Inlining} (h : e.inlining? = some i) :
    i ∈ e.inlinings := by
  rw [inlinings_eq, h]
  exact List.mem_cons_self

theorem mem_inlinings_of_child {x e : Element} (hx : x ∈ e.children) {i : Inlining}
    (h : i ∈ x.inlinings) : i ∈ e.inlinings := by
  rw [inlinings_eq]
  exact List.mem_append_right _ (List.mem_flatMap.mpr ⟨x, hx, h⟩)

end Element

namespace Inlining

/-- The statements that are written for the lambda: none if its backing method is missing or cannot
be decompiled. -/
def body (decompiler : Decompiler) (file : ClassFile) (i : Inlining) : List Element :=
  match file.method? i.target.name with
  | none => []
  | some declared =>
      (decompiler (Java.withCaptured declared i.hasReceiver i.target.captured)).toOption.getD []

theorem body_of_ok {decompiler : Decompiler} {file : ClassFile} {i : Inlining} {declared : Method}
    {statements : List Element} (hfound : file.method? i.target.name = some declared)
    (hok : decompiler (Java.withCaptured declared i.hasReceiver i.target.captured) =
      .ok statements) : i.body decompiler file = statements := by
  simp only [body, hfound, hok, Except.toOption, Option.getD_some]

theorem exists_declared_of_mem_body {decompiler : Decompiler} {file : ClassFile} {i : Inlining}
    {statement : Element} (h : statement ∈ i.body decompiler file) :
    ∃ declared, file.method? i.target.name = some declared ∧ statement ∈
      (decompiler (Java.withCaptured declared i.hasReceiver i.target.captured)).toOption.getD
        [] := by
  unfold body at h
  split at h
  · cases h
  · next declared hmethod => exact ⟨declared, hmethod, h⟩

/-- Lambdas of a tree, of the bodies written for these, and so on. -/
inductive Reached (decompiler : Decompiler) (file : ClassFile) (root : Element) : Inlining → Prop
  | root {i : Inlining} : i ∈ root.inlinings → Reached decompiler file root i
  | body {i j : Inlining} {statement : Element} : Reached decompiler file root i →
      statement ∈ i.body decompiler file → j ∈ statement.inlinings →
      Reached decompiler file root j

/-- Every body that the tree leads to refers to backing methods of lower rank only. -/
def Ranked (decompiler : Decompiler) (file : ClassFile) (root : Element) (rank : String → Nat) :
    Prop :=
  ∀ i, Reached decompiler file root i → ∀ statement ∈ i.body decompiler file,
    ∀ j ∈ statement.inlinings, rank j.target.name < rank i.target.name

/-- Lambdas that lead to each other only are all that is reached. -/
theorem Reached.mem_of_closed {decompiler : Decompiler} {file : ClassFile} {root : Element}
    {lambdas : List Inlining} (hroot : ∀ i ∈ root.inlinings, i ∈ lambdas)
    (hclosed : ∀ i ∈ lambdas, ∀ statement ∈ i.body decompiler file,
      ∀ j ∈ statement.inlinings, j ∈ lambdas)
    {i : Inlining} (h : Reached decompiler file root i) : i ∈ lambdas := by
  induction h with
  | root hmem => exact hroot _ hmem
  | body _ hstatement hmem ih => exact hclosed _ ih _ hstatement _ hmem

theorem ranked_of_inlinings_eq_nil {root : Element} (h : root.inlinings = [])
    (decompiler : Decompiler) (file : ClassFile) (rank : String → Nat) :
    Ranked decompiler file root rank := by
  intro i hi
  have hnone : i ∈ [] := hi.mem_of_closed (by rw [h]; simp) (by simp)
  exact nomatch hnone

/-! ## Other bodies for accessors -/

/-- The decompiler with other bodies for the methods that open fields. -/
def withAccessors (decompiler accessors : Decompiler) : Decompiler := fun m =>
  if Method.marked Method.accessorMarker m.name then accessors m else decompiler m

theorem withCaptured_name (method : Method) (hasReceiver : Bool) (captured : List Variable) :
    (Java.withCaptured method hasReceiver captured).name = method.name := by
  unfold Java.withCaptured
  split <;> rfl

theorem body_withAccessors {i : Inlining}
    (h : Method.marked Method.accessorMarker i.target.name = false)
    (decompiler accessors : Decompiler) (file : ClassFile) :
    i.body (withAccessors decompiler accessors) file = i.body decompiler file := by
  unfold body
  cases hmethod : file.method? i.target.name with
  | none => rfl
  | some declared =>
      have hname : declared.name = i.target.name := by simpa using List.find?_some hmethod
      simp only [withAccessors, withCaptured_name, hname, h]
      rfl

/-- Accessors do not matter to the ranks, unless a lambda is backed by one. -/
theorem Ranked.withAccessors {decompiler : Decompiler} {file : ClassFile} {root : Element}
    {rank : String → Nat} (ranked : Ranked decompiler file root rank)
    (hlambdas : ∀ i, Reached decompiler file root i →
      Method.marked Method.accessorMarker i.target.name = false) (accessors : Decompiler) :
    Ranked (withAccessors decompiler accessors) file root rank := by
  have hreached {i : Inlining}
      (hi : Reached (Inlining.withAccessors decompiler accessors) file root i) :
      Reached decompiler file root i := by
    induction hi with
    | root hmem => exact .root hmem
    | body _ hstatement hmem ih =>
        rw [body_withAccessors (hlambdas _ ih)] at hstatement
        exact .body ih hstatement hmem
  intro i hi statement hstatement
  rw [body_withAccessors (hlambdas i (hreached hi))] at hstatement
  exact ranked i (hreached hi) statement hstatement

end Inlining

/-! ## Trees that unfold -/

/-- Bounds that may be raised can be made one bound. -/
theorem exists_common_bound {α : Type} {P : α → Nat → Prop} {xs : List α}
    (h : ∀ x ∈ xs, ∃ bound, P x bound) (mono : ∀ {x a b}, a ≤ b → P x a → P x b) :
    ∃ bound, ∀ x ∈ xs, P x bound := by
  induction xs with
  | nil => exact ⟨0, List.forall_mem_nil _⟩
  | cons x rest ih =>
      obtain ⟨hfirst, hrest⟩ := List.forall_mem_cons.mp h
      obtain ⟨a, ha⟩ := hfirst
      obtain ⟨b, hb⟩ := ih hrest
      refine ⟨max a b, List.forall_mem_cons.mpr ⟨mono (by omega) ha, ?_⟩⟩
      intro y hy
      exact mono (by omega) (hb y hy)

/-- The first is a child of the second, or a statement of the body written for it. -/
inductive Element.Part (decompiler : Decompiler) (file : ClassFile) : Element → Element → Prop
  | child {x e : Element} : x ∈ e.children → Part decompiler file x e
  | statement {x e : Element} {i : Inlining} : e.inlining? = some i → x ∈ i.body decompiler file →
      Part decompiler file x e

/-- What is written for an element is written for these: the body of a lambda written in place, the
children of anything else. -/
def Element.sources (decompiler : Decompiler) (file : ClassFile) (e : Element) : List Element :=
  match e.inlining? with
  | some i => i.body decompiler file
  | none => e.children

theorem Element.part_of_mem_sources {decompiler : Decompiler} {file : ClassFile} {x e : Element}
    (h : x ∈ e.sources decompiler file) : Part decompiler file x e := by
  unfold sources at h
  split at h
  · next i hi => exact .statement hi h
  · exact .child h

/-- If the lambdas of an element are reached, so are those of whatever is written for it. -/
theorem Inlining.Reached.of_mem_sources {decompiler : Decompiler} {file : ClassFile}
    {root x e : Element} (h : ∀ i ∈ e.inlinings, Reached decompiler file root i)
    (hx : x ∈ (e.sources decompiler file).flatMap Element.nodes) :
    ∀ i ∈ x.inlinings, Reached decompiler file root i := by
  intro j hj
  obtain ⟨source, hsource, hnode⟩ := List.mem_flatMap.mp hx
  have hj := (Element.inlinings_sublist_of_mem_nodes hnode).subset hj
  cases Element.part_of_mem_sources hsource with
  | child hchild => exact h j (Element.mem_inlinings_of_child hchild hj)
  | statement hi hstatement => exact (h _ (Element.mem_inlinings_of_root hi)).body hstatement hj

/-- Going on into children and bodies comes to an end. -/
def Element.Unfolds (decompiler : Decompiler) (file : ClassFile) (e : Element) : Prop :=
  Acc (Element.Part decompiler file) e

namespace Inlining

variable {decompiler : Decompiler} {file : ClassFile} {root : Element} {rank : String → Nat}

/-- The ranks bound how often bodies nest, and the size of the tree bounds the rest. -/
theorem Ranked.unfolds_below (ranked : Ranked decompiler file root rank) (bound : Nat) :
    ∀ e : Element,
      (∀ i ∈ e.inlinings, Reached decompiler file root i ∧ rank i.target.name < bound) →
        e.Unfolds decompiler file := by
  induction bound using Nat.strongRecOn with
  | ind bound ihrank =>
      intro e
      induction e using Element.induction_children with
      | step e ihtree =>
          intro hlambdas
          refine Acc.intro e fun x hpart => ?_
          cases hpart with
          | child hx =>
              apply ihtree x hx
              intro i hi
              exact hlambdas i (Element.mem_inlinings_of_child hx hi)
          | statement hi hx =>
              obtain ⟨hreached, hlower⟩ := hlambdas _ (Element.mem_inlinings_of_root hi)
              apply ihrank _ hlower x
              intro j hj
              exact ⟨hreached.body hx hj, ranked _ hreached x hx j hj⟩

theorem Ranked.unfolds (ranked : Ranked decompiler file root rank) :
    root.Unfolds decompiler file := by
  have hlambdas : ∀ i ∈ root.inlinings, ∃ bound, rank i.target.name < bound :=
    fun i _ => ⟨_, Nat.lt_succ_self (rank i.target.name)⟩
  obtain ⟨bound, hbound⟩ := exists_common_bound hlambdas fun hle hlt => Nat.lt_of_lt_of_le hlt hle
  exact ranked.unfolds_below bound root fun i hi => ⟨.root hi, hbound i hi⟩

end Inlining

end SourceRecovery
