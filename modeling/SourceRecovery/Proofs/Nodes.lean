import Mathlib.Data.List.Basic
import SourceRecovery.Element.Walk

/-! # Nodes of a tree

The nodes of a tree in source order, by recursion on the children alone: depths play no part. Facts
about trees are proved by induction on children, which passes over the options, lists and pairs that
the children are kept in.
-/

namespace SourceRecovery

namespace Element

theorem sizeOf_lt_of_mem_children {x e : Element} (h : x ∈ e.children) : sizeOf x < sizeOf e := by
  have hlist {es : List Element} (hx : x ∈ es) : sizeOf x < sizeOf es :=
    List.sizeOf_lt_of_mem hx
  have hoption {target : Option Element} (hx : x ∈ target.toList) : sizeOf x < sizeOf target := by
    rw [Option.mem_toList.mp hx]
    simp
  have hpairs {is : List (UInt32 × Element)} (hx : x ∈ is.map Prod.snd) : sizeOf x < sizeOf is := by
    obtain ⟨pair, hpair, hsnd⟩ := List.mem_map.mp hx
    have hinner : sizeOf x < sizeOf pair := by
      rw [← hsnd]
      cases pair
      simp only [Prod.mk.sizeOf_spec]
      omega
    exact Nat.lt_trans hinner (List.sizeOf_lt_of_mem hpair)
  cases e
  case newArray type component length initializers =>
      rw [newArray.sizeOf_spec]
      rcases List.mem_cons.mp h with h | h
      · rw [h]
        omega
      · have := hpairs h
        omega
  case new type signature arguments =>
      have : sizeOf x < sizeOf arguments := hlist h
      rw [new.sizeOf_spec]
      omega
  case methodCall target callee arguments =>
      rw [methodCall.sizeOf_spec]
      rcases List.mem_append.mp h with h | h
      · have := hoption h
        omega
      · have := hlist h
        omega
  case fieldAssignment target field value =>
      rw [fieldAssignment.sizeOf_spec]
      rcases List.mem_append.mp h with h | h
      · have := hoption h
        omega
      · rw [List.mem_singleton.mp h]
        omega
  case fieldReference target field =>
      have := hoption h
      rw [fieldReference.sizeOf_spec]
      omega
  case lambda receiver target =>
      have := hoption h
      rw [lambda.sizeOf_spec]
      omega
  -- What is left keeps its children in fields of their own.
  all_goals simp only [children, List.mem_cons, List.not_mem_nil, or_false] at h
  all_goals grind

/-- Induction on the children of an element, however the element keeps them. -/
@[elab_as_elim] theorem induction_children {motive : Element → Prop}
    (step : ∀ e, (∀ x ∈ e.children, motive x) → motive e) (e : Element) : motive e :=
  step e fun x hx =>
    have := sizeOf_lt_of_mem_children hx
    induction_children step x
termination_by sizeOf e

theorem map_snd_walk (a b : Nat) (e : Element) :
    (e.walk a).map Prod.snd = (e.walk b).map Prod.snd := by
  induction e using induction_children generalizing a b with
  | step e ih =>
      rw [walk_eq, walk_eq b, List.map_cons, List.map_cons, List.map_flatMap, List.map_flatMap]
      congr 1
      exact List.flatMap_congr fun x hx => ih x hx (a + 1) (b + 1)

/-- The nodes of a tree are its root and then the nodes of its children. -/
theorem nodes_eq (e : Element) : e.nodes = e :: e.children.flatMap nodes := by
  rw [nodes, walk_eq, List.map_cons, List.map_flatMap]
  congr 1
  exact List.flatMap_congr fun x _ => map_snd_walk 1 0 x

/-- Induction on all nodes below an element. -/
@[elab_as_elim] theorem induction_below {motive : Element → Prop}
    (step : ∀ e, (∀ x ∈ e.children.flatMap nodes, motive x) → motive e) (e : Element) :
    motive e := by
  have hnodes : ∀ x ∈ e.nodes, motive x := by
    induction e using induction_children with
    | step e ih =>
        have hbelow : ∀ x ∈ e.children.flatMap nodes, motive x := by
          intro x hx
          obtain ⟨y, hy, hxy⟩ := List.mem_flatMap.mp hx
          exact ih y hy x hxy
        intro x hx
        rw [nodes_eq] at hx
        rcases List.mem_cons.mp hx with hself | hx
        · rw [hself]
          exact step e hbelow
        · exact hbelow x hx
  apply hnodes
  rw [nodes_eq]
  exact List.mem_cons_self

theorem mem_nodes_self (e : Element) : e ∈ e.nodes := by
  rw [nodes_eq]
  exact List.mem_cons_self

theorem nodes_sublist_of_mem_nodes {x e : Element} (h : x ∈ e.nodes) :
    x.nodes.Sublist e.nodes := by
  induction e using induction_children with
  | step e ih =>
      rw [nodes_eq e] at h
      rcases List.mem_cons.mp h with hself | hbelow
      · rw [hself]
      · obtain ⟨y, hy, hxy⟩ := List.mem_flatMap.mp hbelow
        have hpart : y.nodes.Sublist (e.children.flatMap nodes) :=
          List.sublist_flatten_of_mem (List.mem_map.mpr ⟨y, hy, rfl⟩)
        rw [nodes_eq e]
        exact ((ih y hy hxy).trans hpart).cons e

end Element

/-! ## Counting nodes -/

namespace Census

theorem total_addTo (kind : Kind) (entries : List (Kind × Nat)) :
    total ⟨addTo kind entries⟩ = total ⟨entries⟩ + 1 := by
  induction entries with
  | nil => rfl
  | cons entry rest ih =>
      unfold addTo
      split
      · simp only [total, List.foldr_cons]; omega
      · simp only [total, List.foldr_cons] at ih ⊢; omega

theorem total_visit (census : Census) (e : Element) :
    (census.visit e).total = census.total + e.nodes.length := by
  have hfold (nodes : List Element) (entries : List (Kind × Nat)) :
      total ⟨nodes.foldl (fun entries node => addTo node.kind entries) entries⟩ =
        total ⟨entries⟩ + nodes.length := by
    induction nodes generalizing entries with
    | nil => rfl
    | cons node rest ih =>
        rw [List.foldl_cons, ih, total_addTo, List.length_cons]
        omega
  exact hfold e.nodes census.entries

end Census

end SourceRecovery
