import Mathlib.Data.Set.Card
import SourceRecovery.Element.Build
import SourceRecovery.Generator
import SourceRecovery.Proofs.Inlining

/-! # Counting the nodes of trees

A node of a tree is told from the others by the path to it, along the roles that sub-elements play
in their parents. A census counts the root and then goes on to the children with the same record, so
one record serves for many trees. It counts every path once, and the number that is reported for the
body of a lambda is the number of paths in its statements.
-/

namespace SourceRecovery

inductive Role where
  | target
  | receiver
  | value
  | operand
  | left
  | right
  | array
  | index
  | length
  | initializer (position : Nat)
  | argument (position : Nat)
  | var
  | amount
deriving DecidableEq

namespace Element

/-! ## Paths to nodes -/

/-- The sub-element in a role. Captured variables of a lambda have none. -/
def sub? : Element → Role → Option Element
  | returnValue value, .value => some value
  | variableAssignment _ value, .value => some value
  | fieldReference target _, .target => target
  | fieldAssignment target _ _, .target => target
  | fieldAssignment _ _ value, .value => some value
  | binaryOperator left _ _ _, .left => some left
  | binaryOperator _ _ right _, .right => some right
  | unaryOperator operand _ _, .operand => some operand
  | compare left _, .left => some left
  | compare _ right, .right => some right
  | branch left _ _ _, .left => some left
  | branch _ _ right _, .right => some right
  | cast value _, .value => some value
  | arrayLoad array _ _, .array => some array
  | arrayLoad _ index _, .index => some index
  | arrayStore array _ _, .array => some array
  | arrayStore _ index _, .index => some index
  | arrayStore _ _ value, .value => some value
  | newArray _ _ length _, .length => some length
  | newArray _ _ _ initializers, .initializer position => initializers[position]?.map Prod.snd
  | new _ _ arguments, .argument position => arguments[position]?
  | increment var _ _ _, .var => some var
  | increment _ amount _ _, .amount => some amount
  | lambda receiver _, .receiver => receiver
  | methodCall target _ _, .target => target
  | methodCall _ _ arguments, .argument position => arguments[position]?
  | _, _ => none

/-- The node at the end of a path of roles. -/
def node? (e : Element) : List Role → Option Element
  | [] => some e
  | role :: path => (e.sub? role).bind fun x => x.node? path

def paths (e : Element) : Set (List Role) := {path | (e.node? path).isSome}

def pathsTo (kind : Kind) (e : Element) : Set (List Role) :=
  {path | ∃ x, e.node? path = some x ∧ x.kind = kind}

/-! ## Sub-elements with their roles -/

/-- Elements in roles that are told apart by their positions. -/
def numbered (role : Nat → Role) (es : List Element) : List (Role × Element) :=
  es.zipIdx.map fun (x, position) => (role position, x)

theorem map_snd_numbered (role : Nat → Role) (es : List Element) :
    (numbered role es).map Prod.snd = es := by
  rw [numbered, List.map_map]
  exact List.zipIdx_map_fst 0 es

theorem map_fst_numbered (role : Nat → Role) (es : List Element) :
    (numbered role es).map Prod.fst = (List.range' 0 es.length).map role := by
  rw [numbered, List.map_map, ← List.zipIdx_map_snd 0 es, List.map_map]
  rfl

theorem mem_numbered {role : Nat → Role} {es : List Element} {r : Role} {x : Element} :
    (r, x) ∈ numbered role es ↔ ∃ position, es[position]? = some x ∧ role position = r := by
  simp [numbered, List.mem_zipIdx_iff_getElem?]

theorem nodup_numbered {role : Nat → Role} (h : role.Injective) (es : List Element) :
    ((numbered role es).map Prod.fst).Nodup := by
  rw [map_fst_numbered]
  exact (List.nodup_range' 1).map h

def parts : Element → List (Role × Element)
  | .return | constant .. | variableReference .. | goto .. | allocate .. => []
  | returnValue value => [(.value, value)]
  | variableAssignment _ value => [(.value, value)]
  | fieldReference target _ => target.toList.map (Prod.mk .target)
  | fieldAssignment target _ value => target.toList.map (Prod.mk .target) ++ [(.value, value)]
  | binaryOperator left _ right _ => [(.left, left), (.right, right)]
  | unaryOperator operand _ _ => [(.operand, operand)]
  | compare left right => [(.left, left), (.right, right)]
  | branch left _ right _ => [(.left, left), (.right, right)]
  | cast value _ => [(.value, value)]
  | arrayLoad array index _ => [(.array, array), (.index, index)]
  | arrayStore array index value => [(.array, array), (.index, index), (.value, value)]
  | newArray _ _ length initializers =>
      (.length, length) :: numbered .initializer (initializers.map Prod.snd)
  | new _ _ arguments => numbered .argument arguments
  | increment var amount _ _ => [(.var, var), (.amount, amount)]
  | lambda receiver _ => receiver.toList.map (Prod.mk .receiver)
  | methodCall target _ arguments =>
      target.toList.map (Prod.mk .target) ++ numbered .argument arguments

theorem map_snd_parts (e : Element) : e.parts.map Prod.snd = e.children := by
  cases e <;> simp [parts, children, map_snd_numbered]

theorem mem_parts_iff (e : Element) (role : Role) (x : Element) :
    (role, x) ∈ e.parts ↔ e.sub? role = some x := by
  -- Two tables of the same facts, compared kind by kind and role by role.
  cases e <;> cases role <;> simp [parts, sub?, mem_numbered, eq_comm]

theorem mem_children_of_sub? {e x : Element} {role : Role} (h : e.sub? role = some x) :
    x ∈ e.children := by
  rw [← map_snd_parts]
  exact List.mem_map_of_mem ((mem_parts_iff e role x).mpr h)

theorem nodup_roles (e : Element) : (e.parts.map Prod.fst).Nodup := by
  have hinitializers := nodup_numbered fun _ _ h => Role.initializer.inj h
  have harguments := nodup_numbered fun _ _ h => Role.argument.inj h
  cases e
  case newArray type component length initializers =>
      rw [parts, List.map_cons, List.nodup_cons]
      refine ⟨?_, hinitializers _⟩
      simp [map_fst_numbered]
  case new type signature arguments => exact harguments arguments
  case methodCall target callee arguments =>
      cases target with
      | none => exact harguments arguments
      | some object =>
          refine List.nodup_cons.mpr ⟨?_, harguments arguments⟩
          simp [map_fst_numbered]
  case fieldAssignment target field value => cases target <;> simp [parts]
  all_goals simp [parts]

/-! ## The walk finds every path once -/

/-- The nodes of a tree in source order, with the paths to them. -/
structure Locates (e : Element) (located : List (List Role × Element)) : Prop where
  nodes : located.map Prod.snd = e.nodes
  distinct : (located.map Prod.fst).Nodup
  found : ∀ path x, (path, x) ∈ located ↔ e.node? path = some x

def inParts (e : Element) (within : Element → List (List Role × Element)) :
    List (List Role × Element) :=
  e.parts.flatMap fun part => (within part.2).map fun found => (part.1 :: found.1, found.2)

section

variable {e : Element} {within : Element → List (List Role × Element)}

theorem mem_inParts {path : List Role} {x : Element} :
    (path, x) ∈ e.inParts within ↔
      ∃ role rest y, path = role :: rest ∧ e.sub? role = some y ∧ (rest, x) ∈ within y := by
  simp only [inParts, List.mem_flatMap, List.mem_map, Prod.mk.injEq]
  constructor
  · rintro ⟨⟨role, y⟩, hpart, ⟨rest, _⟩, hfound, hpath, rfl⟩
    exact ⟨role, rest, y, hpath.symm, (mem_parts_iff e role y).mp hpart, hfound⟩
  · rintro ⟨role, rest, y, hpath, hsub, hfound⟩
    exact ⟨(role, y), (mem_parts_iff e role y).mpr hsub, (rest, x), hfound, hpath.symm, rfl⟩

theorem nodup_inParts (h : ∀ x ∈ e.children, ((within x).map Prod.fst).Nodup) :
    ((e.inParts within).map Prod.fst).Nodup := by
  rw [inParts, List.map_flatMap, List.nodup_flatMap]
  constructor
  · intro part hpart
    have hchild := mem_children_of_sub? ((mem_parts_iff e part.1 part.2).mp hpart)
    rw [List.map_map]
    have hcons := (h part.2 hchild).map (List.cons_injective (a := part.1))
    rw [List.map_map] at hcons
    exact hcons
  · -- Paths through different parts differ in their first role.
    refine (List.pairwise_map.mp e.nodup_roles).imp fun {a b} hab => ?_
    refine List.disjoint_left.mpr fun path ha hb => ?_
    simp only [List.map_map, List.mem_map, Function.comp_apply] at ha hb
    obtain ⟨_, _, rfl⟩ := ha
    obtain ⟨_, _, hpath⟩ := hb
    exact hab (List.cons.inj hpath).1.symm

theorem Locates.of_children (h : ∀ x ∈ e.children, Locates x (within x)) :
    Locates e (([], e) :: e.inParts within) where
  nodes := by
    have hparts : (e.inParts within).map Prod.snd = e.children.flatMap fun x =>
        (within x).map Prod.snd := by
      rw [inParts, List.map_flatMap, ← map_snd_parts, List.flatMap_map]
      simp [Function.comp_def]
    rw [List.map_cons, hparts, nodes_eq]
    exact congrArg _ (List.flatMap_congr fun x hx => (h x hx).nodes)
  distinct := by
    refine List.nodup_cons.mpr ⟨fun hroot => ?_, nodup_inParts fun x hx => (h x hx).distinct⟩
    obtain ⟨⟨path, x⟩, hmem, hpath⟩ := List.mem_map.mp hroot
    obtain ⟨role, rest, _, hcons, _⟩ := mem_inParts.mp hmem
    exact List.cons_ne_nil role rest (hcons.symm.trans hpath)
  found path x := by
    rw [List.mem_cons, mem_inParts]
    cases path with
    | nil => simp [node?, eq_comm]
    | cons role rest =>
        rw [node?, Option.bind_eq_some_iff]
        constructor
        · rintro (hroot | ⟨_, _, y, hpath, hsub, hfound⟩)
          · cases hroot
          · cases hpath
            have hy := h y (mem_children_of_sub? hsub)
            exact ⟨y, hsub, (hy.found rest x).mp hfound⟩
        · rintro ⟨y, hsub, hfound⟩
          have hy := h y (mem_children_of_sub? hsub)
          exact .inr ⟨role, rest, y, rfl, hsub, (hy.found rest x).mpr hfound⟩

end

theorem exists_locates (e : Element) : ∃ located, Locates e located := by
  induction e using induction_children with
  | step e ih =>
      -- One list for each child, put together along the roles.
      choose! within hwithin using ih
      exact ⟨_, Locates.of_children hwithin⟩

theorem Locates.encard_eq {e : Element} {located : List (List Role × Element)}
    (h : Locates e located) (p : Element → Bool) :
    {path | ∃ x, e.node? path = some x ∧ p x = true}.encard = e.nodes.countP p := by
  have hlist : {path | ∃ x, e.node? path = some x ∧ p x = true} =
      {path | path ∈ (located.filter fun found => p found.2).map Prod.fst} := by
    ext path
    simp [h.found]
  have hnodup : ((located.filter fun found => p found.2).map Prod.fst).Nodup :=
    h.distinct.sublist (List.filter_sublist.map Prod.fst)
  rw [hlist, ← List.coe_toFinset, Set.encard_coe_eq_coe_finsetCard,
    List.toFinset_card_of_nodup hnodup, List.length_map, ← List.countP_eq_length_filter, ← h.nodes,
    List.countP_map]
  rfl

theorem encard_pathsTo (kind : Kind) (e : Element) :
    (e.pathsTo kind).encard = e.nodes.countP fun x => x.kind = kind := by
  obtain ⟨located, hlocated⟩ := e.exists_locates
  have hcount := hlocated.encard_eq fun x => x.kind = kind
  simpa [pathsTo] using hcount

theorem encard_paths (e : Element) : e.paths.encard = e.nodes.length := by
  obtain ⟨located, hlocated⟩ := e.exists_locates
  have hcount := hlocated.encard_eq fun _ => true
  simpa [paths, Option.isSome_iff_exists] using hcount

theorem sum_encard {paths : Element → Set (List Role)} {number : Element → Nat}
    (h : ∀ e, (paths e).encard = number e) (trees : List Element) :
    (trees.map fun e => (paths e).encard).sum = ((trees.map number).sum : Nat) := by
  induction trees with
  | nil => rfl
  | cons e rest ih => rw [List.map_cons, List.sum_cons, h, ih, List.map_cons, List.sum_cons,
      Nat.cast_add]

end Element

/-! ## The record of a census -/

namespace Census

def seen (census : Census) (kind : Kind) : Census := ⟨addTo kind census.entries⟩

theorem entries_foldl_visit (trees : List Element) (census : Census) :
    (trees.foldl visit census).entries =
      (trees.flatMap Element.nodes).foldl (fun entries node => addTo node.kind entries)
        census.entries := by
  induction trees generalizing census with
  | nil => rfl
  | cons e rest ih =>
      rw [List.foldl_cons, ih, List.flatMap_cons, List.foldl_append]
      rfl

/-- A visit counts the element and then visits its children. -/
theorem visit_eq (census : Census) (e : Element) :
    census.visit e = e.children.foldl visit (census.seen e.kind) := by
  have hentries := entries_foldl_visit e.children (census.seen e.kind)
  rw [visit, Element.nodes_eq, List.foldl_cons]
  exact congrArg Census.mk hentries.symm

/-- What every visit adds to, by an amount that depends on the tree alone, is added up over
trees. -/
theorem foldl_visit_add (measure : Census → Nat) {number : Element → Nat} {trees : List Element}
    (h : ∀ e ∈ trees, ∀ census : Census, measure (census.visit e) = measure census + number e)
    (census : Census) :
    measure (trees.foldl visit census) = measure census + (trees.map number).sum := by
  induction trees generalizing census with
  | nil => rfl
  | cons e rest ih =>
      obtain ⟨he, hrest⟩ := List.forall_mem_cons.mp h
      rw [List.foldl_cons, ih hrest, he, List.map_cons, List.sum_cons, Nat.add_assoc]

theorem count_seen (census : Census) (kind k : Kind) :
    (census.seen kind).count k = census.count k + if kind = k then 1 else 0 := by
  obtain ⟨entries⟩ := census
  simp only [count, seen]
  induction entries with
  | nil =>
      by_cases hk : kind = k
      · simp [addTo, hk]
      · have hne : (k == kind) = false := beq_false_of_ne (Ne.symm hk)
        simp [addTo, List.lookup_cons, hne, hk]
  | cons entry rest ih =>
      obtain ⟨first, n⟩ := entry
      unfold addTo
      split
      · next hfirst =>
          by_cases hk : k = first
          · simp [hk, hfirst]
          · have hne : (k == first) = false := beq_false_of_ne hk
            simp [List.lookup_cons, hne, ← hfirst, Ne.symm hk]
      · next hfirst =>
          by_cases hk : k = first
          · simp [hk, Ne.symm hfirst]
          · have hne : (k == first) = false := beq_false_of_ne hk
            simp [List.lookup_cons, hne, ih]

theorem count_visit (census : Census) (e : Element) (kind : Kind) :
    (census.visit e).count kind =
      census.count kind + e.nodes.countP fun x => x.kind = kind := by
  induction e using Element.induction_children generalizing census with
  | step e ih =>
      have hchildren : (e.children.foldl visit (census.seen e.kind)).count kind =
          (census.seen e.kind).count kind +
            (e.children.map fun x => x.nodes.countP fun y => y.kind = kind).sum :=
        foldl_visit_add (count · kind) (fun x hx census => ih x hx census) _
      have hnodes : (e.nodes.countP fun x => x.kind = kind) =
          (e.children.map fun x => x.nodes.countP fun y => y.kind = kind).sum +
            if e.kind = kind then 1 else 0 := by
        rw [Element.nodes_eq, List.countP_cons, List.countP_flatMap]
        simp only [decide_eq_true_eq]
        rfl
      rw [visit_eq, hchildren, count_seen, hnodes]
      omega

/-- Kinds are recorded once, and only those that were seen. -/
structure Recorded (census : Census) : Prop where
  positive : ∀ entry ∈ census.entries, entry.2 ≠ 0
  distinct : (census.entries.map Prod.fst).Nodup

theorem mem_addTo {kind k : Kind} {n : Nat} {entries : List (Kind × Nat)}
    (h : (k, n) ∈ addTo kind entries) : (k, n) ∈ entries ∨ k = kind ∧ n ≠ 0 := by
  induction entries with
  | nil =>
      cases List.mem_singleton.mp h
      exact .inr ⟨rfl, Nat.one_ne_zero⟩
  | cons entry rest ih =>
      obtain ⟨first, m⟩ := entry
      unfold addTo at h
      split at h
      · next hfirst =>
          rcases List.mem_cons.mp h with h | h
          · cases h
            exact .inr ⟨hfirst, Nat.succ_ne_zero m⟩
          · exact .inl (List.mem_cons_of_mem _ h)
      · rcases List.mem_cons.mp h with h | h
        · cases h
          exact .inl List.mem_cons_self
        · rcases ih h with h | h
          · exact .inl (List.mem_cons_of_mem _ h)
          · exact .inr h

theorem nodup_addTo {kind : Kind} {entries : List (Kind × Nat)}
    (h : (entries.map Prod.fst).Nodup) : ((addTo kind entries).map Prod.fst).Nodup := by
  induction entries with
  | nil => exact List.nodup_singleton kind
  | cons entry rest ih =>
      obtain ⟨first, n⟩ := entry
      obtain ⟨hfirst, hrest⟩ := List.nodup_cons.mp h
      unfold addTo
      split
      · exact h
      · next hne =>
          refine List.nodup_cons.mpr ⟨fun hmem => ?_, ih hrest⟩
          obtain ⟨⟨k, m⟩, hentry, hk⟩ := List.mem_map.mp hmem
          rcases mem_addTo hentry with hold | ⟨hkind, _⟩
          · exact hfirst (List.mem_map.mpr ⟨(k, m), hold, hk⟩)
          · exact hne (hk.symm.trans hkind)

theorem recorded_seen {census : Census} (h : census.Recorded) (kind : Kind) :
    (census.seen kind).Recorded where
  positive := by
    rintro ⟨k, n⟩ hentry
    rcases mem_addTo hentry with hold | ⟨_, hn⟩
    · exact h.positive (k, n) hold
    · exact hn
  distinct := nodup_addTo h.distinct

theorem recorded_visit {census : Census} (h : census.Recorded) (e : Element) :
    (census.visit e).Recorded := by
  induction e using Element.induction_children generalizing census with
  | step e ih =>
      rw [visit_eq]
      exact List.foldlRecOn e.children visit (recorded_seen h e.kind)
        fun census hcensus x hx => ih x hx hcensus

theorem recorded_ofTrees (trees : List Element) : (ofTrees trees).Recorded :=
  List.foldlRecOn trees visit ⟨List.forall_mem_nil _, List.nodup_nil⟩
    fun _ hcensus e _ => recorded_visit hcensus e

theorem count_ofTrees (trees : List Element) (kind : Kind) :
    (ofTrees trees).count kind =
      (trees.map fun e => e.nodes.countP fun x => x.kind = kind).sum := by
  have hvisit : ∀ e ∈ trees, ∀ census : Census, (census.visit e).count kind =
      census.count kind + e.nodes.countP fun x => x.kind = kind :=
    fun e _ census => census.count_visit e kind
  rw [ofTrees, foldl_visit_add (count · kind) hvisit]
  exact Nat.zero_add _

theorem total_ofTrees (trees : List Element) :
    (ofTrees trees).total = (trees.map fun e => e.nodes.length).sum := by
  rw [ofTrees, foldl_visit_add total fun e _ census => census.total_visit e]
  exact Nat.zero_add _

theorem total_eq_sum (census : Census) :
    census.total = (census.entries.map Prod.snd).sum := by
  rw [total, List.sum_eq_foldr, List.foldr_map]

/-- The census has the number of nodes of every kind in the trees, records no zero, and its counts
add up to the number of all nodes. -/
structure Exact (trees : List Element) (census : Census) : Prop where
  counts : ∀ kind, (trees.map fun e => (e.pathsTo kind).encard).sum = (census.count kind : Nat)
  recorded : census.Recorded
  sum : census.total = (census.entries.map Prod.snd).sum
  all : (trees.map fun e => e.paths.encard).sum = (census.total : Nat)

theorem exact_ofTrees (trees : List Element) : Exact trees (ofTrees trees) where
  counts kind := by
    rw [count_ofTrees]
    exact Element.sum_encard (Element.encard_pathsTo kind) trees
  recorded := recorded_ofTrees trees
  sum := total_eq_sum _
  all := by
    rw [total_ofTrees]
    exact Element.sum_encard Element.encard_paths trees

end Census

/-! ## The report on the body of a lambda -/

namespace Java

theorem lambda_reports_nodes {ctx : Context} {site : Site} {receiver : Option Element}
    {target : LambdaTarget} {declared : Method} {body : List Element}
    (hform : lambdaForm target = .inlined)
    (hfound : site.classFile.method? target.name = some declared)
    (hbody : ctx.decompile (withCaptured declared receiver.isSome target.captured) = .ok body)
    (d : Dispatcher) (sink : Sink) :
    ∃ later, ((lambda ctx site receiver target).run d sink).events =
      ⟨"DEBUG", "Inlining lambda body",
        [("method", declared.name), ("statements", toString body.length),
         ("nodes", toString (Census.ofTrees body).total),
         ("captured", toString target.captured.length)]⟩ :: later := by
  have hname := Inlining.withCaptured_name declared receiver.isSome target.captured
  rw [lambda, hform]
  dsimp only
  rw [inlinedLambda, hfound]
  dsimp only
  rw [hbody, hname]
  exact ⟨_, rfl⟩

/-- One census of many trees counts each of their nodes once. Where a lambda is written in place,
whatever rules render its parts, the number of all nodes of the body is what is reported of it. -/
theorem census_counts_nodes (trees : List Element) :
    Census.Exact trees (Census.ofTrees trees) ∧
    ∀ (ctx : Context) (site : Site) (receiver : Option Element) (target : LambdaTarget)
      (declared : Method) (d : Dispatcher) (sink : Sink),
      lambdaForm target = .inlined →
      site.classFile.method? target.name = some declared →
      ctx.decompile (withCaptured declared receiver.isSome target.captured) = .ok trees →
      ∃ later, ((lambda ctx site receiver target).run d sink).events =
        ⟨"DEBUG", "Inlining lambda body",
          [("method", declared.name), ("statements", toString trees.length),
           ("nodes", toString (Census.ofTrees trees).total),
           ("captured", toString target.captured.length)]⟩ :: later :=
  ⟨Census.exact_ofTrees trees, fun _ _ _ _ _ d sink hform hfound hbody =>
    lambda_reports_nodes hform hfound hbody d sink⟩

namespace Reported

def main : JavaType := .ofName "Main"

def captured : Variable := ⟨"captured", .int, 4⟩

def inner : LambdaTarget :=
  { LambdaTarget.ofBacking .invokeSpecial main "lambda$1" ⟨[], .void⟩ with
    captured := [captured, captured] }

/-- An array with its length and two values, and a lambda with its receiver. -/
def body : List Element :=
  [.variableAssignment ⟨"values", .array .int, 1⟩
     (.newArrayWith .int [.ofValue (.int 7), .ofValue (.int 7)]),
   .returnValue (.lambda (some (.this main)) inner)]

def outer : LambdaTarget :=
  { LambdaTarget.ofBacking .invokeStatic main "lambda$0" ⟨[], .void⟩ with captured := [captured] }

def declared : Method := { name := "lambda$0", signature := ⟨[], .void⟩, flags := 0x100a }

def site : Site where
  classFile := { name := .ofText "Main", methods := [declared] }
  method := declared
  element := .lambda none outer

def context : Context where
  collaborators := {
    types := fun _ => none
    classFiles := .ofTable []
    decompiler := .ofTable [("lambda$0", .ok body)]
    style := ({} : StyleOptions).style }

end Reported

/-- Equal values are counted apart, and captured variables are not counted. -/
theorem census_counts_nodes_reported :
    (Reported.body.map fun e => (e.pathsTo .constant).encard).sum = 3 ∧
    (Reported.body.map fun e => (e.pathsTo .variableReference).encard).sum = 1 ∧
    (Reported.body.map fun e => e.paths.encard).sum = 8 ∧
    ∃ later, ((lambda Reported.context Reported.site none Reported.outer).run .outline {}).events =
      ⟨"DEBUG", "Inlining lambda body",
        [("method", "lambda$0"), ("statements", "2"), ("nodes", "8"), ("captured", "1")]⟩ ::
          later := by
  obtain ⟨hexact, hreports⟩ := census_counts_nodes Reported.body
  have hconstants : (Census.ofTrees Reported.body).count .constant = 3 := by decide
  have hvariables : (Census.ofTrees Reported.body).count .variableReference = 1 := by decide
  have htotal : (Census.ofTrees Reported.body).total = 8 := by decide
  refine ⟨?_, ?_, ?_, ?_⟩
  · rw [hexact.counts, hconstants]
    rfl
  · rw [hexact.counts, hvariables]
    rfl
  · rw [hexact.all, htotal]
    rfl
  · obtain ⟨later, hevents⟩ := hreports Reported.context Reported.site none Reported.outer
      Reported.declared .outline {} (by decide) rfl rfl
    rw [htotal] at hevents
    exact ⟨later, hevents⟩

end Java

end SourceRecovery
