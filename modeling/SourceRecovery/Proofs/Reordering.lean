import SourceRecovery.Proofs.Moved
import SourceRecovery.Proofs.Returning

/-! # The order of local variable tables

Where variables are captured, the table of the backing method is sorted, and its order cannot be
seen. Where nothing is captured it is taken as it is. Then the order is seen in a header that names
parameters, unless the table is in slot order; for everything else it does not matter.
-/

namespace SourceRecovery

open LocalVariable

/-! ## Tables in another order -/

/-- The decompiler does not look at the order of tables. -/
def Decompiler.IgnoresOrder (decompiler : Decompiler) : Prop :=
  ∀ (method : Method) (table other : List LocalVariable), table.Perm other →
    decompiler (method.withTable table) = decompiler (method.withTable other)

/-- The methods differ at most in the order of their tables, which have one entry for a slot. -/
inductive Method.Reordered : Method → Method → Prop
  | same (method : Method) : Reordered method method
  | table (method : Method) {table other : List LocalVariable} :
      DistinctSlots table → table.Perm other →
      Reordered (method.withTable table) (method.withTable other)

/-- The class files differ at most in the order of the tables of their methods. -/
structure ClassFile.Reordered (file other : ClassFile) : Prop where
  name : other.name = file.name
  methods : List.Forall₂ Method.Reordered file.methods other.methods

namespace Method.Reordered

variable {method other : Method}

theorem name_eq (h : method.Reordered other) : method.name = other.name := by
  cases h <;> rfl

theorem signature_eq (h : method.Reordered other) : method.signature = other.signature := by
  cases h <;> rfl

/-- Tables in slot order have only one order. -/
theorem eq_of_inSlotOrder (h : method.Reordered other) (hmethod : InSlotOrder method.locals)
    (hother : InSlotOrder other.locals) : method = other := by
  cases h with
  | same => rfl
  | table declared hdistinct hperm =>
      have htable := hmethod.eq_of_perm hother hdistinct hperm
      exact congrArg declared.withTable htable

variable {captured : List Variable}

/-- Sorting captured variables in leaves nothing of the order. -/
theorem withCaptured_eq (h : method.Reordered other) (hasReceiver : Bool) (hne : captured ≠ []) :
    Java.withCaptured method hasReceiver captured =
      Java.withCaptured other hasReceiver captured := by
  cases h with
  | same => rfl
  | table declared hdistinct hperm =>
      have hempty : captured.isEmpty = false := by
        rw [List.isEmpty_eq_false_iff]
        exact hne
      have hsorted := sortByIndex_append_of_perm hdistinct hperm
        (Java.capturedEntries (if hasReceiver then 1 else 0) captured)
      simp only [Java.withCaptured, hempty]
      exact congrArg declared.withTable hsorted

theorem withCaptured_nil (method : Method) (hasReceiver : Bool) :
    Java.withCaptured method hasReceiver [] = method := rfl

theorem decompile_eq (h : method.Reordered other) {decompiler : Decompiler}
    (hignores : decompiler.IgnoresOrder) (hasReceiver : Bool) :
    decompiler (Java.withCaptured method hasReceiver captured) =
      decompiler (Java.withCaptured other hasReceiver captured) := by
  by_cases hne : captured = []
  · rw [hne, withCaptured_nil, withCaptured_nil]
    cases h with
    | same => rfl
    | table declared _ hperm => exact hignores declared _ _ hperm
  · rw [h.withCaptured_eq hasReceiver hne]

end Method.Reordered

theorem ClassFile.Reordered.method?_cases {file other : ClassFile} (h : file.Reordered other)
    (name : String) :
    (file.method? name = none ∧ other.method? name = none) ∨
      ∃ declared reordered, file.method? name = some declared ∧
        other.method? name = some reordered ∧ declared.Reordered reordered := by
  have hmethods := h.methods
  unfold ClassFile.method?
  generalize file.methods = methods at hmethods ⊢
  generalize other.methods = others at hmethods ⊢
  induction hmethods with
  | nil => exact .inl ⟨rfl, rfl⟩
  | @cons declared reordered _ _ hmethod _ ih =>
      by_cases hname : declared.name = name
      · have hname' : reordered.name = name := hmethod.name_eq ▸ hname
        refine .inr ⟨declared, reordered, ?_, ?_, hmethod⟩
        · exact List.find?_cons_of_pos (by simpa using hname)
        · exact List.find?_cons_of_pos (by simpa using hname')
      · have hname' : reordered.name ≠ name := hmethod.name_eq ▸ hname
        rw [List.find?_cons_of_neg (by simpa using hname),
          List.find?_cons_of_neg (by simpa using hname')]
        exact ih

/-- The order of its table is seen in what is written for the lambda: nothing is captured, and the
header names parameters after a table that is not in slot order. -/
def Inlining.ShowsOrder (decompiler : Decompiler) (file : ClassFile) (i : Inlining) : Prop :=
  i.target.captured = [] ∧ Java.onlyReturns (i.body decompiler file) = true ∧
    ∃ declared, file.method? i.target.name = some declared ∧
      declared.signature.parameters ≠ [] ∧ ¬ InSlotOrder declared.locals

namespace Java

/-! ## Lambdas at another place -/

section

variable {file other : ClassFile}

theorem parameterItems_of_name (hname : other.name = file.name) (target : LambdaTarget)
    (backing : Method) :
    parameterItems file target backing = parameterItems other target backing := by
  have hitem : parameterItem file target backing = parameterItem other target backing := by
    funext position
    simp only [parameterItem, hname]
  simp only [parameterItems, hitem]

/-- The header does not change with the order if the table is sorted in any case. -/
theorem parameterItems_of_reordered (hname : other.name = file.name) (target : LambdaTarget)
    {declared reordered : Method} (h : declared.Reordered reordered) (hasReceiver : Bool)
    (horder : target.captured = [] → declared.signature.parameters ≠ [] →
      InSlotOrder declared.locals ∧ InSlotOrder reordered.locals) :
    parameterItems file target (withCaptured declared hasReceiver target.captured) =
      parameterItems other target (withCaptured reordered hasReceiver target.captured) := by
  by_cases hnil : target.captured = []
  · rw [hnil, Method.Reordered.withCaptured_nil, Method.Reordered.withCaptured_nil]
    by_cases hnone : declared.signature.parameters = []
    · simp only [parameterItems, ← h.signature_eq, hnone, List.length_nil]
    · obtain ⟨hdeclared, hreordered⟩ := horder hnil hnone
      rw [h.eq_of_inSlotOrder hdeclared hreordered]
      exact parameterItems_of_name hname target reordered
  · rw [h.withCaptured_eq hasReceiver hnil]
    exact parameterItems_of_name hname target _

theorem bodyItems_of_header {target : LambdaTarget} {backing reordered : Method}
    {body : List Element} (h : onlyReturns body = true →
      parameterItems file target backing = parameterItems other target reordered) :
    bodyItems file target backing body = bodyItems other target reordered body := by
  unfold bodyItems
  split
  · rw [h rfl]
  · rw [h rfl]
  · rfl
  · rfl
  · rfl

theorem body_of_reordered (hfile : file.Reordered other) {decompiler : Decompiler}
    (hignores : decompiler.IgnoresOrder) (i : Inlining) :
    i.body decompiler file = i.body decompiler other := by
  unfold Inlining.body
  rcases hfile.method?_cases i.target.name with
    ⟨hnone, hnone'⟩ | ⟨declared, reordered, hfound, hfound', hmethod⟩
  · rw [hnone, hnone']
  · rw [hfound, hfound']
    dsimp only
    rw [hmethod.decompile_eq hignores i.hasReceiver]

variable (ctx : Context)

/-- With its table in another order, a lambda that does not show the order does the same. Only the
mark of the method that is decompiled holds the table. -/
theorem inlinedItems_of_reordered (hfile : file.Reordered other)
    (hignores : ctx.collaborators.decompiler.IgnoresOrder) {i : Inlining}
    (hhere : ¬ i.ShowsOrder ctx.collaborators.decompiler file)
    (hthere : ¬ i.ShowsOrder ctx.collaborators.decompiler other) :
    inlinedItems ctx file i = inlinedItems ctx other i ∨
      ∃ backing backing' rest, inlinedItems ctx file i = .mark (.decompile backing) :: rest ∧
        inlinedItems ctx other i = .mark (.decompile backing') :: rest := by
  unfold inlinedItems
  rcases hfile.method?_cases i.target.name with
    ⟨hnone, hnone'⟩ | ⟨declared, reordered, hfound, hfound', hmethod⟩
  · rw [hnone, hnone', hfile.name]
    exact .inl rfl
  · rw [hfound, hfound']
    refine .inr ⟨withCaptured declared i.hasReceiver i.target.captured,
      withCaptured reordered i.hasReceiver i.target.captured, _, rfl, ?_⟩
    have hname : (withCaptured reordered i.hasReceiver i.target.captured).name =
        (withCaptured declared i.hasReceiver i.target.captured).name := by
      rw [Inlining.withCaptured_name, Inlining.withCaptured_name, hmethod.name_eq]
    have hdecompile : ctx.decompile (withCaptured declared i.hasReceiver i.target.captured) =
        ctx.decompile (withCaptured reordered i.hasReceiver i.target.captured) :=
      hmethod.decompile_eq hignores i.hasReceiver
    dsimp only
    rw [hfile.name, hname, hdecompile]
    cases hbody : ctx.decompile (withCaptured reordered i.hasReceiver i.target.captured) with
    | error cause => rfl
    | ok body =>
        have hhereBody := Inlining.body_of_ok hfound (hdecompile.trans hbody)
        have hthereBody := Inlining.body_of_ok hfound' hbody
        have horder (hreturns : onlyReturns body = true) (hnil : i.target.captured = [])
            (hparameters : declared.signature.parameters ≠ []) :
            InSlotOrder declared.locals ∧ InSlotOrder reordered.locals := by
          constructor
          · apply Decidable.byContradiction
            intro hnot
            exact hhere ⟨hnil, hhereBody ▸ hreturns, declared, hfound, hparameters, hnot⟩
          · apply Decidable.byContradiction
            intro hnot
            rw [hmethod.signature_eq] at hparameters
            exact hthere ⟨hnil, hthereBody ▸ hreturns, reordered, hfound', hparameters, hnot⟩
        have hitems := bodyItems_of_header fun hreturns =>
          parameterItems_of_reordered hfile.name i.target hmethod i.hasReceiver (horder hreturns)
        dsimp only
        rw [hitems]

variable {site : Site} (method : Method)

/-- A lambda that does not show the order of its table is written alike with the table in another
order. -/
theorem run_inlined_moved_alike (hfile : site.classFile.Reordered other)
    (hignores : ctx.collaborators.decompiler.IgnoresOrder) {i : Inlining}
    (hi : site.element.inlining? = some i)
    (hhere : ¬ i.ShowsOrder ctx.collaborators.decompiler site.classFile)
    (hthere : ¬ i.ShowsOrder ctx.collaborators.decompiler other) (dispatcher : Dispatcher)
    (sink : Sink) :
    (((plan ctx site).moved other method).run dispatcher sink).Alike
      ((plan ctx (site.moved other method)).run dispatcher sink) := by
  have hinner : innerContext ctx (site.moved other method) = innerContext ctx site := by
    unfold innerContext
    rw [Site.element_moved, hi]
    exact congrArg (bodyContext ctx) (body_of_reordered hfile hignores i).symm
  rw [moved_plan, plan_eq_items ctx (site.moved other method), hinner, Site.element_moved,
    items_of_inlining ctx hi, items_of_inlining ctx hi]
  rcases inlinedItems_of_reordered ctx hfile hignores hhere hthere with
    hsame | ⟨backing, backing', rest, hitems, hitems'⟩
  · rw [hsame]
    exact .refl _
  · have hother : inlinedItems ctx (site.moved other method).classFile i =
        .mark (.decompile backing') :: rest := hitems'
    rw [hitems, hother]
    exact .after (.refl _) rfl

theorem run_plan_moved_alike (hfile : site.classFile.Reordered other)
    (hignores : ctx.collaborators.decompiler.IgnoresOrder)
    (hhidden : ∀ i, site.element.inlining? = some i →
      ¬ i.ShowsOrder ctx.collaborators.decompiler site.classFile ∧
        ¬ i.ShowsOrder ctx.collaborators.decompiler other)
    (dispatcher : Dispatcher) (sink : Sink) :
    (((plan ctx site).moved other method).run dispatcher sink).Alike
      ((plan ctx (site.moved other method)).run dispatcher sink) := by
  cases hi : site.element.inlining? with
  | none =>
      rw [plan_moved other method ctx site hi]
      exact .refl _
  | some i =>
      obtain ⟨hhere, hthere⟩ := hhidden i hi
      exact run_inlined_moved_alike ctx method hfile hignores hi hhere hthere dispatcher sink

end

/-! ## Whole runs -/

/-- Reordered tables make no difference at any depth, as long as no lambda that is reached shows
their order. -/
theorem dispatch_reordered {c : Collaborators} {file other : ClassFile} {root : Element}
    (hfile : file.Reordered other) (hignores : c.decompiler.IgnoresOrder)
    (hhidden : ∀ i, Inlining.Reached c.decompiler file root i →
      ¬ i.ShowsOrder c.decompiler file ∧ ¬ i.ShowsOrder c.decompiler other) (depth : Nat) :
    ∀ e : Element, (∀ i ∈ e.inlinings, Inlining.Reached c.decompiler file root i) →
      ∀ level method method' sink,
        (catalog.dispatch builtin depth ⟨c, level⟩ ⟨file, method, e⟩ sink).Alike
          (catalog.dispatch builtin depth ⟨c, level⟩ ⟨other, method', e⟩ sink) := by
  induction depth with
  | zero => exact fun _ _ _ _ _ _ => .refl _
  | succ depth ih =>
      intro e hlambdas level method method' sink
      -- The sites handed back change places first, then the plan does.
      have hhanded : ((plan ⟨c, level⟩ ⟨file, method, e⟩).run (catalog.dispatch builtin depth)
          sink).Alike (((plan ⟨c, level⟩ ⟨file, method, e⟩).moved other method').run
            (catalog.dispatch builtin depth) sink) := by
        obtain ⟨sites, hands, hsites⟩ :=
          (renders_sources ⟨c, level⟩ ⟨file, method, e⟩).exists_hands
        rw [Plan.run_moved]
        refine hands.run_alike (fun x hx sink => ?_) sink
        obtain ⟨y, hy, hxy⟩ := hsites x hx
        have hreached := Inlining.Reached.of_mem_sources hlambdas hy
        rw [hxy]
        rcases innerContext_eq_or ⟨c, level⟩ ⟨file, method, e⟩ with hctx | hctx
        · rw [hctx]
          exact ih y hreached level method method' sink
        · rw [hctx]
          exact ih y hreached (level + 1) method method' sink
      have hroot (i : Inlining) (hi : (Site.mk file method e).element.inlining? = some i) :=
        hhidden i (hlambdas i (Element.mem_inlinings_of_root hi))
      have hplanned := run_plan_moved_alike ⟨c, level⟩ method' hfile hignores hroot
        (catalog.dispatch builtin depth) sink
      rw [dispatch_succ, dispatch_succ]
      exact (hhanded.trans hplanned).after rfl

/-- Class files that differ in the order of tables are rendered alike: the same outcome, the same
text and the same elements given to the rules. Only lambdas that show the order are excepted. -/
theorem generation_ignores_order (c : Collaborators) (file other : ClassFile) (root : Element)
    (hfile : file.Reordered other) (hignores : c.decompiler.IgnoresOrder)
    (hhidden : ∀ i, Inlining.Reached c.decompiler file root i →
      ¬ i.ShowsOrder c.decompiler file ∧ ¬ i.ShowsOrder c.decompiler other)
    (depth level : Nat) (method method' : Method) (sink : Sink) :
    ((Generator.mk catalog c).dispatcher depth ⟨c, level⟩ ⟨file, method, root⟩ sink).Alike
      ((Generator.mk catalog c).dispatcher depth ⟨c, level⟩ ⟨other, method', root⟩ sink) :=
  dispatch_reordered hfile hignores hhidden depth root (fun _ hi => .root hi) level method method'
    sink

open Capturing (entry capturedEntry)

theorem Capturing.reordered (count : Nat) {v w : LocalVariable} (h : v.index ≠ w.index) :
    (file count [v, w]).Reordered (file count [w, v]) := by
  have hdistinct : DistinctSlots [v, w] := by simp [DistinctSlots, h]
  exact ⟨rfl, .cons (.table _ hdistinct (.swap w v [])) .nil⟩

theorem Capturing.ignoresOrder : collaborators.decompiler.IgnoresOrder := fun _ _ _ _ => rfl

/-- The captured variable has the first slot and the others follow, whatever order they were in. -/
theorem generation_ignores_order_captured :
    (Capturing.render false [Capturing.a] 3 [entry "y" 1, entry "z" 2]).Alike
      (Capturing.render false [Capturing.a] 3 [entry "z" 2, entry "y" 1]) ∧
    (Capturing.render false [Capturing.a] 3 [entry "z" 2, entry "y" 1]).sink.text =
      "(a, y, z) -> a + z" := by
  constructor
  · refine generation_ignores_order _ _ _ _ (Capturing.reordered 3 (by decide))
      Capturing.ignoresOrder ?_ 3 0 _ _ {}
    intro i hi
    have hmem : i ∈ [Capturing.inlining false [Capturing.a]] :=
      hi.mem_of_closed (by decide) (by decide)
    have hcaptured : i.target.captured ≠ [] := by
      rw [List.mem_singleton.mp hmem]
      decide
    exact ⟨fun hshows => hcaptured hshows.1, fun hshows => hcaptured hshows.1⟩
  · have hbefore : ∀ x ∈ [entry "z" 2], (entry "y" 1).index < x.index := by decide
    have hlast : sortByIndex [entry "z" 2] = [entry "z" 2] :=
      sortByIndex_of_inSlotOrder (by decide)
    have hdeclared : sortByIndex [entry "z" 2, entry "y" 1] = [entry "y" 1, entry "z" 2] :=
      (sortByIndex_least hbefore (List.forall_mem_nil _)).trans (by rw [List.append_nil, hlast])
    have hcaptured : ∀ x ∈ [entry "z" 2, entry "y" 1], capturedEntry.index < x.index := by
      decide
    have hsorted : sortByIndex [entry "z" 2, entry "y" 1, capturedEntry] =
        [capturedEntry, entry "y" 1, entry "z" 2] :=
      (sortByIndex_least hcaptured (List.forall_mem_nil _)).trans
        (by rw [List.append_nil, hdeclared])
    have hopen : Sink.Open {} := fun _ _ => rfl
    have hlambda := Capturing.returningLambda false [Capturing.a] 3 [entry "z" 2, entry "y" 1]
    have hrun := hlambda.dispatch_header hsorted (by decide) 2 0 hopen
    rw [Capturing.render, Generator.dispatcher, hrun.sink]
    decide

/-- Nothing is captured, and the parameters change places with their entries. -/
theorem header_shows_order :
    (Capturing.file 2 [entry "a" 0, entry "z" 1]).Reordered
      (Capturing.file 2 [entry "z" 1, entry "a" 0]) ∧
    Capturing.collaborators.decompiler.IgnoresOrder ∧
    (Capturing.render false [] 2 [entry "a" 0, entry "z" 1]).sink.text = "(a, z) -> a + z" ∧
    (Capturing.render false [] 2 [entry "z" 1, entry "a" 0]).sink.text = "(z, a) -> a + z" :=
  ⟨Capturing.reordered 2 (by decide), Capturing.ignoresOrder, by decide, by decide⟩

end Java

end SourceRecovery
