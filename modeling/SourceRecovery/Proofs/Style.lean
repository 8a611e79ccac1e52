import SourceRecovery.Element.Build
import SourceRecovery.Proofs.Restyled

/-! # Code styles decide no outcome

The style of a generation decides how types are named and whether `this` is shown, and nothing else:
which elements are rendered, what is decompiled and looked up, whether the run succeeds and with
which error it fails is the same in every style.
-/

namespace SourceRecovery

/-! ## Names -/

/-- The type in a node that may be written as the style names it. -/
def Element.styledType? : Element → Option JavaType
  | .constant k =>
      match k.value with
      | .type t => some t
      | _ => none
  | .cast _ type => some type
  | .newArray _ component _ _ => some component
  | .allocate type => some type
  | .methodCall _ callee _ => some callee.declaring
  | _ => none

def Element.styledTypes (e : Element) : List JavaType := e.nodes.filterMap styledType?

/-- Both styles name the types in a tree alike. -/
def CodeStyle.NamesAlike (s t : CodeStyle) (e : Element) : Prop :=
  ∀ type ∈ e.styledTypes, t.typeName type = s.typeName type

instance (s t : CodeStyle) (e : Element) : Decidable (s.NamesAlike t e) :=
  inferInstanceAs (Decidable (∀ type ∈ e.styledTypes, t.typeName type = s.typeName type))

namespace CodeStyle.NamesAlike

variable {s t : CodeStyle} {e : Element}

theorem root (h : s.NamesAlike t e) {type : JavaType} (htype : e.styledType? = some type) :
    t.typeName type = s.typeName type :=
  h type (List.mem_filterMap.mpr ⟨e, e.mem_nodes_self, htype⟩)

theorem of_mem_nodes {x : Element} (h : s.NamesAlike t e) (hx : x ∈ e.nodes) :
    s.NamesAlike t x := by
  intro type htype
  exact h type (((Element.nodes_sublist_of_mem_nodes hx).filterMap _).subset htype)

end CodeStyle.NamesAlike

namespace Java

open Plan (Restyled)

variable {c : Collaborators} {s t : CodeStyle} {strict : Prop} (level : Nat) {site : Site}

/-! ## Items in two styles -/

/-- The only item whose shape depends on the style. -/
theorem restyled_object (homits : strict → t.omitsThis = s.omitsThis) (e : Element) :
    Restyled c s t strict ((Item.object e).plan ⟨c.inStyle s, level⟩ site)
      ((Item.object e).plan ⟨c.inStyle t, level⟩ site) := by
  have hs : Context.omitsThis ⟨c.inStyle s, level⟩ = s.omitsThis := rfl
  have ht : Context.omitsThis ⟨c.inStyle t, level⟩ = t.omitsThis := rfl
  have hshown : Restyled c s t strict
      (Context.generate ⟨c.inStyle s, level⟩ site e ++ .text ".")
      (Context.generate ⟨c.inStyle t, level⟩ site e ++ .text ".") :=
    (Restyled.generate level site e).append (.text ".")
  rw [Item.plan_object, Item.plan_object, hs, ht]
  cases hthis : e.isThis with
  | false => simpa using hshown
  | true =>
      cases hs : s.omitsThis <;> cases ht : t.omitsThis <;> rw [hs, ht] at homits
      · exact hshown
      · exact .shown level (fun hstrict => Bool.noConfusion (homits hstrict)) hthis .done
      · exact .omitted level (fun hstrict => Bool.noConfusion (homits hstrict)) hthis .done
      · exact .done

theorem restyled_item (homits : strict → t.omitsThis = s.omitsThis) (item : Item)
    (hname : strict → ∀ type, item = .name type → t.typeName type = s.typeName type) :
    Restyled c s t strict (item.plan ⟨c.inStyle s, level⟩ site)
      (item.plan ⟨c.inStyle t, level⟩ site) := by
  cases item with
  | text piece => exact .text piece
  | name type => exact .name fun hstrict => hname hstrict type rfl
  | indent => exact .of_hands (Item.hands_indentation _)
  | part e => exact .generate level site e
  | object e => exact restyled_object level homits e
  | mark m => exact .mark m .done
  | fail e => exact .fail e

theorem restyled_read (homits : strict → t.omitsThis = s.omitsThis) (items : List Item)
    (hnames : strict → ∀ type, .name type ∈ items → t.typeName type = s.typeName type) :
    Restyled c s t strict (Item.read ⟨c.inStyle s, level⟩ site items)
      (Item.read ⟨c.inStyle t, level⟩ site items) := by
  induction items with
  | nil => exact .done
  | cons item rest ih =>
      have hfirst : strict → ∀ type, item = .name type → t.typeName type = s.typeName type :=
        fun hstrict type heq => hnames hstrict type (heq ▸ List.mem_cons_self)
      have hrest : strict → ∀ type, .name type ∈ rest → t.typeName type = s.typeName type :=
        fun hstrict type hmem => hnames hstrict type (List.mem_cons_of_mem _ hmem)
      exact (restyled_item level homits item hfirst).append (ih hrest)

/-! ## Rules in two styles -/

theorem items_inStyle (file : ClassFile) (e : Element) :
    items ⟨c.inStyle t, level⟩ file e = items ⟨c.inStyle s, level⟩ file e := by
  cases e <;> rfl

theorem innerContext_inStyle (site : Site) :
    ∃ below, innerContext ⟨c.inStyle s, level⟩ site = ⟨c.inStyle s, below⟩ ∧
      innerContext ⟨c.inStyle t, level⟩ site = ⟨c.inStyle t, below⟩ := by
  unfold innerContext
  cases site.element.inlining? with
  | none => exact ⟨level, rfl, rfl⟩
  | some i =>
      have hbody (style : CodeStyle) :
          i.body (c.inStyle style).decompiler site.classFile = i.body c.decompiler site.classFile :=
        rfl
      simp only [bodyContext, hbody]
      cases writtenAsBlock (i.body c.decompiler site.classFile)
      · exact ⟨level, rfl, rfl⟩
      · exact ⟨level + 1, rfl, rfl⟩

variable {ctx : Context} {file : ClassFile} {type : JavaType}

theorem type_of_name_mem_literal {k : Constant} (h : .name type ∈ literalItems k) :
    k.value = .type type := by
  unfold literalItems at h
  repeat' split at h
  all_goals simp_all [Item.texts]

theorem name_notMem_listed (es : List Element) : .name type ∉ Item.listed es :=
  Item.notMem_listed rfl es

theorem name_notMem_inlined (i : Inlining) : .name type ∉ inlinedItems ctx file i := by
  intro h
  obtain ⟨marks, ⟨e, hfails⟩ | ⟨backing, hbody⟩⟩ := inlinedItems_eq ctx file i
  · simp [hfails] at h
  · simp only [hbody, List.mem_append, List.mem_map, reduceCtorEq, and_false, exists_false,
      false_or] at h
    rcases mem_bodyItems h with hplain | ⟨_, position, _, hname⟩
    · cases hplain
    · unfold parameterItem at hname
      split at hname <;> cases hname

theorem name_notMem_lambda (receiver : Option Element) (target : LambdaTarget) :
    .name type ∉ lambdaItems ctx file receiver target := by
  unfold lambdaItems
  split
  · unfold qualifierItem
    repeat' split
    all_goals simp
  · simp
  · exact name_notMem_inlined _

theorem name_notMem_accessor (call : Call) : .name type ∉ accessorItems ctx call := by
  intro h
  obtain ⟨marks, ⟨e, hfails⟩ | ⟨field, haccess⟩⟩ := accessorItems_eq ctx call
  · simp [hfails] at h
  · simp only [haccess, List.mem_append, List.mem_map, reduceCtorEq, and_false, exists_false,
      false_or] at h
    cases isPlain_of_mem_fieldAccess h

theorem name_notMem_invocation (call : Call) : .name type ∉ invocationItems ctx call := by
  simp [invocationItems, name_notMem_listed]

theorem declaring_of_name_mem_call {call : Call} (h : .name type ∈ callItems ctx call) :
    call.callee.declaring = type := by
  unfold callItems at h
  split at h
  · unfold booleanBoxItems at h
    repeat' split at h
    all_goals simp at h
  · unfold primitiveBoxItems at h
    split at h <;> simp at h
  · exact absurd h (name_notMem_invocation call)
  · exact absurd h (name_notMem_accessor call)
  · simpa [name_notMem_invocation, eq_comm] using h
  · simp [name_notMem_invocation] at h

/-- An element names no type but this one in a way that the style decides. -/
theorem styledType?_of_name_mem {e : Element} (h : .name type ∈ items ctx file e) :
    e.styledType? = some type := by
  cases e
  case constant k => simp [Element.styledType?, type_of_name_mem_literal h]
  case lambda receiver target => exact absurd h (name_notMem_lambda receiver target)
  case methodCall target callee arguments =>
      exact congrArg some (declaring_of_name_mem_call h)
  case newArray _ component length initializers =>
      have hcomponent : component = type := by
        cases initializers <;> simpa [items, name_notMem_listed, eq_comm] using h
      exact congrArg some hcomponent
  -- The other rules write fixed lists, some of them after one or two tests.
  all_goals simp only [items, fieldItems, operandItems, incrementItems] at h
  all_goals repeat' split at h
  all_goals simp_all [name_notMem_listed, Element.styledType?]

/-- The plans for an element in two styles. -/
theorem restyled_plan (homits : strict → t.omitsThis = s.omitsThis)
    (hnames : strict → ∀ type, site.element.styledType? = some type →
      t.typeName type = s.typeName type) :
    Restyled c s t strict (plan ⟨c.inStyle s, level⟩ site) (plan ⟨c.inStyle t, level⟩ site) := by
  obtain ⟨below, hs, ht⟩ : ∃ below,
      innerContext ⟨c.inStyle s, level⟩ site = ⟨c.inStyle s, below⟩ ∧
        innerContext ⟨c.inStyle t, level⟩ site = ⟨c.inStyle t, below⟩ :=
    innerContext_inStyle level site
  have hitems : items ⟨c.inStyle t, level⟩ site.classFile site.element =
      items ⟨c.inStyle s, level⟩ site.classFile site.element :=
    items_inStyle level site.classFile site.element
  rw [plan_eq_items, plan_eq_items, hs, ht, hitems]
  exact restyled_read below homits _ fun hstrict type hmem =>
    hnames hstrict type (styledType?_of_name_mem hmem)

/-! ## Showing `this` -/

theorem plan_this (ctx : Context) (h : site.element.isThis = true) :
    plan ctx site = .text "this" := by
  unfold plan
  cases he : site.element <;> rw [he] at h
  case variableReference var =>
      simp only [ruleFor?, Option.getD_some, variableReference, he]
      rw [eq_of_beq h]
  all_goals cases h

theorem dispatch_this (depth : Nat) (ctx : Context) (h : site.element.isThis = true) {sink : Sink}
    (hopen : sink.Open) :
    (catalog.dispatch builtin (depth + 1) ctx site sink).outcome = .ok ∧
    (catalog.dispatch builtin (depth + 1) ctx site sink).requests = [] := by
  rw [dispatch_succ, plan_this ctx h, Plan.text, Plan.run_write_of_open _ hopen]
  exact ⟨rfl, rfl⟩

theorem finished_dispatch_this (depth : Nat) (ctx : Context) (h : site.element.isThis = true)
    {sink : Sink} (hopen : sink.Open) :
    (catalog.dispatch builtin (depth + 1) ctx site sink).Finished := by
  unfold Run.Finished
  rw [(dispatch_this depth ctx h hopen).1]
  exact Outcome.noConfusion

theorem silent_dispatch_this (depth : Nat) (ctx : Context) (h : site.element.isThis = true)
    {sink : Sink} (hopen : sink.Open) : (catalog.dispatch builtin depth ctx site sink).Silent := by
  intro hfinished
  cases depth with
  | zero => exact absurd rfl hfinished
  | succ depth => exact dispatch_this depth ctx h hopen

/-! ## Bodies written in place -/

/-- A statement that is written in place comes from a body that was asked for. -/
theorem exists_request_of_mem_body (ctx : Context) {i : Inlining}
    (hi : site.element.inlining? = some i) {statement : Element}
    (h : statement ∈ i.body ctx.collaborators.decompiler site.classFile) (dispatcher : Dispatcher)
    (sink : Sink) :
    ∃ method, .decompile method ∈ ((plan ctx site).run dispatcher sink).requests ∧
      statement ∈ (ctx.collaborators.decompiler method).toOption.getD [] := by
  obtain ⟨receiver, he, hreceiver, hform⟩ := Element.lambda_of_inlining? hi
  obtain ⟨declared, hmethod, hmem⟩ := Inlining.exists_declared_of_mem_body h
  refine ⟨_, ?_, hmem⟩
  simp only [plan, he, ruleFor?, Option.getD_none, builtin, lambda, hform, inlinedLambda, hmethod,
    hreceiver]
  rw [Plan.run, Run.requests_after]
  exact List.mem_cons_self

/-- The types in a body that is asked for are named alike. -/
def NamesBodyAlike (c : Collaborators) (s t : CodeStyle) : Mark → Prop
  | .decompile method => ∀ e ∈ (c.decompiler method).toOption.getD [], s.NamesAlike t e
  | _ => True

instance (c : Collaborators) (s t : CodeStyle) : DecidablePred (NamesBodyAlike c s t)
  | .decompile method =>
      inferInstanceAs (Decidable (∀ e ∈ (c.decompiler method).toOption.getD [], s.NamesAlike t e))
  | .resolveClass _ | .accessor .. | .inlining .. | .note _ => instDecidableTrue

theorem namesAlike_of_mem_sources {dispatcher : Dispatcher} {sink : Sink}
    (helement : s.NamesAlike t site.element)
    (hbodies : ∀ request ∈ ((plan ⟨c.inStyle s, level⟩ site).run dispatcher sink).requests,
      NamesBodyAlike c s t request)
    {x : Element} (hx : x ∈ site.element.sources c.decompiler site.classFile) :
    s.NamesAlike t x := by
  unfold Element.sources at hx
  split at hx
  · next i hi =>
      obtain ⟨method, hrequest, hmem⟩ :=
        exists_request_of_mem_body ⟨c.inStyle s, level⟩ hi hx dispatcher sink
      exact hbodies _ hrequest x hmem
  · have hnode : x ∈ site.element.nodes := by
      rw [Element.nodes_eq]
      exact List.mem_cons_of_mem _ (List.mem_flatMap.mpr ⟨x, hx, x.mem_nodes_self⟩)
    exact helement.of_mem_nodes hnode

/-! ## Whole runs -/

/-- Dispatches in two styles are related, if the second may go one level deeper than the first: it
may show a `this` that the first leaves out. -/
theorem dispatch_echoing (homits : strict → t.omitsThis = s.omitsThis) (depth level : Nat)
    (site : Site) (hnames : strict → s.NamesAlike t site.element) :
    Echoing strict (NamesBodyAlike c s t)
      (catalog.dispatch builtin depth ⟨c.inStyle s, level⟩ site)
      (catalog.dispatch builtin (depth + 1) ⟨c.inStyle t, level⟩ site) := by
  induction depth generalizing level site with
  | zero => exact fun _ _ _ _ _ hfinished _ => absurd rfl hfinished
  | succ depth ih =>
      intro a b ha hb htext hfinished hknown
      rw [dispatch_succ] at hfinished hknown ⊢
      rw [dispatch_succ]
      have hplan : Restyled c s t strict (plan ⟨c.inStyle s, level⟩ site)
          (plan ⟨c.inStyle t, level⟩ site) :=
        restyled_plan level homits fun hstrict _ htype => (hnames hstrict).root htype
      have hsites (below : Nat) (inner : Site)
          (hinner : (⟨c.inStyle s, below⟩, inner) ∈ (plan ⟨c.inStyle s, level⟩ site).sites) :
          Echoing strict (NamesBodyAlike c s t)
            (catalog.dispatch builtin depth ⟨c.inStyle s, below⟩ inner)
            (catalog.dispatch builtin (depth + 1) ⟨c.inStyle t, below⟩ inner) := by
        apply ih
        intro hstrict
        -- What is handed back is a node of the element, or of a body that this run asked for.
        obtain ⟨next, _, hrenders⟩ := renders_plan ⟨c.inStyle s, level⟩ site
        obtain ⟨sites, hands, hsources⟩ := hrenders.exists_hands
        obtain ⟨y, hy, heq⟩ := hsources _ (hands.sites_sublist.subset hinner)
        obtain ⟨x, hx, hyx⟩ := List.mem_flatMap.mp hy
        have hsource := namesAlike_of_mem_sources level (hnames hstrict) (hknown hstrict) hx
        cases heq
        exact hsource.of_mem_nodes hyx
      have hecho := hplan.echoing (catalog.dispatch_keepsPolicy builtin depth)
        (catalog.dispatch_keepsPolicy builtin (depth + 1))
        (fun _ _ _ hthis hopen => silent_dispatch_this depth _ hthis hopen)
        (fun _ _ _ hthis hopen => ⟨finished_dispatch_this depth _ hthis hopen,
          silent_dispatch_this (depth + 1) _ hthis hopen⟩) hsites
      exact (hecho a b ha hb htext hfinished hknown).after rfl

def renderIn (c : Collaborators) (style : CodeStyle) (depth level : Nat) (site : Site)
    (sink : Sink) : Run :=
  (Generator.mk catalog (c.inStyle style)).dispatcher depth ⟨c.inStyle style, level⟩ site sink

/-- Generation comes to an end in one style if it does in another, and then it ends alike and makes
the same requests. The text is the same as well if the styles agree on `this` and name alike what
may be written of the tree and of the bodies asked for. Showing `this` may take one more level. -/
theorem generation_restyled (c : Collaborators) (s t : CodeStyle) (site : Site) (level : Nat)
    (sink : Sink) (hopen : sink.Open) (depth : Nat)
    (hfinished : (renderIn c s depth level site sink).outcome ≠ .exhausted) :
    (∀ deeper, depth < deeper → (renderIn c t deeper level site sink).outcome ≠ .exhausted) ∧
    ∀ other, (renderIn c t other level site sink).outcome ≠ .exhausted →
      (renderIn c t other level site sink).outcome =
        (renderIn c s depth level site sink).outcome ∧
      (renderIn c t other level site sink).requests =
        (renderIn c s depth level site sink).requests ∧
      (t.omitsThis = s.omitsThis → s.NamesAlike t site.element →
        (∀ request ∈ (renderIn c s depth level site sink).requests,
          NamesBodyAlike c s t request) →
        (renderIn c t other level site sink).sink.text =
          (renderIn c s depth level site sink).sink.text) := by
  have hloose : (renderIn c s depth level site sink).Echoes False
      (renderIn c t (depth + 1) level site sink) :=
    dispatch_echoing False.elim depth level site False.elim sink sink hopen hopen False.elim
      hfinished False.elim
  have hends : (renderIn c t (depth + 1) level site sink).Finished := by
    unfold Run.Finished
    rw [hloose.outcome]
    exact hfinished
  refine ⟨fun deeper hlt => catalog.finished_of_le builtin hlt hends, fun other hother => ?_⟩
  have hsame : renderIn c t other level site sink = renderIn c t (depth + 1) level site sink :=
    catalog.dispatch_eq_of_finished builtin hother hends
  rw [hsame]
  refine ⟨hloose.outcome, hloose.requests, fun homits hnames hbodies => ?_⟩
  have hstrict : (renderIn c s depth level site sink).Echoes True
      (renderIn c t (depth + 1) level site sink) :=
    dispatch_echoing (fun _ => homits) depth level site (fun _ => hnames) sink sink hopen hopen
      (fun _ => rfl) hfinished fun _ => hbodies
  exact hstrict.text trivial

/-! ## A lambda that calls a method of its object -/

namespace Closure

def outer : JavaType := .ofName "app.Outer"

def amount : JavaType := .ofName "app.Amount"

/-- The body of the lambda reads a field through an accessor. -/
def body : List Element :=
  [.returnValue (.callOn (.this outer) "accept" ⟨[amount], .void⟩
    [.cast (.staticCall outer "access$000" ⟨[outer], .int⟩ [.this outer]) amount])]

def classFile : ClassFile where
  name := .ofText "app.Outer"
  methods :=
    [{ name := "lambda$0", signature := ⟨[], .void⟩, flags := 0x1002 },
     { name := "access$000", signature := ⟨[outer], .int⟩, flags := 0x1008 }]

def collaborators : Collaborators where
  types := fun _ => none
  classFiles := .ofTable [classFile]
  decompiler := .ofTable
    [("lambda$0", .ok body),
     ("access$000", .ok [.returnValue (.fieldOf (.this outer) .int "count")])]
  style := ({} : StyleOptions).style

def created : Site where
  classFile := classFile
  method := { name := "main", signature := ⟨[], .void⟩, flags := 1 }
  element := .lambda (some (.this outer)) (.ofBacking .invokeSpecial outer "lambda$0" ⟨[], .void⟩)

def short : CodeStyle := ({} : StyleOptions).style

def long : CodeStyle := ({ simpleNames := false, omitThis := false } : StyleOptions).style

/-- Short names for the types of the lambda only. -/
def partly : CodeStyle where
  typeName type := if type = outer ∨ type = amount then type.simpleName else type.name
  omitsThis := true

end Closure

theorem generation_restyled_closure :
    (renderIn Closure.collaborators Closure.short 9 0 Closure.created {}).sink.text =
      "() -> accept((Amount)this.count)" ∧
    ((renderIn Closure.collaborators Closure.long 9 0 Closure.created {}).outcome =
        (renderIn Closure.collaborators Closure.short 9 0 Closure.created {}).outcome ∧
      (renderIn Closure.collaborators Closure.long 9 0 Closure.created {}).requests =
        (renderIn Closure.collaborators Closure.short 9 0 Closure.created {}).requests ∧
      (renderIn Closure.collaborators Closure.long 9 0 Closure.created {}).sink.text =
        "() -> this.accept((app.Amount)this.count)") ∧
    (renderIn Closure.collaborators Closure.partly 9 0 Closure.created {}).sink.text =
      (renderIn Closure.collaborators Closure.short 9 0 Closure.created {}).sink.text := by
  have hopen : Sink.Open {} := fun _ _ => rfl
  have hfinished : (renderIn Closure.collaborators Closure.short 9 0 Closure.created {}).outcome ≠
      .exhausted := by decide
  have hlong := (generation_restyled Closure.collaborators Closure.short Closure.long
    Closure.created 0 {} hopen 9 hfinished).2 9 (by decide)
  have hpartly := (generation_restyled Closure.collaborators Closure.short Closure.partly
    Closure.created 0 {} hopen 9 hfinished).2 9 (by decide)
  exact ⟨by decide, ⟨hlong.1, hlong.2.1, by decide⟩, hpartly.2.2 rfl (by decide) (by decide)⟩

end Java

end SourceRecovery
