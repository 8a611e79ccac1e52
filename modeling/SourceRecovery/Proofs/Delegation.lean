import SourceRecovery.Proofs.Handed
import SourceRecovery.Proofs.Items

/-! # What the Java rules hand back

For every kind of element, which trees its rule hands back: some of the children in source order,
or, where a call spreads the array of its variable arguments, the values of that array in its place.
A lambda written in place hands back what its body holds instead of its receiver.
-/

namespace SourceRecovery

/-- The plan hands back trees of the same method, in this context. Their nodes, one tree after the
other, are some of the nodes of `sources`, in order. -/
def Plan.Renders (p : Plan) (ctx : Context) (site : Site) (sources : List Element) : Prop :=
  ∃ es : List Element, p.Hands (es.map fun e => (ctx, site.focus e)) ∧
    (es.flatMap Element.nodes).Sublist (sources.flatMap Element.nodes)

/-- The sites handed back, each with a node below the sources. -/
theorem Plan.Renders.exists_hands {p : Plan} {ctx : Context} {site : Site} {sources : List Element}
    (h : p.Renders ctx site sources) :
    ∃ sites, p.Hands sites ∧
      ∀ x ∈ sites, ∃ y ∈ sources.flatMap Element.nodes, x = (ctx, site.focus y) := by
  obtain ⟨es, hands, hes⟩ := h
  refine ⟨_, hands, ?_⟩
  intro x hx
  obtain ⟨y, hy, hxy⟩ := List.mem_map.mp hx
  have hnode : y ∈ es.flatMap Element.nodes :=
    List.mem_flatMap.mpr ⟨y, hy, y.mem_nodes_self⟩
  exact ⟨y, hes.subset hnode, hxy.symm⟩

namespace Java

/-! ## Items -/

namespace Item

def element? : Item → Option Element
  | part e | object e => some e
  | text _ | name _ | indent | mark _ | fail _ => none

def elements (items : List Item) : List Element := items.filterMap element?

theorem hands_indentation (ctx : Context) : ctx.indentation.Hands [] := by
  unfold Context.indentation
  induction ctx.level with
  | zero => exact .done
  | succ level ih => exact (Plan.Hands.text _).append ih

theorem hands_plan (ctx : Context) (site : Site) (item : Item) :
    (item.plan ctx site).Hands (item.element?.toList.map fun e => (ctx, site.focus e)) := by
  cases item with
  | text piece => exact .text piece
  | name type => exact .text _
  | indent => exact hands_indentation ctx
  | part e => exact .generate ctx site e
  | object e =>
      rw [plan_object]
      split
      · exact Plan.Hands.nothing .done _
      · exact (Plan.Hands.generate ctx site e).append_text "."
  | mark m => exact .mark m .done
  | fail e => exact .fail e

theorem hands_read (ctx : Context) (site : Site) (items : List Item) :
    (read ctx site items).Hands ((elements items).map fun e => (ctx, site.focus e)) := by
  induction items with
  | nil => exact .done
  | cons item rest ih =>
      have hfirst := (hands_plan ctx site item).append ih
      rw [← List.map_append] at hfirst
      rw [elements, List.filterMap_cons]
      cases hitem : item.element? <;> rw [hitem] at hfirst <;> exact hfirst

@[simp] theorem elements_nil : elements [] = [] := rfl

@[simp] theorem elements_cons (item : Item) (items : List Item) :
    elements (item :: items) = item.element?.toList ++ elements items := by
  rw [elements, List.filterMap_cons]
  cases item.element? <;> rfl

@[simp] theorem elements_append (first second : List Item) :
    elements (first ++ second) = elements first ++ elements second := List.filterMap_append

@[simp] theorem elements_texts (pieces : List String) : elements (texts pieces) = [] := by
  induction pieces with
  | nil => rfl
  | cons piece rest ih => exact ih

@[simp] theorem elements_marks (marks : List Mark) : elements (marks.map mark) = [] := by
  induction marks with
  | nil => rfl
  | cons m rest ih => exact ih

theorem elements_intersperse (separator : String) (items : List Item) :
    elements (items.intersperse (text separator)) = elements items := by
  induction items with
  | nil => rfl
  | cons item rest ih =>
      cases rest with
      | nil => rfl
      | cons next rest =>
          rw [List.intersperse_cons_cons, elements_cons, elements_cons, ih, elements_cons item]
          rfl

@[simp] theorem elements_listed (es : List Element) : elements (listed es) = es := by
  rw [listed, elements_intersperse]
  induction es with
  | nil => rfl
  | cons e rest ih => rw [List.map_cons, elements_cons, ih]; rfl

end Item

open Item (elements)

variable (ctx : Context)

/-! ## Calls -/

theorem spreadable?_nodes {e : Element} {values : List Element} (h : spreadable? e = some values) :
    (values.flatMap Element.nodes).Sublist e.nodes := by
  unfold spreadable? at h
  split at h
  · next type component length initializers =>
      split at h
      · cases h
        rw [Element.nodes_eq, Element.children, List.flatMap_cons]
        exact (List.sublist_append_right _ _).cons _
      · cases h
  · cases h

theorem writtenArguments_nodes (call : Call) :
    ((writtenArguments ctx call).flatMap Element.nodes).Sublist
      (call.arguments.flatMap Element.nodes) := by
  unfold writtenArguments
  split
  · next values hvalues =>
      split
      · obtain ⟨last, hlast, hspread⟩ := Option.bind_eq_some_iff.mp hvalues
        have hsplit : call.arguments = call.arguments.dropLast ++ [last] :=
          (List.dropLast_append_getLast? last hlast).symm
        conv => rhs; rw [hsplit]
        rw [List.flatMap_append, List.flatMap_append, List.flatMap_singleton]
        exact (spreadable?_nodes hspread).append_left _
      · exact .refl _
  · exact .refl _

theorem head?_sublist {e : Element} {es : List Element} (h : es.head? = some e) :
    [e].Sublist es := by
  obtain ⟨rest, hes⟩ := List.head?_eq_some_iff.mp h
  rw [hes]
  simp

theorem elements_fieldAccess (field : String) (arguments : List Element) :
    (elements (fieldAccessItems field arguments)).Sublist arguments := by
  rcases arguments with _ | ⟨object, _ | ⟨value, more⟩⟩ <;> simp [fieldAccessItems, Item.element?]

theorem elements_accessor (call : Call) :
    (elements (accessorItems ctx call)).Sublist call.arguments := by
  obtain ⟨marks, ⟨e, hfails⟩ | ⟨field, haccess⟩⟩ := accessorItems_eq ctx call
  · rw [hfails, Item.elements_append, Item.elements_marks]
    exact List.nil_sublist _
  · rw [haccess, Item.elements_append, Item.elements_marks]
    exact elements_fieldAccess field call.arguments

theorem elements_booleanBox (call : Call) :
    (elements (booleanBoxItems call)).Sublist call.arguments := by
  unfold booleanBoxItems
  split
  · exact List.nil_sublist _
  · next k hhead =>
      split
      · split <;> exact List.nil_sublist _
      · exact head?_sublist hhead
  · next argument _ hhead => exact head?_sublist hhead

theorem elements_primitiveBox (call : Call) :
    (elements (primitiveBoxItems call)).Sublist call.arguments := by
  unfold primitiveBoxItems
  split
  · exact List.nil_sublist _
  · next argument hhead => exact head?_sublist hhead

theorem elements_invocation (call : Call) :
    elements (invocationItems ctx call) = writtenArguments ctx call := by
  simp [invocationItems, Item.element?]

theorem elements_objects (es : List Element) : elements (es.map .object) = es := by
  induction es with
  | nil => rfl
  | cons e rest ih => rw [List.map_cons, Item.elements_cons, ih]; rfl

/-- A call hands back its object and its arguments, as far as they are written. -/
theorem elements_call (call : Call) :
    ((elements (callItems ctx call)).flatMap Element.nodes).Sublist
      ((call.target.toList ++ call.arguments).flatMap Element.nodes) := by
  have harguments {es : List Element} (hes : es.Sublist call.arguments) :
      (es.flatMap Element.nodes).Sublist
        ((call.target.toList ++ call.arguments).flatMap Element.nodes) :=
    (hes.trans (List.sublist_append_right _ _)).flatMap _
  have hwritten := writtenArguments_nodes ctx call
  rw [← elements_invocation] at hwritten
  unfold callItems
  cases callForm ctx call with
  | booleanBox => exact harguments (elements_booleanBox call)
  | primitiveBox => exact harguments (elements_primitiveBox call)
  | accessor => exact harguments (elements_accessor ctx call)
  | dsl =>
      rw [List.flatMap_append]
      exact hwritten.trans (List.sublist_append_right _ _)
  | onType =>
      rw [List.flatMap_append]
      exact hwritten.trans (List.sublist_append_right _ _)
  | onObject =>
      simp only [Item.elements_append, elements_objects, List.flatMap_append]
      exact hwritten.append_left _

/-! ## Lambdas -/

variable (file : ClassFile)

theorem elements_parameters (target : LambdaTarget) (backing : Method) :
    elements (parameterItems file target backing) = [] := by
  have hname (position : Nat) :
      (parameterItem file target backing position).element? = none := by
    unfold parameterItem
    split <;> rfl
  have hnames (positions : List Nat) :
      elements (positions.map (parameterItem file target backing)) = [] := by
    induction positions with
    | nil => rfl
    | cons position rest ih => rw [List.map_cons, Item.elements_cons, hname, ih]; rfl
  unfold parameterItems
  split
  · rfl
  · rw [Item.elements_cons, hname]
    rfl
  · simp [Item.elements_intersperse, hnames, Item.element?]

theorem withoutFinalReturn_sublist (body : List Element) :
    (withoutFinalReturn body).Sublist body := by
  unfold withoutFinalReturn
  split
  · exact List.dropLast_sublist body
  · exact .refl body

theorem elements_lines (statements : List Element) :
    elements (statements.flatMap fun statement =>
      [.indent, .part statement, .text ";\n"]) = statements := by
  induction statements with
  | nil => rfl
  | cons statement rest ih => rw [List.flatMap_cons, Item.elements_append, ih]; rfl

theorem elements_body (target : LambdaTarget) (backing : Method) (body : List Element) :
    ((elements (bodyItems file target backing body)).flatMap Element.nodes).Sublist
      (body.flatMap Element.nodes) := by
  unfold bodyItems
  split
  · next value =>
      rw [Item.elements_append, elements_parameters, List.nil_append, List.flatMap_singleton,
        Element.nodes_eq (.returnValue value)]
      exact List.sublist_cons_self _ _
  · rw [Item.elements_append, elements_parameters]
    exact List.nil_sublist _
  · exact .refl _
  · exact List.Sublist.flatMap (by simp [Item.element?]) _
  · rw [Item.elements_cons, elements_lines]
    exact (withoutFinalReturn_sublist _).flatMap _

theorem elements_inlined (i : Inlining) :
    ((elements (inlinedItems ctx file i)).flatMap Element.nodes).Sublist
      ((i.body ctx.collaborators.decompiler file).flatMap Element.nodes) := by
  obtain ⟨marks, ⟨e, hfails⟩ | ⟨backing, hbody⟩⟩ := inlinedItems_eq ctx file i
  · rw [hfails, Item.elements_append, Item.elements_marks]
    exact List.nil_sublist _
  · rw [hbody, Item.elements_append, Item.elements_marks]
    exact elements_body file i.target backing _

/-! ## Every kind of element -/

theorem elements_literal (k : Constant) : elements (literalItems k) = [] := by
  unfold literalItems
  split
  · simp [Item.element?]
  · split
    · simp [Item.element?]
    · split
      · simp [Item.element?]
      · split
        · split <;> rfl
        · exact Item.elements_texts _

/-- An element hands back its children, as far as they are written, unless it is a call or a lambda
written in place. -/
theorem elements_sublist_children {e : Element} (hcall : e.call? = none)
    (h : e.inlining? = none) : (elements (items ctx file e)).Sublist e.children := by
  cases e
  case methodCall target callee arguments => cases hcall
  all_goals simp only [items, Element.children]
  case constant k => rw [elements_literal]
  case fieldReference target field =>
      unfold fieldItems
      cases target with
      | none => simp [Item.element?]
      | some object => cases hthis : object.isThis <;> simp [hthis, Item.element?]
  case binaryOperator left op right type =>
      unfold operandItems
      split <;> simp [Item.element?]
  case unaryOperator operand op type => split <;> simp [Item.element?]
  case branch left op right pc =>
      unfold operandItems
      split <;> simp [Item.element?]
  case newArray type component length initializers => split <;> simp [Item.element?]
  case increment var amount affix type =>
      unfold incrementItems
      split
      · exact List.nil_sublist _
      · cases affix <;> simp [Item.element?]
  case lambda receiver target =>
      unfold lambdaItems qualifierItem
      cases hform : lambdaForm target with
      | methodReference =>
          cases receiver with
          | none => simp [Item.element?]
          | some object => dsimp only; split <;> simp [Item.element?]
      | constructorReference => exact List.nil_sublist _
      | inlined => simp [Element.inlining?, hform] at h
  all_goals simp [Item.element?]

theorem elements_children {e : Element} (h : e.inlining? = none) :
    ((elements (items ctx file e)).flatMap Element.nodes).Sublist
      (e.children.flatMap Element.nodes) := by
  cases hcall : e.call? with
  | none => exact (elements_sublist_children ctx file hcall h).flatMap _
  | some call =>
      cases e
      case methodCall target callee arguments => exact elements_call ctx ⟨target, callee, arguments⟩
      all_goals cases hcall

variable (site : Site)

/-- Without a lambda to write in place, the rule of an element hands back some of its children, or
what a call spreads in their place. -/
theorem renders_children (h : site.element.inlining? = none) :
    (plan ctx site).Renders ctx site site.element.children := by
  rw [plan_eq_of_none ctx site h]
  exact ⟨_, Item.hands_read ctx site _, elements_children ctx site.classFile h⟩

/-- Nothing but marks stands before the body of a lambda that is decompiled. -/
theorem plan_decompiled {site : Site} {i : Inlining} {declared backing : Method}
    {body : List Element} (h : site.element.inlining? = some i)
    (hfound : site.classFile.method? i.target.name = some declared)
    (hbacking : backing = withCaptured declared i.hasReceiver i.target.captured)
    (hcode : ctx.decompile backing = .ok body) :
    ∃ decompiling inlining, plan ctx site =
      .mark decompiling (.mark inlining (inlinedBody ctx site i.target backing body)) := by
  obtain ⟨receiver, hreceiver, hplan⟩ := plan_inlined ctx h
  simp only [hplan, inlinedLambda, hfound, hreceiver, ← hbacking, hcode]
  exact ⟨_, _, rfl⟩

/-- What the rule of an element hands back: parts of its body if it is a lambda written in place,
parts of its children if it is anything else. -/
theorem renders_sources :
    (plan ctx site).Renders (innerContext ctx site) site
      (site.element.sources ctx.collaborators.decompiler site.classFile) := by
  rw [plan_eq_items]
  refine ⟨_, Item.hands_read _ site _, ?_⟩
  unfold Element.sources
  cases hi : site.element.inlining? with
  | none => exact elements_children ctx site.classFile hi
  | some i =>
      rw [items_of_inlining ctx hi]
      exact elements_inlined ctx site.classFile i

theorem innerContext_eq_or : innerContext ctx site = ctx ∨ innerContext ctx site = ctx.deeper := by
  unfold innerContext bodyContext
  split
  · split
    · exact .inr rfl
    · exact .inl rfl
  · exact .inl rfl

theorem renders_plan :
    ∃ next, (next = ctx ∨ next = ctx.deeper) ∧
      (plan ctx site).Renders next site
        (site.element.sources ctx.collaborators.decompiler site.classFile) :=
  ⟨innerContext ctx site, innerContext_eq_or ctx site, renders_sources ctx site⟩

/-- A lambda written in place hands back what its body holds. -/
theorem renders_body {i : Inlining} (h : site.element.inlining? = some i) :
    ∃ next, (next = ctx ∨ next = ctx.deeper) ∧
      (plan ctx site).Renders next site
        (i.body ctx.collaborators.decompiler site.classFile) := by
  obtain ⟨next, hnext, hrenders⟩ := renders_plan ctx site
  simp only [Element.sources, h] at hrenders
  exact ⟨next, hnext, hrenders⟩

end Java

end SourceRecovery
