import SourceRecovery.Proofs.Inlining
import SourceRecovery.Proofs.Selection

/-! # Rules as lists of items

What the Java rule of an element does, as a plain list: texts, names of types, elements handed back,
marks and failures, in order. The list looks at neither the style nor the level; these are left to
the reading of its items. The plan of every site is the reading of such a list, so that what is
proved of all rules elsewhere is proved of their items.
-/

namespace SourceRecovery.Java

/-- One thing that a rule does. -/
inductive Item where
  | text (piece : String)
  /-- A type as the style names it. -/
  | name (type : JavaType)
  | indent
  /-- An element handed back to the rules. -/
  | part (e : Element)
  /-- The object of a call and a dot, unless it is a `this` that the style leaves out. -/
  | object (e : Element)
  | mark (m : Mark)
  | fail (e : GenerationError)

namespace Item

abbrev unsupported (description : String) : Item := fail (.unsupportedElement description)

def texts (pieces : List String) : List Item := pieces.map text

/-- Elements with commas between neighbours. -/
def listed (es : List Element) : List Item := (es.map part).intersperse (text ", ")

/-- Whether the item is read alike in every style and without a failure of its own. -/
def isPlain : Item → Bool
  | text _ | indent | part _ | mark _ => true
  | name _ | object _ | fail _ => false

theorem mem_intersperse {item separator : Item} {items : List Item}
    (h : item ∈ items.intersperse separator) : item = separator ∨ item ∈ items := by
  induction items with
  | nil => cases h
  | cons first rest ih =>
      cases rest with
      | nil => exact .inr h
      | cons next rest =>
          rw [List.intersperse_cons_cons, List.mem_cons, List.mem_cons] at h
          rcases h with hfirst | hseparator | hrest
          · exact .inr (hfirst ▸ List.mem_cons_self)
          · exact .inl hseparator
          · exact (ih hrest).imp_right (List.mem_cons_of_mem _)

theorem notMem_listed {item : Item} (h : item.isPlain = false) (es : List Element) :
    item ∉ listed es := by
  intro hmem
  rcases mem_intersperse hmem with hcomma | hpart
  · rw [hcomma] at h
    cases h
  · obtain ⟨e, _, he⟩ := List.mem_map.mp hpart
    rw [← he] at h
    cases h

section

variable (ctx : Context) (site : Site)

def plan : Item → Plan
  | text piece => .text piece
  | name type => .text (ctx.typeName type)
  | indent => ctx.indentation
  | part e => ctx.generate site e
  | object e => if ctx.omitsThis && e.isThis then .done else ctx.generate site e ++ .text "."
  | mark m => .mark m .done
  | fail e => .fail e

@[simp] theorem plan_text (piece : String) : (text piece).plan ctx site = .text piece := rfl

@[simp] theorem plan_name (type : JavaType) :
    (name type).plan ctx site = .text (ctx.typeName type) := rfl

@[simp] theorem plan_indent : indent.plan ctx site = ctx.indentation := rfl

@[simp] theorem plan_part (e : Element) : (part e).plan ctx site = ctx.generate site e := rfl

theorem plan_object (e : Element) : (object e).plan ctx site =
    if ctx.omitsThis && e.isThis then .done else ctx.generate site e ++ .text "." := rfl

@[simp] theorem plan_fail (e : GenerationError) : (fail e).plan ctx site = .fail e := rfl

def read (items : List Item) : Plan := .concat (items.map (plan ctx site))

@[simp] theorem read_nil : read ctx site [] = .done := rfl

@[simp] theorem read_cons (item : Item) (items : List Item) :
    read ctx site (item :: items) = item.plan ctx site ++ read ctx site items := rfl

theorem read_mark (m : Mark) (items : List Item) :
    read ctx site (mark m :: items) = .mark m (read ctx site items) := rfl

@[simp] theorem read_append (first second : List Item) :
    read ctx site (first ++ second) = read ctx site first ++ read ctx site second := by
  induction first with
  | nil => rfl
  | cons item rest ih => rw [List.cons_append, read_cons, read_cons, ih, Plan.append_assoc]

theorem read_flatMap {α : Type} (f : α → List Item) (xs : List α) :
    read ctx site (xs.flatMap f) = .concat (xs.map fun x => read ctx site (f x)) := by
  induction xs with
  | nil => rfl
  | cons x rest ih => rw [List.flatMap_cons, read_append, ih, List.map_cons, Plan.concat]

@[simp] theorem read_texts (pieces : List String) :
    read ctx site (texts pieces) = .texts pieces := by
  simp only [read, texts, Plan.texts, List.map_map]
  rfl

theorem read_intersperse (separator : String) (items : List Item) :
    read ctx site (items.intersperse (text separator)) =
      .separated separator (items.map (plan ctx site)) := by
  induction items with
  | nil => rfl
  | cons item rest ih =>
      cases rest with
      | nil => exact Plan.append_done _
      | cons next rest =>
          rw [List.intersperse_cons_cons, read_cons, read_cons, ih, ← Plan.append_assoc]
          rfl

@[simp] theorem read_listed (es : List Element) :
    read ctx site (listed es) = ctx.generateList site es := by
  rw [listed, read_intersperse, List.map_map, Context.generateList]
  rfl

end

end Item

open Item (texts listed)

/-! ## Calls -/

def invocationItems (ctx : Context) (call : Call) : List Item :=
  [.text call.callee.name, .text "("] ++ listed (writtenArguments ctx call) ++ [.text ")"]

def booleanBoxItems (call : Call) : List Item :=
  match call.arguments.head? with
  | none => [.unsupported call.inspect]
  | some (.constant k) =>
      if k.type = .int then
        match k.value.int? with
        | some value => [.text (if value = 0 then "false" else "true")]
        | none => [.unsupported k.inspect]
      else [.part (.constant k)]
  | some argument => [.part argument]

def primitiveBoxItems (call : Call) : List Item :=
  match call.arguments.head? with
  | none => [.unsupported call.inspect]
  | some argument => [.part argument]

def fieldAccessItems (field : String) : List Element → List Item
  | [] => []
  | [object] => [.part object, .text ".", .text field]
  | object :: value :: _ => [.part object, .text ".", .text field, .text " = ", .part value]

theorem isPlain_of_mem_fieldAccess {field : String} {arguments : List Element} {item : Item}
    (h : item ∈ fieldAccessItems field arguments) : item.isPlain = true := by
  rcases arguments with _ | ⟨object, _ | ⟨value, more⟩⟩
  · cases h
  · simp only [fieldAccessItems, List.mem_cons, List.not_mem_nil, or_false] at h
    rcases h with h | h | h <;> rw [h] <;> rfl
  · simp only [fieldAccessItems, List.mem_cons, List.not_mem_nil, or_false] at h
    rcases h with h | h | h | h | h <;> rw [h] <;> rfl

def accessorItems (ctx : Context) (call : Call) : List Item :=
  .mark (.resolveClass call.callee.declaring) ::
    match ctx.classFile call.callee.declaring with
    | .error e => [.fail e]
    | .ok file =>
        match file.method? call.callee.name with
        | none =>
            [.fail (.methodNotFound .accessor call.callee.declaring.name call.callee.name)]
        | some method =>
            .mark (.decompile method) ::
              match ctx.decompile method with
              | .error cause => [.fail (.decompile method.name file.name.text cause)]
              | .ok body =>
                  .mark (.accessor method.name file.name.text body.length) ::
                    match accessedField call body with
                    | .error description => [.unsupported description]
                    | .ok field => fieldAccessItems field call.arguments

/-- Nothing but marks stands before a failure or the access itself. -/
theorem accessorItems_eq (ctx : Context) (call : Call) :
    ∃ marks : List Mark, (∃ e, accessorItems ctx call = marks.map .mark ++ [.fail e]) ∨
      ∃ field, accessorItems ctx call =
        marks.map .mark ++ fieldAccessItems field call.arguments := by
  unfold accessorItems
  cases ctx.classFile call.callee.declaring with
  | error e => exact ⟨[_], .inl ⟨e, rfl⟩⟩
  | ok file =>
      dsimp only
      cases file.method? call.callee.name with
      | none => exact ⟨[_], .inl ⟨_, rfl⟩⟩
      | some method =>
          dsimp only
          cases ctx.decompile method with
          | error cause => exact ⟨[_, _], .inl ⟨_, rfl⟩⟩
          | ok body =>
              dsimp only
              cases accessedField call body with
              | error description => exact ⟨[_, _, _], .inl ⟨_, rfl⟩⟩
              | ok field => exact ⟨[_, _, _], .inr ⟨field, rfl⟩⟩

def callItems (ctx : Context) (call : Call) : List Item :=
  match callForm ctx call with
  | .booleanBox => booleanBoxItems call
  | .primitiveBox => primitiveBoxItems call
  | .dsl => invocationItems ctx call
  | .accessor => accessorItems ctx call
  | .onType => .name call.callee.declaring :: .text "." :: invocationItems ctx call
  | .onObject => call.target.toList.map .object ++ invocationItems ctx call

/-! ## Lambdas -/

def parameterItem (file : ClassFile) (target : LambdaTarget) (backing : Method) (position : Nat) :
    Item :=
  match backing.locals[firstParameter target + position]? with
  | some entry => .text entry.name
  | none => .fail (.noLocalVariable (firstParameter target + position) file.name.text backing.name)

def parameterItems (file : ClassFile) (target : LambdaTarget) (backing : Method) : List Item :=
  match backing.signature.parameters.length with
  | 0 => [.text "() -> "]
  | 1 => [parameterItem file target backing 0, .text " -> "]
  | count =>
      .text "(" ::
        ((List.range count).map (parameterItem file target backing)).intersperse (.text ", ") ++
        [.text ") -> "]

def bodyItems (file : ClassFile) (target : LambdaTarget) (backing : Method) :
    List Element → List Item
  | [.returnValue value] => parameterItems file target backing ++ [.part value]
  | [.return] => parameterItems file target backing ++ [.text "\x7b\x7d"]
  | [statement] => [.part statement]
  | [statement, .return] => [.text "() -> ", .part statement]
  | body =>
      .text "() -> \x7b\n" ::
        (withoutFinalReturn body).flatMap fun statement => [.indent, .part statement, .text ";\n"]

/-- Whether the body of a lambda is one statement that returns. -/
def onlyReturns : List Element → Bool
  | [.return] | [.returnValue _] => true
  | _ => false

theorem mem_parameterItems {file : ClassFile} {target : LambdaTarget} {backing : Method}
    {item : Item} (h : item ∈ parameterItems file target backing) :
    item.isPlain = true ∨ ∃ position < backing.signature.parameters.length,
      item = parameterItem file target backing position := by
  unfold parameterItems at h
  split at h
  · rw [List.mem_singleton.mp h]
    exact .inl rfl
  · next hcount =>
      rw [List.mem_pair] at h
      rcases h with hname | harrow
      · exact .inr ⟨0, by omega, hname⟩
      · rw [harrow]
        exact .inl rfl
  · simp only [List.cons_append, List.mem_cons, List.mem_append, List.not_mem_nil, or_false] at h
    rcases h with hopen | hnames | hclose
    · rw [hopen]
      exact .inl rfl
    · rcases Item.mem_intersperse hnames with hcomma | hname
      · rw [hcomma]
        exact .inl rfl
      · obtain ⟨position, hposition, hitem⟩ := List.mem_map.mp hname
        exact .inr ⟨position, List.mem_range.mp hposition, hitem.symm⟩
    · rw [hclose]
      exact .inl rfl

/-- Only the names in a header can fail. -/
theorem mem_bodyItems {file : ClassFile} {target : LambdaTarget} {backing : Method}
    {body : List Element} {item : Item} (h : item ∈ bodyItems file target backing body) :
    item.isPlain = true ∨ onlyReturns body = true ∧
      ∃ position < backing.signature.parameters.length,
        item = parameterItem file target backing position := by
  unfold bodyItems at h
  split at h
  · rcases List.mem_append.mp h with hheader | hvalue
    · exact (mem_parameterItems hheader).imp_right fun hname => ⟨rfl, hname⟩
    · rw [List.mem_singleton.mp hvalue]
      exact .inl rfl
  · rcases List.mem_append.mp h with hheader | hblock
    · exact (mem_parameterItems hheader).imp_right fun hname => ⟨rfl, hname⟩
    · rw [List.mem_singleton.mp hblock]
      exact .inl rfl
  · rw [List.mem_singleton.mp h]
    exact .inl rfl
  · rcases List.mem_pair.mp h with hitem | hitem <;> rw [hitem] <;> exact .inl rfl
  · refine .inl ?_
    rcases List.mem_cons.mp h with hopen | hstatements
    · rw [hopen]
      rfl
    · obtain ⟨statement, _, hitem⟩ := List.mem_flatMap.mp hstatements
      simp only [List.mem_cons, List.not_mem_nil, or_false] at hitem
      rcases hitem with hindent | hpart | hend
      · rw [hindent]
        rfl
      · rw [hpart]
        rfl
      · rw [hend]
        rfl

def inlinedItems (ctx : Context) (file : ClassFile) (i : Inlining) : List Item :=
  match file.method? i.target.name with
  | none => [.fail (.methodNotFound .lambdaBacking file.name.text i.target.name)]
  | some declared =>
      let backing := withCaptured declared i.hasReceiver i.target.captured
      .mark (.decompile backing) ::
        match ctx.decompile backing with
        | .error cause => [.fail (.decompile backing.name file.name.text cause)]
        | .ok body =>
            .mark (.inlining backing.name body.length (Census.ofTrees body).total
                i.target.captured.length) ::
              bodyItems file i.target backing body

/-- Nothing but marks stands before a failure or the body. -/
theorem inlinedItems_eq (ctx : Context) (file : ClassFile) (i : Inlining) :
    ∃ marks : List Mark, (∃ e, inlinedItems ctx file i = marks.map .mark ++ [.fail e]) ∨
      ∃ backing, inlinedItems ctx file i = marks.map .mark ++
        bodyItems file i.target backing (i.body ctx.collaborators.decompiler file) := by
  unfold inlinedItems Inlining.body
  cases file.method? i.target.name with
  | none => exact ⟨[], .inl ⟨_, rfl⟩⟩
  | some declared =>
      simp only [Context.decompile]
      cases ctx.collaborators.decompiler
          (withCaptured declared i.hasReceiver i.target.captured) with
      | error cause => exact ⟨[_], .inl ⟨_, rfl⟩⟩
      | ok body => exact ⟨[_, _], .inr ⟨_, rfl⟩⟩

def qualifierItem (receiver : Option Element) (target : LambdaTarget) : Item :=
  match receiver with
  | some object =>
      if target.kind = .invokeStatic then .text target.declaring.unqualifiedName else .part object
  | none => .text target.declaring.unqualifiedName

def lambdaItems (ctx : Context) (file : ClassFile) (receiver : Option Element)
    (target : LambdaTarget) : List Item :=
  match lambdaForm target with
  | .methodReference => [qualifierItem receiver target, .text "::", .text target.name]
  | .constructorReference => [.text target.declaring.unqualifiedName, .text "::new"]
  | .inlined => inlinedItems ctx file ⟨receiver.isSome, target⟩

/-! ## Every kind of element -/

def literalItems (k : Constant) : List Item :=
  if k.type.isClass "java.lang.String" then .text "\"" :: texts k.value.pieces ++ [.text "\""]
  else if k.type = .long then texts k.value.pieces ++ [.text "L"]
  else if k.type = .float then texts k.value.pieces ++ [.text "f"]
  else if k.type.isClass "java.lang.Class" then
    match k.value with
    | .type t => [.name t, .text ".class"]
    | _ => [.unsupported k.inspect]
  else texts k.value.pieces

def operandItems (left : Element) (op : Operator) (right : Element) : List Item :=
  match op.symbol? with
  | none => [.fail (.unsupportedOperator op)]
  | some symbol => [.part left, .text " ", .text symbol, .text " ", .part right]

def fieldItems (target : Option Element) (field : Field) : List Item :=
  (match target with
    | none => [.text field.declaring.unqualifiedName, .text "."]
    | some object => if object.isThis then [] else [.part object, .text "."]) ++
    [.text field.name]

def incrementItems (var amount : Element) (affix : Affix) : List Item :=
  match stepOperator? amount with
  | none => [.unsupported amount.inspect]
  | some op =>
      match affix with
      | .before => [.text op, .part var]
      | .after => [.part var, .text op]
      | .unspecified => [.part var]

def items (ctx : Context) (file : ClassFile) : Element → List Item
  | .return => [.text "return"]
  | .returnValue value => [.text "return ", .part value]
  | .constant k => literalItems k
  | .variableReference var => [.text var.name]
  | .variableAssignment var value =>
      [.text var.type.simpleName, .text " ", .text var.name, .text " = ", .part value]
  | .fieldReference target field => fieldItems target field
  | .fieldAssignment target field value =>
      [.unsupported (Element.fieldAssignment target field value).inspect]
  | .binaryOperator left op right _ => operandItems left op right
  | .unaryOperator operand op _ =>
      if op = .not then [.text "!", .part operand] else [.fail (.unsupportedOperator op)]
  | .compare left right => [.part left, .text " ::= ", .part right]
  | .branch left op right pc =>
      operandItems left op right ++ [.text " ? goto ", .text (toString pc)]
  | .goto pc => [.text "goto ", .text (toString pc)]
  | .cast value type => [.text "(", .name type, .text ")", .part value]
  | .arrayLoad array index _ => [.part array, .text "[", .part index, .text "]"]
  | .arrayStore array index value =>
      [.part array, .text "[", .part index, .text "] = ", .part value]
  | .newArray _ component length initializers =>
      [.text "new ", .name component] ++
        if initializers.isEmpty then [.text "[", .part length, .text "]"]
        else .text "[] \x7b " :: listed (initializers.map Prod.snd) ++ [.text " \x7d"]
  | .new type _ arguments =>
      [.text "new ", .text type.unqualifiedName, .text "("] ++ listed arguments ++ [.text ")"]
  | .allocate type => [.text "new ", .name type, .text "<uninitialized>"]
  | .increment var amount affix _ => incrementItems var amount affix
  | .lambda receiver target => lambdaItems ctx file receiver target
  | .methodCall target callee arguments => callItems ctx ⟨target, callee, arguments⟩

/-! ## Plans -/

/-- Whether a body is written as a block. One statement is not, alone or with a bare return after
it. -/
def writtenAsBlock : List Element → Bool
  | [] => true
  | [_] => false
  | [_, .return] => false
  | _ => true

theorem writtenAsBlock_of_ne {body : List Element} (hsingle : ∀ statement, body ≠ [statement])
    (hpair : ∀ statement, body ≠ [statement, .return]) : writtenAsBlock body = true := by
  unfold writtenAsBlock
  split
  · rfl
  · next statement => exact absurd rfl (hsingle statement)
  · next statement => exact absurd rfl (hpair statement)
  · rfl

/-- The statements of a block are rendered one level further in, any other body at the level of the
lambda. -/
def bodyContext (ctx : Context) (body : List Element) : Context :=
  if writtenAsBlock body then ctx.deeper else ctx

/-- The context in which the parts of an element are rendered. The element decides it alone, so it
is the same for all of them. -/
def innerContext (ctx : Context) (site : Site) : Context :=
  match site.element.inlining? with
  | some i => bodyContext ctx (i.body ctx.collaborators.decompiler site.classFile)
  | none => ctx

section

open Item (read)

variable (ctx : Context) (site : Site)

theorem read_invocation (call : Call) :
    read ctx site (invocationItems ctx call) = invocation ctx site call := by
  simp [invocationItems, invocation, Plan.append_assoc]

theorem read_fieldAccess (field : String) (arguments : List Element) :
    read ctx site (fieldAccessItems field arguments) = fieldAccess ctx site field arguments := by
  rcases arguments with _ | ⟨object, _ | ⟨value, more⟩⟩
  · rfl
  · simp [fieldAccessItems, fieldAccess, Plan.append_assoc]
  · simp [fieldAccessItems, fieldAccess, Plan.append_assoc]

theorem read_accessor {call : Call} (h : site.element.call? = some call) :
    read ctx site (accessorItems ctx call) = accessor ctx site := by
  simp only [accessorItems, accessor, onCall, h, Item.read_mark]
  cases ctx.classFile call.callee.declaring with
  | error e => rfl
  | ok file =>
      dsimp only
      cases file.method? call.callee.name with
      | none => rfl
      | some method =>
          dsimp only
          cases ctx.decompile method with
          | error cause => rfl
          | ok body =>
              dsimp only
              cases accessedField call body with
              | error description => rfl
              | ok field => simp only [Item.read_mark, read_fieldAccess]

/-- The plan of a call is the reading of its items. -/
theorem plan_eq_callItems {call : Call} (h : site.element.call? = some call) :
    plan ctx site = read ctx site (callItems ctx call) := by
  rw [plan_call ctx h, callItems]
  cases callForm ctx call with
  | booleanBox =>
      simp only [CallForm.rule, booleanBox, onCall, h, booleanBoxItems]
      cases call.arguments.head? with
      | none => rfl
      | some argument =>
          cases argument
          case constant k =>
              dsimp only
              split
              · cases k.value.int? <;> simp [Plan.unsupported]
              · simp
          all_goals simp
  | primitiveBox =>
      simp only [CallForm.rule, primitiveBox, onCall, h, primitiveBoxItems]
      cases call.arguments.head? <;> simp [Plan.unsupported]
  | dsl => simp [CallForm.rule, dslCall, onCall, h, read_invocation]
  | accessor => exact (read_accessor ctx site h).symm
  | onType => simp [CallForm.rule, staticCall, onCall, h, read_invocation, Plan.append_assoc]
  | onObject =>
      simp only [CallForm.rule, instanceCall, onCall, h, Item.read_append, read_invocation]
      cases call.target <;> simp [Item.plan_object]

theorem read_parameters (target : LambdaTarget) (backing : Method) :
    read ctx site (parameterItems site.classFile target backing) =
      parameters site target backing := by
  have hname (position : Nat) :
      (parameterItem site.classFile target backing position).plan ctx site =
        parameterName site target backing position := by
    simp only [parameterItem, parameterName]
    cases backing.locals[firstParameter target + position]? <;> rfl
  unfold parameterItems parameters
  rcases backing.signature.parameters.length with _ | _ | count
  · simp
  · simp [hname]
  · simp [Item.read_intersperse, Function.comp_def, hname, Plan.append_assoc]

theorem read_body (target : LambdaTarget) (backing : Method) (body : List Element) :
    read (bodyContext ctx body) site (bodyItems site.classFile target backing body) =
      inlinedBody ctx site target backing body := by
  unfold bodyItems inlinedBody
  split
  · simp [read_parameters, bodyContext, writtenAsBlock]
  · simp [read_parameters]
  · simp [bodyContext, writtenAsBlock]
  · simp [bodyContext, writtenAsBlock]
  · next _ _ hsingle hpair =>
      rw [bodyContext, if_pos (writtenAsBlock_of_ne hsingle hpair)]
      simp [Item.read_flatMap, block, Plan.append_assoc]

theorem read_inlined (receiver : Option Element) (target : LambdaTarget) :
    read (bodyContext ctx (Inlining.body ctx.collaborators.decompiler site.classFile
        ⟨receiver.isSome, target⟩)) site
      (inlinedItems ctx site.classFile ⟨receiver.isSome, target⟩) =
      inlinedLambda ctx site receiver target := by
  simp only [inlinedItems, inlinedLambda, Inlining.body, Context.decompile]
  cases site.classFile.method? target.name with
  | none => rfl
  | some declared =>
      simp only [Item.read_mark]
      cases ctx.collaborators.decompiler
          (withCaptured declared receiver.isSome target.captured) with
      | error cause => rfl
      | ok body => simp only [Except.toOption, Option.getD_some, Item.read_mark, read_body]

theorem read_literal (k : Constant) : read ctx site (literalItems k) = literal ctx k := by
  unfold literalItems literal
  split
  · simp [Plan.append_assoc]
  · split
    · simp
    · split
      · simp
      · split
        · cases k.value <;> simp [Plan.unsupported]
        · simp

/-- The plan of an element that is no lambda written in place. -/
theorem plan_eq_of_none (h : site.element.inlining? = none) :
    plan ctx site = read ctx site (items ctx site.classFile site.element) := by
  cases he : site.element
  case methodCall target callee arguments =>
      have hcall : site.element.call? = some ⟨target, callee, arguments⟩ := by rw [he]; rfl
      exact plan_eq_callItems ctx site hcall
  all_goals simp only [plan, he, ruleFor?, Option.getD_some, Option.getD_none, builtin, items]
  case «return» => rfl
  case returnValue value => simp [returnValue, he]
  case constant k => simp [constant, he, read_literal]
  case variableReference var => simp [variableReference, he]
  case variableAssignment var value => simp [variableAssignment, Plan.append_assoc]
  case fieldReference target field =>
      unfold fieldReference fieldItems
      cases target with
      | none => simp [Plan.append_assoc]
      | some object => cases hthis : object.isThis <;> simp [hthis, Plan.append_assoc]
  case fieldAssignment target field value => rfl
  case binaryOperator left op right type =>
      simp only [binaryOperator, he, operandItems]
      cases op.symbol? <;> simp [Plan.append_assoc]
  case unaryOperator operand op type =>
      unfold unaryOperator
      split <;> simp
  case compare left right => simp [compare, Plan.append_assoc]
  case branch left op right pc =>
      simp only [branch, operandItems, Item.read_append]
      cases op.symbol? <;> simp [Plan.append_assoc]
  case goto pc => simp [goto]
  case cast value type => simp [cast, he, Plan.append_assoc]
  case arrayLoad array index type => simp [arrayLoad, he, Plan.append_assoc]
  case arrayStore array index value => simp [arrayStore, he, Plan.append_assoc]
  case newArray type component length initializers =>
      cases initializers with
      | nil => simp [uninitializedArray, he, Plan.append_assoc]
      | cons first more => simp [initializedArray, he, Plan.append_assoc]
  case new type signature arguments => simp [newInstance, Plan.append_assoc]
  case allocate type => simp [allocate, he, Plan.append_assoc]
  case increment var amount affix type =>
      simp only [increment, he, incrementItems]
      cases stepOperator? amount with
      | none => rfl
      | some op => cases affix <;> simp
  case lambda receiver target =>
      unfold lambda lambdaItems
      cases hform : lambdaForm target with
      | methodReference =>
          unfold methodReference qualifierItem
          cases receiver with
          | none => simp [Plan.append_assoc]
          | some object =>
              dsimp only
              split <;> simp [Plan.append_assoc]
      | constructorReference => simp
      | inlined => simp [he, Element.inlining?, hform] at h

theorem plan_inlined {site : Site} {i : Inlining} (h : site.element.inlining? = some i) :
    ∃ receiver, receiver.isSome = i.hasReceiver ∧
      plan ctx site = inlinedLambda ctx site receiver i.target := by
  obtain ⟨receiver, he, hreceiver, hform⟩ := Element.lambda_of_inlining? h
  refine ⟨receiver, hreceiver, ?_⟩
  simp only [plan, he, ruleFor?, Option.getD_none, builtin, lambda, hform]

theorem items_of_call {e : Element} {call : Call} (h : e.call? = some call) (file : ClassFile) :
    items ctx file e = callItems ctx call := by
  cases e
  case methodCall target callee arguments =>
      cases h
      rfl
  all_goals cases h

theorem items_of_inlining {e : Element} {i : Inlining} (h : e.inlining? = some i)
    (file : ClassFile) : items ctx file e = inlinedItems ctx file i := by
  obtain ⟨receiver, he, hreceiver, hform⟩ := Element.lambda_of_inlining? h
  rw [he, items, lambdaItems, hform, hreceiver]

/-- The plan of every site is the reading of the items of its element. -/
theorem plan_eq_items :
    plan ctx site =
      read (innerContext ctx site) site (items ctx site.classFile site.element) := by
  unfold innerContext
  cases h : site.element.inlining? with
  | none => exact plan_eq_of_none ctx site h
  | some i =>
      obtain ⟨receiver, hreceiver, hplan⟩ := plan_inlined ctx h
      have hread := read_inlined ctx site receiver i.target
      rw [hreceiver] at hread
      rw [hplan, items_of_inlining ctx h]
      exact hread.symm

end

end SourceRecovery.Java
