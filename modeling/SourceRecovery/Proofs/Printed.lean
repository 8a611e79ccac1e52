import SourceRecovery.Proofs.Items
import SourceRecovery.Proofs.Performed

/-! # What the Java rules print

Performing the plan that the catalog selects for a site is printing the site directly, if what the
plan hands back is printed directly: with the same printer for children, and with the one for bodies
where a lambda is written in place.
-/

namespace SourceRecovery.Java

open Printer
open Item (read)

/-! ## Lists, literals and calls -/

section

variable {sub : Context → Site → Printer} {inner : Context → Element → Printer} {ctx : Context}
  {site : Site} (hsub : ∀ e, sub ctx (site.focus e) = print site.classFile inner ctx e)

theorem printEach_eq (file : ClassFile) (inner : Context → Element → Printer) (ctx : Context)
    (es : List Element) : printEach file inner ctx es = es.map (print file inner ctx) := by
  induction es with
  | nil => rfl
  | cons e rest ih => rw [printEach, ih, List.map_cons]

theorem printValues_eq (file : ClassFile) (inner : Context → Element → Printer) (ctx : Context)
    (initializers : List (UInt32 × Element)) :
    printValues file inner ctx initializers =
      (initializers.map Prod.snd).map (print file inner ctx) := by
  induction initializers with
  | nil => rfl
  | cons i rest ih => rw [printValues, ih, List.map_cons, List.map_cons]

theorem perform_separated {plans : List Plan} {printers : List Printer}
    (h : plans.map (Plan.perform sub) = printers) :
    (Plan.separated ", " plans).perform sub = Printer.separated printers := by
  subst h
  induction plans with
  | nil => rfl
  | cons p rest ih =>
      cases rest with
      | nil => rfl
      | cons q rest =>
          simp only [List.map_cons] at ih ⊢
          rw [Printer.separated, ← ih]
          · simp [Plan.separated]
          · simp

include hsub in
theorem perform_generateList (es : List Element) :
    (ctx.generateList site es).perform sub =
      Printer.separated (es.map (print site.classFile inner ctx)) := by
  apply perform_separated
  simp [List.map_map, Function.comp_def, hsub]

theorem perform_literal (k : Constant) :
    (read ctx site (literalItems k)).perform sub = Printer.literal ctx k := by
  unfold literalItems Printer.literal
  split
  · simp
  · split
    · simp
    · split
      · simp
      · split
        · cases k.value <;> simp [Printer.unsupported]
        · simp

/-! ## Calls -/

theorem printArguments_single (file : ClassFile) (inner : Context → Element → Printer)
    (ctx : Context) (varargs : Bool) (e : Element) :
    printArguments file inner ctx varargs [e] =
      (if varargs then (spreadable? e).getD [e] else [e]).map (print file inner ctx) := by
  cases e
  case newArray type component length initializers =>
      rw [printArguments]
      cases varargs with
      | false => rfl
      | true =>
          simp only [spreadable?]
          split <;> simp [printValues_eq]
  all_goals cases varargs <;> rfl

theorem printArguments_cons (file : ClassFile) (inner : Context → Element → Printer)
    (ctx : Context) (varargs : Bool) (e f : Element) (rest : List Element) :
    printArguments file inner ctx varargs (e :: f :: rest) =
      print file inner ctx e :: printArguments file inner ctx varargs (f :: rest) := by
  rw [printArguments]
  simp

theorem printArguments_map (file : ClassFile) (inner : Context → Element → Printer)
    (ctx : Context) (varargs : Bool) (es : List Element) :
    printArguments file inner ctx varargs es =
      ((es.getLast?.bind spreadable?).elim es fun values =>
        if varargs then es.dropLast ++ values else es).map (print file inner ctx) := by
  induction es with
  | nil => rfl
  | cons e rest ih =>
      cases rest with
      | nil =>
          rw [printArguments_single]
          cases hvalues : spreadable? e <;> simp [hvalues]
      | cons f rest =>
          rw [printArguments_cons, ih, List.getLast?_cons_cons, List.dropLast_cons_cons]
          cases (f :: rest).getLast?.bind spreadable? with
          | none => rfl
          | some values => cases varargs <;> rfl

theorem printArguments_eq (file : ClassFile) (inner : Context → Element → Printer) (ctx : Context)
    (call : Call) :
    printArguments file inner ctx (takesVarargs ctx call) call.arguments =
      (writtenArguments ctx call).map (print file inner ctx) := by
  rw [printArguments_map, writtenArguments]
  cases call.arguments.getLast?.bind spreadable? <;> rfl

include hsub in
theorem perform_invocation (call : Call) :
    (read ctx site (invocationItems ctx call)).perform sub =
      Printer.invocation call.callee.name
        (printArguments site.classFile inner ctx (takesVarargs ctx call) call.arguments) := by
  rw [printArguments_eq]
  simp [invocationItems, Printer.invocation, perform_generateList hsub]

include hsub in
theorem perform_fieldAccess (field : String) (arguments : List Element) :
    (read ctx site (fieldAccessItems field arguments)).perform sub =
      printAccess site.classFile inner ctx field arguments := by
  rcases arguments with _ | ⟨object, _ | ⟨value, more⟩⟩
  · rfl
  · simp [fieldAccessItems, printAccess, hsub]
  · simp [fieldAccessItems, printAccess, hsub]

variable (call : Call)

include hsub in
theorem perform_booleanBox :
    (read ctx site (booleanBoxItems call)).perform sub =
      printBoolean site.classFile inner ctx call.inspect call.arguments := by
  unfold booleanBoxItems
  cases call.arguments with
  | nil => simp [printBoolean, Printer.unsupported]
  | cons argument rest =>
      cases argument
      case constant k =>
          simp only [List.head?_cons, printBoolean]
          split
          · cases k.value.int? <;> simp [Printer.unsupported]
          · simp [hsub]
      all_goals simp [printBoolean, hsub]

include hsub in
theorem perform_primitiveBox :
    (read ctx site (primitiveBoxItems call)).perform sub =
      printBoxed site.classFile inner ctx call.inspect call.arguments := by
  unfold primitiveBoxItems
  cases call.arguments <;> simp [printBoxed, Printer.unsupported, hsub]

include hsub in
theorem perform_accessor :
    (read ctx site (accessorItems ctx call)).perform sub =
      match openedField ctx call with
      | .error e => throw e
      | .ok field => printAccess site.classFile inner ctx field call.arguments := by
  simp only [accessorItems, openedField, Item.read_mark, Plan.perform_mark]
  cases ctx.classFile call.callee.declaring with
  | error e => rfl
  | ok owner =>
      cases hmethod : owner.method? call.callee.name with
      | none =>
          simp only [hmethod, bind, Except.bind]
          rfl
      | some method =>
          simp only [hmethod, bind, Except.bind, Item.read_mark, Plan.perform_mark]
          cases ctx.decompile method with
          | error cause => rfl
          | ok body =>
              simp only [Item.read_mark, Plan.perform_mark]
              cases accessedField call body with
              | error description => rfl
              | ok field => exact perform_fieldAccess hsub field call.arguments

include hsub in
/-- The form that is found for a call prints what the cases in order print. -/
theorem perform_call (target : Option Element) (callee : Callee) (arguments : List Element) :
    (read ctx site (callItems ctx ⟨target, callee, arguments⟩)).perform sub =
      print site.classFile inner ctx (.methodCall target callee arguments) := by
  rw [print, callItems, callForm]
  by_cases hboolean : boxesBoolean ⟨target, callee, arguments⟩ = true
  · rw [if_pos hboolean, if_pos hboolean]
    exact perform_booleanBox hsub _
  rw [if_neg hboolean, if_neg hboolean]
  by_cases hprimitive : boxesPrimitive ⟨target, callee, arguments⟩ = true
  · rw [if_pos hprimitive, if_pos hprimitive]
    exact perform_primitiveBox hsub _
  rw [if_neg hprimitive, if_neg hprimitive]
  by_cases hdsl : callsDsl ctx ⟨target, callee, arguments⟩ = true
  · rw [if_pos hdsl, if_pos hdsl]
    exact perform_invocation hsub _
  rw [if_neg hdsl, if_neg hdsl]
  by_cases haccessor : callsAccessor ⟨target, callee, arguments⟩ = true
  · rw [if_pos haccessor, if_pos haccessor]
    exact perform_accessor hsub _
  rw [if_neg haccessor, if_neg haccessor]
  cases target with
  | none => simp [Call.isStatic, printObject, perform_invocation hsub]
  | some object =>
      simp only [Call.isStatic, printObject]
      cases hthis : ctx.omitsThis && object.isThis <;>
        simp [Item.plan_object, hthis, hsub, perform_invocation hsub]

/-! ## Lambdas -/

theorem perform_parameterName (target : LambdaTarget) (backing : Method) (position : Nat) :
    ((parameterItem site.classFile target backing position).plan ctx site).perform sub =
      Printer.parameterName site.classFile target backing position := by
  simp only [parameterItem, Printer.parameterName]
  cases backing.locals[firstParameter target + position]? <;> simp

theorem perform_parameters (target : LambdaTarget) (backing : Method) :
    (read ctx site (parameterItems site.classFile target backing)).perform sub =
      Printer.parameters site.classFile target backing := by
  have hnames (positions : List Nat) :
      (Plan.separated ", " (positions.map fun position =>
        (parameterItem site.classFile target backing position).plan ctx site)).perform sub =
          separated (positions.map (Printer.parameterName site.classFile target backing)) := by
    apply perform_separated
    simp [List.map_map, Function.comp_def, perform_parameterName]
  unfold parameterItems Printer.parameters
  rcases backing.signature.parameters.length with _ | _ | count
  · simp
  · simp [perform_parameterName]
  · simp [Item.read_intersperse, Function.comp_def, hnames]

theorem perform_indentation : ctx.indentation.perform sub = indent ctx.level := by
  unfold Context.indentation
  induction ctx.level with
  | zero => rfl
  | succ level ih =>
      rw [List.replicate_succ, Plan.concat, Plan.perform_append, ih]
      simp [indent, Context.indentUnit]

end

section

variable {sub : Context → Site → Printer} {inner : Context → Element → Printer} {ctx : Context}
  {site : Site} (hinner : ∀ ctx e, sub ctx (site.focus e) = inner ctx e)

include hinner

theorem perform_statements (body : List Element) :
    (read ctx site (body.flatMap fun statement =>
      [.indent, .part statement, .text ";\n"])).perform sub =
        statements (inner ctx) ctx.level body := by
  induction body with
  | nil => rfl
  | cons statement rest ih =>
      rw [List.flatMap_cons, Item.read_append, Plan.perform_append, ih, statements]
      simp [perform_indentation, hinner]

theorem perform_body (target : LambdaTarget) (backing : Method) (body : List Element) :
    (read (bodyContext ctx body) site (bodyItems site.classFile target backing body)).perform sub =
      lambdaWith site.classFile inner ctx target backing body := by
  unfold bodyItems lambdaWith
  split
  · simp [perform_parameters, hinner, bodyContext, writtenAsBlock]
  · simp [perform_parameters]
  · simp [hinner, bodyContext, writtenAsBlock]
  · simp [hinner, bodyContext, writtenAsBlock]
  · next _ _ hsingle hpair =>
      rw [bodyContext, if_pos (writtenAsBlock_of_ne hsingle hpair)]
      simp [perform_statements hinner, Context.deeper]

theorem perform_inlined (i : Inlining) :
    (read (bodyContext ctx (i.body ctx.collaborators.decompiler site.classFile)) site
      (inlinedItems ctx site.classFile i)).perform sub =
        inlined site.classFile inner ctx i.hasReceiver i.target := by
  simp only [inlinedItems, inlined, Inlining.body, Context.decompile]
  cases site.classFile.method? i.target.name with
  | none => rfl
  | some declared =>
      simp only [Item.read_mark, Plan.perform_mark]
      cases ctx.collaborators.decompiler
          (withCaptured declared i.hasReceiver i.target.captured) with
      | error cause => simp [Inlining.withCaptured_name]
      | ok body => exact perform_body hinner i.target _ body

end

/-! ## All kinds -/

section

variable {sub : Context → Site → Printer} {inner : Context → Element → Printer} {ctx : Context}
  {site : Site}

/-- Performing the plan of a site with the printer for its children is printing the site. -/
theorem perform_plan (hnone : site.element.inlining? = none)
    (hsub : ∀ e, sub ctx (site.focus e) = print site.classFile inner ctx e) :
    (plan ctx site).perform sub = print site.classFile inner ctx site.element := by
  rw [plan_eq_of_none ctx site hnone]
  cases he : site.element
  case constant k => simp [items, print, perform_literal]
  case fieldReference target field =>
      cases target with
      | none => simp [items, fieldItems, print]
      | some object =>
          simp only [items, fieldItems, print]
          split <;> simp [hsub]
  case fieldAssignment target field value => simp [items, print, Printer.unsupported]
  case binaryOperator left op right type =>
      simp only [items, operandItems, print]
      cases op.symbol? <;> simp [hsub]
  case unaryOperator operand op type =>
      simp only [items, print]
      split <;> simp [hsub]
  case branch left op right pc =>
      simp only [items, operandItems, print]
      cases op.symbol? <;> simp [hsub]
  case newArray type component length initializers =>
      cases initializers with
      | nil => simp [items, print, hsub]
      | cons first more =>
          rw [print, printValues_eq]
          simp [items, perform_generateList hsub]
  case new type signature arguments =>
      rw [print, printEach_eq]
      simp [items, perform_generateList hsub]
  case increment var amount affix type =>
      rw [print.eq_def]
      simp only [items, incrementItems]
      cases stepOperator? amount with
      | none => simp [Printer.unsupported]
      | some op => cases affix <;> simp [hsub]
  case lambda receiver target =>
      simp only [items, lambdaItems, print]
      cases hform : lambdaForm target with
      | methodReference =>
          cases receiver with
          | none => simp [qualifierItem, printQualifier]
          | some object =>
              simp only [qualifierItem, printQualifier]
              split <;> simp [hsub]
      | constructorReference => simp
      | inlined => simp [he, Element.inlining?, hform] at hnone
  case methodCall target callee arguments => exact perform_call hsub target callee arguments
  all_goals simp [items, print, hsub]

/-- A lambda written in place needs the printer for its body instead. -/
theorem perform_plan_inlined {i : Inlining} (h : site.element.inlining? = some i)
    (hinner : ∀ ctx e, sub ctx (site.focus e) = inner ctx e) :
    (plan ctx site).perform sub = print site.classFile inner ctx site.element := by
  obtain ⟨receiver, he, hreceiver, hform⟩ := Element.lambda_of_inlining? h
  rw [plan_eq_items, innerContext, h, items_of_inlining ctx h]
  simp only [he, print, hform, hreceiver]
  exact perform_inlined hinner i

end

end SourceRecovery.Java
