import Mathlib.Data.Nat.Find
import SourceRecovery.Generator
import SourceRecovery.Proofs.Header
import SourceRecovery.Proofs.Termination

/-! # Faults

Every way in which Java generation can fail while the sink takes all text. Each is a fault of one
site: it can be told from the element, the class file around it and the collaborators, without
running anything. A run fails exactly when a site at fault is given to the rules; parts of the tree
that are skipped may be as faulty as they like.
-/

namespace SourceRecovery

/-! ## What is looked at -/

def ConstantValue.isNumber : ConstantValue → Bool
  | int _ | long _ | float _ | double _ | char _ => true
  | null | boolean _ | string _ | type _ => false

def Element.isNumber : Element → Bool
  | .constant k => k.value.isNumber
  | _ => false

namespace Java

/-- Whether the body of an accessor that is called with so many arguments begins as it should: with
the return of a field for one, with an assignment to a field for two. -/
def opensField : Nat → List Element → Bool
  | 1, .returnValue (.fieldReference _ _) :: _ => true
  | 2, .fieldAssignment .. :: _ => true
  | _, _ => false

/-- What stands in the place of the field access in the body of an accessor. -/
def misfit (call : Call) : List Element → String
  | [] => call.inspect
  | .returnValue value :: _ =>
      if call.arguments.length = 1 then value.inspect else (Element.returnValue value).inspect
  | statement :: _ => statement.inspect

/-- The site cannot be rendered, for this reason. -/
inductive Fault (ctx : Context) (site : Site) : GenerationError → Prop
  | fieldAssignment {target : Option Element} {field : Field} {value : Element} :
      site.element = .fieldAssignment target field value →
      Fault ctx site (.unsupportedElement site.element.inspect)
  | classLiteral {k : Constant} :
      site.element = .constant k → k.type.isClass "java.lang.Class" = true →
      (∀ type, k.value ≠ .type type) →
      Fault ctx site (.unsupportedElement k.inspect)
  | binaryOperator {left right : Element} {type : JavaType} :
      site.element = .binaryOperator left .not right type →
      Fault ctx site (.unsupportedOperator .not)
  | branch {left right : Element} {pc : UInt32} :
      site.element = .branch left .not right pc →
      Fault ctx site (.unsupportedOperator .not)
  | unaryOperator {operand : Element} {op : Operator} {type : JavaType} :
      site.element = .unaryOperator operand op type → op ≠ .not →
      Fault ctx site (.unsupportedOperator op)
  | increment {var amount : Element} {affix : Affix} {type : JavaType} :
      site.element = .increment var amount affix type → amount.isNumber = false →
      Fault ctx site (.unsupportedElement amount.inspect)
  | booleanBox {call : Call} {k : Constant} :
      site.element.call? = some call → callForm ctx call = .booleanBox →
      call.arguments.head? = some (.constant k) → k.type = .int → k.value.int? = none →
      Fault ctx site (.unsupportedElement k.inspect)
  | primitiveBox {call : Call} :
      site.element.call? = some call → callForm ctx call = .primitiveBox → call.arguments = [] →
      Fault ctx site (.unsupportedElement call.inspect)
  | accessorClass {call : Call} {e : GenerationError} :
      site.element.call? = some call → callForm ctx call = .accessor →
      ctx.classFile call.callee.declaring = .error e →
      Fault ctx site e
  | accessorMissing {call : Call} {file : ClassFile} :
      site.element.call? = some call → callForm ctx call = .accessor →
      ctx.classFile call.callee.declaring = .ok file → file.method? call.callee.name = none →
      Fault ctx site (.methodNotFound .accessor call.callee.declaring.name call.callee.name)
  | accessorCode {call : Call} {file : ClassFile} {method : Method} {cause : DecompileError} :
      site.element.call? = some call → callForm ctx call = .accessor →
      ctx.classFile call.callee.declaring = .ok file →
      file.method? call.callee.name = some method → ctx.decompile method = .error cause →
      Fault ctx site (.decompile method.name file.name.text cause)
  | accessorBody {call : Call} {file : ClassFile} {method : Method} {body : List Element} :
      site.element.call? = some call → callForm ctx call = .accessor →
      ctx.classFile call.callee.declaring = .ok file →
      file.method? call.callee.name = some method → ctx.decompile method = .ok body →
      opensField call.arguments.length body = false →
      Fault ctx site (.unsupportedElement (misfit call body))
  | backingMissing {i : Inlining} :
      site.element.inlining? = some i → site.classFile.method? i.target.name = none →
      Fault ctx site (.methodNotFound .lambdaBacking site.classFile.name.text i.target.name)
  | backingCode {i : Inlining} {declared backing : Method} {cause : DecompileError} :
      site.element.inlining? = some i → site.classFile.method? i.target.name = some declared →
      backing = withCaptured declared i.hasReceiver i.target.captured →
      ctx.decompile backing = .error cause →
      Fault ctx site (.decompile backing.name site.classFile.name.text cause)
  | parameter {i : Inlining} {declared backing : Method} {body : List Element} {position : Nat} :
      site.element.inlining? = some i → site.classFile.method? i.target.name = some declared →
      backing = withCaptured declared i.hasReceiver i.target.captured →
      ctx.decompile backing = .ok body → onlyReturns body = true →
      position < backing.signature.parameters.length →
      parameterLocal? i.target backing position = none →
      (∀ earlier < position, (parameterLocal? i.target backing earlier).isSome) →
      Fault ctx site (.noLocalVariable (firstParameter i.target + position)
        site.classFile.name.text backing.name)

def Bad (ctx : Context) (site : Site) : Prop := ∃ e, Fault ctx site e

/-- The error is that the table has no entry for a parameter, in a lambda that has several. -/
def LacksEntry (site : Site) (e : GenerationError) : Prop :=
  ∃ i declared backing index file method, site.element.inlining? = some i ∧
    site.classFile.method? i.target.name = some declared ∧
    backing = withCaptured declared i.hasReceiver i.target.captured ∧
    1 < backing.signature.parameters.length ∧ e = .noLocalVariable index file method

open Plan (NeverFails Breaks)

variable (ctx : Context) {site : Site}

/-! ## Items -/

theorem neverFails_item {item : Item} (h : ∀ e, item ≠ .fail e) :
    (item.plan ctx site).NeverFails := by
  cases item with
  | text piece => exact .text piece
  | name type => exact .text _
  | indent => exact .indentation ctx
  | part e => exact .generate ctx site e
  | object e =>
      rw [Item.plan_object]
      split
      · exact .done
      · exact (NeverFails.generate ctx site e).append (.text ".")
  | mark m => exact .mark m .done
  | fail e => exact absurd rfl (h e)

theorem neverFails_read {items : List Item} (h : ∀ e, .fail e ∉ items) :
    (Item.read ctx site items).NeverFails := by
  refine .concat fun p hp => ?_
  obtain ⟨item, hitem, hplan⟩ := List.mem_map.mp hp
  rw [← hplan]
  exact neverFails_item ctx fun e he => h e (he ▸ hitem)

theorem breaks_read (marks : List Mark) (e : GenerationError) (rest : List Item) :
    (Item.read ctx site (marks.map .mark ++ .fail e :: rest)).Breaks e [] := by
  induction marks with
  | nil => exact .fail
  | cons m _ ih => exact .mark m ih

theorem fail_notMem_listed (e : GenerationError) (es : List Element) :
    .fail e ∉ Item.listed es :=
  Item.notMem_listed rfl es

/-! ## Constants and increments -/

theorem value_of_fail_mem_literal {k : Constant} {e : GenerationError}
    (h : .fail e ∈ literalItems k) :
    k.type.isClass "java.lang.Class" = true ∧ ∀ type, k.value ≠ .type type := by
  unfold literalItems at h
  repeat' split at h
  all_goals simp_all [Item.texts]

theorem literalItems_of_class {k : Constant} (htype : k.type.isClass "java.lang.Class" = true)
    (hvalue : ∀ type, k.value ≠ .type type) : literalItems k = [.unsupported k.inspect] := by
  obtain ⟨value, type⟩ := k
  cases type with
  | named n =>
      have hname : n.text = "java.lang.Class" := by simpa [JavaType.isClass] using htype
      simp only [literalItems, JavaType.isClass, hname, JavaType.long, JavaType.float]
      cases value
      case type t => exact absurd rfl (hvalue t)
      all_goals rfl
  | primitive p => cases htype
  | array component => cases htype

theorem stepOperator?_isSome (amount : Element) :
    (stepOperator? amount).isSome = amount.isNumber := by
  cases amount
  case constant k =>
      obtain ⟨value, type⟩ := k
      cases value <;> rfl
  all_goals rfl

/-! ## Calls -/

theorem accessedField_of_opens {call : Call} {body : List Element}
    (h : opensField call.arguments.length body = true) :
    ∃ field, accessedField call body = .ok field := by
  unfold opensField at h
  split at h
  · next hlength => exact ⟨_, by simp only [accessedField, hlength]; rfl⟩
  · next hlength => exact ⟨_, by simp only [accessedField, hlength]; rfl⟩
  · cases h

theorem accessedField_of_misfit {call : Call} {body : List Element}
    (h : opensField call.arguments.length body = false) :
    accessedField call body = .error (misfit call body) := by
  cases body with
  | nil => simp [accessedField, misfit]
  | cons statement rest =>
      cases statement
      case returnValue value =>
          by_cases hone : call.arguments.length = 1
          · cases value
            case fieldReference target field => rw [hone] at h; cases h
            all_goals simp [accessedField, misfit, hone]
          · simp [accessedField, misfit, hone]
      case fieldAssignment target field value =>
          by_cases htwo : call.arguments.length = 2
          · rw [htwo] at h
            cases h
          · simp [accessedField, misfit, htwo]
      all_goals simp [accessedField, misfit]

variable {call : Call}

/-- A boxed boolean has an argument, or another form would have been found. -/
theorem exists_argument_of_booleanBox (hform : callForm ctx call = .booleanBox) :
    ∃ argument, call.arguments.head? = some argument := by
  have hboxes : boxesBoolean call = true := by
    by_contra hnot
    rw [callForm, if_neg hnot] at hform
    repeat' split at hform
    all_goals cases hform
  have hany := (Bool.and_eq_true_iff.mp hboxes).2
  cases hfirst : call.arguments.head? with
  | none => rw [hfirst] at hany; cases hany
  | some argument => exact ⟨argument, rfl⟩

theorem bad_of_fail_mem_booleanBox {e : GenerationError} (hcall : site.element.call? = some call)
    (hform : callForm ctx call = .booleanBox) (h : .fail e ∈ booleanBoxItems call) :
    Bad ctx site := by
  obtain ⟨argument, hfirst⟩ := exists_argument_of_booleanBox ctx hform
  simp only [booleanBoxItems, hfirst] at h
  cases argument
  case constant k =>
      dsimp only at h
      split at h
      · next htype =>
          cases hvalue : k.value.int? with
          | none => exact ⟨_, .booleanBox hcall hform hfirst htype hvalue⟩
          | some value => simp [hvalue] at h
      · simp at h
  all_goals simp at h

theorem bad_of_fail_mem_primitiveBox {e : GenerationError} (hcall : site.element.call? = some call)
    (hform : callForm ctx call = .primitiveBox) (h : .fail e ∈ primitiveBoxItems call) :
    Bad ctx site := by
  unfold primitiveBoxItems at h
  split at h
  · next hfirst =>
      have hnone : call.arguments = [] := List.head?_eq_none_iff.mp hfirst
      exact ⟨_, .primitiveBox hcall hform hnone⟩
  · simp at h

theorem bad_of_fail_mem_accessor {e : GenerationError} (hcall : site.element.call? = some call)
    (hform : callForm ctx call = .accessor) (h : .fail e ∈ accessorItems ctx call) :
    Bad ctx site := by
  unfold accessorItems at h
  cases hfile : ctx.classFile call.callee.declaring with
  | error e => exact ⟨e, .accessorClass hcall hform hfile⟩
  | ok file =>
      cases hmethod : file.method? call.callee.name with
      | none => exact ⟨_, .accessorMissing hcall hform hfile hmethod⟩
      | some method =>
          cases hcode : ctx.decompile method with
          | error cause => exact ⟨_, .accessorCode hcall hform hfile hmethod hcode⟩
          | ok body =>
              cases hopens : opensField call.arguments.length body with
              | false => exact ⟨_, .accessorBody hcall hform hfile hmethod hcode hopens⟩
              | true =>
                  obtain ⟨field, hfield⟩ := accessedField_of_opens hopens
                  simp only [hfile, hmethod, hcode, hfield, List.mem_cons, reduceCtorEq,
                    false_or] at h
                  cases isPlain_of_mem_fieldAccess h

theorem bad_of_fail_mem_call {e : GenerationError} (hcall : site.element.call? = some call)
    (h : .fail e ∈ callItems ctx call) : Bad ctx site := by
  have hinvocation : .fail e ∉ invocationItems ctx call := by
    simp [invocationItems, fail_notMem_listed]
  unfold callItems at h
  split at h
  · next hform => exact bad_of_fail_mem_booleanBox ctx hcall hform h
  · next hform => exact bad_of_fail_mem_primitiveBox ctx hcall hform h
  · exact absurd h hinvocation
  · next hform => exact bad_of_fail_mem_accessor ctx hcall hform h
  · simp [hinvocation] at h
  · simp [hinvocation] at h

/-! ## Lambdas -/

variable (site) (target : LambdaTarget) (backing : Method)

theorem length_parameterEntries_of_first_missing {position : Nat}
    (hnone : parameterLocal? target backing position = none)
    (hearlier : ∀ earlier < position, (parameterLocal? target backing earlier).isSome) :
    (parameterEntries target backing).length = position := by
  apply Nat.le_antisymm ((parameterLocal?_eq_none_iff target backing).mp hnone)
  exact length_le_of_named target backing hearlier

theorem parameters_breaks {position : Nat} (hlt : position < backing.signature.parameters.length)
    (hnone : parameterLocal? target backing position = none)
    (hearlier : ∀ earlier < position, (parameterLocal? target backing earlier).isSome) :
    ∃ pieces, (parameters site target backing).Breaks
      (.noLocalVariable (firstParameter target + position) site.classFile.name.text backing.name)
      pieces ∧ (pieces = [] ∨ 1 < backing.signature.parameters.length) := by
  have hcount := length_parameterEntries_of_first_missing target backing hnone hearlier
  by_cases hmany : 1 < backing.signature.parameters.length
  · have hbreaks := parameters_breaks_of_many site target backing hmany (hcount ▸ hlt)
    rw [hcount] at hbreaks
    exact ⟨_, hbreaks, .inr hmany⟩
  · have hone : backing.signature.parameters.length = 1 := by omega
    have hfirst : position = 0 := by omega
    rw [hfirst] at hcount ⊢
    simp only [parameters, hone, parameterName_of_le site target backing (Nat.le_of_eq hcount)]
    exact ⟨[], Breaks.fail.append _, .inl rfl⟩

theorem exists_first_missing
    (h : ∃ position < backing.signature.parameters.length,
      parameterLocal? target backing position = none) :
    ∃ position < backing.signature.parameters.length,
      parameterLocal? target backing position = none ∧
      ∀ earlier < position, (parameterLocal? target backing earlier).isSome := by
  obtain ⟨missing, hlt, hnone⟩ := h
  have hexists : ∃ position, parameterLocal? target backing position = none := ⟨missing, hnone⟩
  have hle := Nat.find_min' hexists hnone
  refine ⟨Nat.find hexists, Nat.lt_of_le_of_lt hle hlt, Nat.find_spec hexists, ?_⟩
  intro earlier hearlier
  exact Option.isSome_iff_ne_none.mpr (Nat.find_min hexists hearlier)

theorem inlinedBody_breaks {body : List Element} (h : onlyReturns body = true)
    {e : GenerationError} {pieces : List String}
    (hheader : (parameters site target backing).Breaks e pieces) :
    (inlinedBody ctx site target backing body).Breaks e pieces := by
  unfold onlyReturns at h
  split at h
  · exact hheader.append _
  · exact hheader.append _
  · cases h

variable {site} {i : Inlining}

theorem bad_of_fail_mem_inlined {e : GenerationError} (hi : site.element.inlining? = some i)
    (h : .fail e ∈ inlinedItems ctx site.classFile i) : Bad ctx site := by
  unfold inlinedItems at h
  cases hmethod : site.classFile.method? i.target.name with
  | none => exact ⟨_, .backingMissing hi hmethod⟩
  | some declared =>
      generalize hbacking : withCaptured declared i.hasReceiver i.target.captured = backing
      simp only [hmethod, hbacking] at h
      cases hcode : ctx.decompile backing with
      | error cause => exact ⟨_, .backingCode hi hmethod hbacking.symm hcode⟩
      | ok body =>
          simp only [hcode, List.mem_cons, reduceCtorEq, false_or] at h
          rcases mem_bodyItems h with hplain | ⟨hreturns, position, hlt, hname⟩
          · cases hplain
          · have hmissing : parameterLocal? i.target backing position = none := by
              unfold parameterItem at hname
              split at hname
              · cases hname
              · next hnone => exact hnone
            obtain ⟨first, hlt, hnone, hearlier⟩ :=
              exists_first_missing i.target backing ⟨position, hlt, hmissing⟩
            exact ⟨_, .parameter hi hmethod hbacking.symm hcode hreturns hlt hnone hearlier⟩

/-! ## Every kind of element -/

/-- Only a site at fault has a failure among its items. -/
theorem bad_of_fail_mem {site : Site} {e : GenerationError}
    (h : .fail e ∈ items ctx site.classFile site.element) : Bad ctx site := by
  cases hlambda : site.element.inlining? with
  | some i =>
      rw [items_of_inlining ctx hlambda] at h
      exact bad_of_fail_mem_inlined ctx hlambda h
  | none =>
      cases he : site.element <;> rw [he] at h
      case constant k =>
          obtain ⟨hclass, hvalue⟩ := value_of_fail_mem_literal h
          exact ⟨_, .classLiteral he hclass hvalue⟩
      case fieldAssignment target field value => exact ⟨_, .fieldAssignment he⟩
      case binaryOperator left op right type =>
          cases hsymbol : op.symbol? with
          | none =>
              rw [Operator.symbol?_eq_none_iff.mp hsymbol] at he
              exact ⟨_, .binaryOperator he⟩
          | some symbol => simp [items, operandItems, hsymbol] at h
      case branch left op right pc =>
          cases hsymbol : op.symbol? with
          | none =>
              rw [Operator.symbol?_eq_none_iff.mp hsymbol] at he
              exact ⟨_, .branch he⟩
          | some symbol => simp [items, operandItems, hsymbol] at h
      case unaryOperator operand op type =>
          by_cases hop : op = .not
          · simp [items, hop] at h
          · exact ⟨_, .unaryOperator he hop⟩
      case increment var amount affix type =>
          have hnumber := stepOperator?_isSome amount
          cases hstep : stepOperator? amount with
          | none =>
              rw [hstep] at hnumber
              exact ⟨_, .increment he hnumber.symm⟩
          | some op => cases affix <;> simp [items, incrementItems, hstep] at h
      case lambda receiver target =>
          rw [he] at hlambda
          simp only [items, lambdaItems, qualifierItem] at h
          repeat' split at h
          all_goals simp_all [Element.inlining?]
      case methodCall target callee arguments =>
          have hcall : site.element.call? = some ⟨target, callee, arguments⟩ := by rw [he]; rfl
          exact bad_of_fail_mem_call ctx hcall h
      -- The other rules have no failures of their own.
      all_goals simp only [items, fieldItems] at h
      all_goals repeat' split at h
      all_goals simp_all [fail_notMem_listed]

/-- The plan of a site that is not at fault never fails of itself. -/
theorem plan_neverFails_or_bad (site : Site) : (plan ctx site).NeverFails ∨ Bad ctx site := by
  by_cases hfails : ∃ e, .fail e ∈ items ctx site.classFile site.element
  · obtain ⟨e, he⟩ := hfails
    exact .inr (bad_of_fail_mem ctx he)
  · rw [plan_eq_items]
    exact .inl (neverFails_read _ fun e he => hfails ⟨e, he⟩)

theorem plan_breaks_of_items (marks : List Mark) (rest : List Item) {e : GenerationError}
    (h : items ctx site.classFile site.element = marks.map .mark ++ .fail e :: rest) :
    ∃ pieces, (plan ctx site).Breaks e pieces ∧ (pieces = [] ∨ LacksEntry site e) := by
  rw [plan_eq_items, h]
  exact ⟨[], breaks_read _ marks e rest, .inl rfl⟩

/-- The plan of a site at fault fails before it hands anything back. It has written something only
if it is in the middle of a header. -/
theorem plan_breaks {e : GenerationError} (h : Fault ctx site e) :
    ∃ pieces, (plan ctx site).Breaks e pieces ∧
      (pieces = [] ∨ LacksEntry site e) := by
  cases h with
  | fieldAssignment he =>
      refine plan_breaks_of_items ctx [] [] ?_
      rw [he]
      rfl
  | classLiteral he htype hvalue =>
      refine plan_breaks_of_items ctx [] [] ?_
      rw [he]
      exact literalItems_of_class htype hvalue
  | binaryOperator he =>
      refine plan_breaks_of_items ctx [] [] ?_
      rw [he]
      rfl
  | @branch left right pc he =>
      refine plan_breaks_of_items ctx [] [.text " ? goto ", .text (toString pc)] ?_
      rw [he]
      rfl
  | unaryOperator he hop =>
      refine plan_breaks_of_items ctx [] [] ?_
      rw [he, items, if_neg hop]
      rfl
  | @increment var amount affix type he hamount =>
      have hstep : stepOperator? amount = none := by
        rw [← Option.not_isSome_iff_eq_none, stepOperator?_isSome, hamount]
        exact Bool.false_ne_true
      refine plan_breaks_of_items ctx [] [] ?_
      rw [he, items, incrementItems, hstep]
      rfl
  | booleanBox hcall hform hfirst htype hvalue =>
      refine plan_breaks_of_items ctx [] [] ?_
      simp [items_of_call ctx hcall, callItems, hform, booleanBoxItems, hfirst, htype, hvalue]
  | primitiveBox hcall hform hnone =>
      refine plan_breaks_of_items ctx [] [] ?_
      simp [items_of_call ctx hcall, callItems, hform, primitiveBoxItems, hnone]
  | @accessorClass call _ hcall hform hfile =>
      refine plan_breaks_of_items ctx [.resolveClass call.callee.declaring] [] ?_
      simp [items_of_call ctx hcall, callItems, hform, accessorItems, hfile]
  | @accessorMissing call _ hcall hform hfile hmethod =>
      refine plan_breaks_of_items ctx [.resolveClass call.callee.declaring] [] ?_
      simp [items_of_call ctx hcall, callItems, hform, accessorItems, hfile, hmethod]
  | @accessorCode call _ method _ hcall hform hfile hmethod hcode =>
      refine plan_breaks_of_items ctx
        [.resolveClass call.callee.declaring, .decompile method] [] ?_
      simp [items_of_call ctx hcall, callItems, hform, accessorItems, hfile, hmethod, hcode]
  | @accessorBody call file method body hcall hform hfile hmethod hcode hopens =>
      refine plan_breaks_of_items ctx [.resolveClass call.callee.declaring, .decompile method,
        .accessor method.name file.name.text body.length] [] ?_
      simp [items_of_call ctx hcall, callItems, hform, accessorItems, hfile, hmethod, hcode,
        accessedField_of_misfit hopens]
  | backingMissing hi hmethod =>
      refine plan_breaks_of_items ctx [] [] ?_
      simp [items_of_inlining ctx hi, inlinedItems, hmethod]
  | @backingCode i declared backing _ hi hmethod hbacking hcode =>
      refine plan_breaks_of_items ctx [.decompile backing] [] ?_
      simp [items_of_inlining ctx hi, inlinedItems, hmethod, ← hbacking, hcode]
  | parameter hi hmethod hbacking hcode hreturns hlt hnone hearlier =>
      obtain ⟨pieces, hheader, hpieces⟩ := parameters_breaks site _ _ hlt hnone hearlier
      obtain ⟨_, _, hplan⟩ := plan_decompiled ctx hi hmethod hbacking hcode
      rw [hplan]
      refine ⟨pieces, .mark _ (.mark _ (inlinedBody_breaks ctx site _ _ hreturns hheader)), ?_⟩
      exact hpieces.imp_right fun hmany => ⟨_, _, _, _, _, _, hi, hmethod, hbacking, hmany, rfl⟩

theorem Fault.unique {e f : GenerationError} (h : Fault ctx site e) (h' : Fault ctx site f) :
    e = f := by
  obtain ⟨pieces, hbreaks, _⟩ := plan_breaks ctx h
  obtain ⟨others, hothers, _⟩ := plan_breaks ctx h'
  exact hbreaks.unique hothers

/-! ## Whole runs -/

/-- The faults of the sites that a run comes to. -/
def faultWith (c : Collaborators) : FaultAt := fun x e => Fault ⟨c, x.1⟩ x.2 e

/-- The Java rules hand sites back with the collaborators they were given. -/
theorem exists_level_of_mem_sites (c : Collaborators) (level : Nat) {x : Context × Site}
    (h : x ∈ (plan ⟨c, level⟩ site).sites) : ∃ below, x.1 = ⟨c, below⟩ := by
  obtain ⟨next, hnext, hrenders⟩ := renders_plan ⟨c, level⟩ site
  obtain ⟨sites, hands, hsites⟩ := hrenders.exists_hands
  obtain ⟨y, _, hx⟩ := hsites x (hands.sites_sublist.subset h)
  rw [hx]
  rcases hnext with hnext | hnext
  · exact ⟨level, hnext⟩
  · exact ⟨level + 1, hnext⟩

/-- Every run stops at the first fault it comes to, and nowhere else. -/
theorem dispatch_stopsAtFault (c : Collaborators) (depth level : Nat) (site : Site) {sink : Sink}
    (hopen : sink.Open) :
    (catalog.dispatch builtin depth ⟨c, level⟩ site sink).StopsAtFault (faultWith c) := by
  induction depth generalizing level site sink with
  | zero => exact .clear (fun _ => Outcome.noConfusion) (List.forall_mem_nil _)
  | succ depth ih =>
      rw [dispatch_succ]
      by_cases hbad : Bad ⟨c, level⟩ site
      · obtain ⟨e, hfault⟩ := hbad
        obtain ⟨pieces, hbreaks, _⟩ := plan_breaks ⟨c, level⟩ hfault
        -- The plan breaks before it hands anything back, so this is the only site of the run.
        obtain ⟨hout, hnone⟩ := hbreaks.run (catalog.dispatch builtin depth) hopen
        have hlast : (((plan ⟨c, level⟩ site).run (catalog.dispatch builtin depth) sink).after
            [.dispatch level site (ruleFor? ⟨c, level⟩ site.element).isSome 0]).dispatches =
              [] ++ [(level, site)] := by
          rw [Run.dispatches_after, hnone]
          rfl
        exact .failed hout hlast hfault (List.forall_mem_nil _)
      · have hplan : (plan ⟨c, level⟩ site).NeverFails :=
          (plan_neverFails_or_bad ⟨c, level⟩ site).resolve_right hbad
        have hsites : ∀ x ∈ (plan ⟨c, level⟩ site).sites, ∀ below : Sink, below.Open →
            (catalog.dispatch builtin depth x.1 x.2 below).StopsAtFault (faultWith c) := by
          intro x hx below hbelow
          obtain ⟨next, hnext⟩ := exists_level_of_mem_sites c level hx
          rw [hnext]
          exact ih next x.2 hbelow
        have hkeeps := catalog.dispatch_keepsPolicy builtin depth
        refine (hplan.stopsAtFault hkeeps hsites hopen).after ?_
        intro x hx f hfault
        rw [List.mem_singleton.mp hx] at hfault
        exact hbad ⟨f, hfault⟩

/-- The outcome of a run as the sites given to the rules in it decide it. -/
structure FailsAtFaults (c : Collaborators) (r : Run) : Prop where
  failed : ∀ e, r.outcome = .error e ↔ ∃ x ∈ r.dispatches, Fault ⟨c, x.1⟩ x.2 e
  succeeded : r.outcome ≠ .exhausted →
    (r.outcome = .ok ↔ ∀ x ∈ r.dispatches, ¬ Bad ⟨c, x.1⟩ x.2)
  onlyLast : ∀ x ∈ r.dispatches.dropLast, ¬ Bad ⟨c, x.1⟩ x.2

theorem dispatch_failsAtFaults (c : Collaborators) (depth level : Nat) (site : Site) {sink : Sink}
    (hopen : sink.Open) :
    FailsAtFaults c (catalog.dispatch builtin depth ⟨c, level⟩ site sink) := by
  have hstops := dispatch_stopsAtFault c depth level site hopen
  have hfailed := hstops.outcome_eq_error_iff fun x e f => Fault.unique ⟨c, x.1⟩
  refine ⟨hfailed, fun hfinished => ?_, fun x hx => ?_⟩
  · constructor
    · intro hok x hx hbad
      obtain ⟨e, hfault⟩ := hbad
      have herror := (hfailed e).mpr ⟨x, hx, hfault⟩
      rw [hok] at herror
      cases herror
    · intro hnone
      cases hout : (catalog.dispatch builtin depth ⟨c, level⟩ site sink).outcome with
      | ok => rfl
      | exhausted => exact absurd hout hfinished
      | error e =>
          obtain ⟨x, hx, hfault⟩ := (hfailed e).mp hout
          exact absurd ⟨e, hfault⟩ (hnone x hx)
  · rintro ⟨e, hfault⟩
    exact hstops.not_fault_of_mem_dropLast hx e hfault

/-- Into a sink that takes everything, a run fails exactly when it comes to a site at fault. That
site is then the last one given to the rules, and its fault is the error. If the lambdas of the tree
can be ranked there is no third outcome: generation succeeds exactly when it comes to no fault. -/
theorem generation_fails_at_faults (c : Collaborators) (site : Site) (level : Nat) (sink : Sink)
    (hopen : sink.Open) :
    (∀ depth, FailsAtFaults c
      ((Generator.mk catalog c).dispatcher depth ⟨c, level⟩ site sink)) ∧
    (∀ rank, Inlining.Ranked c.decompiler site.classFile site.element rank →
      ∃ bound, ∀ depth, bound ≤ depth →
        ((∃ e, ((Generator.mk catalog c).dispatcher depth ⟨c, level⟩ site sink).outcome =
            .error e) ↔
          ∃ x ∈ ((Generator.mk catalog c).dispatcher depth ⟨c, level⟩ site sink).dispatches,
            Bad ⟨c, x.1⟩ x.2) ∧
        (((Generator.mk catalog c).dispatcher depth ⟨c, level⟩ site sink).outcome = .ok ↔
          ∀ x ∈ ((Generator.mk catalog c).dispatcher depth ⟨c, level⟩ site sink).dispatches,
            ¬ Bad ⟨c, x.1⟩ x.2)) := by
  have hruns := fun depth => dispatch_failsAtFaults c depth level site hopen
  refine ⟨hruns, fun rank ranked => ?_⟩
  obtain ⟨bound, hbound⟩ := exists_finishesAt ranked.unfolds
  refine ⟨bound, fun depth hle => ⟨?_, ?_⟩⟩
  · constructor
    · rintro ⟨e, herror⟩
      obtain ⟨x, hx, hfault⟩ := ((hruns depth).failed e).mp herror
      exact ⟨x, hx, e, hfault⟩
    · rintro ⟨x, hx, e, hfault⟩
      exact ⟨e, ((hruns depth).failed e).mpr ⟨x, hx, hfault⟩⟩
  · have hfinished := hbound.of_le hle level site.method sink
    exact (hruns depth).succeeded hfinished

/-! ## A fault that is come to and one that is skipped -/

namespace Faulty

def main : Method := { name := "main", signature := ⟨[], .void⟩, flags := 9 }

/-- The accessor in this tree returns no field. -/
def nested : Site := ⟨Nested.classFile, main, Nested.root⟩

def stored : Element :=
  .fieldAssignment none ⟨Nested.outer, .int, "count"⟩ (.ofValue (.int 1))

/-- The length of an array with values is not written. -/
def skipping : Site :=
  ⟨Nested.classFile, main, .newArray (.array .int) .int stored [(0, .ofValue (.int 7))]⟩

/-- Nine sites inside one another are enough for both. -/
def render (site : Site) : Run :=
  (Generator.mk catalog Nested.collaborators).dispatcher 9 ⟨Nested.collaborators, 0⟩ site {}

def opened : Call :=
  ⟨none, ⟨Nested.outer, "access$000", ⟨[Nested.outer], .int⟩⟩, [.this Nested.outer]⟩

theorem fault_opened :
    Fault ⟨Nested.collaborators, 0⟩ (nested.focus opened.toElement)
      (.unsupportedElement opened.toElement.inspect) := by
  have hcall : (nested.focus opened.toElement).element.call? = some opened := rfl
  have hform : callForm ⟨Nested.collaborators, 0⟩ opened = .accessor := by decide
  exact .accessorBody hcall hform rfl rfl rfl rfl

end Faulty

theorem generation_fails_at_faults_nested :
    Sink.Open {} ∧
    Inlining.Ranked Nested.collaborators.decompiler Nested.classFile Nested.root Nested.rank ∧
    (∃ bound, ∀ depth, bound ≤ depth →
      (((Generator.mk catalog Nested.collaborators).dispatcher depth ⟨Nested.collaborators, 0⟩
          Faulty.nested {}).outcome = .ok ↔
        ∀ x ∈ ((Generator.mk catalog Nested.collaborators).dispatcher depth
          ⟨Nested.collaborators, 0⟩ Faulty.nested {}).dispatches,
          ¬ Bad ⟨Nested.collaborators, x.1⟩ x.2)) ∧
    (Faulty.render Faulty.nested).outcome =
      .error (.unsupportedElement Faulty.opened.toElement.inspect) ∧
    (Bad ⟨Nested.collaborators, 0⟩ (Faulty.skipping.focus Faulty.stored) ∧
      (Faulty.render Faulty.skipping).sink.text = "new int[] \x7b 7 \x7d" ∧
      ∀ x ∈ (Faulty.render Faulty.skipping).dispatches, ¬ Bad ⟨Nested.collaborators, x.1⟩ x.2) := by
  have hopen : Sink.Open {} := fun _ _ => rfl
  obtain ⟨hnested, hranked⟩ :=
    generation_fails_at_faults Nested.collaborators Faulty.nested 0 {} hopen
  obtain ⟨hskipping, _⟩ :=
    generation_fails_at_faults Nested.collaborators Faulty.skipping 0 {} hopen
  obtain ⟨bound, hbound⟩ := hranked Nested.rank Nested.ranked
  have hlast : (Faulty.render Faulty.nested).dispatches.getLast? =
      some (0, Faulty.nested.focus Faulty.opened.toElement) := rfl
  refine ⟨hopen, Nested.ranked, ⟨bound, fun depth hle => (hbound depth hle).2⟩, ?_, ?_⟩
  · exact ((hnested 9).failed _).mpr ⟨_, List.mem_of_getLast? hlast, Faulty.fault_opened⟩
  · refine ⟨⟨_, .fieldAssignment rfl⟩, by decide, ?_⟩
    exact ((hskipping 9).succeeded (by decide)).mp (by decide)

end Java

end SourceRecovery
