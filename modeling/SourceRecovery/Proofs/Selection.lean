import SourceRecovery.Java.Catalog

/-! # The Java rule for an element

The Java catalog finds its rules in lists by kind, through selectors that overlap on calls. Here the
choice is written down directly, as a function of the element, and shown to be the one the catalog
makes. No advice is registered and no selector leaves notes, so a dispatch is the plan of that rule.
-/

namespace SourceRecovery.Java

inductive CallForm where
  | booleanBox
  | primitiveBox
  | dsl
  | accessor
  | onType
  | onObject
deriving DecidableEq

/-- The first form in the order of the registrations that the call has. -/
def callForm (ctx : Context) (call : Call) : CallForm :=
  if boxesBoolean call then .booleanBox
  else if boxesPrimitive call then .primitiveBox
  else if callsDsl ctx call then .dsl
  else if callsAccessor call then .accessor
  else if call.isStatic then .onType
  else .onObject

def CallForm.rule : CallForm → Rule
  | booleanBox => Java.booleanBox
  | primitiveBox => Java.primitiveBox
  | dsl => dslCall
  | accessor => Java.accessor
  | onType => staticCall
  | onObject => instanceCall

/-- The registered rule for an element, if there is one. -/
def ruleFor? (ctx : Context) : Element → Option Rule
  | .return => some returnRule
  | .returnValue _ => some returnValue
  | .constant _ => some constant
  | .variableReference _ => some variableReference
  | .binaryOperator .. => some binaryOperator
  | .cast .. => some cast
  | .arrayLoad .. => some arrayLoad
  | .arrayStore .. => some arrayStore
  | .newArray _ _ _ initializers =>
      some (if initializers.isEmpty then uninitializedArray else initializedArray)
  | .allocate _ => some allocate
  | .increment .. => some increment
  | .methodCall target callee arguments => some (callForm ctx ⟨target, callee, arguments⟩).rule
  | .variableAssignment .. | .fieldReference .. | .fieldAssignment .. | .unaryOperator ..
  | .compare .. | .branch .. | .goto _ | .new .. | .lambda .. => none

def plan (ctx : Context) (site : Site) : Plan :=
  (ruleFor? ctx site.element).getD builtin ctx site

/-! ## The lists of the catalog -/

def callCandidates : List (Candidate Rule) :=
  [⟨booleanBoxSelector, booleanBox⟩, ⟨primitiveBoxSelector, primitiveBox⟩,
   ⟨dslCallSelector, dslCall⟩, ⟨accessorSelector, accessor⟩,
   ⟨instanceCallSelector, instanceCall⟩, ⟨staticCallSelector, staticCall⟩]

def arrayCandidates : List (Candidate Rule) :=
  [⟨uninitializedArraySelector, uninitializedArray⟩, ⟨initializedArraySelector, initializedArray⟩]

/-- The rule of a kind that has one rule for all its elements. -/
def plainRule? : Kind → Option Rule
  | .return => some returnRule
  | .returnValue => some returnValue
  | .constant => some constant
  | .variableReference => some variableReference
  | .binaryOperator => some binaryOperator
  | .cast => some cast
  | .arrayLoad => some arrayLoad
  | .arrayStore => some arrayStore
  | .allocate => some allocate
  | .increment => some increment
  | _ => none

theorem catalog_rules_call : catalog.rules .methodCall = callCandidates := rfl

theorem catalog_rules_array : catalog.rules .newArray = arrayCandidates := rfl

theorem catalog_rules_plain {kind : Kind} (hcall : kind ≠ .methodCall) (harray : kind ≠ .newArray) :
    catalog.rules kind = (plainRule? kind).toList.map fun rule => ⟨.ofKind kind, rule⟩ := by
  cases kind
  case methodCall => exact absurd rfl hcall
  case newArray => exact absurd rfl harray
  all_goals rfl

theorem catalog_advices (kind : Kind) : catalog.advices kind = [] := rfl

/-! ## The choice of the catalog -/

theorem consult_ofKind {kind : Kind} {site : Site} (h : site.element.kind = kind) (ctx : Context) :
    (Selector.ofKind kind).consult ctx site = ⟨true, []⟩ := by
  simp [Selector.ofKind, Selector.consult, h, Predicate.consultAll]

theorem consult_callSelector {site : Site} {target : Option Element} {callee : Callee}
    {arguments : List Element} (h : site.element = .methodCall target callee arguments)
    (test : Context → Call → Bool) (ctx : Context) :
    (callSelector test).consult ctx site = ⟨test ctx ⟨target, callee, arguments⟩, []⟩ := by
  simp [callSelector, Selector.filter, Selector.ofKind, Selector.consult, h, Element.kind,
    Predicate.consultAll, Predicate.onCall, Predicate.silent, Element.call?, Verdict.and]

theorem consult_newArraySelector {site : Site} {type component : JavaType} {length : Element}
    {initializers : List (UInt32 × Element)}
    (h : site.element = .newArray type component length initializers) (initialized : Bool)
    (ctx : Context) :
    (newArraySelector initialized).consult ctx site =
      ⟨initializers.isEmpty != initialized, []⟩ := by
  simp [newArraySelector, Selector.filter, Selector.ofKind, Selector.consult, h, Element.kind,
    Predicate.consultAll, Predicate.silent, Verdict.and]

theorem firstMatch_call {site : Site} {target : Option Element} {callee : Callee}
    {arguments : List Element} (h : site.element = .methodCall target callee arguments)
    (ctx : Context) :
    Catalog.firstMatch ctx site callCandidates =
      (some (callForm ctx ⟨target, callee, arguments⟩).rule, []) := by
  have hconsult := fun test => consult_callSelector h test ctx
  simp only [callCandidates, Catalog.firstMatch, booleanBoxSelector, primitiveBoxSelector,
    dslCallSelector, accessorSelector, instanceCallSelector, staticCallSelector, hconsult, callForm,
    CallForm.rule, List.nil_append]
  -- The last two tests are each other's negation, so one of the six accepts.
  cases hstatic : (Call.mk target callee arguments).isStatic <;>
    (repeat' split) <;> simp_all

theorem firstMatch_array {site : Site} {type component : JavaType} {length : Element}
    {initializers : List (UInt32 × Element)}
    (h : site.element = .newArray type component length initializers) (ctx : Context) :
    Catalog.firstMatch ctx site arrayCandidates =
      (some (if initializers.isEmpty then uninitializedArray else initializedArray), []) := by
  have hconsult := fun initialized => consult_newArraySelector h initialized ctx
  simp only [arrayCandidates, Catalog.firstMatch, uninitializedArraySelector,
    initializedArraySelector, hconsult, List.nil_append]
  cases initializers.isEmpty <;> rfl

theorem firstMatch_plain {site : Site} (hcall : site.element.kind ≠ .methodCall)
    (harray : site.element.kind ≠ .newArray) (ctx : Context) :
    Catalog.firstMatch ctx site (catalog.rules site.element.kind) =
      (plainRule? site.element.kind, []) := by
  rw [catalog_rules_plain hcall harray]
  cases plainRule? site.element.kind with
  | none => rfl
  | some rule => simp [Catalog.firstMatch, consult_ofKind rfl ctx]

theorem ruleFor?_plain {e : Element} (hcall : e.kind ≠ .methodCall) (harray : e.kind ≠ .newArray)
    (ctx : Context) : ruleFor? ctx e = plainRule? e.kind := by
  cases e
  case methodCall => exact absurd rfl hcall
  case newArray => exact absurd rfl harray
  all_goals rfl

theorem ruleFor?_call (ctx : Context) {e : Element} {call : Call} (h : e.call? = some call) :
    ruleFor? ctx e = some (callForm ctx call).rule := by
  cases e
  case methodCall target callee arguments => cases h; rfl
  all_goals cases h

theorem select_catalog (ctx : Context) (site : Site) :
    catalog.select ctx site = ⟨ruleFor? ctx site.element, [], []⟩ := by
  have hrules : Catalog.firstMatch ctx site (catalog.rules site.element.kind) =
      (ruleFor? ctx site.element, []) := by
    cases he : site.element
    case methodCall target callee arguments =>
      rw [Element.kind, catalog_rules_call]
      exact firstMatch_call he ctx
    case newArray type component length initializers =>
      rw [Element.kind, catalog_rules_array]
      exact firstMatch_array he ctx
    all_goals
      have hcall : site.element.kind ≠ .methodCall := by simp [he, Element.kind]
      have harray : site.element.kind ≠ .newArray := by simp [he, Element.kind]
      rw [← he, firstMatch_plain hcall harray, ruleFor?_plain hcall harray]
  simp [Catalog.select, hrules, catalog_advices, Catalog.allMatches]

/-- No advices surround the plan of a site. -/
theorem stages_catalog (ctx : Context) (site : Site) :
    (catalog.select ctx site).stages builtin ctx site = plan ctx site := by
  rw [select_catalog]
  rfl

theorem plan_call (ctx : Context) {site : Site} {call : Call} (h : site.element.call? = some call) :
    plan ctx site = (callForm ctx call).rule ctx site := by
  rw [plan, ruleFor?_call ctx h, Option.getD_some]

/-- A dispatch with the Java rules runs the plan of the site after one step of its own. -/
theorem dispatch_succ (depth : Nat) (ctx : Context) (site : Site) (sink : Sink) :
    catalog.dispatch builtin (depth + 1) ctx site sink =
      ((plan ctx site).run (catalog.dispatch builtin depth) sink).after
        [.dispatch ctx.level site (ruleFor? ctx site.element).isSome 0] := by
  rw [Catalog.dispatch, select_catalog]
  rfl

end SourceRecovery.Java
