import SourceRecovery.Engine.Catalog

/-!
# Rules given as data

A host can describe its rules and advices as lists of small steps instead of functions, and narrow
its selectors with ready-made predicates.
-/

namespace SourceRecovery

inductive ScriptStep where
  | write (text : String)
  /-- The indentation of the context. -/
  | indent
  /-- The level of the context, as a number. -/
  | level
  /-- The kind of the element. -/
  | kind
  /-- The static type of the element. -/
  | type
  /-- The location of the site. -/
  | location
  /-- Inspection text of the context and its collaborators. -/
  | inspect
  /-- Hands every direct sub-element back to the rules. -/
  | children
  /-- Runs steps one level further in. -/
  | deeper (steps : List ScriptStep)
  /-- Runs steps; an error is written down and does not stop the script. -/
  | guarded (steps : List ScriptStep)
  | apply (rule : Rule)
  /-- Hands another element of the same method back to the rules. -/
  | generate (element : Element)
  | fail (reason : String)
  | note (text : String)
  /-- Runs the next stage. -/
  | proceed
  /-- Runs the next stage one level further in. -/
  | proceedDeeper
  /-- Runs the next stage on another element of the same method. -/
  | proceedOn (element : Element)

namespace ScriptStep

mutual

def plan (next : Rule) (ctx : Context) (site : Site) : ScriptStep → Plan
  | write text => .text text
  | indent => ctx.indentation
  | level => .text (toString ctx.level)
  | kind => .text site.element.kind.label
  | type => .text site.element.type.name
  | location => .text site.location
  | inspect => .text (ctx.inspect ++ " " ++ ctx.collaborators.inspect)
  | children => .concat (site.element.children.map (ctx.generate site))
  | deeper steps => planAll next ctx.deeper site steps
  | guarded steps =>
    .attempt (planAll next ctx site steps) fun
      | .ok _ => .done
      | .error e => .text ("!" ++ e.label)
  | apply rule => rule ctx site
  | generate element => ctx.generate site element
  | fail reason => .fail (.precondition reason)
  | note text => .mark (.note text) .done
  | proceed => next ctx site
  | proceedDeeper => next ctx.deeper site
  | proceedOn element => next ctx (site.focus element)

/-- The steps in order, up to the first that fails. -/
def planAll (next : Rule) (ctx : Context) (site : Site) : List ScriptStep → Plan
  | [] => .done
  | step :: rest => step.plan next ctx site ++ planAll next ctx site rest

end

end ScriptStep

abbrev Script := List ScriptStep

namespace Script

def advice (script : Script) : Advice := fun next ctx site =>
  ScriptStep.planAll next ctx site script

/-- A scripted rule is an advice around nothing. -/
def rule (script : Script) : Rule := script.advice fun _ _ => .done

end Script

namespace Predicate

def always (answer : Bool) : Predicate := fun _ _ => ⟨answer, []⟩

/-- The same answer for every site, leaving a note each time it is consulted. -/
def noting (text : String) (answer : Bool) : Predicate := fun _ _ => ⟨answer, [text]⟩

def hasType (t : JavaType) : Predicate := silent fun _ site => site.element.type == t

def atLevel (level : Nat) : Predicate := silent fun ctx _ => ctx.level == level

def hasValue (value : ConstantValue) : Predicate :=
  silent fun _ site => site.element.constantValue?.any fun v => v.equal value

def callsMethod (name : String) : Predicate := onCall fun _ call => call.callee.name == name

def inMethod (name : String) : Predicate := silent fun _ site => site.method.name == name

end Predicate

end SourceRecovery
