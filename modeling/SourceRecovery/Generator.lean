import SourceRecovery.Java.Catalog

/-!
# Generators

A generator is a catalog of rules with the collaborators they call on. Running it on a site gives
text or a failure; the steps of the run give its events and the log of the host.
-/

namespace SourceRecovery

structure Generator where
  catalog : Catalog
  collaborators : Collaborators

structure GeneratorParts where
  catalog : Option Catalog := none
  decompiler : Option Decompiler := none
  classFiles : Option ClassFileResolver := none
  types : Option TypeResolver := none
  style : Option CodeStyle := none

namespace GeneratorParts

/-- Rules, a decompiler and class files are required, and missed in this order. Without metadata no
type is known, and the style defaults to short names. -/
def build (parts : GeneratorParts) : Except GenerationError Generator := do
  let some catalog := parts.catalog
    | throw (.precondition "Configuration can't be missing")
  let some decompiler := parts.decompiler
    | throw (.precondition "Decompiler can't be missing")
  let some classFiles := parts.classFiles
    | throw (.precondition "Class file resolver can't be missing")
  return {
    catalog
    collaborators := {
      types := parts.types.getD fun _ => none
      classFiles
      decompiler
      style := parts.style.getD ({} : StyleOptions).style } }

end GeneratorParts

namespace Generator

/-- The Java rules in the default style, without metadata. -/
def java (decompiler : Decompiler) (classFiles : ClassFileResolver) : Generator where
  catalog := Java.catalog
  collaborators := {
    types := fun _ => none
    classFiles
    decompiler
    style := ({} : StyleOptions).style }

/-- How many sites may be rendered inside one another. -/
def depthLimit : Nat := 10000

def context (g : Generator) (level : Nat) : Context := { collaborators := g.collaborators, level }

def dispatcher (g : Generator) (depth : Nat) : Dispatcher :=
  g.catalog.dispatch Java.builtin depth

/-- Renders a site into a sink. On failure what was written before stays in the sink. -/
def generate (g : Generator) (site : Site) (sink : Sink) : Run :=
  g.dispatcher depthLimit (g.context 0) site sink

end Generator

/-- A generation that failed: why, where, and what had been written. -/
structure Failure where
  error : GenerationError
  location : String
  written : String
deriving DecidableEq

structure Event where
  severity : String
  message : String
  fields : List (String × String)
deriving DecidableEq

namespace Mark

def event? : Mark → Option Event
  | accessor method className statements =>
    some ⟨"DEBUG", "Resolved synthetic accessor",
      [("accessor", method), ("class", className), ("statements", toString statements)]⟩
  | inlining method statements nodes captured =>
    some ⟨"DEBUG", "Inlining lambda body",
      [("method", method), ("statements", toString statements), ("nodes", toString nodes),
       ("captured", toString captured)]⟩
  | decompile _ | resolveClass _ | note _ => none

end Mark

namespace Step

def event? : Step → Option Event
  | dispatch level site ruled advices =>
    some ⟨"TRACE", "Dispatching element",
      [("element_type", site.element.kind.label), ("level", toString level),
       ("delegated", if ruled then "true" else "false"), ("advices", toString advices)]⟩
  | mark m => m.event?
  | write _ => none

end Step

namespace Run

def events (r : Run) : List Event := r.steps.filterMap Step.event?

def decompiled (r : Run) : List Method :=
  r.steps.filterMap fun
    | .mark (.decompile m) => some m
    | _ => none

def notes (r : Run) : List String :=
  r.steps.filterMap fun
    | .mark (.note text) => some text
    | _ => none

/-- The text of a run that ended well, or its failure. A run that was cut short has neither. -/
def result? (r : Run) (location : String) : Option (Except Failure String) :=
  match r.outcome with
  | .ok => some (.ok r.sink.text)
  | .error e => some (.error ⟨e, location, r.sink.text⟩)
  | .exhausted => none

end Run

namespace Generator

def source? (g : Generator) (site : Site) : Option (Except Failure String) :=
  (g.generate site {}).result? site.location

end Generator

end SourceRecovery
