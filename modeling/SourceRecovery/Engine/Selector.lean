import SourceRecovery.Engine.Plan

/-!
# Selectors

A selector picks the sites a rule is for: elements of one kind that every predicate accepts.
Predicates are consulted in the order they were added, up to the first that rejects, and each may
leave notes for the log of the host.
-/

namespace SourceRecovery

/-- The answer of a predicate, with the notes it leaves. -/
structure Verdict where
  accepts : Bool
  notes : List String := []
deriving DecidableEq

namespace Verdict

/-- Asks for a second opinion only if the first accepts. -/
def and (v : Verdict) (next : Unit → Verdict) : Verdict :=
  if v.accepts then
    let w := next ()
    ⟨w.accepts, v.notes ++ w.notes⟩
  else v

end Verdict

abbrev Predicate := Context → Site → Verdict

namespace Predicate

def silent (test : Context → Site → Bool) : Predicate := fun ctx site => ⟨test ctx site, []⟩

def onCall (test : Context → Call → Bool) : Predicate :=
  silent fun ctx site => site.element.call?.any (test ctx)

/-- Consults predicates in order, up to the first that rejects. -/
def consultAll (ctx : Context) (site : Site) : List Predicate → Verdict
  | [] => ⟨true, []⟩
  | p :: rest => (p ctx site).and fun _ => consultAll ctx site rest

end Predicate

structure Selector where
  kind : Kind
  predicates : List Predicate := []

namespace Selector

def ofKind (kind : Kind) : Selector := { kind }

def filter (s : Selector) (p : Predicate) : Selector := { s with predicates := s.predicates ++ [p] }

/-- Matches a site against a selector. An element of another kind is rejected before any predicate
is consulted. -/
def consult (s : Selector) (ctx : Context) (site : Site) : Verdict :=
  if site.element.kind = s.kind then Predicate.consultAll ctx site s.predicates else ⟨false, []⟩

def accepts (s : Selector) (ctx : Context) (site : Site) : Bool := (s.consult ctx site).accepts

def inspect (s : Selector) : String :=
  Inspection.record "ElementSelector"
    [("element_type", s.kind.inspect), ("predicates", toString s.predicates.length)]

end Selector

end SourceRecovery
