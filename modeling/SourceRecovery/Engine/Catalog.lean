import SourceRecovery.Engine.Selector

/-!
# Catalogs of rules

A rule renders an element completely; an advice surrounds the stages after it. Rules and advices are
registered under selectors, and a catalog keeps them in one list for each kind of element, in the
order of registration. The first rule whose selector accepts a site renders it, inside all the
advices whose selectors accept it.
-/

namespace SourceRecovery

abbrev Rule := Context → Site → Plan

/-- Surrounds the next stage, which it may use any number of times. -/
abbrev Advice := Rule → Rule

structure Candidate (α : Type) where
  selector : Selector
  handler : α

inductive Registration where
  | on (selector : Selector) (rule : Rule)
  | around (selector : Selector) (advice : Advice)

abbrev Buckets (α : Type) := Kind → List (Candidate α)

namespace Buckets

def empty (α : Type) : Buckets α := fun _ => []

def insert {α : Type} (buckets : Buckets α) (c : Candidate α) : Buckets α := fun kind =>
  if kind = c.selector.kind then buckets kind ++ [c] else buckets kind

@[simp] theorem insert_self {α : Type} (buckets : Buckets α) (c : Candidate α) :
    buckets.insert c c.selector.kind = buckets c.selector.kind ++ [c] := by
  simp [insert]

theorem insert_of_ne {α : Type} (buckets : Buckets α) {c : Candidate α} {kind : Kind}
    (h : kind ≠ c.selector.kind) : buckets.insert c kind = buckets kind := by
  simp [insert, h]

end Buckets

structure Catalog where
  rules : Buckets Rule := Buckets.empty Rule
  advices : Buckets Advice := Buckets.empty Advice

namespace Catalog

def register (catalog : Catalog) : Registration → Catalog
  | .on selector rule => { catalog with rules := catalog.rules.insert ⟨selector, rule⟩ }
  | .around selector advice =>
    { catalog with advices := catalog.advices.insert ⟨selector, advice⟩ }

def ofList (registrations : List Registration) : Catalog := registrations.foldl register {}

/-- The first handler whose selector accepts the site, and the notes of all selectors consulted. -/
def firstMatch {α : Type} (ctx : Context) (site : Site) :
    List (Candidate α) → Option α × List String
  | [] => (none, [])
  | c :: rest =>
    let verdict := c.selector.consult ctx site
    if verdict.accepts then (some c.handler, verdict.notes)
    else
      let later := firstMatch ctx site rest
      (later.1, verdict.notes ++ later.2)

/-- All handlers whose selectors accept the site, and the notes of all selectors. -/
def allMatches {α : Type} (ctx : Context) (site : Site) :
    List (Candidate α) → List α × List String
  | [] => ([], [])
  | c :: rest =>
    let verdict := c.selector.consult ctx site
    let later := allMatches ctx site rest
    (if verdict.accepts then c.handler :: later.1 else later.1, verdict.notes ++ later.2)

theorem firstMatch_fst {α : Type} (ctx : Context) (site : Site) (cs : List (Candidate α)) :
    (firstMatch ctx site cs).1 =
      (cs.find? fun c => c.selector.accepts ctx site).map Candidate.handler := by
  induction cs with
  | nil => rfl
  | cons c rest ih =>
    cases h : (c.selector.consult ctx site).accepts <;>
      simp [firstMatch, Selector.accepts, h, ih]

theorem allMatches_fst {α : Type} (ctx : Context) (site : Site) (cs : List (Candidate α)) :
    (allMatches ctx site cs).1 =
      (cs.filter fun c => c.selector.accepts ctx site).map Candidate.handler := by
  induction cs with
  | nil => rfl
  | cons c rest ih =>
    cases h : (c.selector.consult ctx site).accepts <;>
      simp [allMatches, Selector.accepts, h, ih]

structure Selection where
  rule : Option Rule
  advices : List Advice
  notes : List String

def select (catalog : Catalog) (ctx : Context) (site : Site) : Selection :=
  let rule := firstMatch ctx site (catalog.rules site.element.kind)
  let advices := allMatches ctx site (catalog.advices site.element.kind)
  ⟨rule.1, advices.1, rule.2 ++ advices.2⟩

def ruleCount (catalog : Catalog) (kind : Kind) : Nat := (catalog.rules kind).length

def adviceCount (catalog : Catalog) (kind : Kind) : Nat := (catalog.advices kind).length

def inspect (catalog : Catalog) : String :=
  let entries := Kind.all.filterMap fun kind =>
    let rules := catalog.ruleCount kind
    let advices := catalog.adviceCount kind
    if rules + advices > 0 then
      some (kind.inspect ++ ": (" ++ toString rules ++ ", " ++ toString advices ++ ")")
    else none
  "\x7b" ++ ", ".intercalate entries ++ "\x7d"

end Catalog

end SourceRecovery
