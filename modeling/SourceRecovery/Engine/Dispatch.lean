import SourceRecovery.Engine.Catalog
import SourceRecovery.Engine.Run

/-!
# Dispatch

A site is rendered by the rule selected for it, or by a fallback, inside the selected advices. The
plan so made is run with dispatch itself for the sites it hands back, so the rules apply alike at
every depth.

Sites may be handed back without end, so dispatch counts the depth down and stops at zero.
-/

namespace SourceRecovery

namespace Catalog.Selection

/-- The stages from the advice at `index` on: it surrounds the stages after it. After the last
advice comes the rule, or the fallback if there is none. -/
@[semireducible] def proceed (s : Selection) (fallback : Rule) (index : Nat) : Rule :=
  match _hadvice : s.advices[index]? with
  | some advice => advice (s.proceed fallback (index + 1))
  | none => s.rule.getD fallback
termination_by s.advices.length - index
decreasing_by
  have := (List.getElem?_eq_some_iff.mp _hadvice).choose
  omega

def stages (s : Selection) (fallback : Rule) : Rule := s.proceed fallback 0

/-- What the run of a selection begins with: the notes left while selecting, then the dispatch. -/
def opening (s : Selection) (ctx : Context) (site : Site) : List Step :=
  s.notes.map (fun text => .mark (.note text)) ++
    [.dispatch ctx.level site s.rule.isSome s.advices.length]

end Catalog.Selection

namespace Catalog

/-- Renders a site with the rules of a catalog, at most `depth` sites inside one another. -/
def dispatch (catalog : Catalog) (fallback : Rule) : Nat → Dispatcher
  | 0, _, _, sink => ⟨.exhausted, sink, []⟩
  | depth + 1, ctx, site, sink =>
    let selection := catalog.select ctx site
    ((selection.stages fallback ctx site).run (catalog.dispatch fallback depth) sink).after
      (selection.opening ctx site)

end Catalog

/-- Stands in for rules: writes the kind and the level of what it is given. -/
def Dispatcher.outline : Dispatcher := fun ctx site sink =>
  (Plan.text ("<" ++ site.element.kind.label ++ "@" ++ toString ctx.level ++ ">")).run
    (fun _ _ sink => ⟨.exhausted, sink, []⟩) sink

end SourceRecovery
