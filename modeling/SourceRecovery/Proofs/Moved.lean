import SourceRecovery.Proofs.Items

/-! # Plans at another place

What is planned for an element does not depend on the class file and the method it stands in, but
for the sites that are handed back, which stand there too. Lambdas written in place are the one
exception: they look up their backing methods.
-/

namespace SourceRecovery

/-- The same element at another place. -/
def Site.moved (site : Site) (file : ClassFile) (method : Method) : Site :=
  ⟨file, method, site.element⟩

@[simp] theorem Site.element_moved (site : Site) (file : ClassFile) (method : Method) :
    (site.moved file method).element = site.element := rfl

namespace Plan

variable (file : ClassFile) (method : Method)

/-- The plan with all sites it hands back moved to another place. -/
def moved : Plan → Plan
  | done => done
  | fail e => fail e
  | write piece next => write piece next.moved
  | mark m next => mark m next.moved
  | delegate ctx site next => delegate ctx (site.moved file method) next.moved
  | attempt body next => attempt body.moved fun result => (next result).moved
  | capture body next => capture body.moved fun result text => (next result text).moved

/-- Running the plan there is running it here with a dispatcher for there. -/
theorem run_moved (dispatcher : Dispatcher) (p : Plan) (sink : Sink) :
    (p.moved file method).run dispatcher sink =
      p.run (fun ctx site => dispatcher ctx (site.moved file method)) sink := by
  induction p generalizing sink with
  | done => rfl
  | fail e => rfl
  | write piece next ih => simp only [moved, run, ih]
  | mark m next ih => simp only [moved, run, ih]
  | delegate ctx site next ih => simp only [moved, run, funext ih]
  | attempt body next ihbody ihnext => simp only [moved, run, ihbody, ihnext]
  | capture body next ihbody ihnext => simp only [moved, run, ihbody, ihnext]

@[simp] theorem moved_done : done.moved file method = done := rfl

@[simp] theorem moved_text (piece : String) : (text piece).moved file method = text piece := rfl

@[simp] theorem moved_append (p q : Plan) :
    (p ++ q).moved file method = p.moved file method ++ q.moved file method := by
  induction p with
  | done => rfl
  | fail e => rfl
  | write piece next ih => simp only [write_append, moved, ih]
  | mark m next ih => simp only [mark_append, moved, ih]
  | delegate ctx site next ih => simp only [delegate_append, moved, ih]
  | attempt body next _ ih => simp only [attempt_append, moved, ih]
  | capture body next _ ih => simp only [capture_append, moved, ih]

theorem moved_concat (plans : List Plan) :
    (concat plans).moved file method = concat (plans.map (moved file method)) := by
  induction plans with
  | nil => rfl
  | cons p rest ih => rw [concat, moved_append, ih, List.map_cons, concat]

variable (ctx : Context) (site : Site)

@[simp] theorem moved_generate (e : Element) :
    (ctx.generate site e).moved file method = ctx.generate (site.moved file method) e := rfl

@[simp] theorem moved_indentation : ctx.indentation.moved file method = ctx.indentation := by
  rw [Context.indentation, moved_concat, List.map_replicate, moved_text]

end Plan

namespace Java

variable (file : ClassFile) (method : Method) (ctx : Context) (site : Site)

/-! ## Items -/

theorem Item.moved_plan (item : Item) :
    (item.plan ctx site).moved file method = item.plan ctx (site.moved file method) := by
  cases item with
  | text | name | part | mark | fail => rfl
  | indent => exact Plan.moved_indentation file method ctx
  | object e =>
      rw [plan_object, plan_object]
      split <;> simp

theorem Item.moved_read (items : List Item) :
    (read ctx site items).moved file method = read ctx (site.moved file method) items := by
  induction items with
  | nil => rfl
  | cons item rest ih => rw [read_cons, read_cons, Plan.moved_append, moved_plan, ih]

/-- Only a lambda written in place looks into the class file. -/
theorem items_of_none {e : Element} (h : e.inlining? = none) (file other : ClassFile) :
    items ctx file e = items ctx other e := by
  cases e
  case lambda receiver target =>
      simp only [items, lambdaItems]
      cases hform : lambdaForm target with
      | methodReference => rfl
      | constructorReference => rfl
      | inlined => simp [Element.inlining?, hform] at h
  all_goals rfl

/-! ## Plans -/

theorem moved_plan : (plan ctx site).moved file method =
    Item.read (innerContext ctx site) (site.moved file method)
      (items ctx site.classFile site.element) := by
  rw [plan_eq_items, Item.moved_read]

/-- The plan of an element that is no lambda written in place moves with the site. -/
theorem plan_moved (h : site.element.inlining? = none) :
    plan ctx (site.moved file method) = (plan ctx site).moved file method := by
  have hthere := plan_eq_of_none ctx (site.moved file method) h
  rw [hthere, plan_eq_of_none ctx site h, Item.moved_read]
  exact congrArg _ (items_of_none ctx h _ _)

end Java

end SourceRecovery
