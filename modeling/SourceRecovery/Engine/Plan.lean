import SourceRecovery.Engine.Context
import SourceRecovery.Site

/-!
# Plans

What a rule does, as data: pieces of text to write, sites to hand back to the rules, and how it
ends. A plan says nothing of the sink it is written to, nor of the rules that render the sites it
hands back, so one plan can be run against any of them.

Plans are put together with `++`. A plan that fails ends there: what is appended to it is never
reached.
-/

namespace SourceRecovery

/-- Something a rule makes known besides its text. -/
inductive Mark where
  /-- The decompiler is asked for the body of a method. -/
  | decompile (method : Method)
  /-- The class file of a type is asked for. -/
  | resolveClass (type : JavaType)
  /-- An accessor has been decompiled. -/
  | accessor (method : String) (className : String) (statements : Nat)
  /-- The body of a lambda has been decompiled and is about to be written. -/
  | inlining (method : String) (statements nodes captured : Nat)
  /-- A remark for the log of the host. -/
  | note (text : String)

inductive Plan where
  | done
  | fail (error : GenerationError)
  | write (piece : String) (next : Plan)
  | mark (mark : Mark) (next : Plan)
  /-- Hands a site back to the rules and goes on once they have rendered it. -/
  | delegate (ctx : Context) (site : Site) (next : Plan)
  /-- Runs `body` into the same sink and goes on with what became of it. -/
  | attempt (body : Plan) (next : Except GenerationError Unit → Plan)
  /-- Runs `body` into a sink of its own and goes on with what became of it and its text. -/
  | capture (body : Plan) (next : Except GenerationError Unit → String → Plan)

namespace Plan

def andThen : Plan → Plan → Plan
  | done, q => q
  | fail e, _ => fail e
  | write piece next, q => write piece (next.andThen q)
  | mark m next, q => mark m (next.andThen q)
  | delegate ctx site next, q => delegate ctx site (next.andThen q)
  | attempt body next, q => attempt body fun r => (next r).andThen q
  | capture body next, q => capture body fun r text => (next r text).andThen q

instance : Append Plan := ⟨andThen⟩

def text (piece : String) : Plan := write piece done

def unsupported (description : String) : Plan := fail (.unsupportedElement description)

def concat : List Plan → Plan
  | [] => done
  | p :: rest => p ++ concat rest

def texts (pieces : List String) : Plan := concat (pieces.map text)

def separated (separator : String) : List Plan → Plan
  | [] => done
  | [p] => p
  | p :: rest => p ++ text separator ++ separated separator rest

@[simp] theorem done_append (q : Plan) : done ++ q = q := rfl

@[simp] theorem fail_append (e : GenerationError) (q : Plan) : fail e ++ q = fail e := rfl

@[simp] theorem write_append (piece : String) (p q : Plan) :
    write piece p ++ q = write piece (p ++ q) := rfl

@[simp] theorem mark_append (m : Mark) (p q : Plan) : mark m p ++ q = mark m (p ++ q) := rfl

@[simp] theorem delegate_append (ctx : Context) (site : Site) (p q : Plan) :
    delegate ctx site p ++ q = delegate ctx site (p ++ q) := rfl

@[simp] theorem attempt_append (body : Plan) (next : Except GenerationError Unit → Plan)
    (q : Plan) :
    attempt body next ++ q = attempt body fun r => next r ++ q := rfl

@[simp] theorem capture_append (body : Plan)
    (next : Except GenerationError Unit → String → Plan) (q : Plan) :
    capture body next ++ q = capture body fun r text => next r text ++ q := rfl

@[simp] theorem append_done (p : Plan) : p ++ done = p := by
  induction p with
  | done => rfl
  | fail e => rfl
  | write piece next ih => rw [write_append, ih]
  | mark m next ih => rw [mark_append, ih]
  | delegate ctx site next ih => rw [delegate_append, ih]
  | attempt body next _ ih => rw [attempt_append]; exact congrArg _ (funext ih)
  | capture body next _ ih =>
    rw [capture_append]
    exact congrArg _ (funext fun r => funext (ih r))

theorem append_assoc (p q r : Plan) : p ++ q ++ r = p ++ (q ++ r) := by
  induction p with
  | done => rfl
  | fail e => rfl
  | write piece next ih => simp only [write_append, ih]
  | mark m next ih => simp only [mark_append, ih]
  | delegate ctx site next ih => simp only [delegate_append, ih]
  | attempt body next _ ih => simp only [attempt_append, ih]
  | capture body next _ ih => simp only [capture_append, ih]

end Plan

namespace Context

/-- Hands another element of the same method back to the rules. -/
def generate (ctx : Context) (site : Site) (element : Element) : Plan :=
  .delegate ctx (site.focus element) .done

def generateList (ctx : Context) (site : Site) (elements : List Element) : Plan :=
  .separated ", " (elements.map (ctx.generate site))

def indentation (ctx : Context) : Plan := .concat (List.replicate ctx.level (.text indentUnit))

end Context

end SourceRecovery
