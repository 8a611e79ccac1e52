import SourceRecovery.Engine.Plan

/-!
# Running a plan

A plan is run into a sink, with a dispatcher that renders the sites it hands back. The run records
what happened in order, so that statements about a run are statements about a list.
-/

namespace SourceRecovery

inductive Admission where
  | whole
  /-- The piece is refused; this much of it was taken before. -/
  | refused (kept : String)

/-- Where text is written to. The policy looks at the text so far and the next piece. -/
structure Sink where
  text : String := ""
  policy : String → String → Admission := fun _ _ => .whole

namespace Sink

/-- Takes the first `limit` characters and refuses the next one. -/
def limited (limit : Nat) : Sink where
  policy text piece :=
    let room := limit - text.length
    if piece.length ≤ room then .whole else .refused (String.ofList (piece.toList.take room))

/-- The sink after a piece of text, and whether it took the piece. -/
def put (sink : Sink) (piece : String) : Sink × Bool :=
  match sink.policy sink.text piece with
  | .whole => ({ sink with text := sink.text ++ piece }, true)
  | .refused kept => ({ sink with text := sink.text ++ kept }, false)

end Sink

inductive Step where
  /-- A site was given to the rules: at which level, whether a registered rule was found for it,
  and how many advices surround it. -/
  | dispatch (level : Nat) (site : Site) (ruled : Bool) (advices : Nat)
  /-- A piece of text was offered to the sink. -/
  | write (piece : String)
  | mark (mark : Mark)

inductive Outcome where
  | ok
  | error (e : GenerationError)
  /-- The rules handed sites back more deeply than the run allows. -/
  | exhausted
deriving DecidableEq

structure Run where
  outcome : Outcome
  sink : Sink
  steps : List Step

namespace Run

def after (r : Run) (steps : List Step) : Run := { r with steps := steps ++ r.steps }

/-- Goes on from a run that ended well; any other run ends there. -/
def andThen (r : Run) (next : Sink → Run) : Run :=
  match r.outcome with
  | .ok => (next r.sink).after r.steps
  | _ => r

/-- Goes on from a run that ended well or failed. -/
def resume (r : Run) (next : Except GenerationError Unit → Run) : Run :=
  match r.outcome with
  | .ok => (next (.ok ())).after r.steps
  | .error e => (next (.error e)).after r.steps
  | .exhausted => r

end Run

abbrev Dispatcher := Context → Site → Sink → Run

namespace Plan

def run (dispatcher : Dispatcher) : Plan → Sink → Run
  | done, sink => ⟨.ok, sink, []⟩
  | fail e, sink => ⟨.error e, sink, []⟩
  | write piece next, sink =>
    match sink.put piece with
    | (sink, true) => (next.run dispatcher sink).after [.write piece]
    | (sink, false) => ⟨.error .write, sink, [.write piece]⟩
  | mark m next, sink => (next.run dispatcher sink).after [.mark m]
  | delegate ctx site next, sink => (dispatcher ctx site sink).andThen (next.run dispatcher)
  | attempt body next, sink =>
    let r := body.run dispatcher sink
    r.resume fun result => (next result).run dispatcher r.sink
  | capture body next, sink =>
    let r := body.run dispatcher {}
    { r with sink := sink }.resume fun result => (next result r.sink.text).run dispatcher sink

end Plan

namespace Run

@[simp] theorem after_nil (r : Run) : r.after [] = r := rfl

@[simp] theorem after_after (r : Run) (a b : List Step) :
    (r.after a).after b = r.after (b ++ a) := by
  simp [after, List.append_assoc]

@[simp] theorem after_outcome (r : Run) (steps : List Step) : (r.after steps).outcome = r.outcome :=
  rfl

@[simp] theorem after_sink (r : Run) (steps : List Step) : (r.after steps).sink = r.sink := rfl

theorem after_andThen (r : Run) (steps : List Step) (next : Sink → Run) :
    (r.after steps).andThen next = (r.andThen next).after steps := by
  cases h : r.outcome <;> simp [andThen, h, after]

theorem andThen_andThen (r : Run) (f g : Sink → Run) :
    (r.andThen f).andThen g = r.andThen fun sink => (f sink).andThen g := by
  cases h : r.outcome with
  | ok => simp only [andThen, h]; exact after_andThen _ _ _
  | error e => simp only [andThen, h]
  | exhausted => simp only [andThen, h]

theorem resume_andThen (r : Run) (f : Except GenerationError Unit → Run) (g : Sink → Run) :
    (r.resume f).andThen g = r.resume fun result => (f result).andThen g := by
  cases h : r.outcome with
  | ok => simp only [resume, h]; exact after_andThen _ _ _
  | error e => simp only [resume, h]; exact after_andThen _ _ _
  | exhausted => simp only [resume, andThen, h]

end Run

namespace Plan

@[simp] theorem run_done (dispatcher : Dispatcher) (sink : Sink) :
    done.run dispatcher sink = ⟨.ok, sink, []⟩ := rfl

@[simp] theorem run_fail (dispatcher : Dispatcher) (e : GenerationError) (sink : Sink) :
    (fail e).run dispatcher sink = ⟨.error e, sink, []⟩ := rfl

/-- Running one plan after the other is running the first and going on with the second. -/
theorem run_append (dispatcher : Dispatcher) (p q : Plan) (sink : Sink) :
    (p ++ q).run dispatcher sink = (p.run dispatcher sink).andThen (q.run dispatcher) := by
  induction p generalizing sink with
  | done => simp [run, Run.andThen]
  | fail e => simp [run, Run.andThen]
  | write piece next ih =>
    rw [write_append]
    simp only [run]
    split
    · rw [ih, Run.after_andThen]
    · rfl
  | mark m next ih => simp only [mark_append, run, ih, Run.after_andThen]
  | delegate ctx site next ih =>
    simp only [delegate_append, run, Run.andThen_andThen, funext ih]
  | attempt body next _ ih => simp only [attempt_append, run, Run.resume_andThen, ih]
  | capture body next _ ih => simp only [capture_append, run, Run.resume_andThen, ih]

end Plan

end SourceRecovery
