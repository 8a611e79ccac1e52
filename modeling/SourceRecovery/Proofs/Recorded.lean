import SourceRecovery.Proofs.Header
import SourceRecovery.Proofs.Host

/-! # Plans seen from outside

A plan knows the rules only through the dispatcher it is run with. So what it does can be told from
outside: how it ends, what it adds to the sink, and which sites it gives to the dispatcher, in order
and with their levels. A plan that is put together does what its parts do one after the other, up to
the first that fails. This holds with any dispatcher, and not only with one made of rules.
-/

namespace SourceRecovery

/-! ## Dispatchers -/

namespace Dispatcher

/-- Every call with a sink that takes everything ends well. -/
def Succeeds (d : Dispatcher) : Prop :=
  ∀ ctx site (sink : Sink), sink.Open → (d ctx site sink).outcome = .ok

/-- Nothing is done to a sink but to write text to it. -/
structure Appends (d : Dispatcher) : Prop where
  keepsPolicy : d.KeepsPolicy
  onlyAppends : d.OnlyAppends

/-- A record of each call takes the place of the steps of the call. -/
def recording (d : Dispatcher) : Dispatcher := fun ctx site sink =>
  { d ctx site sink with steps := [.dispatch ctx.level site false 0] }

/-- The call writes this text and ends so. -/
structure Writes (d : Dispatcher) (ctx : Context) (site : Site) (sink : Sink) (text : String)
    (outcome : Outcome) : Prop where
  outcome : (d ctx site sink).outcome = outcome
  sink : (d ctx site sink).sink = sink.add text

/-- Called for these elements one after the other, with some text written before and some behind
each of them, the dispatcher renders them all and writes these texts. -/
inductive WritesEach (d : Dispatcher) (ctx : Context) (site : Site) (before behind : String) :
    Sink → List Element → List String → Prop
  | nil (sink : Sink) : WritesEach d ctx site before behind sink [] []
  | cons {sink : Sink} {e : Element} {text : String} {es : List Element} {texts : List String} :
      d.Writes ctx (site.focus e) (sink.add before) text .ok →
      WritesEach d ctx site before behind (sink.add (before ++ text ++ behind)) es texts →
      WritesEach d ctx site before behind sink (e :: es) (text :: texts)

variable {d : Dispatcher}

theorem Appends.exists_writes (h : d.Appends) (ctx : Context) (site : Site) (sink : Sink) :
    ∃ text outcome, d.Writes ctx site sink text outcome := by
  obtain ⟨text, htext⟩ := h.onlyAppends ctx site sink
  refine ⟨text, _, rfl, ?_⟩
  rw [Sink.add, ← htext, ← h.keepsPolicy ctx site sink]

/-- The dispatcher renders all of the elements, or those before one that it stops at. -/
theorem Appends.writesEach_or_stops (h : d.Appends) (ctx : Context) (site : Site)
    (before behind : String) (sink : Sink) (es : List Element) :
    (∃ texts, d.WritesEach ctx site before behind sink es texts) ∨
    ∃ first e rest texts text outcome, es = first ++ e :: rest ∧
      d.WritesEach ctx site before behind sink first texts ∧ outcome ≠ .ok ∧
      d.Writes ctx (site.focus e)
        (sink.add (String.join (texts.map (before ++ · ++ behind)) ++ before)) text outcome := by
  induction es generalizing sink with
  | nil => exact .inl ⟨[], .nil sink⟩
  | cons e es ih =>
      obtain ⟨text, outcome, hwrites⟩ := h.exists_writes ctx (site.focus e) (sink.add before)
      by_cases hok : outcome = .ok
      · rw [hok] at hwrites
        rcases ih (sink.add (before ++ text ++ behind)) with ⟨texts, hrest⟩ | hstops
        · exact .inl ⟨text :: texts, .cons hwrites hrest⟩
        · obtain ⟨first, stop, rest, texts, last, outcome, hsplit, hfirst, hne, hlast⟩ := hstops
          refine .inr ⟨e :: first, stop, rest, text :: texts, last, outcome, ?_,
            .cons hwrites hfirst, hne, ?_⟩
          · rw [hsplit, List.cons_append]
          · rw [Sink.add_add] at hlast
            rw [List.map_cons, String.join_cons, String.append_assoc]
            exact hlast
      · refine .inr ⟨[], e, es, [], text, outcome, rfl, .nil sink, hok, ?_⟩
        rw [List.map_nil, String.join_nil, String.empty_append]
        exact hwrites

theorem Succeeds.exists_writes (hsucceeds : d.Succeeds) (happends : d.Appends) (ctx : Context)
    (site : Site) {sink : Sink} (hopen : sink.Open) : ∃ text, d.Writes ctx site sink text .ok := by
  obtain ⟨text, outcome, hwrites⟩ := happends.exists_writes ctx site sink
  have hok : outcome = .ok := hwrites.outcome.symm.trans (hsucceeds ctx site sink hopen)
  exact ⟨text, hok ▸ hwrites⟩

theorem Succeeds.exists_writesEach (hsucceeds : d.Succeeds) (happends : d.Appends) (ctx : Context)
    (site : Site) (before behind : String) {sink : Sink} (hopen : sink.Open) (es : List Element) :
    ∃ texts, d.WritesEach ctx site before behind sink es texts := by
  rcases happends.writesEach_or_stops ctx site before behind sink es with hall | hstops
  · exact hall
  · obtain ⟨_, _, _, _, _, _, _, _, hne, hwrites⟩ := hstops
    exact absurd (hwrites.outcome.symm.trans (hsucceeds _ _ _ (hopen.add _))) hne

/-- A stand-in for rules does no more than write. -/
theorem outline_appends : outline.Appends := by
  have hstuck : Appends fun _ _ sink => ⟨.exhausted, sink, []⟩ :=
    ⟨fun _ _ _ => rfl, fun _ _ sink => .refl sink⟩
  exact ⟨fun _ _ sink => Plan.run_policy hstuck.keepsPolicy _ sink,
    fun _ _ sink => Plan.run_growsTo hstuck.onlyAppends _ sink⟩

theorem outline_succeeds : outline.Succeeds := by
  intro ctx site sink hopen
  rw [outline, Plan.text, Plan.run_write_of_open _ hopen]
  rfl

end Dispatcher

theorem Catalog.dispatch_appends (catalog : Catalog) (fallback : Rule) (depth : Nat) :
    (catalog.dispatch fallback depth).Appends :=
  ⟨catalog.dispatch_keepsPolicy fallback depth, catalog.dispatch_onlyAppends fallback depth⟩

/-! ## Plans -/

namespace Plan

/-- The sites that the plan gives to the dispatcher, with their levels, in order. The steps of a
dispatcher may tell anything, so they are recorded in their place. -/
def calls (p : Plan) (d : Dispatcher) (sink : Sink) : List (Nat × Site) :=
  (p.run d.recording sink).dispatches

/-- Run with this dispatcher into this sink, the plan ends so, leaves the sink like that and makes
these calls. -/
structure Does (p : Plan) (d : Dispatcher) (sink : Sink) (outcome : Outcome) (left : Sink)
    (calls : List (Nat × Site)) : Prop where
  outcome : (p.run d sink).outcome = outcome
  calls : p.calls d sink = calls
  sink : (p.run d sink).sink = left

/-- To record the calls changes nothing else. -/
theorem run_recording (d : Dispatcher) (p : Plan) (sink : Sink) :
    (p.run d.recording sink).EndsAs (p.run d sink) := by
  induction p generalizing sink with
  | done => exact .refl _
  | fail e => exact .refl _
  | write piece next ih =>
      simp only [run]
      split
      · exact ⟨(ih _).outcome, (ih _).sink⟩
      · exact .refl _
  | mark m next ih => exact ⟨(ih sink).outcome, (ih sink).sink⟩
  | delegate ctx site next ih =>
      -- Only the steps of the call differ, and no plan looks at steps.
      have hcall : (d.recording ctx site sink).EndsAs (d ctx site sink) := ⟨rfl, rfl⟩
      exact hcall.andThen ih
  | attempt body next ihbody ihnext =>
      simp only [run]
      rw [(ihbody sink).sink]
      exact (ihbody sink).resume fun result => ihnext result _
  | capture body next ihbody ihnext =>
      simp only [run]
      rw [(ihbody {}).sink]
      have hbody : Run.EndsAs { body.run d.recording {} with sink := sink }
          { body.run d {} with sink := sink } := ⟨(ihbody {}).outcome, rfl⟩
      exact hbody.resume fun result => ihnext result _ sink

namespace Does

variable {d : Dispatcher} {p q : Plan} {sink mid left : Sink} {outcome : Outcome}
  {first second calls : List (Nat × Site)}

theorem append (hp : p.Does d sink .ok mid first) (hq : q.Does d mid outcome left second) :
    (p ++ q).Does d sink outcome left (first ++ second) := by
  have hsame := run_recording d p sink
  have hok : (p.run d.recording sink).outcome = .ok := hsame.outcome.trans hp.outcome
  have hmid : (p.run d.recording sink).sink = mid := hsame.sink.trans hp.sink
  refine ⟨?_, ?_, ?_⟩
  · rw [run_append, Run.andThen_of_ok hp.outcome, Run.after_outcome, hp.sink, hq.outcome]
  · rw [Plan.calls, run_append, Run.andThen_of_ok hok, Run.dispatches_after, hmid, ← hp.calls,
      ← hq.calls]
    rfl
  · rw [run_append, Run.andThen_of_ok hp.outcome, Run.after_sink, hp.sink, hq.sink]

/-- What stands behind a plan that does not end well is not come to. -/
theorem append_of_stopped (hp : p.Does d sink outcome left calls) (hne : outcome ≠ .ok) (q : Plan) :
    (p ++ q).Does d sink outcome left calls := by
  have hstopped : (p.run d sink).outcome ≠ .ok := hp.outcome ▸ hne
  have hrecorded : (p.run d.recording sink).outcome ≠ .ok :=
    (run_recording d p sink).outcome ▸ hstopped
  refine ⟨?_, ?_, ?_⟩
  · rw [run_append, Run.andThen_of_ne_ok hstopped, hp.outcome]
  · rw [Plan.calls, run_append, Run.andThen_of_ne_ok hrecorded]
    exact hp.calls
  · rw [run_append, Run.andThen_of_ne_ok hstopped, hp.sink]

theorem mark (hp : p.Does d sink outcome left calls) (m : Mark) :
    (Plan.mark m p).Does d sink outcome left calls := ⟨hp.outcome, hp.calls, hp.sink⟩

theorem done (d : Dispatcher) (sink : Sink) : Plan.done.Does d sink .ok sink [] := ⟨rfl, rfl, rfl⟩

theorem text (d : Dispatcher) (hopen : sink.Open) (piece : String) :
    (Plan.text piece).Does d sink .ok (sink.add piece) [] := by
  have hrun (d : Dispatcher) := run_write_of_open d hopen piece .done
  refine ⟨?_, ?_, ?_⟩
  · rw [Plan.text, hrun]
    rfl
  · rw [Plan.calls, Plan.text, hrun]
    rfl
  · rw [Plan.text, hrun]
    rfl

theorem texts (d : Dispatcher) (hopen : sink.Open) (pieces : List String) :
    (Plan.texts pieces).Does d sink .ok (sink.add (String.join pieces)) [] := by
  induction pieces generalizing sink with
  | nil =>
      rw [String.join_nil, Sink.add_empty]
      exact done d sink
  | cons piece rest ih =>
      have hrest := (text d hopen piece).append (ih (hopen.add piece))
      rw [Sink.add_add, ← String.join_cons] at hrest
      exact hrest

theorem generate {ctx : Context} {site : Site} {e : Element} {text : String}
    (h : d.Writes ctx (site.focus e) sink text outcome) :
    (ctx.generate site e).Does d sink outcome (sink.add text) [(ctx.level, site.focus e)] := by
  have hends := run_generate_endsAs d ctx site e sink
  refine ⟨hends.outcome.trans h.outcome, ?_, hends.sink.trans h.sink⟩
  rw [Plan.calls, Context.generate, run]
  unfold Run.andThen
  split <;> rfl

end Does

/-- A plan that never fails of itself ends well if whatever it hands back does. -/
theorem NeverFails.run_ok {p : Plan} (h : p.NeverFails) {d : Dispatcher} (hsucceeds : d.Succeeds)
    (hkeeps : d.KeepsPolicy) {sink : Sink} (hopen : sink.Open) :
    (p.run d sink).outcome = .ok := by
  induction h generalizing sink with
  | done => rfl
  | write piece _ ih =>
      rw [run_write_of_open d hopen]
      exact ih (hopen.add piece)
  | mark m _ ih => exact ih hopen
  | delegate ctx site _ ih =>
      rw [run, Run.andThen_of_ok (hsucceeds ctx site sink hopen)]
      exact ih (hopen.of_policy_eq (hkeeps ctx site sink))

theorem Breaks.does {p : Plan} {e : GenerationError} {pieces : List String}
    (h : p.Breaks e pieces) (d : Dispatcher) {sink : Sink} (hopen : sink.Open) :
    p.Does d sink (.error e) (sink.add (String.join pieces)) [] :=
  ⟨(h.run_endsAs d hopen).outcome, (h.run d.recording hopen).2, (h.run_endsAs d hopen).sink⟩

end Plan

end SourceRecovery
