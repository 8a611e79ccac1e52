import SourceRecovery.Generator
import SourceRecovery.Proofs.Delegation

/-! # Sinks that refuse text

A sink may refuse a piece of text after a look at what it holds. Under the Java rules a run into
such a sink is the run into a sink that takes everything, redone up to the first piece refused:
every write is checked at once, and nothing follows a failed one.
-/

namespace SourceRecovery

/-! ## Sinks -/

namespace Sink

/-- Takes every piece. -/
def Open (sink : Sink) : Prop := ∀ text piece, sink.policy text piece = .whole

/-- Puts every piece to a test and keeps nothing of a piece that fails it. -/
def gated (test : String → String → Bool) (text : String) : Sink where
  text
  policy text piece := if test text piece then .whole else .refused ""

theorem put_of_open {sink : Sink} (h : sink.Open) (piece : String) :
    sink.put piece = ({ sink with text := sink.text ++ piece }, true) := by
  rw [put, h sink.text piece]

theorem put_policy (sink : Sink) (piece : String) : (sink.put piece).1.policy = sink.policy := by
  unfold put
  split <;> rfl

theorem Open.of_policy_eq {sink other : Sink} (h : sink.Open) (heq : other.policy = sink.policy) :
    other.Open := by
  intro text piece
  rw [heq]
  exact h text piece

variable {test : String → String → Bool} {text piece : String}

theorem put_gated_of_taken (h : test text piece = true) :
    (gated test text).put piece = (gated test (text ++ piece), true) := by
  simp [put, gated, h]

theorem put_gated_of_refused (h : test text piece = false) :
    (gated test text).put piece = (gated test text, false) := by
  simp [put, gated, h]

end Sink

/-! ## The policy of a sink stays -/

def Dispatcher.KeepsPolicy (dispatcher : Dispatcher) : Prop :=
  ∀ ctx site sink, (dispatcher ctx site sink).sink.policy = sink.policy

theorem Run.andThen_policy {r : Run} {next : Sink → Run}
    (hnext : (next r.sink).sink.policy = r.sink.policy) :
    (r.andThen next).sink.policy = r.sink.policy := by
  unfold andThen
  split
  · exact hnext
  · rfl

theorem Run.resume_policy {r : Run} {next : Except GenerationError Unit → Run}
    (hnext : ∀ result, (next result).sink.policy = r.sink.policy) :
    (r.resume next).sink.policy = r.sink.policy := by
  unfold resume
  split
  · exact hnext _
  · exact hnext _
  · rfl

theorem Plan.run_policy {dispatcher : Dispatcher} (h : dispatcher.KeepsPolicy) (p : Plan)
    (sink : Sink) : (p.run dispatcher sink).sink.policy = sink.policy := by
  induction p generalizing sink with
  | done => rfl
  | fail e => rfl
  | write piece next ih =>
      have hput := sink.put_policy piece
      simp only [run]
      split
      · next after heq =>
          rw [heq] at hput
          rw [Run.after_sink, ih, hput]
      · next after heq =>
          rw [heq] at hput
          exact hput
  | mark m next ih => exact ih sink
  | delegate ctx site next ih =>
      have hsite := h ctx site sink
      rw [run, Run.andThen_policy (ih _), hsite]
  | attempt body next ihbody ihnext =>
      have hbody := ihbody sink
      rw [run, Run.resume_policy fun result => ihnext result _, hbody]
  | capture body next _ ihnext =>
      rw [run]
      exact Run.resume_policy fun result => ihnext result _ sink

theorem Catalog.dispatch_keepsPolicy (catalog : Catalog) (fallback : Rule) (depth : Nat) :
    (catalog.dispatch fallback depth).KeepsPolicy := by
  induction depth with
  | zero => exact fun _ _ _ => rfl
  | succ depth ih =>
      intro ctx site sink
      rw [dispatch, Run.after_sink]
      exact Plan.run_policy ih _ sink

/-! ## Pieces offered in turn -/

def Step.piece? : Step → Option String
  | .write piece => some piece
  | .dispatch .. => none
  | .mark _ => none

/-- The pieces of text offered to the sink in a run, in order. -/
def Run.pieces (r : Run) : List String := r.steps.filterMap Step.piece?

/-- Whether all pieces pass the test, each offered after those before it were taken. -/
def Sink.takes (test : String → String → Bool) : String → List String → Bool
  | _, [] => true
  | text, piece :: rest => test text piece && takes test (text ++ piece) rest

/-- Among pieces that are not all taken there is a first that is refused. -/
theorem Sink.exists_first_refused {test : String → String → Bool} {text : String}
    {pieces : List String} (h : takes test text pieces = false) :
    ∃ before piece later, pieces = before ++ piece :: later ∧ takes test text before = true ∧
      test (text ++ String.join before) piece = false := by
  induction pieces generalizing text with
  | nil => exact Bool.noConfusion h
  | cons first rest ih =>
      cases hfirst : test text first with
      | false =>
          refine ⟨[], first, rest, rfl, rfl, ?_⟩
          rw [String.join_nil, String.append_empty, hfirst]
      | true =>
          have hrest : takes test (text ++ first) rest = false := by
            rw [takes, hfirst, Bool.true_and] at h
            exact h
          obtain ⟨before, piece, later, hsplit, htaken, hrefused⟩ := ih hrest
          refine ⟨first :: before, piece, later, ?_, ?_, ?_⟩
          · rw [hsplit, List.cons_append]
          · rw [takes, hfirst, Bool.true_and, htaken]
          · rw [String.join_cons, ← String.append_assoc, hrefused]

/-! ## Runs redone -/

/-- The steps up to the first piece that fails the test, where the run then ends. -/
def Run.redo (test : String → String → Bool) (text : String) (outcome : Outcome) : List Step → Run
  | [] => ⟨outcome, .gated test text, []⟩
  | step :: rest =>
      if step.piece?.all (test text) then
        (redo test (text ++ step.piece?.getD "") outcome rest).after [step]
      else ⟨.error .write, .gated test text, [step]⟩

/-- The run redone into a sink that refuses pieces. -/
def Run.through (r : Run) (test : String → String → Bool) (text : String) : Run :=
  redo test text r.outcome r.steps

namespace Run

theorem andThen_of_ok {r : Run} (h : r.outcome = .ok) (next : Sink → Run) :
    r.andThen next = (next r.sink).after r.steps := by
  rw [andThen, h]

theorem andThen_of_ne_ok {r : Run} (h : r.outcome ≠ .ok) (next : Sink → Run) :
    r.andThen next = r := by
  unfold andThen
  split
  · next hok => exact absurd hok h
  · rfl

variable (test : String → String → Bool)

theorem redo_sink (text : String) (outcome : Outcome) (steps : List Step) :
    ∃ held, (redo test text outcome steps).sink = .gated test held := by
  induction steps generalizing text with
  | nil => exact ⟨text, rfl⟩
  | cons step rest ih =>
      rw [redo]
      split
      · exact ih _
      · exact ⟨text, rfl⟩

/-- Redoing steps changes the outcome to a failed write at most. -/
theorem redo_outcome (text : String) (outcome : Outcome) (steps : List Step) :
    (redo test text outcome steps).outcome = outcome ∨
      (redo test text outcome steps).outcome = .error .write := by
  induction steps generalizing text with
  | nil => exact .inl rfl
  | cons step rest ih =>
      rw [redo]
      split
      · exact ih _
      · exact .inr rfl

theorem redo_append (text : String) (outcome : Outcome) (first second : List Step) :
    redo test text outcome (first ++ second) =
      (redo test text .ok first).andThen fun sink => redo test sink.text outcome second := by
  induction first generalizing text with
  | nil => rfl
  | cons step rest ih =>
      rw [List.cons_append, redo, redo]
      split
      · rw [ih, after_andThen]
      · rfl

/-- Steps that write nothing are redone as they are. -/
theorem through_after {step : Step} (h : step.piece? = none) (r : Run) (text : String) :
    (r.after [step]).through test text = (r.through test text).after [step] := by
  show redo test text r.outcome (step :: r.steps) = (redo test text r.outcome r.steps).after [step]
  rw [redo, h, Option.getD_none, String.append_empty]
  rfl

theorem through_andThen {r : Run} {next gatedNext : Sink → Run}
    (hnext : r.outcome = .ok →
      ∀ held, gatedNext (.gated test held) = (next r.sink).through test held) (text : String) :
    (r.andThen next).through test text = (r.through test text).andThen gatedNext := by
  by_cases hr : r.outcome = .ok
  · have hwhole : (r.andThen next).through test text =
        redo test text (next r.sink).outcome (r.steps ++ (next r.sink).steps) := by
      rw [andThen_of_ok hr]
      rfl
    have hfirst : r.through test text = redo test text .ok r.steps := by rw [through, hr]
    rw [hwhole, redo_append, hfirst]
    apply andThen_congr
    intro _
    obtain ⟨held, hheld⟩ := redo_sink test text .ok r.steps
    rw [hheld, hnext hr]
    rfl
  · have hstays : (r.through test text).outcome ≠ .ok := by
      rcases redo_outcome test text r.outcome r.steps with hout | hout
      · rwa [through, hout]
      · rw [through, hout]
        exact Outcome.noConfusion
    rw [andThen_of_ne_ok hr, andThen_of_ne_ok hstays]

/-- All pieces are taken: nothing changes but the sink. -/
theorem redo_of_takes {text : String} {steps : List Step}
    (h : Sink.takes test text (steps.filterMap Step.piece?) = true) (outcome : Outcome) :
    redo test text outcome steps =
      ⟨outcome, .gated test (text ++ String.join (steps.filterMap Step.piece?)), steps⟩ := by
  induction steps generalizing text with
  | nil => rw [redo, List.filterMap_nil, String.join_nil, String.append_empty]
  | cons step rest ih =>
      cases hpiece : step.piece? with
      | none =>
          rw [List.filterMap_cons_none hpiece] at h ⊢
          rw [redo, hpiece, Option.getD_none, String.append_empty, ih h]
          rfl
      | some piece =>
          rw [List.filterMap_cons_some hpiece, Sink.takes, Bool.and_eq_true] at h
          rw [redo, hpiece, Option.all_some, if_pos h.1, Option.getD_some, ih h.2,
            List.filterMap_cons_some hpiece, String.join_cons, ← String.append_assoc]
          rfl

/-- A piece is refused: the run ends with it. -/
theorem redo_of_refused {text piece : String} {before later : List String} {steps : List Step}
    (hsplit : steps.filterMap Step.piece? = before ++ piece :: later)
    (htaken : Sink.takes test text before = true)
    (hrefused : test (text ++ String.join before) piece = false) (outcome : Outcome) :
    ∃ done, done <+: steps ∧ done.filterMap Step.piece? = before ++ [piece] ∧
      redo test text outcome steps =
        ⟨.error .write, .gated test (text ++ String.join before), done⟩ := by
  induction steps generalizing text before with
  | nil => simp at hsplit
  | cons step rest ih =>
      cases hpiece : step.piece? with
      | none =>
          rw [List.filterMap_cons_none hpiece] at hsplit
          obtain ⟨done, hprefix, hpieces, hredo⟩ := ih hsplit htaken hrefused
          refine ⟨step :: done, List.cons_prefix_cons.mpr ⟨rfl, hprefix⟩, ?_, ?_⟩
          · rw [List.filterMap_cons_none hpiece, hpieces]
          · rw [redo, hpiece, Option.getD_none, String.append_empty, hredo]
            rfl
      | some first =>
          rw [List.filterMap_cons_some hpiece] at hsplit
          cases before with
          | nil =>
              obtain ⟨hfirst, _⟩ := List.cons.inj hsplit
              rw [String.join_nil, String.append_empty] at hrefused ⊢
              refine ⟨[step], List.cons_prefix_cons.mpr ⟨rfl, List.nil_prefix⟩, ?_, ?_⟩
              · rw [List.filterMap_cons_some hpiece, hfirst]
                rfl
              · rw [redo, hpiece, Option.all_some, hfirst, hrefused]
                rfl
          | cons second before =>
              obtain ⟨hfirst, hrest⟩ := List.cons.inj hsplit
              rw [← hfirst, Sink.takes, Bool.and_eq_true] at htaken
              rw [← hfirst, String.join_cons, ← String.append_assoc] at hrefused ⊢
              obtain ⟨done, hprefix, hpieces, hredo⟩ := ih hrest htaken.2 hrefused
              refine ⟨step :: done, List.cons_prefix_cons.mpr ⟨rfl, hprefix⟩, ?_, ?_⟩
              · rw [List.filterMap_cons_some hpiece, hpieces, List.cons_append]
              · rw [redo, hpiece, Option.all_some, if_pos htaken.1, Option.getD_some, hredo]
                rfl

end Run

/-! ## Plans and dispatch -/

theorem Plan.run_write_of_open (dispatcher : Dispatcher) {sink : Sink} (h : sink.Open)
    (piece : String) (next : Plan) :
    (write piece next).run dispatcher sink =
      (next.run dispatcher { sink with text := sink.text ++ piece }).after [.write piece] := by
  simp only [run, Sink.put_of_open h]

/-- A sink that refuses pieces only makes runs end early. -/
def Dispatcher.Gates (dispatcher : Dispatcher) (test : String → String → Bool) : Prop :=
  ∀ ctx site sink, sink.Open → ∀ text,
    dispatcher ctx site (.gated test text) = (dispatcher ctx site sink).through test text

theorem Plan.Hands.run_gated {p : Plan} {sites : List (Context × Site)} (h : p.Hands sites)
    {dispatcher : Dispatcher} (hkeeps : dispatcher.KeepsPolicy) {test : String → String → Bool}
    (hgates : dispatcher.Gates test) {sink : Sink} (hopen : sink.Open) (text : String) :
    p.run dispatcher (.gated test text) = (p.run dispatcher sink).through test text := by
  induction h generalizing sink text with
  | done => rfl
  | fail e => rfl
  | write piece _ ih =>
      rw [Plan.run_write_of_open dispatcher hopen]
      cases htest : test text piece with
      | true =>
          have hafter : Sink.Open { sink with text := sink.text ++ piece } := hopen
          simp only [Plan.run, Sink.put_gated_of_taken htest, ih hafter (text ++ piece)]
          show _ = Run.redo test text _ (.write piece :: _)
          rw [Run.redo]
          simp only [Step.piece?, Option.all_some, htest, Option.getD_some]
          rfl
      | false =>
          simp only [Plan.run, Sink.put_gated_of_refused htest]
          show _ = Run.redo test text _ (.write piece :: _)
          rw [Run.redo]
          simp only [Step.piece?, Option.all_some, htest]
          rfl
  | mark m _ ih =>
      rw [Plan.run, Plan.run, ih hopen, Run.through_after test rfl]
  | delegate ctx site _ ih =>
      rw [Plan.run, Plan.run, hgates ctx site sink hopen text]
      refine (Run.through_andThen test (fun _ held => ?_) text).symm
      exact ih (hopen.of_policy_eq (hkeeps ctx site sink)) held
  | skip _ _ ih => exact ih hopen text

theorem Java.dispatch_gates (test : String → String → Bool) (depth : Nat) :
    (catalog.dispatch builtin depth).Gates test := by
  induction depth with
  | zero => exact fun _ _ _ _ _ => rfl
  | succ depth ih =>
      intro ctx site sink hopen text
      obtain ⟨next, _, hrenders⟩ := renders_plan ctx site
      obtain ⟨sites, hands, _⟩ := hrenders.exists_hands
      have hkeeps := catalog.dispatch_keepsPolicy builtin depth
      rw [dispatch_succ, dispatch_succ, hands.run_gated hkeeps ih hopen,
        Run.through_after test rfl]

/-! ## Stopping at the first refusal -/

/-- How a run into a sink that refuses pieces, and holds `start` before, follows from the same run
into an empty sink that takes everything. -/
structure StopsAtRefusal (test : String → String → Bool) (start : String) (unlimited gated : Run) :
    Prop where
  written : unlimited.sink.text = String.join unlimited.pieces
  accepted : Sink.takes test start unlimited.pieces = true →
    gated.outcome = unlimited.outcome ∧
    gated.sink.text = start ++ String.join unlimited.pieces ∧ gated.steps = unlimited.steps
  refused : ∀ before piece later, unlimited.pieces = before ++ piece :: later →
    Sink.takes test start before = true → test (start ++ String.join before) piece = false →
    gated.outcome = .error .write ∧
    gated.sink.text = start ++ String.join before ∧ gated.pieces = before ++ [piece]
  decided : Sink.takes test start unlimited.pieces = true ∨
    ∃ before piece later, unlimited.pieces = before ++ piece :: later ∧
      Sink.takes test start before = true ∧ test (start ++ String.join before) piece = false
  stepsPrefix : gated.steps <+: unlimited.steps
  textPrefix : ∃ rest, start ++ unlimited.sink.text = gated.sink.text ++ rest

theorem Run.through_stopsAtRefusal {r : Run} (hwritten : r.sink.text = String.join r.pieces)
    (test : String → String → Bool) (start : String) :
    StopsAtRefusal test start r (r.through test start) := by
  have haccepted (h : Sink.takes test start r.pieces = true) :
      r.through test start =
        ⟨r.outcome, .gated test (start ++ String.join r.pieces), r.steps⟩ :=
    redo_of_takes test h r.outcome
  have hrefused (before : List String) (piece : String) (later : List String)
      (hsplit : r.pieces = before ++ piece :: later)
      (htaken : Sink.takes test start before = true)
      (hpiece : test (start ++ String.join before) piece = false) :=
    redo_of_refused test hsplit htaken hpiece r.outcome
  have hdecided : Sink.takes test start r.pieces = true ∨
      ∃ before piece later, r.pieces = before ++ piece :: later ∧
        Sink.takes test start before = true ∧
          test (start ++ String.join before) piece = false := by
    cases h : Sink.takes test start r.pieces with
    | true => exact .inl rfl
    | false => exact .inr (Sink.exists_first_refused h)
  refine ⟨hwritten, ?_, ?_, hdecided, ?_, ?_⟩
  · intro h
    rw [haccepted h]
    exact ⟨rfl, rfl, rfl⟩
  · intro before piece later hsplit htaken hpiece
    obtain ⟨done, _, hpieces, hredo⟩ := hrefused before piece later hsplit htaken hpiece
    rw [through, hredo]
    exact ⟨rfl, rfl, hpieces⟩
  · rcases hdecided with h | ⟨before, piece, later, hsplit, htaken, hpiece⟩
    · have hsteps : (r.through test start).steps = r.steps := by rw [haccepted h]
      exact ⟨[], by rw [hsteps, List.append_nil]⟩
    · obtain ⟨done, hprefix, _, hredo⟩ := hrefused before piece later hsplit htaken hpiece
      rw [through, hredo]
      exact hprefix
  · rw [hwritten]
    rcases hdecided with h | ⟨before, piece, later, hsplit, htaken, hpiece⟩
    · rw [haccepted h]
      exact ⟨"", String.append_empty.symm⟩
    · obtain ⟨done, _, _, hredo⟩ := hrefused before piece later hsplit htaken hpiece
      rw [through, hredo, hsplit, String.join_append, ← String.append_assoc]
      exact ⟨_, rfl⟩

theorem Sink.takes_of_open (text : String) (pieces : List String) :
    takes (fun _ _ => true) text pieces = true := by
  induction pieces generalizing text with
  | nil => rfl
  | cons piece rest ih => rw [takes, Bool.true_and, ih]

namespace Java

/-- The text of a run into an empty sink is made of the pieces written. -/
theorem dispatch_written (depth : Nat) (ctx : Context) (site : Site) :
    (catalog.dispatch builtin depth ctx site {}).sink.text =
      String.join (catalog.dispatch builtin depth ctx site {}).pieces := by
  have hopen : Sink.Open {} := fun _ _ => rfl
  -- The empty sink is one whose test every piece passes.
  have hredo : catalog.dispatch builtin depth ctx site {} =
      (catalog.dispatch builtin depth ctx site {}).through (fun _ _ => true) "" :=
    dispatch_gates (fun _ _ => true) depth ctx site {} hopen ""
  have htaken := Run.redo_of_takes (fun _ _ => true)
    (Sink.takes_of_open "" (catalog.dispatch builtin depth ctx site {}).pieces)
    (catalog.dispatch builtin depth ctx site {}).outcome
  rw [Run.through, htaken] at hredo
  calc (catalog.dispatch builtin depth ctx site {}).sink.text
      = "" ++ String.join (catalog.dispatch builtin depth ctx site {}).pieces :=
        congrArg (·.sink.text) hredo
    _ = String.join (catalog.dispatch builtin depth ctx site {}).pieces := String.empty_append

/-- Whatever pieces a sink refuses, generation stops at the first of them, and leaves what was
written before it. -/
theorem generation_stopsAtRefusal (c : Collaborators) (file : ClassFile) (method : Method)
    (root : Element) (level depth : Nat) (test : String → String → Bool) (start : String) :
    StopsAtRefusal test start
      ((Generator.mk catalog c).dispatcher depth ⟨c, level⟩ ⟨file, method, root⟩ {})
      ((Generator.mk catalog c).dispatcher depth ⟨c, level⟩ ⟨file, method, root⟩
        (.gated test start)) := by
  have hopen : Sink.Open {} := fun _ _ => rfl
  have hgated := dispatch_gates test depth ⟨c, level⟩ ⟨file, method, root⟩ {} hopen start
  have hwritten := dispatch_written depth ⟨c, level⟩ ⟨file, method, root⟩
  rw [Generator.dispatcher, hgated]
  exact Run.through_stopsAtRefusal hwritten test start

end Java

end SourceRecovery
