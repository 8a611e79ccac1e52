import SourceRecovery.Proofs.Recorded
import SourceRecovery.Proofs.Returning

/-! # Failures that leave no trace

A rule that fails of itself finds out before it does anything: nothing is written by then and
nothing is handed back. Only the header of a lambda with several parameters is written name by name,
so that the names before a missing one are there when it fails.
-/

namespace SourceRecovery.Java

theorem inlining?_eq_none_of_call? {e : Element} {call : Call} (h : e.call? = some call) :
    e.inlining? = none := by
  cases e
  case methodCall => rfl
  all_goals cases h

/-- Of all the faults of a lambda only a missing entry is told as a missing variable. -/
theorem Fault.parameterEntries_lt {ctx : Context} {site : Site} {i : Inlining} {index : Nat}
    {file method : String} (hi : site.element.inlining? = some i)
    (h : Fault ctx site (.noLocalVariable index file method)) :
    ∃ declared backing body, site.classFile.method? i.target.name = some declared ∧
      backing = withCaptured declared i.hasReceiver i.target.captured ∧
      ctx.decompile backing = .ok body ∧ onlyReturns body = true ∧
      (parameterEntries i.target backing).length < backing.signature.parameters.length ∧
      index = firstParameter i.target + (parameterEntries i.target backing).length ∧
      file = site.classFile.name.text ∧ method = backing.name := by
  cases h with
  | accessorClass hcall _ _ =>
      -- A resolver may fail with any error, but it is not asked for a lambda.
      rw [inlining?_eq_none_of_call? hcall] at hi
      cases hi
  | parameter hi' hmethod hbacking hcode hreturns hlt hnone hearlier =>
      rw [hi'] at hi
      cases hi
      have hcount := length_parameterEntries_of_first_missing _ _ hnone hearlier
      exact ⟨_, _, _, hmethod, hbacking, hcode, hreturns, hcount ▸ hlt, by rw [hcount], rfl, rfl⟩

/-- The names that the table has for the parameters of a lambda with several. The lambda fails for
the first parameter behind them. -/
structure NamesFound (site : Site) (i : Inlining) (declared backing : Method) (e : GenerationError)
    (names : List String) : Prop where
  inlined : site.element.inlining? = some i
  found : site.classFile.method? i.target.name = some declared
  augmented : backing = withCaptured declared i.hasReceiver i.target.captured
  several : 1 < backing.signature.parameters.length
  named : ∀ position,
    names[position]? = (parameterLocal? i.target backing position).map LocalVariable.name
  fewer : names.length < backing.signature.parameters.length
  error : e = .noLocalVariable (firstParameter i.target + names.length) site.classFile.name.text
    backing.name

theorem Fault.breaks_after_names {ctx : Context} {site : Site} {e : GenerationError}
    (h : Fault ctx site e) (hlacks : LacksEntry site e) :
    ∃ i declared backing names, NamesFound site i declared backing e names ∧
      (plan ctx site).Breaks e ("(" :: names.flatMap fun name => [name, ", "]) := by
  obtain ⟨i, declared, backing, _, _, _, hi, hmethod, hbacking, hmany, rfl⟩ := hlacks
  obtain ⟨_, _, body, hmethod', rfl, hcode, hreturns, hlt, rfl, rfl, rfl⟩ :=
    h.parameterEntries_lt hi
  rw [hmethod] at hmethod'
  cases hmethod'
  rw [← hbacking] at hcode hlt ⊢
  have hheader := parameters_breaks_of_many site i.target backing hmany hlt
  obtain ⟨_, _, hplan⟩ := plan_decompiled ctx hi hmethod hbacking hcode
  refine ⟨i, declared, backing, (parameterEntries i.target backing).map LocalVariable.name,
    ⟨hi, hmethod, hbacking, hmany, ?_, ?_, ?_⟩, ?_⟩
  · intro position
    rw [List.getElem?_map, parameterLocal?_eq]
  · rw [List.length_map]
    exact hlt
  · rw [List.length_map]
  · rw [hplan]
    exact .mark _ (.mark _ (inlinedBody_breaks ctx site i.target backing hreturns hheader))

/-- If a site fails of itself, with the rule selected for it or else the built-in one, then nothing
has been written and nothing handed back. Only a lambda with several parameters that lacks an entry
for one of them has written a parenthesis and the names before. -/
theorem failure_leaves_sink (d : Dispatcher) (hsucceeds : d.Succeeds) (hkeeps : d.KeepsPolicy)
    (ctx : Context) (site : Site) (sink : Sink) (hopen : sink.Open) (e : GenerationError)
    (herror : (((catalog.select ctx site).stages builtin ctx site).run d sink).outcome =
      .error e) :
    (¬LacksEntry site e →
      ((catalog.select ctx site).stages builtin ctx site).Does d sink (.error e) sink []) ∧
    (LacksEntry site e →
      ∃ i declared backing names, NamesFound site i declared backing e names ∧
        ((catalog.select ctx site).stages builtin ctx site).Does d sink (.error e)
          (sink.add ("(" ++ String.join (names.map (· ++ ", ")))) []) := by
  rw [stages_catalog] at herror ⊢
  rcases plan_neverFails_or_bad ctx site with hnever | ⟨f, hfault⟩
  · rw [hnever.run_ok hsucceeds hkeeps hopen] at herror
    cases herror
  · obtain ⟨pieces, hbreaks, hpieces⟩ := plan_breaks ctx hfault
    have hdoes := hbreaks.does d hopen
    cases hdoes.outcome.symm.trans herror
    constructor
    · intro hlacks
      rw [hpieces.resolve_right hlacks, String.join_nil, Sink.add_empty] at hdoes
      exact hdoes
    · intro hlacks
      obtain ⟨i, declared, backing, names, hnames, hbreaks⟩ := hfault.breaks_after_names hlacks
      have hdoes := hbreaks.does d hopen
      rw [String.join_cons, join_flatMap_pair] at hdoes
      exact ⟨i, declared, backing, names, hnames, hdoes⟩

namespace Unnamed

/-- A lambda with two parameters and an entry for the first. -/
def site : Site :=
  ⟨Capturing.file 2 [Capturing.entry "x" 0], Capturing.main, Capturing.root false []⟩

def assignment : Element :=
  .fieldAssignment none ⟨Capturing.outer, .int, "count"⟩ (.ofValue (.int 1))

def context : Context := ⟨Capturing.collaborators, 0⟩

def stages (site : Site) : Plan := (catalog.select context site).stages builtin context site

end Unnamed

theorem failure_leaves_sink_unnamed :
    (LacksEntry Unnamed.site (.noLocalVariable 1 "Outer" "lambda$0") ∧
      ((Unnamed.stages Unnamed.site).run .outline {}).sink.text = "(x, " ∧
      (Unnamed.stages Unnamed.site).calls .outline {} = []) ∧
    (Unnamed.stages (Unnamed.site.focus Unnamed.assignment)).Does .outline {}
      (.error (.unsupportedElement Unnamed.assignment.inspect)) {} [] := by
  have hlacks : LacksEntry Unnamed.site (.noLocalVariable 1 "Outer" "lambda$0") :=
    ⟨Capturing.inlining false [], _, _, 1, _, _, rfl, rfl, rfl, by decide, rfl⟩
  have hnot : ¬LacksEntry (Unnamed.site.focus Unnamed.assignment)
      (.unsupportedElement Unnamed.assignment.inspect) := by
    rintro ⟨_, _, _, _, _, _, hi, _⟩
    cases hi
  have hfirst := (failure_leaves_sink .outline Dispatcher.outline_succeeds
    Dispatcher.outline_appends.keepsPolicy Unnamed.context Unnamed.site {} (fun _ _ => rfl) _
    (by decide)).2 hlacks
  have hsecond := (failure_leaves_sink .outline Dispatcher.outline_succeeds
    Dispatcher.outline_appends.keepsPolicy Unnamed.context
    (Unnamed.site.focus Unnamed.assignment) {} (fun _ _ => rfl) _ rfl).1 hnot
  obtain ⟨_, _, _, _, _, hdoes⟩ := hfirst
  exact ⟨⟨hlacks, by decide, hdoes.calls⟩, hsecond⟩

end SourceRecovery.Java
