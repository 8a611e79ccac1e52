import SourceRecovery.Element.Build
import SourceRecovery.Proofs.Recorded

/-! # Arguments of calls

The arguments of a call are given to the dispatcher in order, with a comma between neighbours, and
the first that fails ends the call. The array that a compiler builds for variable arguments is not
among them: the values that it is initialized with stand in its place.
-/

namespace SourceRecovery

namespace Plan

theorem separated_cons (separator : String) (p : Plan) {rest : List Plan} (h : rest ≠ []) :
    separated separator (p :: rest) = p ++ text separator ++ separated separator rest := by
  cases rest with
  | nil => exact absurd rfl h
  | cons q rest => rfl

namespace Does

variable {d : Dispatcher} {ctx : Context} {site : Site} {sink : Sink} {es : List Element}
  {texts : List String}

theorem generateList_cons {e : Element} {written : String} {outcome : Outcome} {left : Sink}
    {calls : List (Nat × Site)} (hopen : sink.Open)
    (hwrites : d.Writes ctx (site.focus e) sink written .ok) (hne : es ≠ [])
    (hrest : (ctx.generateList site es).Does d (sink.add (written ++ ", ")) outcome left calls) :
    (ctx.generateList site (e :: es)).Does d sink outcome left
      ((ctx.level, site.focus e) :: calls) := by
  have hmap : es.map (ctx.generate site) ≠ [] := fun h => hne (List.map_eq_nil_iff.mp h)
  rw [← Sink.add_add] at hrest
  rw [Context.generateList, List.map_cons, separated_cons ", " _ hmap]
  exact ((generate hwrites).append (text d (hopen.add written) ", ")).append hrest

theorem generateList (hopen : sink.Open) (h : d.WritesEach ctx site "" ", " sink es texts) :
    (ctx.generateList site es).Does d sink .ok (sink.add (", ".intercalate texts))
      (es.map fun e => (ctx.level, site.focus e)) := by
  induction h with
  | nil sink =>
      rw [String.intercalate_nil, Sink.add_empty]
      exact done d sink
  | @cons sink e written es texts hwrites hrest ih =>
      rw [Sink.add_empty] at hwrites
      cases hrest with
      | nil =>
          rw [String.intercalate_singleton]
          exact generate hwrites
      | cons hnext hlater =>
          have hrest := ih hopen
          rw [String.empty_append, Sink.add_add, ← String.intercalate_cons_cons] at hrest
          exact generateList_cons hopen hwrites (List.cons_ne_nil _ _) hrest

theorem generateList_stops {first : List Element} {e : Element} {written : String}
    {outcome : Outcome} (hopen : sink.Open)
    (hfirst : d.WritesEach ctx site "" ", " sink first texts)
    (hlast : d.Writes ctx (site.focus e) (sink.add (String.join (texts.map (· ++ ", ")))) written
      outcome) (hne : outcome ≠ .ok) (rest : List Element) :
    (ctx.generateList site (first ++ e :: rest)).Does d sink outcome
      (sink.add (String.join (texts.map (· ++ ", ")) ++ written))
      ((first ++ [e]).map fun e => (ctx.level, site.focus e)) := by
  -- On the elements that are rendered: what stands behind the one that fails is never come to.
  induction hfirst with
  | nil sink =>
      rw [List.map_nil, String.join_nil, Sink.add_empty] at hlast
      rw [List.map_nil, String.join_nil, String.empty_append, List.nil_append, Context.generateList,
        List.map_cons]
      cases rest with
      | nil => exact generate hlast
      | cons next rest =>
          rw [List.map_cons, separated_cons ", " _ (List.cons_ne_nil _ _)]
          exact ((generate hlast).append_of_stopped hne _).append_of_stopped hne _
  | @cons sink g before first texts hwrites _ ih =>
      have hjoin : String.join ((before :: texts).map (· ++ ", ")) =
          before ++ ", " ++ String.join (texts.map (· ++ ", ")) := by
        rw [List.map_cons, String.join_cons]
      rw [hjoin, ← Sink.add_add] at hlast
      rw [String.empty_append] at ih
      have hrest := ih hopen hlast
      rw [Sink.add_add, ← String.append_assoc, ← hjoin] at hrest
      rw [Sink.add_empty] at hwrites
      exact generateList_cons hopen hwrites (by simp) hrest

end Does

end Plan

namespace Java

/-! ## Arguments as the source has them -/

/-- The call ends with an array that has initializers or the constant length zero, and the first
method known of the type by the name and signature of the call takes variable arguments. -/
structure Spreads (types : TypeResolver) (call : Call) (fixed : List Element)
    (initializers : List (UInt32 × Element)) : Prop where
  array : ∃ type component length,
    call.arguments = fixed ++ [.newArray type component length initializers] ∧
    (initializers ≠ [] ∨ ∃ constantType, length = .constant ⟨.int 0, constantType⟩)
  varargs : ∃ metadata before method later,
    types call.callee.declaring = some metadata ∧ metadata.methods = before ++ method :: later ∧
    (∀ other ∈ before,
      ¬(other.name = call.callee.name ∧ other.signature = call.callee.signature)) ∧
    method.name = call.callee.name ∧ method.signature = call.callee.signature ∧
    method.varargs = true

inductive SourceArguments (types : TypeResolver) (call : Call) : List Element → Prop
  | spread {fixed : List Element} {initializers : List (UInt32 × Element)} :
      Spreads types call fixed initializers →
      SourceArguments types call (fixed ++ initializers.map Prod.snd)
  | plain : (∀ fixed initializers, ¬Spreads types call fixed initializers) →
      SourceArguments types call call.arguments

theorem takesVarargs_iff (ctx : Context) (call : Call) :
    takesVarargs ctx call = true ↔ ∃ metadata before method later,
      ctx.collaborators.types call.callee.declaring = some metadata ∧
      metadata.methods = before ++ method :: later ∧
      (∀ other ∈ before,
        ¬(other.name = call.callee.name ∧ other.signature = call.callee.signature)) ∧
      method.name = call.callee.name ∧ method.signature = call.callee.signature ∧
      method.varargs = true := by
  unfold takesVarargs Context.metadata? TypeMetadata.method?
  cases ctx.collaborators.types call.callee.declaring with
  | none => simp
  | some metadata =>
      simp only [Option.any_eq_true, List.find?_eq_some_iff_append]
      constructor
      · rintro ⟨method, ⟨hmatch, before, later, hmethods, hbefore⟩, hvarargs⟩
        refine ⟨metadata, before, method, later, rfl, hmethods, ?_, ?_⟩
        · intro other hother
          have hdiffers := hbefore other hother
          grind
        · simpa [hvarargs] using hmatch
      · rintro ⟨_, before, method, later, hmetadata, hmethods, hbefore, hname, hsignature, hvarargs⟩
        cases hmetadata
        refine ⟨method, ⟨by simp [hname, hsignature], before, later, hmethods, ?_⟩, hvarargs⟩
        intro other hother
        have hdiffers := hbefore other hother
        grind

theorem constantValue?_bind_int?_eq_some_iff {e : Element} {value : Int32} :
    e.constantValue?.bind ConstantValue.int? = some value ↔
      ∃ type, e = .constant ⟨.int value, type⟩ := by
  constructor
  · intro h
    obtain ⟨constant, hconstant, hvalue⟩ := Option.bind_eq_some_iff.mp h
    unfold Element.constantValue? at hconstant
    split at hconstant
    · next c =>
        cases hconstant
        unfold ConstantValue.int? at hvalue
        split at hvalue
        · next number hnumber =>
            cases hvalue
            exact ⟨c.type, by rw [← hnumber]⟩
        · cases hvalue
    · cases hconstant
  · rintro ⟨type, rfl⟩
    rfl

theorem spreadable?_eq_some_iff {e : Element} {values : List Element} :
    spreadable? e = some values ↔ ∃ type component length initializers,
      e = .newArray type component length initializers ∧
      (initializers ≠ [] ∨ ∃ constantType, length = .constant ⟨.int 0, constantType⟩) ∧
      initializers.map Prod.snd = values := by
  have hbuilt (length : Element) (initializers : List (UInt32 × Element)) :
      (!initializers.isEmpty || length.constantValue?.bind ConstantValue.int? == some 0) = true ↔
        (initializers ≠ [] ∨ ∃ constantType, length = .constant ⟨.int 0, constantType⟩) := by
    rw [Bool.or_eq_true, beq_iff_eq, constantValue?_bind_int?_eq_some_iff]
    simp
  constructor
  · intro h
    unfold spreadable? at h
    split at h
    · next type component length initializers =>
        rw [Option.ite_none_right_eq_some, hbuilt] at h
        exact ⟨type, component, length, initializers, rfl, h.1, Option.some.inj h.2⟩
    · cases h
  · rintro ⟨type, component, length, initializers, rfl, h, rfl⟩
    rw [spreadable?, if_pos ((hbuilt length initializers).mpr h)]

theorem writtenArguments_of_spreads {ctx : Context} {call : Call} {fixed : List Element}
    {initializers : List (UInt32 × Element)}
    (h : Spreads ctx.collaborators.types call fixed initializers) :
    writtenArguments ctx call = fixed ++ initializers.map Prod.snd := by
  obtain ⟨type, component, length, harguments, hbuilt⟩ := h.array
  have hlast : call.arguments.getLast?.bind spreadable? = some (initializers.map Prod.snd) := by
    rw [harguments, List.getLast?_concat, Option.bind_some]
    exact spreadable?_eq_some_iff.mpr ⟨type, component, length, initializers, rfl, hbuilt, rfl⟩
  have htakes : takesVarargs ctx call = true := (takesVarargs_iff ctx call).mpr h.varargs
  simp only [writtenArguments, hlast, htakes, if_true]
  rw [harguments, List.dropLast_concat]

theorem writtenArguments_of_not_spreads {ctx : Context} {call : Call}
    (h : ∀ fixed initializers, ¬Spreads ctx.collaborators.types call fixed initializers) :
    writtenArguments ctx call = call.arguments := by
  unfold writtenArguments
  split
  · next values hvalues =>
      rw [if_neg]
      intro htakes
      obtain ⟨last, hlast, hspreadable⟩ := Option.bind_eq_some_iff.mp hvalues
      obtain ⟨fixed, harguments⟩ := List.getLast?_eq_some_iff.mp hlast
      obtain ⟨type, component, length, initializers, rfl, hbuilt, _⟩ :=
        spreadable?_eq_some_iff.mp hspreadable
      exact h fixed initializers ⟨⟨type, component, length, harguments, hbuilt⟩,
        (takesVarargs_iff ctx call).mp htakes⟩
  · rfl

/-- The arguments that are written are those of the source. -/
theorem sourceArguments_iff (ctx : Context) (call : Call) (arguments : List Element) :
    SourceArguments ctx.collaborators.types call arguments ↔
      arguments = writtenArguments ctx call := by
  constructor
  · rintro (hspreads | hplain)
    · exact (writtenArguments_of_spreads hspreads).symm
    · exact (writtenArguments_of_not_spreads hplain).symm
  · rintro rfl
    by_cases hspreads :
        ∃ fixed initializers, Spreads ctx.collaborators.types call fixed initializers
    · obtain ⟨fixed, initializers, hspreads⟩ := hspreads
      rw [writtenArguments_of_spreads hspreads]
      exact .spread hspreads
    · have hplain fixed initializers (h : Spreads ctx.collaborators.types call fixed initializers) :
          False := hspreads ⟨fixed, initializers, h⟩
      rw [writtenArguments_of_not_spreads hplain]
      exact .plain hplain

/-! ## Calls -/

theorem invocation_opening (d : Dispatcher) {sink : Sink} (hopen : sink.Open) (name : String) :
    (Plan.text name ++ .text "(").Does d sink .ok (sink.add (name ++ "(")) [] := by
  have hboth := (Plan.Does.text d hopen name).append (Plan.Does.text d (hopen.add name) "(")
  rw [Sink.add_add] at hboth
  exact hboth

/-- The arguments of the source, and nothing else, are given to the dispatcher in order. If it
renders them all, their texts stand between the parentheses; if it stops at one of them, that is
where the text ends. -/
theorem invocation_passes_arguments (call : Call) (d : Dispatcher) (happends : d.Appends)
    (ctx : Context) (site : Site) (sink : Sink) (hopen : sink.Open) :
    ∃ arguments, (∀ other,
      SourceArguments ctx.collaborators.types call other ↔ other = arguments) ∧
    ((∃ texts,
        d.WritesEach ctx site "" ", " (sink.add (call.callee.name ++ "(")) arguments texts ∧
        (invocation ctx site call).Does d sink .ok
          (sink.add (call.callee.name ++ "(" ++ ", ".intercalate texts ++ ")"))
          (arguments.map fun e => (ctx.level, site.focus e))) ∨
      ∃ first e rest texts text outcome, arguments = first ++ e :: rest ∧ outcome ≠ .ok ∧
        d.WritesEach ctx site "" ", " (sink.add (call.callee.name ++ "(")) first texts ∧
        d.Writes ctx (site.focus e)
          (sink.add (call.callee.name ++ "(" ++ String.join (texts.map (· ++ ", ")))) text
          outcome ∧
        (invocation ctx site call).Does d sink outcome
          (sink.add (call.callee.name ++ "(" ++ String.join (texts.map (· ++ ", ")) ++ text))
          ((first ++ [e]).map fun e => (ctx.level, site.focus e))) := by
  refine ⟨writtenArguments ctx call, sourceArguments_iff ctx call, ?_⟩
  have hopening := invocation_opening d hopen call.callee.name
  have hafter := hopen.add (call.callee.name ++ "(")
  rcases happends.writesEach_or_stops ctx site "" ", " (sink.add (call.callee.name ++ "("))
    (writtenArguments ctx call) with ⟨texts, hall⟩ | hstops
  · have hlist := Plan.Does.generateList hafter hall
    have hclosed := (hopening.append hlist).append (Plan.Does.text d (hafter.add _) ")")
    rw [Sink.add_add, Sink.add_add, ← String.append_assoc, List.append_nil, List.nil_append]
      at hclosed
    exact .inl ⟨texts, hall, hclosed⟩
  · obtain ⟨first, e, rest, texts, text, outcome, hsplit, hfirst, hne, hlast⟩ := hstops
    simp only [String.empty_append, String.append_empty] at hlast
    have hlist := Plan.Does.generateList_stops hafter hfirst hlast hne rest
    have hstopped := (hopening.append hlist).append_of_stopped hne (.text ")")
    rw [Sink.add_add] at hlast
    rw [Sink.add_add, List.nil_append, ← String.append_assoc, ← hsplit] at hstopped
    exact .inr ⟨first, e, rest, texts, text, outcome, hsplit, hne, hfirst, hlast, hstopped⟩

/-! ## A call that formats -/

namespace Formatting

def formatter : JavaType := .ofName "Formatter"

def signature : Signature := ⟨[.string, .array .object], .string⟩

def pattern : Element := .ofValue (.string "%s-%s")

def values : List Element := [.ofValue (.int 1), .variableReference ⟨"x", .object, 0⟩]

def call : Call := ⟨none, ⟨formatter, "format", signature⟩, [pattern, .newArrayWith .object values]⟩

/-- A method that differs in its signature does not matter, nor does a later one that agrees. -/
def collaborators : Collaborators where
  types := .ofTable [(formatter, { methods :=
    [⟨"format", ⟨[.array .object], .string⟩, false⟩, ⟨"format", signature, true⟩,
     ⟨"format", signature, false⟩] })]
  classFiles := .ofTable []
  decompiler := .ofTable []
  style := ({} : StyleOptions).style

def site : Site where
  classFile := { name := .ofText "Main" }
  method := { name := "main", signature := ⟨[], .void⟩, flags := 9 }
  element := call.toElement

def plan : Plan := invocation ⟨collaborators, 0⟩ site call

end Formatting

theorem invocation_passes_arguments_formatted :
    SourceArguments Formatting.collaborators.types Formatting.call
      (Formatting.pattern :: Formatting.values) ∧
    Formatting.plan.calls (catalog.dispatch builtin 2) {} =
      (Formatting.pattern :: Formatting.values).map (fun e => (0, Formatting.site.focus e)) ∧
    (Formatting.plan.run (catalog.dispatch builtin 2) {}).sink.text =
      "format(\"%s-%s\", 1, x)" := by
  have hsource : SourceArguments Formatting.collaborators.types Formatting.call
      (Formatting.pattern :: Formatting.values) :=
    (sourceArguments_iff ⟨Formatting.collaborators, 0⟩ Formatting.call _).mpr rfl
  have hok : (Formatting.plan.run (catalog.dispatch builtin 2) {}).outcome = .ok := by decide
  refine ⟨hsource, ?_, by decide⟩
  obtain ⟨arguments, hunique, hall | hstops⟩ :=
    invocation_passes_arguments Formatting.call (catalog.dispatch builtin 2)
      (catalog.dispatch_appends builtin 2) ⟨Formatting.collaborators, 0⟩ Formatting.site {}
      fun _ _ => rfl
  · obtain ⟨_, _, hdoes⟩ := hall
    rw [(hunique _).mp hsource]
    exact hdoes.calls
  · obtain ⟨_, _, _, _, _, _, _, hne, _, _, hdoes⟩ := hstops
    exact absurd (hdoes.outcome.symm.trans hok) hne

end Java

end SourceRecovery
