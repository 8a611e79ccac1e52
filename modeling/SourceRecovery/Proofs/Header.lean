import SourceRecovery.Proofs.Failing

/-! # Headers of lambdas

A lambda whose body only returns begins with a header that names its parameters. The names are those
of table entries, taken by position. If there is an entry for every parameter, the header is a fixed
text; if not, the names that are there are written and the lambda fails.
-/

namespace SourceRecovery

/-! ## Plans that only write -/

/-- Both runs end the same way and leave the same sink. -/
structure Run.EndsAs (r s : Run) : Prop where
  outcome : r.outcome = s.outcome
  sink : r.sink = s.sink

namespace Run.EndsAs

theorem refl (r : Run) : r.EndsAs r := ⟨rfl, rfl⟩

theorem after {r s : Run} (h : r.EndsAs s) (steps : List Step) : (r.after steps).EndsAs s :=
  ⟨h.outcome, h.sink⟩

theorem trans {r s t : Run} (hrs : r.EndsAs s) (hst : s.EndsAs t) : r.EndsAs t :=
  ⟨hrs.outcome.trans hst.outcome, hrs.sink.trans hst.sink⟩

theorem andThen {r s : Run} (h : r.EndsAs s) {f g : Sink → Run}
    (hnext : ∀ sink, (f sink).EndsAs (g sink)) : (r.andThen f).EndsAs (s.andThen g) := by
  unfold Run.andThen
  rw [h.outcome, h.sink]
  split
  · exact ⟨(hnext s.sink).outcome, (hnext s.sink).sink⟩
  · exact h

theorem resume {r s : Run} (h : r.EndsAs s) {f g : Except GenerationError Unit → Run}
    (hnext : ∀ result, (f result).EndsAs (g result)) : (r.resume f).EndsAs (s.resume g) := by
  unfold Run.resume
  rw [h.outcome]
  split
  · exact ⟨(hnext _).outcome, (hnext _).sink⟩
  · exact ⟨(hnext _).outcome, (hnext _).sink⟩
  · exact h

end Run.EndsAs

def Sink.add (sink : Sink) (text : String) : Sink := { sink with text := sink.text ++ text }

theorem Sink.Open.add {sink : Sink} (h : sink.Open) (text : String) : (sink.add text).Open := h

theorem Sink.add_add (sink : Sink) (a b : String) : (sink.add a).add b = sink.add (a ++ b) := by
  simp only [Sink.add, String.append_assoc]

theorem Sink.add_empty (sink : Sink) : sink.add "" = sink := by
  simp only [Sink.add, String.append_empty]

theorem join_intersperse (separator : String) (pieces : List String) :
    String.join (pieces.intersperse separator) = separator.intercalate pieces := by
  induction pieces with
  | nil => rfl
  | cons piece rest ih =>
      cases rest with
      | nil => simp
      | cons other rest =>
          rw [List.intersperse_cons_cons, String.intercalate_cons_cons, String.join_cons,
            String.join_cons, ih, String.append_assoc]

theorem join_flatMap_pair (separator : String) (pieces : List String) :
    String.join (pieces.flatMap fun piece => [piece, separator]) =
      String.join (pieces.map (· ++ separator)) := by
  induction pieces with
  | nil => rfl
  | cons piece rest ih =>
      rw [List.flatMap_cons, List.map_cons, List.cons_append, List.cons_append, List.nil_append,
        String.join_cons, String.join_cons, String.join_cons, ih, String.append_assoc]

namespace Plan

theorem texts_cons (piece : String) (rest : List String) :
    texts (piece :: rest) = write piece (texts rest) := rfl

theorem texts_append (a b : List String) : texts (a ++ b) = texts a ++ texts b := by
  induction a with
  | nil => rfl
  | cons piece rest ih => rw [List.cons_append, texts_cons, ih, texts_cons, write_append]

theorem separated_texts (separator : String) (pieces : List String) :
    separated separator (pieces.map text) = texts (pieces.intersperse separator) := by
  induction pieces with
  | nil => rfl
  | cons piece rest ih =>
      cases rest with
      | nil => rfl
      | cons other rest =>
          rw [List.intersperse_cons_cons, texts_cons, texts_cons, ← ih]
          rfl

theorem run_texts_append (dispatcher : Dispatcher) (pieces : List String) (next : Plan)
    {sink : Sink} (hopen : sink.Open) :
    ((texts pieces ++ next).run dispatcher sink).EndsAs
      (next.run dispatcher (sink.add (String.join pieces))) := by
  induction pieces generalizing sink with
  | nil =>
      rw [String.join_nil, Sink.add_empty]
      exact .refl _
  | cons piece rest ih =>
      have hrest := ih (hopen.add piece)
      rw [Sink.add_add, ← String.join_cons] at hrest
      rw [texts_cons, write_append, run_write_of_open dispatcher hopen]
      exact hrest.after _

theorem run_generate_endsAs (dispatcher : Dispatcher) (ctx : Context) (site : Site) (e : Element)
    (sink : Sink) :
    ((ctx.generate site e).run dispatcher sink).EndsAs (dispatcher ctx (site.focus e) sink) := by
  rw [Context.generate, Plan.run]
  by_cases hok : (dispatcher ctx (site.focus e) sink).outcome = .ok
  · rw [Run.andThen_of_ok hok]
    exact ⟨hok.symm, rfl⟩
  · rw [Run.andThen_of_ne_ok hok]
    exact .refl _

theorem Breaks.run_endsAs {p : Plan} {e : GenerationError} {pieces : List String}
    (h : p.Breaks e pieces) (dispatcher : Dispatcher) {sink : Sink} (hopen : sink.Open) :
    (p.run dispatcher sink).EndsAs ⟨.error e, sink.add (String.join pieces), []⟩ := by
  induction h generalizing sink with
  | fail =>
      rw [String.join_nil, Sink.add_empty]
      exact .refl _
  | write piece _ ih =>
      have hrest := ih (hopen.add piece)
      rw [Sink.add_add, ← String.join_cons] at hrest
      rw [run_write_of_open dispatcher hopen]
      exact hrest.after _
  | mark m _ ih => exact (ih hopen).after _

end Plan

namespace Java

/-! ## Names -/

/-- The table entries from that of the first parameter on. -/
def parameterEntries (target : LambdaTarget) (backing : Method) : List LocalVariable :=
  backing.locals.drop (firstParameter target)

/-- The table entry that the parameter at a position of a lambda is named after. -/
def parameterLocal? (target : LambdaTarget) (backing : Method) (position : Nat) :
    Option LocalVariable :=
  backing.locals[firstParameter target + position]?

def header : List String → String
  | [] => "() -> "
  | [name] => name ++ " -> "
  | names => "(" ++ ", ".intercalate names ++ ") -> "

def headerPieces : List String → List String
  | [] => ["() -> "]
  | [name] => [name, " -> "]
  | names => "(" :: names.intersperse ", " ++ [") -> "]

theorem join_headerPieces (names : List String) :
    String.join (headerPieces names) = header names := by
  unfold headerPieces header
  split
  · simp
  · simp
  · simp [join_intersperse, String.append_assoc]

variable (site : Site) (target : LambdaTarget) (backing : Method)

theorem parameterLocal?_eq (position : Nat) :
    parameterLocal? target backing position = (parameterEntries target backing)[position]? := by
  rw [parameterLocal?, parameterEntries, List.getElem?_drop]

theorem parameterLocal?_eq_none_iff {position : Nat} :
    parameterLocal? target backing position = none ↔
      (parameterEntries target backing).length ≤ position := by
  rw [parameterLocal?_eq, List.getElem?_eq_none_iff]

theorem parameterLocal?_isSome_iff {position : Nat} :
    (parameterLocal? target backing position).isSome ↔
      position < (parameterEntries target backing).length := by
  rw [Option.isSome_iff_ne_none, ne_eq, parameterLocal?_eq_none_iff, Nat.not_le]

theorem length_le_of_named {count : Nat}
    (h : ∀ position < count, (parameterLocal? target backing position).isSome) :
    count ≤ (parameterEntries target backing).length := by
  apply Nat.le_of_not_lt
  intro hlt
  exact Nat.lt_irrefl _ ((parameterLocal?_isSome_iff target backing).mp (h _ hlt))

theorem parameterName_of_lt {position : Nat}
    (h : position < (parameterEntries target backing).length) :
    parameterName site target backing position =
      .text (parameterEntries target backing)[position].name := by
  have hlookup := parameterLocal?_eq target backing position
  rw [List.getElem?_eq_getElem h, parameterLocal?] at hlookup
  simp only [parameterName, hlookup]

theorem parameterName_of_le {position : Nat}
    (h : (parameterEntries target backing).length ≤ position) :
    parameterName site target backing position =
      .fail (.noLocalVariable (firstParameter target + position) site.classFile.name.text
        backing.name) := by
  have hlookup := parameterLocal?_eq target backing position
  rw [List.getElem?_eq_none h, parameterLocal?] at hlookup
  simp only [parameterName, hlookup]

theorem map_parameterName {count : Nat} (h : count ≤ (parameterEntries target backing).length) :
    (List.range count).map (parameterName site target backing) =
      (((parameterEntries target backing).take count).map LocalVariable.name).map Plan.text := by
  apply List.ext_getElem
  · simp only [List.length_map, List.length_range, List.length_take]
    omega
  · intro position hrange htake
    rw [List.length_map, List.length_range] at hrange
    rw [List.getElem_map, List.getElem_range, parameterName_of_lt site target backing (by omega)]
    simp only [List.getElem_map, List.getElem_take]

/-! ## Headers -/

theorem parameters_of_many (h : 1 < backing.signature.parameters.length) :
    parameters site target backing =
      .text "(" ++
        .separated ", " ((List.range backing.signature.parameters.length).map
          (parameterName site target backing)) ++ .text ") -> " := by
  unfold parameters
  split
  · next hzero => omega
  · next hone => omega
  · rfl

/-- With an entry for every parameter the header is a fixed text. -/
theorem parameters_eq_texts
    (h : backing.signature.parameters.length ≤ (parameterEntries target backing).length) :
    parameters site target backing =
      .texts (headerPieces (((parameterEntries target backing).take
        backing.signature.parameters.length).map LocalVariable.name)) := by
  have hplans := map_parameterName site target backing h
  generalize ((parameterEntries target backing).take
    backing.signature.parameters.length).map LocalVariable.name = names at hplans ⊢
  have hlength : backing.signature.parameters.length = names.length := by
    simpa using congrArg List.length hplans
  rcases names with _ | ⟨name, _ | ⟨other, rest⟩⟩
  · simp only [parameters, hlength, List.length_nil]
    rfl
  · have hplan : parameterName site target backing 0 = .text name := by
      rw [hlength] at hplans
      exact List.cons.inj hplans |>.1
    simp only [parameters, hlength, List.length_singleton, hplan]
    rfl
  · have hmany : 1 < backing.signature.parameters.length := by
      rw [hlength, List.length_cons, List.length_cons]
      omega
    have hpieces : headerPieces (name :: other :: rest) =
        "(" :: ((name :: other :: rest).intersperse ", " ++ [") -> "]) := rfl
    rw [parameters_of_many site target backing hmany, hplans, Plan.separated_texts, hpieces,
      Plan.texts_cons, Plan.texts_append]
    rfl

/-- The names that are there are written before the first that is missing. -/
theorem parameters_breaks_of_many (hmany : 1 < backing.signature.parameters.length)
    (h : (parameterEntries target backing).length < backing.signature.parameters.length) :
    (parameters site target backing).Breaks
      (.noLocalVariable (firstParameter target + (parameterEntries target backing).length)
        site.classFile.name.text backing.name)
      ("(" :: ((parameterEntries target backing).map LocalVariable.name).flatMap
        fun name => [name, ", "]) := by
  generalize hcount : (parameterEntries target backing).length = count at h ⊢
  obtain ⟨more, hmore⟩ := Nat.exists_eq_add_of_le h
  have hnames := map_parameterName site target backing (Nat.le_of_eq hcount.symm)
  rw [← hcount, List.take_length, hcount] at hnames
  have hplans : (List.range backing.signature.parameters.length).map
      (parameterName site target backing) =
        ((parameterEntries target backing).map LocalVariable.name).map Plan.text ++
          parameterName site target backing count ::
            ((List.range more).map (count + 1 + ·)).map (parameterName site target backing) := by
    rw [hmore, List.range_add, List.range_succ, ← hnames]
    simp
  rw [parameters_of_many site target backing hmany, hplans,
    parameterName_of_le site target backing (Nat.le_of_eq hcount)]
  refine Plan.Breaks.append (Plan.Breaks.write "(" ?_) _
  rw [← List.append_nil (List.flatMap _ _)]
  exact Plan.Breaks.fail.separated ", " _

end Java

end SourceRecovery
