import SourceRecovery.Proofs.Captured
import SourceRecovery.Proofs.Fault

/-! # Lambdas that only return

A lambda whose body is one return statement is written as its header and what it returns. Which
names the header has follows from the table after the captured variables have been sorted in.
-/

namespace SourceRecovery.Java

open LocalVariable

/-! ## Lambdas that only return -/

/-- A static lambda without a receiver or a special one with a receiver that is written in place
and only returns. -/
structure ReturningLambda (c : Collaborators) (site : Site) (i : Inlining) (declared : Method)
    (body : List Element) : Prop where
  inlined : site.element.inlining? = some i
  kind : i.target.kind = if i.hasReceiver then .invokeSpecial else .invokeStatic
  found : site.classFile.method? i.target.name = some declared
  decompiled : c.decompiler (withCaptured declared i.hasReceiver i.target.captured) = .ok body
  returns : onlyReturns body = true

/-- What follows the header: the value that is returned, or an empty block. -/
def returned (dispatcher : Dispatcher) (ctx : Context) (site : Site) : List Element → Sink → Run
  | [.returnValue value], sink => dispatcher ctx (site.focus value) sink
  | _, sink => ⟨.ok, sink.add "\x7b\x7d", []⟩

theorem run_inlinedBody_endsAs (dispatcher : Dispatcher) (ctx : Context) {site : Site}
    {target : LambdaTarget} {backing : Method} {body : List Element} {pieces : List String}
    (hreturns : onlyReturns body = true)
    (hheader : parameters site target backing = .texts pieces) {sink : Sink} (hopen : sink.Open) :
    ((inlinedBody ctx site target backing body).run dispatcher sink).EndsAs
      (returned dispatcher ctx site body (sink.add (String.join pieces))) := by
  have hafter : (sink.add (String.join pieces)).Open := hopen
  unfold onlyReturns at hreturns
  split at hreturns
  · rw [inlinedBody, hheader]
    refine (Plan.run_texts_append dispatcher pieces _ hopen).trans ?_
    rw [Plan.text, Plan.run_write_of_open dispatcher hafter]
    exact .after (.refl _) _
  · rw [inlinedBody, hheader, returned]
    refine (Plan.run_texts_append dispatcher pieces _ hopen).trans ?_
    exact Plan.run_generate_endsAs dispatcher ctx site _ _
  · cases hreturns

namespace ReturningLambda

variable {c : Collaborators} {site : Site} {i : Inlining} {declared : Method}
  {body : List Element}

theorem firstParameter_eq (h : ReturningLambda c site i declared body) :
    firstParameter i.target = if i.hasReceiver then 1 else 0 := by
  rw [firstParameter, h.kind]
  cases i.hasReceiver <;> rfl

theorem dispatch_endsAs (h : ReturningLambda c site i declared body) (depth level : Nat)
    (sink : Sink) :
    (catalog.dispatch builtin (depth + 1) ⟨c, level⟩ site sink).EndsAs
      ((inlinedBody ⟨c, level⟩ site i.target
        (withCaptured declared i.hasReceiver i.target.captured) body).run
          (catalog.dispatch builtin depth) sink) := by
  obtain ⟨_, _, hplan⟩ := plan_decompiled ⟨c, level⟩ h.inlined h.found rfl h.decompiled
  rw [dispatch_succ, hplan]
  exact .after (.after (.after (.refl _) _) _) _

/-- With an entry for every parameter the header stands before what is returned. -/
theorem dispatch_header (h : ReturningLambda c site i declared body)
    {entries : List LocalVariable}
    (hentries : (withCaptured declared i.hasReceiver i.target.captured).locals.drop
      (firstParameter i.target) = entries)
    (hall : declared.signature.parameters.length ≤ entries.length) (depth level : Nat)
    {sink : Sink} (hopen : sink.Open) :
    (catalog.dispatch builtin (depth + 1) ⟨c, level⟩ site sink).EndsAs
      (returned (catalog.dispatch builtin depth) ⟨c, level⟩ site body (sink.add (header
        ((entries.take declared.signature.parameters.length).map LocalVariable.name)))) := by
  generalize hbacking : withCaptured declared i.hasReceiver i.target.captured = backing at hentries
  have hsignature : backing.signature = declared.signature :=
    hbacking ▸ signature_withCaptured declared i.hasReceiver i.target.captured
  have hentries : parameterEntries i.target backing = entries := hentries
  rw [← hsignature, ← hentries] at hall
  have hheader := parameters_eq_texts site i.target backing hall
  refine (h.dispatch_endsAs depth level sink).trans ?_
  rw [hbacking, ← join_headerPieces, ← hsignature, ← hentries]
  exact run_inlinedBody_endsAs _ _ h.returns hheader hopen

/-- Without, the names that are there are written and then the lambda fails. -/
theorem dispatch_missing (h : ReturningLambda c site i declared body)
    {entries : List LocalVariable}
    (hentries : (withCaptured declared i.hasReceiver i.target.captured).locals.drop
      (firstParameter i.target) = entries)
    (hmany : 1 < declared.signature.parameters.length)
    (hmissing : entries.length < declared.signature.parameters.length) (depth level : Nat)
    {sink : Sink} (hopen : sink.Open) :
    (catalog.dispatch builtin (depth + 1) ⟨c, level⟩ site sink).EndsAs
      ⟨.error (.noLocalVariable (firstParameter i.target + entries.length)
          site.classFile.name.text declared.name),
        sink.add ("(" ++ String.join ((entries.map LocalVariable.name).map (· ++ ", "))), []⟩ := by
  generalize hbacking : withCaptured declared i.hasReceiver i.target.captured = backing at hentries
  have hsignature : backing.signature = declared.signature :=
    hbacking ▸ signature_withCaptured declared i.hasReceiver i.target.captured
  have hname : backing.name = declared.name :=
    hbacking ▸ Inlining.withCaptured_name declared i.hasReceiver i.target.captured
  have hentries : parameterEntries i.target backing = entries := hentries
  rw [← hsignature] at hmany
  rw [← hsignature, ← hentries] at hmissing
  have hheader := parameters_breaks_of_many site i.target backing hmany hmissing
  have hbody := inlinedBody_breaks ⟨c, level⟩ site i.target backing h.returns hheader
  have hends := hbody.run_endsAs (catalog.dispatch builtin depth) hopen
  rw [String.join_cons, join_flatMap_pair] at hends
  refine (h.dispatch_endsAs depth level sink).trans ?_
  rw [hbacking, ← hname, ← hentries]
  exact hends

end ReturningLambda

/-! ## Headers with captured variables -/

/-- If the declared table leaves the slots of the captured variables free, the parameters are the
captured variables followed by the declared names by slot. With enough of these for the parameters
the header stands before what is returned. With too few the lambda fails for the first parameter
without one, behind all the names there are. -/
theorem generation_names_captured_first (c : Collaborators) (site : Site) (i : Inlining)
    (declared : Method) (body : List Element) (h : ReturningLambda c site i declared body)
    (hcaptured : 1 ≤ i.target.captured.length) (hfits : i.target.captured.length < 65535)
    (hfree : LeavesFree (firstParameter i.target) i.target.captured.length declared.locals)
    (later : List LocalVariable) (hlater : InSlotOrder later)
    (hperm : later.Perm (declared.locals.filter fun v =>
      firstParameter i.target + i.target.captured.length ≤ v.index.toNat))
    (names : List String)
    (hnames : names = i.target.captured.map Variable.name ++ later.map LocalVariable.name)
    (depth level : Nat) (sink : Sink) (hopen : sink.Open) :
    (declared.signature.parameters.length ≤ names.length →
      ((Generator.mk catalog c).dispatcher (depth + 1) ⟨c, level⟩ site sink).EndsAs
        (returned ((Generator.mk catalog c).dispatcher depth) ⟨c, level⟩ site body
          (sink.add (header (names.take declared.signature.parameters.length))))) ∧
    (names.length < declared.signature.parameters.length →
      ((Generator.mk catalog c).dispatcher (depth + 1) ⟨c, level⟩ site sink).EndsAs
        ⟨.error (.noLocalVariable (firstParameter i.target + names.length)
            site.classFile.name.text declared.name),
          sink.add ("(" ++ String.join (names.map (· ++ ", "))), []⟩) := by
  have hsize : UInt16.size = 65536 := rfl
  have hfirst := h.firstParameter_eq
  have hroom : firstParameter i.target + i.target.captured.length ≤ UInt16.size := by
    have hle : firstParameter i.target ≤ 1 := by
      rw [hfirst]
      split <;> omega
    omega
  have hentries : (withCaptured declared i.hasReceiver i.target.captured).locals.drop
      (firstParameter i.target) =
        capturedEntries (firstParameter i.target) i.target.captured ++ later := by
    have hne : i.target.captured ≠ [] := List.length_pos_iff.mp hcaptured
    rw [locals_withCaptured hfirst (fun hnil => absurd hnil hne)]
    exact hfree.sortByIndex_append hroom hlater hperm
  have hmap : (capturedEntries (firstParameter i.target) i.target.captured ++ later).map
      LocalVariable.name = names := by
    rw [List.map_append, map_name_capturedEntries, hnames]
  have hlength : (capturedEntries (firstParameter i.target) i.target.captured ++ later).length =
      names.length := by
    rw [← hmap, List.length_map]
  constructor
  · intro hall
    have hheader := h.dispatch_header hentries (hlength ▸ hall) depth level hopen
    rw [List.map_take, hmap] at hheader
    exact hheader
  · intro hmissing
    have hmany : 1 < declared.signature.parameters.length := by
      rw [hnames, List.length_append, List.length_map] at hmissing
      omega
    have hfails := h.dispatch_missing hentries hmany (hlength ▸ hmissing) depth level hopen
    rw [hmap, hlength] at hfails
    exact hfails

/-! Lambdas with a body that is `a + z`, for cases of the theorems about headers. -/

namespace Capturing

def outer : JavaType := .ofName "Outer"

def entry (name : String) (slot : UInt16) : LocalVariable := ⟨some ⟨0, 10⟩, name, .int, slot⟩

def a : Variable := ⟨"a", .int, 7⟩

/-- The entry that is made for `a` if there is no receiver. -/
def capturedEntry : LocalVariable := ⟨none, "a", .int, 0⟩

def body : List Element :=
  [.returnValue (.arithmetic .plus (.variableReference a) (.variableReference ⟨"z", .int, 3⟩))]

def collaborators : Collaborators where
  types := fun _ => none
  classFiles := .ofTable []
  decompiler := .ofTable [("lambda$0", .ok body)]
  style := ({} : StyleOptions).style

/-- Special if there is a receiver, static otherwise. -/
def inlining (hasReceiver : Bool) (captured : List Variable) : Inlining where
  hasReceiver := hasReceiver
  target := {
    LambdaTarget.ofBacking (if hasReceiver then .invokeSpecial else .invokeStatic) outer "lambda$0"
      ⟨[], .int⟩ with captured }

def declared (count : Nat) (table : List LocalVariable) : Method :=
  Method.withTable
    { name := "lambda$0", signature := ⟨List.replicate count .int, .int⟩, flags := 0x1002 } table

def file (count : Nat) (table : List LocalVariable) : ClassFile where
  name := .ofText "Outer"
  methods := [declared count table]

def root (hasReceiver : Bool) (captured : List Variable) : Element :=
  .lambda (if hasReceiver then some (.this outer) else none) (inlining hasReceiver captured).target

def main : Method := { name := "main", signature := ⟨[], .void⟩, flags := 1 }

def render (hasReceiver : Bool) (captured : List Variable) (count : Nat)
    (table : List LocalVariable) : Run :=
  (Generator.mk catalog collaborators).dispatcher 3 ⟨collaborators, 0⟩
    ⟨file count table, main, root hasReceiver captured⟩ {}

theorem lambdaForm_inlining (hasReceiver : Bool) (captured : List Variable) :
    lambdaForm (inlining hasReceiver captured).target = .inlined := by
  have hmarked : Method.marked Method.lambdaMarker "lambda$0" = true := by decide
  cases hasReceiver <;> exact if_pos hmarked

theorem returningLambda (hasReceiver : Bool) (captured : List Variable) (count : Nat)
    (table : List LocalVariable) :
    ReturningLambda collaborators ⟨file count table, main, root hasReceiver captured⟩
      (inlining hasReceiver captured) (declared count table) body where
  inlined := by cases hasReceiver <;> exact if_pos (lambdaForm_inlining _ captured)
  kind := by cases hasReceiver <;> rfl
  found := rfl
  decompiled := by cases captured <;> rfl
  returns := rfl

end Capturing

open Capturing (entry capturedEntry)

theorem generation_names_captured_first_unordered :
    LeavesFree 1 1 [entry "z" 3, entry "this" 0, entry "y" 2] ∧
    (Capturing.render true [Capturing.a] 3 [entry "z" 3, entry "this" 0, entry "y" 2]).sink.text =
      "(a, y, z) -> a + z" ∧
    (Capturing.render true [Capturing.a] 4 [entry "z" 3, entry "this" 0, entry "y" 2]).sink.text =
      "(a, y, z, " ∧
    (Capturing.render true [Capturing.a] 4 [entry "z" 3, entry "this" 0, entry "y" 2]).outcome =
      .error (.noLocalVariable 4 "Outer" "lambda$0") := by
  have hfree : LeavesFree 1 1 [entry "z" 3, entry "this" 0, entry "y" 2] :=
    ⟨by decide, by decide, by decide⟩
  have hlater : [entry "y" 2, entry "z" 3].Perm
      ([entry "z" 3, entry "this" 0, entry "y" 2].filter fun v => 1 + 1 ≤ v.index.toNat) := by
    decide
  have hruns (count : Nat) := generation_names_captured_first _ _ _ _ _
    (Capturing.returningLambda true [Capturing.a] count _) (by decide) (by decide) hfree
    [entry "y" 2, entry "z" 3] (by decide) hlater ["a", "y", "z"] rfl 2 0 {} (fun _ _ => rfl)
  have hfull := (hruns 3).1 (by decide)
  have hshort := (hruns 4).2 (by decide)
  refine ⟨hfree, ?_, ?_, hshort.outcome⟩
  · rw [Capturing.render, hfull.sink]
    decide
  · rw [Capturing.render, hshort.sink]
    decide

/-- If the declared table has entries for all parameters already, the header goes through these and
the captured variables in turns, and stops after as many names as there are parameters. So it has
the declared names if nothing is captured, or if there is one parameter at most. -/
theorem generation_weaves_captured (c : Collaborators) (site : Site) (i : Inlining)
    (declared : Method) (body : List Element) (h : ReturningLambda c site i declared body)
    (count : Nat) (hcount : count = declared.signature.parameters.length)
    (hnamed : NamesSlots (firstParameter i.target + count) declared.locals)
    (hfits : firstParameter i.target + i.target.captured.length ≤ 65536) (names : List String)
    (hnames : names = (weave (slotNames declared (firstParameter i.target) count)
      (i.target.captured.map Variable.name)).take count)
    (depth level : Nat) (sink : Sink) (hopen : sink.Open) :
    ((Generator.mk catalog c).dispatcher (depth + 1) ⟨c, level⟩ site sink).EndsAs
      (returned ((Generator.mk catalog c).dispatcher depth) ⟨c, level⟩ site body
        (sink.add (header names))) ∧
    (i.target.captured = [] ∨ count ≤ 1 →
      names = slotNames declared (firstParameter i.target) count) := by
  constructor
  · obtain ⟨hall, hwoven⟩ := hnamed.names_sortByIndex hfits
    rw [← locals_withCaptured h.firstParameter_eq (fun _ => hnamed.sorted)] at hall hwoven
    have hheader := h.dispatch_header rfl (hcount ▸ hall) depth level hopen
    rw [← hcount, hwoven, ← hnames] at hheader
    exact hheader
  · intro hplain
    have hlength := hnamed.length_slotNames
    have hshort : i.target.captured.map Variable.name = [] ∨
        (slotNames declared (firstParameter i.target) count).length ≤ 1 := by
      rw [hlength, List.map_eq_nil_iff]
      exact hplain
    have hweave := take_weave hshort
    rw [hlength] at hweave
    rw [hnames, hweave]

theorem generation_weaves_captured_named :
    NamesSlots 4 [entry "this" 0, entry "x" 1, entry "y" 2, entry "z" 3] ∧
    (Capturing.render true [Capturing.a] 3
      [entry "this" 0, entry "x" 1, entry "y" 2, entry "z" 3]).sink.text =
        "(x, a, y) -> a + z" := by
  have hnamed : NamesSlots 4 [entry "this" 0, entry "x" 1, entry "y" 2, entry "z" 3] :=
    ⟨by decide, by decide⟩
  have hrun := generation_weaves_captured _ _ _ _ _
    (Capturing.returningLambda true [Capturing.a] 3 _) 3 rfl hnamed (by decide) ["x", "a", "y"]
    (by decide) 2 0 {} (fun _ _ => rfl)
  refine ⟨hnamed, ?_⟩
  rw [Capturing.render, hrun.1.sink]
  decide

/-- Both slots have names, but the captured variable stands in the place of the second. -/
theorem header_repeats_captured :
    ReturningLambda Capturing.collaborators
      ⟨Capturing.file 2 [entry "a" 0, entry "z" 1], Capturing.main,
        Capturing.root false [Capturing.a]⟩ (Capturing.inlining false [Capturing.a])
      (Capturing.declared 2 [entry "a" 0, entry "z" 1]) Capturing.body ∧
    NamesSlots 2 [entry "a" 0, entry "z" 1] ∧
    slotNames (Capturing.declared 2 [entry "a" 0, entry "z" 1]) 0 2 = ["a", "z"] ∧
    (Capturing.render false [Capturing.a] 2 [entry "a" 0, entry "z" 1]).sink.text =
      "(a, a) -> a + z" := by
  have hlambda := Capturing.returningLambda false [Capturing.a] 2 [entry "a" 0, entry "z" 1]
  have hbefore : ∀ x ∈ [entry "z" 1], (entry "a" 0).index < x.index := by decide
  have hlast : sortByIndex [entry "z" 1] = [entry "z" 1] :=
    sortByIndex_of_inSlotOrder (by decide)
  have hsame : capturedEntry.index = (entry "a" 0).index := rfl
  have hsorted : sortByIndex [entry "a" 0, entry "z" 1, capturedEntry] =
      [entry "a" 0, capturedEntry, entry "z" 1] :=
    (sortByIndex_pair hsame hbefore (List.forall_mem_nil _)).trans
      (by rw [List.append_nil, hlast])
  have hopen : Sink.Open {} := fun _ _ => rfl
  have hrun := hlambda.dispatch_header hsorted (by decide) 2 0 hopen
  refine ⟨hlambda, ⟨by decide, by decide⟩, by decide, ?_⟩
  rw [Capturing.render, Generator.dispatcher, hrun.sink]
  decide

end SourceRecovery.Java
