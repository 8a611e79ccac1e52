import SourceRecovery.Proofs.Recorded
import SourceRecovery.Proofs.Returning

/-! # Statements of lambdas written in place

No statement of a body is lost or handed back twice. A lone return stands for its value, a bare
return at the end is left out, and every other statement is handed back in its turn. Bodies that
take more than one line become a block, whose statements are one level further in.
-/

namespace SourceRecovery.Java

open Plan (Does)

/-! ## Blocks -/

/-- What stands before a statement of a block. -/
def margin (level : Nat) : String := String.join (List.replicate level Context.indentUnit)

theorem indentation_eq_texts (ctx : Context) :
    ctx.indentation = .texts (List.replicate ctx.level Context.indentUnit) := by
  rw [Context.indentation, Plan.texts, List.map_replicate]

section

variable {d : Dispatcher} {ctx : Context} {site : Site}

theorem does_line {sink : Sink} (hopen : sink.Open) {statement : Element} {text : String}
    (h : d.Writes ctx (site.focus statement) (sink.add (margin ctx.level)) text .ok) :
    (ctx.indentation ++ ctx.generate site statement ++ .text ";\n").Does d sink .ok
      (sink.add (margin ctx.level ++ text ++ ";\n")) [(ctx.level, site.focus statement)] := by
  have hmargin := Does.texts d hopen (List.replicate ctx.level Context.indentUnit)
  rw [← indentation_eq_texts] at hmargin
  have hline := (hmargin.append (Does.generate h)).append
    (Does.text d ((hopen.add _).add text) ";\n")
  rw [Sink.add_add, Sink.add_add, ← String.append_assoc] at hline
  exact hline

theorem does_lines {sink : Sink} (hopen : sink.Open) {statements : List Element}
    {texts : List String}
    (h : d.WritesEach ctx site (margin ctx.level) ";\n" sink statements texts) :
    (Plan.concat (statements.map fun statement =>
      ctx.indentation ++ ctx.generate site statement ++ .text ";\n")).Does d sink .ok
        (sink.add (String.join (texts.map (margin ctx.level ++ · ++ ";\n"))))
        (statements.map fun statement => (ctx.level, site.focus statement)) := by
  induction h with
  | nil sink =>
      simp only [List.map_nil, String.join_nil, Sink.add_empty]
      exact Does.done d sink
  | cons hwrites _ ih =>
      have hlines := (does_line hopen hwrites).append (ih (hopen.add _))
      rw [Sink.add_add, ← String.join_cons] at hlines
      exact hlines

theorem does_block {sink : Sink} (hopen : sink.Open) {statements : List Element}
    {texts : List String}
    (h : d.WritesEach ctx.deeper site (margin (ctx.level + 1)) ";\n" (sink.add "() -> \x7b\n")
      statements texts) :
    (block ctx site statements).Does d sink .ok
      (sink.add ("() -> \x7b\n" ++
        String.join (texts.map (margin (ctx.level + 1) ++ · ++ ";\n"))))
      (statements.map fun statement => (ctx.level + 1, site.focus statement)) := by
  have hlines := does_lines (hopen.add "() -> \x7b\n") h
  have hblock := (Does.text d hopen "() -> \x7b\n").append hlines
  rw [Sink.add_add] at hblock
  exact hblock

/-! ## Bodies -/

/-- What is handed back of a body: the value of a lone return, or else the statements without a bare
return at the end. -/
structure HandedOver (body elements : List Element) : Prop where
  value : ∀ value, body = [.returnValue value] → elements = [value]
  ended : ∀ statements, body = statements ++ [.return] → elements = statements
  other : (∀ value, body ≠ [.returnValue value]) → (∀ statements, body ≠ statements ++ [.return]) →
    elements = body

def InBlock (body : List Element) : Prop :=
  body = [] ∨ body.length = 2 ∧ body.getLast? ≠ some .return ∨ 3 ≤ body.length

theorem singleton_ne_concat_return {statement : Element} (h : statement ≠ .return)
    (statements : List Element) : [statement] ≠ statements ++ [.return] := by
  intro heq
  have hlast := congrArg List.getLast? heq
  rw [List.getLast?_concat] at hlast
  exact h (Option.some.inj hlast)

theorem handedOver_value (value : Element) : HandedOver [.returnValue value] [value] := by
  refine ⟨?_, ?_, fun hvalue => absurd rfl (hvalue value)⟩
  · intro other h
    cases h
    rfl
  · intro statements h
    exact absurd h (singleton_ne_concat_return (by simp) statements)

theorem handedOver_single {statement : Element} (hvalue : ∀ value, statement ≠ .returnValue value)
    (hreturn : statement ≠ .return) : HandedOver [statement] [statement] := by
  refine ⟨?_, ?_, fun _ _ => rfl⟩
  · intro value h
    cases h
    exact absurd rfl (hvalue value)
  · intro statements h
    exact absurd h (singleton_ne_concat_return hreturn statements)

theorem handedOver_withoutFinalReturn {body : List Element}
    (h : ∀ value, body ≠ [.returnValue value]) : HandedOver body (withoutFinalReturn body) := by
  refine ⟨fun value hvalue => absurd hvalue (h value), ?_, ?_⟩
  · rintro statements rfl
    rw [withoutFinalReturn, List.getLast?_concat, List.dropLast_concat]
  · intro _ hended
    unfold withoutFinalReturn
    split
    · next hlast =>
        obtain ⟨statements, hbody⟩ := List.getLast?_eq_some_iff.mp hlast
        exact absurd hbody (hended statements)
    · rfl

/-- These are the bodies that are rendered one level further in. -/
theorem inBlock_iff (body : List Element) : InBlock body ↔ writtenAsBlock body = true := by
  rcases body with _ | ⟨first, _ | ⟨second, _ | ⟨third, rest⟩⟩⟩
  · simp [InBlock, writtenAsBlock]
  · simp [InBlock, writtenAsBlock]
  · cases second <;> simp [InBlock, writtenAsBlock]
  · simp [InBlock, writtenAsBlock]

theorem not_inBlock {body : List Element} (h : writtenAsBlock body = false) : ¬InBlock body := by
  rw [inBlock_iff, h]
  exact Bool.false_ne_true

/-- What a lambda with this body hands back, and the block that it writes if it writes one. -/
structure HandsBody (p : Plan) (d : Dispatcher) (ctx : Context) (site : Site) (sink : Sink)
    (body elements : List Element) : Prop where
  handed : HandedOver body elements
  inLine : ¬InBlock body → ∃ left,
    p.Does d sink .ok left (elements.map fun e => (ctx.level, site.focus e))
  inBlock : InBlock body → ∃ texts,
    d.WritesEach ctx.deeper site (margin (ctx.level + 1)) ";\n" (sink.add "() -> \x7b\n")
      elements texts ∧
    p.Does d sink .ok
      (sink.add ("() -> \x7b\n" ++ String.join (texts.map (margin (ctx.level + 1) ++ · ++ ";\n"))))
      (elements.map fun e => (ctx.level + 1, site.focus e))

theorem HandsBody.of_inLine {p : Plan} {sink left : Sink} {body elements : List Element}
    (hhanded : HandedOver body elements) (hbody : ¬InBlock body)
    (hdoes : p.Does d sink .ok left (elements.map fun e => (ctx.level, site.focus e))) :
    HandsBody p d ctx site sink body elements :=
  ⟨hhanded, fun _ => ⟨left, hdoes⟩, fun hblock => absurd hblock hbody⟩

theorem HandsBody.mark {p : Plan} {sink : Sink} {body elements : List Element}
    (h : HandsBody p d ctx site sink body elements) (m : Mark) :
    HandsBody (.mark m p) d ctx site sink body elements where
  handed := h.handed
  inLine hbody := (h.inLine hbody).imp fun _ hdoes => hdoes.mark m
  inBlock hbody := (h.inBlock hbody).imp fun _ hdoes => ⟨hdoes.1, hdoes.2.mark m⟩

theorem does_parameters (d : Dispatcher) (site : Site) {target : LambdaTarget} {backing : Method}
    (h : backing.signature.parameters.length ≤ (parameterEntries target backing).length)
    {sink : Sink} (hopen : sink.Open) :
    (parameters site target backing).Does d sink .ok (sink.add (header
      (((parameterEntries target backing).take backing.signature.parameters.length).map
        LocalVariable.name))) [] := by
  rw [parameters_eq_texts site target backing h, ← join_headerPieces]
  exact Does.texts d hopen _

/-- The cases are those in which bodies are told apart when they are written. -/
theorem inlinedBody_handsBody (hsucceeds : d.Succeeds) (happends : d.Appends)
    (target : LambdaTarget) (backing : Method) {body : List Element}
    (hnamed : onlyReturns body = true →
      backing.signature.parameters.length ≤ (parameterEntries target backing).length)
    {sink : Sink} (hopen : sink.Open) :
    ∃ elements, HandsBody (inlinedBody ctx site target backing body) d ctx site sink body
      elements := by
  unfold inlinedBody
  split
  · next value =>
      have hheader := does_parameters d site (hnamed rfl) hopen
      obtain ⟨text, hwrites⟩ := hsucceeds.exists_writes happends ctx (site.focus value)
        (hopen.add _)
      exact ⟨[value], .of_inLine (handedOver_value value) (not_inBlock rfl)
        (hheader.append (Does.generate hwrites))⟩
  · have hheader := does_parameters d site (hnamed rfl) hopen
    have hhanded : HandedOver [.return] [] := handedOver_withoutFinalReturn (by simp)
    exact ⟨[], .of_inLine hhanded (not_inBlock rfl)
      (hheader.append (Does.text d (hopen.add _) "\x7b\x7d"))⟩
  · next statement hvalue hreturn =>
      have hhanded : HandedOver [statement] [statement] := handedOver_single hvalue hreturn
      obtain ⟨text, hwrites⟩ := hsucceeds.exists_writes happends ctx (site.focus statement) hopen
      exact ⟨[statement], .of_inLine hhanded (not_inBlock rfl) (Does.generate hwrites)⟩
  · next statement =>
      have hhanded : HandedOver [statement, .return] [statement] :=
        handedOver_withoutFinalReturn (by simp)
      obtain ⟨text, hwrites⟩ := hsucceeds.exists_writes happends ctx (site.focus statement)
        (hopen.add "() -> ")
      exact ⟨[statement], .of_inLine hhanded (not_inBlock rfl)
        ((Does.text d hopen "() -> ").append (Does.generate hwrites))⟩
  · next hvalue _ hsingle hpair =>
      have hblock : InBlock body := (inBlock_iff body).mpr (writtenAsBlock_of_ne hsingle hpair)
      obtain ⟨texts, hwrites⟩ := hsucceeds.exists_writesEach happends ctx.deeper site
        (margin (ctx.level + 1)) ";\n" (hopen.add "() -> \x7b\n") (withoutFinalReturn body)
      exact ⟨withoutFinalReturn body, handedOver_withoutFinalReturn hvalue,
        fun hnot => absurd hblock hnot, fun _ => ⟨texts, hwrites, does_block hopen hwrites⟩⟩

end

/-- Unless a header lacks a name, the lambda hands back what its body holds, each element once and
in order, and writes a block if the body takes one. -/
theorem inlined_hands_body (d : Dispatcher) (hsucceeds : d.Succeeds) (happends : d.Appends)
    (ctx : Context) (site : Site) (i : Inlining) (declared backing : Method) (body : List Element)
    (hinlined : site.element.inlining? = some i)
    (hfound : site.classFile.method? i.target.name = some declared)
    (hbacking : backing = withCaptured declared i.hasReceiver i.target.captured)
    (hcode : ctx.decompile backing = .ok body)
    (hnamed : onlyReturns body = true → ∀ position < backing.signature.parameters.length,
      (parameterLocal? i.target backing position).isSome)
    (sink : Sink) (hopen : sink.Open) :
    ∃ elements, HandsBody ((catalog.select ctx site).stages builtin ctx site) d ctx site sink body
      elements := by
  have hentries (hreturns : onlyReturns body = true) :
      backing.signature.parameters.length ≤ (parameterEntries i.target backing).length :=
    length_le_of_named i.target backing (hnamed hreturns)
  obtain ⟨elements, hhands⟩ :=
    inlinedBody_handsBody hsucceeds happends i.target backing hentries hopen
  obtain ⟨_, _, hplan⟩ := plan_decompiled ctx hinlined hfound hbacking hcode
  rw [stages_catalog, hplan]
  exact ⟨elements, hhands.mark _ |>.mark _⟩

namespace Lines

def statements : List Element := [.variableAssignment Capturing.a (.ofValue (.int 1)), .goto 4]

def context : Context where
  collaborators := { Capturing.collaborators with
    decompiler := .ofTable [("lambda$0", .ok (statements ++ [.return]))] }
  level := 1

def site : Site := ⟨Capturing.file 2 [], Capturing.main, Capturing.root false []⟩

def stages : Plan := (catalog.select context site).stages builtin context site

end Lines

theorem inlined_hands_body_lines :
    InBlock (Lines.statements ++ [.return]) ∧
    Lines.stages.calls .outline {} =
      Lines.statements.map (fun statement => (2, Lines.site.focus statement)) ∧
    (Lines.stages.run .outline {}).sink.text =
      "() -> \x7b\n      <VARIABLE_ASSIGNMENT@2>;\n      <GOTO@2>;\n" := by
  have hblock : InBlock (Lines.statements ++ [.return]) := .inr (.inr (by decide))
  obtain ⟨elements, hhands⟩ := inlined_hands_body .outline Dispatcher.outline_succeeds
    Dispatcher.outline_appends Lines.context Lines.site (Capturing.inlining false [])
    (Capturing.declared 2 []) _ (Lines.statements ++ [.return]) rfl (by decide) rfl rfl
    (fun hreturns => absurd hreturns (by decide)) {} fun _ _ => rfl
  have helements := hhands.handed.ended Lines.statements rfl
  obtain ⟨_, _, hdoes⟩ := hhands.inBlock hblock
  rw [helements] at hdoes
  exact ⟨hblock, hdoes.calls, by decide⟩

end SourceRecovery.Java
