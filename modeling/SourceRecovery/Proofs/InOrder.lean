import Mathlib.Data.List.Forall2
import SourceRecovery.Proofs.Registration
import SourceRecovery.Proofs.Unbounded

/-! # Binary operators in order

No parentheses are written around the operands of a binary operator. So a tree of such operators
reads as its operands and operators from left to right, and the way they are grouped is lost: trees
with the same sequence come to the same end and leave the same text, also where an operand fails.
-/

namespace SourceRecovery

namespace Element

def operands : Element → List Element
  | .binaryOperator left _ right _ => left.operands ++ right.operands
  | e => [e]

def operators : Element → List Operator
  | .binaryOperator left op right _ => left.operators ++ op :: right.operators
  | _ => []

theorem length_operands (e : Element) : e.operands.length = e.operators.length + 1 := by
  induction e using Element.induction_children with
  | step e ih =>
      cases e
      case binaryOperator left op right type =>
        have hleft := ih left (by simp [children])
        have hright := ih right (by simp [children])
        simp only [operands, operators, List.length_append, List.length_cons]
        omega
      all_goals rfl

end Element

namespace Java

/-! ## Plans of a sequence -/

/-- The pieces between two operands. Negation has no symbol, and is not asked for here. -/
def separatorPieces (op : Operator) : List String := [" ", op.symbol?.getD "", " "]

def inOrderPlan (ctx : Context) (site : Site) : List Element → List Operator → Plan
  | [], _ => .done
  | e :: _, [] => ctx.generate site e
  | e :: es, op :: ops =>
      ctx.generate site e ++ .texts (separatorPieces op) ++ inOrderPlan ctx site es ops

theorem inOrderPlan_append (ctx : Context) (site : Site) {first : List Element}
    {ops : List Operator} (h : first.length = ops.length + 1) (op : Operator)
    (second : List Element) (more : List Operator) :
    inOrderPlan ctx site (first ++ second) (ops ++ op :: more) =
      inOrderPlan ctx site first ops ++ .texts (separatorPieces op) ++
        inOrderPlan ctx site second more := by
  induction ops generalizing first with
  | nil =>
      obtain ⟨e, rfl⟩ := List.length_eq_one_iff.mp h
      rfl
  | cons o ops ih =>
      cases first with
      | nil => cases h
      | cons e first =>
          have hrest := ih (Nat.succ.inj h)
          simp only [List.cons_append, inOrderPlan, hrest, Plan.append_assoc]

theorem plan_binaryOperator (ctx : Context) (site : Site) {left right : Element} {op : Operator}
    {type : JavaType} (hnot : op ≠ .not) :
    plan ctx (site.focus (.binaryOperator left op right type)) =
      ctx.generate site left ++ .texts (separatorPieces op) ++ ctx.generate site right := by
  cases hsymbol : op.symbol? with
  | none => exact absurd (Operator.symbol?_eq_none_iff.mp hsymbol) hnot
  | some symbol =>
      have hplan : plan ctx (site.focus (.binaryOperator left op right type)) =
          ctx.generate site left ++ .text " " ++ .text symbol ++ .text " " ++
            ctx.generate site right := by
        show binaryOperator ctx (site.focus (.binaryOperator left op right type)) = _
        simp only [binaryOperator, Site.focus, hsymbol]
        rfl
      rw [hplan, separatorPieces, hsymbol]
      simp only [Plan.append_assoc]
      rfl

/-- A tree leaves what its operands and operators leave from left to right. -/
theorem generate_leaveAlike_inOrder (ctx : Context) (site : Site) (e : Element)
    (hnot : .not ∉ e.operators) :
    catalog.LeaveAlike builtin (ctx.generate site e)
      (inOrderPlan ctx site e.operands e.operators) := by
  induction e using Element.induction_children with
  | step e ih =>
      cases e
      case binaryOperator left op right type =>
        simp only [Element.operators, List.mem_append, List.mem_cons, not_or] at hnot
        have hleft := ih left (by simp [Element.children]) hnot.1
        have hright := ih right (by simp [Element.children]) hnot.2.2
        have hstages := @Catalog.generate_leaveAlike catalog builtin ctx site
          (.binaryOperator left op right type)
        rw [stages_catalog, plan_binaryOperator ctx site (Ne.symm hnot.2.1)] at hstages
        refine hstages.trans ?_
        rw [Element.operands, Element.operators, inOrderPlan_append ctx site left.length_operands]
        exact (hleft.append (.refl _)).append hright
      all_goals exact .refl _

/-! ## What a sequence comes to -/

/-- From some depth on, generation of the element at the site ends and leaves this. -/
def ComesTo (ctx : Context) (site : Site) (e : Element) (sink : Sink)
    (left : Except GenerationError Unit × Sink) : Prop :=
  ∃ bound, ∀ depth, bound ≤ depth →
    ((Generator.mk catalog ctx.collaborators).dispatcher depth ctx (site.focus e) sink).observed =
      some left

section Sequence

variable {ctx : Context} {site : Site}

theorem comesTo_iff {e : Element} {sink : Sink} {left : Except GenerationError Unit × Sink} :
    ComesTo ctx site e sink left ↔ catalog.Leaves builtin (ctx.generate site e) sink left := by
  constructor
  · rintro ⟨bound, hbound⟩
    refine ⟨bound, ?_⟩
    rw [Catalog.observed_generate]
    exact hbound bound (Nat.le_refl bound)
  · rintro ⟨bound, hbound⟩
    refine ⟨bound, fun depth hle => ?_⟩
    have hdepth := Catalog.observed_of_le hle hbound
    rwa [Catalog.observed_generate] at hdepth

/-- A run that is not cut short leaves what generation comes to. -/
theorem comesTo_of_observed (depth : Nat) {e : Element} {sink : Sink}
    {left : Except GenerationError Unit × Sink}
    (h : ((Generator.mk catalog ctx.collaborators).dispatcher depth ctx
      (site.focus e) sink).observed = some left) : ComesTo ctx site e sink left := by
  refine comesTo_iff.mpr ⟨depth, ?_⟩
  rw [Catalog.observed_generate]
  exact h

/-- What an open sink holds before makes no difference to the text that is added. -/
theorem dispatch_of_open (depth : Nat) (site : Site) {sink : Sink} (hopen : sink.Open) :
    (catalog.dispatch builtin depth ctx site sink).EndsAs
      { catalog.dispatch builtin depth ctx site {} with
        sink := sink.add (catalog.dispatch builtin depth ctx site {}).sink.text } := by
  obtain ⟨held, policy⟩ := sink
  -- An open sink is one whose test every piece passes.
  have hpolicy : policy = fun _ _ => .whole := funext₂ hopen
  subst hpolicy
  have hredo := dispatch_gates (fun _ _ => true) depth ctx site {} (fun _ _ => rfl) held
  rw [Run.through, Run.redo_of_takes _ (Sink.takes_of_open held _), ← Run.pieces,
    ← dispatch_written] at hredo
  exact ⟨congrArg Run.outcome hredo, congrArg Run.sink hredo⟩

theorem leaves_of_open {e : Element} {text : String}
    (h : ComesTo ctx site e {} (.ok (), { text := text })) {sink : Sink} (hopen : sink.Open) :
    catalog.Leaves builtin (ctx.generate site e) sink (.ok (), sink.add text) := by
  obtain ⟨depth, hdepth⟩ := h
  have hempty : (catalog.dispatch builtin depth ctx (site.focus e) {}).observed =
      some (.ok (), { text := text }) := hdepth depth (Nat.le_refl depth)
  refine ⟨depth, ?_⟩
  rw [Catalog.observed_generate, (dispatch_of_open depth (site.focus e) hopen).observed_eq,
    Run.observed_withSink, hempty, Run.observed_sink hempty]
  rfl

theorem leaves_separator (op : Operator) {sink : Sink} (hopen : sink.Open) :
    catalog.Leaves builtin (.texts (separatorPieces op)) sink
      (.ok (), sink.add (" " ++ op.symbol?.getD "" ++ " ")) := by
  have hjoin : String.join (separatorPieces op) = " " ++ op.symbol?.getD "" ++ " " := by
    simp only [separatorPieces, String.join_cons, String.join_nil, String.append_empty,
      String.append_assoc]
  have hrun := (Plan.run_texts_append (catalog.dispatch builtin 0) (separatorPieces op) .done
    hopen).observed_eq
  rw [Plan.append_done, hjoin] at hrun
  exact ⟨0, hrun⟩

def inOrderText : List String → List Operator → String
  | [], _ => ""
  | text :: _, [] => text
  | text :: texts, op :: ops =>
      text ++ (" " ++ op.symbol?.getD "" ++ " ") ++ inOrderText texts ops

theorem leaves_inOrderText {es : List Element} {texts : List String}
    (h : List.Forall₂ (fun e text => ComesTo ctx site e {} (.ok (), { text := text })) es texts)
    (ops : List Operator) {sink : Sink} (hopen : sink.Open) :
    catalog.Leaves builtin (inOrderPlan ctx site es ops) sink
      (.ok (), sink.add (inOrderText texts ops)) := by
  induction h generalizing ops sink with
  | nil =>
      rw [inOrderText, Sink.add_empty]
      exact ⟨0, rfl⟩
  | @cons e text es texts hfirst _ ih =>
      cases ops with
      | nil => exact leaves_of_open hfirst hopen
      | cons op ops =>
          have hseparator := leaves_separator op (hopen.add text)
          have hrest := ih ops ((hopen.add text).add (" " ++ op.symbol?.getD "" ++ " "))
          rw [Sink.add_add, Sink.add_add] at hrest
          rw [Sink.add_add] at hseparator
          exact ((leaves_of_open hfirst hopen).append hseparator).append hrest

/-- A sequence ends if its operands do, whatever the sink makes of their texts. -/
theorem exists_leaves_inOrder {es : List Element}
    (h : ∀ e ∈ es, ∀ sink, ∃ left, ComesTo ctx site e sink left) (ops : List Operator)
    (sink : Sink) : ∃ left, catalog.Leaves builtin (inOrderPlan ctx site es ops) sink left := by
  induction es generalizing ops sink with
  | nil => exact ⟨_, 0, rfl⟩
  | cons e es ih =>
      obtain ⟨hfirst, hrest⟩ := List.forall_mem_cons.mp h
      have hoperand : ∃ left, catalog.Leaves builtin (ctx.generate site e) sink left :=
        (hfirst sink).imp fun _ => comesTo_iff.mp
      cases ops with
      | nil => exact hoperand
      | cons op ops =>
          have hbehind := Catalog.Leaves.exists_append hoperand
            (Catalog.exists_leaves_texts (separatorPieces op))
          exact Catalog.Leaves.exists_append hbehind (ih hrest ops)

end Sequence

/-- Two trees read as one sequence: from every sink both come to the same end, however deep each
run may go. The first ends if its operands do, and if they end well in texts of their own, it adds
these with the operators between them. -/
structure ReadsInOrder (ctx : Context) (site : Site) (a b : Element) : Prop where
  alike : ∀ sink left, ComesTo ctx site a sink left ↔ ComesTo ctx site b sink left
  observed : ∀ depth other sink left right,
    ((Generator.mk catalog ctx.collaborators).dispatcher depth ctx (site.focus a) sink).observed =
      some left →
    ((Generator.mk catalog ctx.collaborators).dispatcher other ctx (site.focus b) sink).observed =
      some right →
    left = right
  ends : (∀ e ∈ a.operands, ∀ sink, ∃ left, ComesTo ctx site e sink left) →
    ∀ sink, ∃ left, ComesTo ctx site a sink left
  text : ∀ texts,
    List.Forall₂ (fun e text => ComesTo ctx site e {} (.ok (), { text := text }))
      a.operands texts →
    ∀ sink : Sink, sink.Open →
      ComesTo ctx site a sink (.ok (), sink.add (inOrderText texts a.operators))

/-- Trees of binary operators with the same operands and operators in order are rendered alike,
however they are grouped and typed. -/
theorem generation_reads_in_order (ctx : Context) (site : Site) (a b : Element)
    (hoperands : a.operands = b.operands) (hoperators : a.operators = b.operators)
    (hnot : .not ∉ a.operators) : ReadsInOrder ctx site a b := by
  have hfirst := generate_leaveAlike_inOrder ctx site a hnot
  have hsecond := generate_leaveAlike_inOrder ctx site b (hoperators ▸ hnot)
  have halike (sink : Sink) (left : Except GenerationError Unit × Sink) :
      ComesTo ctx site a sink left ↔ ComesTo ctx site b sink left := by
    rw [comesTo_iff, comesTo_iff, hfirst sink left, hsecond sink left, hoperands, hoperators]
  refine ⟨halike, ?_, ?_, ?_⟩
  · intro depth other sink left right hleft hright
    have hcomes := (halike sink left).mp (comesTo_of_observed depth hleft)
    exact (comesTo_iff.mp hcomes).unique (comesTo_iff.mp (comesTo_of_observed other hright))
  · intro hends sink
    obtain ⟨left, hleft⟩ := exists_leaves_inOrder hends a.operators sink
    exact ⟨left, comesTo_iff.mpr ((hfirst sink left).mpr hleft)⟩
  · intro texts htexts sink hopen
    exact comesTo_iff.mpr ((hfirst sink _).mpr (leaves_inOrderText htexts a.operators hopen))

namespace Grouped

def named (name : String) : Element := .variableReference ⟨name, .int, 1⟩

/-- No rule renders this. -/
def assignment : Element := .fieldAssignment none ⟨.object, .int, "count"⟩ (named "v")

def product (middle : Element) : Element :=
  .binaryOperator (.binaryOperator (named "x") .minus middle .int) .multiply (named "z") .int

def difference (middle : Element) : Element :=
  .binaryOperator (named "x") .minus (.binaryOperator middle .multiply (named "z") .boolean) .object

def Leaves (e : Element) (result : Except GenerationError Unit) (text : String) : Prop :=
  ComesTo Catalog.Layered.context Catalog.Layered.site e {} (result, { text := text })

end Grouped

theorem generation_reads_in_order_grouped :
    Grouped.product (Grouped.named "y") ≠ Grouped.difference (Grouped.named "y") ∧
    (Grouped.Leaves (Grouped.product (Grouped.named "y")) (.ok ()) "x - y * z" ∧
      Grouped.Leaves (Grouped.difference (Grouped.named "y")) (.ok ()) "x - y * z") ∧
    ∃ e, Grouped.Leaves (Grouped.product Grouped.assignment) (.error e) "x - " ∧
      Grouped.Leaves (Grouped.difference Grouped.assignment) (.error e) "x - " := by
  have halike := generation_reads_in_order Catalog.Layered.context Catalog.Layered.site
    (Grouped.product (Grouped.named "y")) (Grouped.difference (Grouped.named "y")) rfl rfl
    (by decide)
  have hfailing := generation_reads_in_order Catalog.Layered.context Catalog.Layered.site
    (Grouped.product Grouped.assignment) (Grouped.difference Grouped.assignment) rfl rfl
    (by decide)
  have hnamed (name : String) : Grouped.Leaves (Grouped.named name) (.ok ()) ("" ++ name) :=
    comesTo_of_observed 1 rfl
  have hproduct : Grouped.Leaves (Grouped.product (Grouped.named "y")) (.ok ()) "x - y * z" :=
    halike.text ["x", "y", "z"]
      (.cons (hnamed "x") (.cons (hnamed "y") (.cons (hnamed "z") .nil))) {} fun _ _ => rfl
  have htypes : (Grouped.product (Grouped.named "y")).type ≠
      (Grouped.difference (Grouped.named "y")).type := by decide
  obtain ⟨e, hbroken⟩ : ∃ e,
      Grouped.Leaves (Grouped.product Grouped.assignment) (.error e) "x - " :=
    ⟨_, comesTo_of_observed 3 rfl⟩
  exact ⟨fun h => htypes (congrArg Element.type h),
    ⟨hproduct, (halike.alike _ _).mp hproduct⟩, e, hbroken, (hfailing.alike _ _).mp hbroken⟩

end Java

end SourceRecovery
