import SourceRecovery.Proofs.Levels
import SourceRecovery.Proofs.Returning

/-! # Slots of a backing method that is decompiled

The decompiler asks the method it is given for the names in its slots. For a lambda that captures
variables this is not the declared method but one with a larger table. A slot that the declared
table has an entry for keeps that entry, also if a captured variable came to stand in the same slot,
and the captured variables answer for their own slots otherwise.
-/

namespace SourceRecovery.Java

open LocalVariable

/-! ## Lookup in the merged table -/

/-- The entry that is made for the captured variable in a slot, if the slot is one of theirs. -/
def capturedAt? (first : Nat) (captured : List Variable) (slot : UInt16) : Option LocalVariable :=
  if slot.toNat < first then none
  else captured[slot.toNat - first]?.map fun var => ⟨none, var.name, var.type, slot⟩

theorem capturedAt?_nil (first : Nat) (slot : UInt16) : capturedAt? first [] slot = none := by
  simp [capturedAt?]

theorem capturedAt?_self {first : Nat} (hfits : first < UInt16.size) (var : Variable)
    (rest : List Variable) :
    capturedAt? first (var :: rest) (UInt16.ofNat first) =
      some ⟨none, var.name, var.type, UInt16.ofNat first⟩ := by
  have hslot : (UInt16.ofNat first).toNat = first := UInt16.toNat_ofNat_of_lt' hfits
  rw [capturedAt?, hslot, if_neg (Nat.lt_irrefl first), Nat.sub_self]
  rfl

theorem capturedAt?_cons_of_ne {first : Nat} {slot : UInt16} (h : slot.toNat ≠ first)
    (var : Variable) (rest : List Variable) :
    capturedAt? first (var :: rest) slot = capturedAt? (first + 1) rest slot := by
  unfold capturedAt?
  by_cases hlt : slot.toNat < first
  · rw [if_pos hlt, if_pos (by omega)]
  · have hnext : slot.toNat - first = slot.toNat - (first + 1) + 1 := by omega
    rw [if_neg hlt, if_neg (by omega), hnext, List.getElem?_cons_succ]

theorem find?_capturedEntries {first : Nat} {captured : List Variable}
    (hfits : first + captured.length ≤ UInt16.size) (slot : UInt16) :
    (capturedEntries first captured).find? (fun v => v.index == slot) =
      capturedAt? first captured slot := by
  induction captured generalizing first with
  | nil => rw [capturedAt?_nil]; rfl
  | cons var rest ih =>
      rw [List.length_cons] at hfits
      rw [capturedEntries_cons, List.find?_cons]
      by_cases hslot : UInt16.ofNat first = slot
      · rw [← hslot, beq_self_eq_true, capturedAt?_self (by omega)]
      · have hne : slot.toNat ≠ first := by
          intro heq
          exact hslot (by rw [← heq, UInt16.ofNat_toNat])
        rw [beq_false_of_ne hslot, ih (by omega), capturedAt?_cons_of_ne hne]

theorem capturedEntries_eq_mapIdx (first : Nat) (captured : List Variable) :
    capturedEntries first captured = captured.mapIdx fun position var =>
      ⟨none, var.name, var.type, UInt16.ofNat (first + position)⟩ := by
  rw [List.mapIdx_eq_zipIdx_map]
  rfl

/-! ## The method with captured variables -/

/-- The method answers for the slots of the declared one and for those of the captured variables,
which begin with `first`. But for its table it is the declared method. -/
structure Augments (declared : Method) (first : Nat) (captured : List Variable)
    (backing : Method) : Prop where
  lookup : ∀ slot,
    backing.localAt? slot = (declared.localAt? slot).or (capturedAt? first captured slot)
  entries : backing.locals.Perm (declared.locals ++ captured.mapIdx fun position var =>
    ⟨none, var.name, var.type, UInt16.ofNat (first + position)⟩)
  name : backing.name = declared.name
  signature : backing.signature = declared.signature
  flags : backing.flags = declared.flags
  code : backing.code = declared.code

theorem withCaptured_augments (declared : Method) (hasReceiver : Bool) {captured : List Variable}
    (hfits : captured.length < 65535) :
    Augments declared (if hasReceiver then 1 else 0) captured
      (withCaptured declared hasReceiver captured) := by
  generalize hfirst : (if hasReceiver then 1 else 0) = first
  cases captured with
  | nil =>
      refine ⟨fun slot => ?_, ?_, rfl, rfl, rfl, rfl⟩
      · rw [capturedAt?_nil, Option.or_none]
        rfl
      · rw [List.mapIdx_nil, List.append_nil]
        exact .refl _
  | cons var rest =>
      have hroom : first + (var :: rest).length ≤ UInt16.size := by
        have hsize : UInt16.size = 65536 := rfl
        have hle : first ≤ 1 := by
          rw [← hfirst]
          split <;> omega
        omega
      have hlocals : (withCaptured declared hasReceiver (var :: rest)).locals =
          sortByIndex (declared.locals ++ capturedEntries first (var :: rest)) :=
        locals_withCaptured hfirst.symm (fun hnil => absurd hnil (List.cons_ne_nil var rest))
      refine ⟨fun slot => ?_, ?_, rfl, rfl, rfl, rfl⟩
      · rw [Method.localAt?, hlocals, find?_sortByIndex, List.find?_append,
          find?_capturedEntries hroom]
        rfl
      · rw [hlocals, ← capturedEntries_eq_mapIdx]
        exact perm_sortByIndex _

/-! ## The method handed to the decompiler -/

/-- What a lambda written in place does first: it has the method with the captured variables
decompiled, and fails if that fails. -/
theorem dispatch_decompiles {c : Collaborators} {site : Site} {i : Inlining} {declared : Method}
    (hinlined : site.element.inlining? = some i)
    (hfound : site.classFile.method? i.target.name = some declared) (depth level : Nat)
    (sink : Sink) :
    (∃ later, (catalog.dispatch builtin (depth + 1) ⟨c, level⟩ site sink).decompiled =
      withCaptured declared i.hasReceiver i.target.captured :: later) ∧
    ∀ cause, c.decompiler (withCaptured declared i.hasReceiver i.target.captured) = .error cause →
      (catalog.dispatch builtin (depth + 1) ⟨c, level⟩ site sink).outcome =
        .error (.decompile declared.name site.classFile.name.text cause) := by
  obtain ⟨receiver, hreceiver, hplan⟩ := plan_inlined ⟨c, level⟩ hinlined
  have hname := Inlining.withCaptured_name declared i.hasReceiver i.target.captured
  rw [dispatch_succ, hplan, inlinedLambda, hfound, hreceiver]
  dsimp only
  constructor
  · exact ⟨_, rfl⟩
  · intro cause hcause
    rw [Plan.run, Context.decompile, hcause, ← hname]
    rfl

/-- The method that is decompiled for a lambda answers for the slots of the declared method and of
the captured variables. It is a copy: wherever the run goes on to, the class file still has the
declared method. -/
theorem generation_answers_for_slots (c : Collaborators) (site : Site) (i : Inlining)
    (declared : Method) (hinlined : site.element.inlining? = some i)
    (hfound : site.classFile.method? i.target.name = some declared)
    (hfits : i.target.captured.length < 65535) (depth level : Nat) (sink : Sink) :
    ∃ backing later,
      ((Generator.mk catalog c).dispatcher (depth + 1) ⟨c, level⟩ site sink).decompiled =
        backing :: later ∧
      Augments declared (if i.hasReceiver then 1 else 0) i.target.captured backing ∧
      (∀ cause, c.decompiler backing = .error cause →
        ((Generator.mk catalog c).dispatcher (depth + 1) ⟨c, level⟩ site sink).outcome =
          .error (.decompile declared.name site.classFile.name.text cause)) ∧
      ∀ x ∈ ((Generator.mk catalog c).dispatcher (depth + 1) ⟨c, level⟩ site sink).dispatches,
        x.2.classFile.method? i.target.name = some declared := by
  obtain ⟨⟨later, hfirst⟩, hfails⟩ := dispatch_decompiles hinlined hfound depth level sink
  refine ⟨withCaptured declared i.hasReceiver i.target.captured, later, hfirst,
    withCaptured_augments declared i.hasReceiver hfits, hfails, ?_⟩
  intro x hx
  obtain ⟨o, _, hplaced⟩ := exists_occurrence c level hx
  rw [hplaced]
  exact hfound

open Capturing (entry)

/-- Slot 1 has two entries of its own before that of a captured variable. -/
theorem generation_answers_for_slots_shadowed :
    [Capturing.a, ⟨"b", .int, 8⟩].length < 65535 ∧
    ∃ backing later,
      (Capturing.render true [Capturing.a, ⟨"b", .int, 8⟩] 3
        [entry "z" 3, entry "x" 1, entry "old" 1]).decompiled = backing :: later ∧
      backing.localAt? 0 = none ∧
      backing.localAt? 1 = some (entry "x" 1) ∧
      backing.localAt? 2 = some ⟨none, "b", .int, 2⟩ ∧
      backing.localAt? 3 = some (entry "z" 3) ∧
      backing.localAt? 4 = none ∧
      backing.locals.length = 5 := by
  have hlambda := Capturing.returningLambda true [Capturing.a, ⟨"b", .int, 8⟩] 3
    [entry "z" 3, entry "x" 1, entry "old" 1]
  obtain ⟨backing, later, hfirst, haugments, _⟩ := generation_answers_for_slots _ _ _ _
    hlambda.inlined hlambda.found (by decide) 2 0 {}
  refine ⟨by decide, backing, later, hfirst, ?_⟩
  rw [haugments.entries.length_eq]
  simp only [haugments.lookup]
  decide

end SourceRecovery.Java
