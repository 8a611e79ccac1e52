import Mathlib.Data.List.Basic
import SourceRecovery.Proofs.Descriptor
import SourceRecovery.Proofs.Selection

/-! # Boxing calls

The boxing of a boolean is told by the text of a descriptor, all other boxing by the types
themselves. Class names may hold anything but a slash, so two signatures can have the same text: a
name with `;L` in it looks like two parameters. One type alone is always determined by its
descriptor, and so are one primitive parameter and the result if the text has only one closing
parenthesis. That is the shape of a boxing method, so for these the text says as much as the types.
-/

namespace SourceRecovery

/-! ## Descriptors of one type -/

namespace ClassName

/-- Names have no separator of the internal form, so writing it loses nothing. -/
theorem eq_of_map_slashed {m n : ClassName}
    (h : m.text.toList.map slashed = n.text.toList.map slashed) : m = n := by
  have hm := (ofText_eq_iff m.text.toList m).mpr rfl
  have hn := (ofText_eq_iff m.text.toList n).mpr h
  exact hm.symm.trans hn

end ClassName

namespace JavaType

theorem spelling_ne_nil (t : JavaType) : t.spelling ≠ [] := by
  cases t <;> simp

/-- Whatever the names, two types are not spelled alike. -/
theorem eq_of_spelling {s t : JavaType} (h : s.spelling = t.spelling) : s = t := by
  induction s generalizing t with
  | primitive p =>
      cases t with
      | primitive q =>
          rw [spelling_primitive, spelling_primitive, List.singleton_inj] at h
          have hsame : some p = some q := by
            rw [← Primitive.ofLetter?_letter p, h, Primitive.ofLetter?_letter]
          rw [Option.some.inj hsame]
      | named n => simp at h
      | array t =>
          rw [spelling_primitive, spelling_array] at h
          exact absurd (List.cons.inj h).2.symm t.spelling_ne_nil
  | named m =>
      cases t with
      | primitive q => simp at h
      | named n =>
          rw [spelling_named, spelling_named, List.cons_inj_right, List.append_left_inj] at h
          rw [ClassName.eq_of_map_slashed h]
      | array t =>
          rw [spelling_named, spelling_array] at h
          exact absurd (List.cons.inj h).1 (by decide)
  | array s ih =>
      cases t with
      | primitive q =>
          rw [spelling_primitive, spelling_array] at h
          exact absurd (List.cons.inj h).2 s.spelling_ne_nil
      | named n =>
          rw [spelling_named, spelling_array] at h
          exact absurd (List.cons.inj h).1 (by decide)
      | array t =>
          rw [spelling_array, spelling_array, List.cons_inj_right] at h
          rw [ih h]

theorem isClass_iff (t : JavaType) (n : ClassName) : t.isClass n.text = true ↔ t = .named n := by
  cases t with
  | named m =>
      rw [isClass, beq_iff_eq, named.injEq]
      exact ⟨fun h => ClassName.ext (congrArg String.toList h), congrArg ClassName.text⟩
  | primitive p => simp [isClass]
  | array t => simp [isClass]

/-- One letter is one parameter. -/
theorem flatMap_spelling_eq_letter {ts : List JavaType} {p : Primitive}
    (h : ts.flatMap spelling = [p.letter]) : ts = [.primitive p] := by
  cases ts with
  | nil => simp at h
  | cons t rest =>
      rw [List.flatMap_cons] at h
      rcases List.append_eq_singleton_iff.mp h with ⟨hnil, _⟩ | ⟨hone, hnone⟩
      · exact absurd hnil t.spelling_ne_nil
      · have hrest : rest = [] := by
          cases rest with
          | nil => rfl
          | cons u more =>
              have hnil := List.flatMap_eq_nil_iff.mp hnone u List.mem_cons_self
              exact absurd hnil u.spelling_ne_nil
        rw [hrest, eq_of_spelling (hone.trans (spelling_primitive p).symm)]

end JavaType

/-! ## Descriptors of boxing methods -/

/-- A signature spelled like one that takes a primitive type and returns a class is that signature.
The closing parenthesis stands nowhere else in such a text, so it splits in one way, whatever names
the types of the other signature have. -/
theorem Signature.eq_of_descriptor {s : Signature} {p : Primitive} {n : ClassName}
    (hname : ')' ∉ n.text.toList)
    (h : s.descriptor = (Signature.mk [.primitive p] (.named n)).descriptor) :
    s = ⟨[.primitive p], .named n⟩ := by
  have hletter : ')' ∉ [p.letter] := by cases p <;> decide
  have hresult : ')' ∉ (JavaType.named n).spelling := by
    rw [JavaType.spelling_named]
    intro hmem
    have hinside : ')' ∈ n.text.toList.map ClassName.slashed := by simpa using hmem
    obtain ⟨c, hc, hslashed⟩ := List.mem_map.mp hinside
    rw [ClassName.slashed_eq_iff (by decide) (by decide)] at hslashed
    exact hname (hslashed ▸ hc)
  have htext : [p.letter] ++ ')' :: (JavaType.named n).spelling =
      s.parameters.flatMap JavaType.spelling ++ ')' :: s.result.spelling := by
    have hlists := congrArg String.toList h.symm
    rw [Descriptor.toList_signature, Descriptor.toList_signature] at hlists
    simpa [Descriptor.signatureSpelling] using hlists
  obtain ⟨hparameters, _, hspelled⟩ := (List.append_cons_inj_of_notMem hletter hresult).mp htext
  rw [← JavaType.flatMap_spelling_eq_letter hparameters.symm, JavaType.eq_of_spelling hspelled]

theorem Call.isStatic_iff (call : Call) : call.isStatic = true ↔ call.target = none := by
  rw [Call.isStatic, Option.isNone_iff_eq_none]

namespace Java

/-- A static call of `valueOf` on a wrapper class, from the primitive type to the wrapper. -/
structure Boxes (wrapper : String) (primitive : JavaType) (call : Call) : Prop where
  static : call.target = none
  name : call.callee.name = "valueOf"
  declaring : call.callee.declaring = .ofName wrapper
  signature : call.callee.signature = ⟨[primitive], .ofName wrapper⟩

theorem descriptor_eq_booleanBox_iff (s : Signature) :
    s.descriptor = "(Z)Ljava/lang/Boolean;" ↔ s = ⟨[.boolean], .ofName "java.lang.Boolean"⟩ := by
  have htext : (Signature.mk [.boolean] (.ofName "java.lang.Boolean")).descriptor =
      "(Z)Ljava/lang/Boolean;" := by decide
  constructor
  · intro h
    exact Signature.eq_of_descriptor (by decide) (h.trans htext.symm)
  · rintro rfl
    exact htext

theorem boxesBoolean_iff (call : Call) :
    boxesBoolean call = true ↔ Boxes "java.lang.Boolean" .boolean call ∧
      ∃ argument, call.arguments.head? = some argument ∧
        (argument.type = .int ∨ argument.type = .boolean) := by
  have hclass : call.callee.declaring.isClass "java.lang.Boolean" = true ↔
      call.callee.declaring = .ofName "java.lang.Boolean" :=
    JavaType.isClass_iff call.callee.declaring (.ofText "java.lang.Boolean")
  simp only [boxesBoolean, Bool.and_eq_true, beq_iff_eq, Option.any_eq_true, Bool.or_eq_true,
    Call.isStatic_iff, hclass, descriptor_eq_booleanBox_iff]
  constructor
  · rintro ⟨⟨⟨⟨hstatic, hdeclaring⟩, hname⟩, hsignature⟩, hargument⟩
    exact ⟨⟨hstatic, hname, hdeclaring, hsignature⟩, hargument⟩
  · rintro ⟨⟨hstatic, hname, hdeclaring, hsignature⟩, hargument⟩
    exact ⟨⟨⟨⟨hstatic, hdeclaring⟩, hname⟩, hsignature⟩, hargument⟩

theorem boxesPrimitive_iff (call : Call) :
    boxesPrimitive call = true ↔ ∃ entry ∈ wrappers, Boxes entry.1 entry.2 call := by
  simp only [boxesPrimitive, Bool.and_eq_true, beq_iff_eq, List.any_eq_true, Call.isStatic_iff]
  constructor
  · rintro ⟨⟨hstatic, hname⟩, entry, hentry, hdeclaring, hsignature⟩
    exact ⟨entry, hentry, hstatic, hname, hdeclaring, hsignature⟩
  · rintro ⟨entry, hentry, hstatic, hname, hdeclaring, hsignature⟩
    exact ⟨⟨hstatic, hname⟩, entry, hentry, hdeclaring, hsignature⟩

theorem accepts_callSelector (test : Context → Call → Bool) (ctx : Context) (site : Site) :
    (callSelector test).accepts ctx site = true ↔
      ∃ call, site.element.call? = some call ∧ test ctx call = true := by
  cases he : site.element
  case methodCall target callee arguments =>
    rw [Selector.accepts, consult_callSelector he]
    simp [Element.call?]
  all_goals simp [Selector.accepts, Selector.consult, callSelector, Selector.filter,
    Selector.ofKind, Element.kind, Element.call?, he]

/-- The text of a signature is the one for the boxing of a boolean exactly if its types are. So the
selector that compares texts makes the comparison of types that the other wrappers go through. -/
theorem descriptor_tells_booleanBox :
    (∀ s : Signature, s.descriptor = "(Z)Ljava/lang/Boolean;" ↔
      s.parameters = [.boolean] ∧ s.result = .ofName "java.lang.Boolean") ∧
    (∀ ctx site, booleanBoxSelector.accepts ctx site = true ↔
      ∃ call, site.element.call? = some call ∧ Boxes "java.lang.Boolean" .boolean call ∧
        ∃ argument, call.arguments.head? = some argument ∧
          (argument.type = .int ∨ argument.type = .boolean)) ∧
    (∀ ctx site, primitiveBoxSelector.accepts ctx site = true ↔
      ∃ call, site.element.call? = some call ∧
        ∃ entry ∈ wrappers, Boxes entry.1 entry.2 call) := by
  refine ⟨?_, ?_, ?_⟩
  · intro s
    rw [descriptor_eq_booleanBox_iff]
    obtain ⟨parameters, result⟩ := s
    rw [Signature.mk.injEq]
  · intro ctx site
    simp only [booleanBoxSelector, accepts_callSelector, boxesBoolean_iff]
  · intro ctx site
    simp only [primitiveBoxSelector, accepts_callSelector, boxesPrimitive_iff]

-- With two parameters the text is not enough.
example : (Signature.mk [.ofName "A", .ofName "B"] .void).descriptor =
    (Signature.mk [.ofName "A;LB"] .void).descriptor := by
  decide

end Java

end SourceRecovery
