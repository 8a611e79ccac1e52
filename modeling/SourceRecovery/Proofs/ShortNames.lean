import Mathlib.Data.List.Basic
import SourceRecovery.Type.Basic

/-! # Short names of types

A name without its package is cut from the written name of a type, brackets and all. A simple name
is put together along the type, from the class name at the bottom, which is cut at `.` and again at
`$`. Brackets hold no separator, so both can be compared class by class: they differ exactly where a
nested class has a name of its own.
-/

namespace SourceRecovery

namespace Segment

variable {sep : Char} {text part more : List Char}

/-- The part is what follows the last separator of the text, or all of the text if there is none. -/
structure Follows (sep : Char) (text part : List Char) : Prop where
  free : sep ∉ part
  cut : part = text ∨ ∃ before, text = before ++ sep :: part

theorem splitLast?_append (hfree : sep ∉ part) (before : List Char) :
    splitLast? sep (before ++ sep :: part) = some (before, part) := by
  induction before with
  | nil =>
      have hnone := splitLast?_eq_none_iff.mpr hfree
      simp only [List.nil_append, splitLast?, hnone, if_pos]
  | cons c before ih => simp only [List.cons_append, splitLast?, ih]

theorem afterLast_of_free (hfree : sep ∉ text) : afterLast sep text = text := by
  rw [afterLast, splitLast?_eq_none_iff.mpr hfree]

theorem afterLast_append_cons (hfree : sep ∉ part) (before : List Char) :
    afterLast sep (before ++ sep :: part) = part := by
  rw [afterLast, splitLast?_append hfree]

theorem follows_afterLast (sep : Char) (text : List Char) :
    Follows sep text (afterLast sep text) := by
  cases hcut : splitLast? sep text with
  | none =>
      have hfree := splitLast?_eq_none_iff.mp hcut
      rw [afterLast_of_free hfree]
      exact ⟨hfree, .inl rfl⟩
  | some cut =>
      obtain ⟨htext, hfree⟩ := splitLast?_eq_some hcut
      rw [htext, afterLast_append_cons hfree]
      exact ⟨hfree, .inr ⟨cut.1, rfl⟩⟩

namespace Follows

/-- Only one part follows the last separator. -/
theorem eq_afterLast (h : Follows sep text part) : part = afterLast sep text := by
  rcases h.cut with hall | ⟨before, htext⟩
  · rw [← hall, afterLast_of_free h.free]
  · rw [htext, afterLast_append_cons h.free]

theorem suffix (h : Follows sep text part) : part <:+ text := by
  rcases h.cut with hall | ⟨before, htext⟩
  · exact ⟨[], hall⟩
  · rw [htext]
    exact (List.suffix_cons sep part).trans (List.suffix_append before _)

/-- What has no separator can be written after the text. -/
theorem append (h : Follows sep text part) (hmore : sep ∉ more) :
    Follows sep (text ++ more) (part ++ more) where
  free := by
    rw [List.mem_append, not_or]
    exact ⟨h.free, hmore⟩
  cut := by
    rcases h.cut with hall | ⟨before, htext⟩
    · exact .inl (by rw [hall])
    · exact .inr ⟨before, by rw [htext, List.append_assoc, List.cons_append]⟩

end Follows

end Segment

open Segment (Follows follows_afterLast)

/-! ## Class names -/

namespace ClassName

/-- A simple name is what follows a `$` that is not at the end, or else the name without its
package. -/
theorem simple_cases (n : ClassName) :
    (('$' ∉ n.unqualified ∨ n.unqualified.getLast? = some '$') ∧
      n.simple.toList = n.unqualified) ∨
    ∃ outer nested, n.unqualified = outer ++ '$' :: nested ∧ '$' ∉ nested ∧ nested ≠ [] ∧
      n.simple.toList = nested := by
  rw [simple, String.toList_ofList]
  cases hcut : Segment.splitLast? '$' n.unqualified with
  | none => exact .inl ⟨.inl (Segment.splitLast?_eq_none_iff.mp hcut), rfl⟩
  | some cut =>
      obtain ⟨outer, nested⟩ := cut
      obtain ⟨hname, hfree⟩ := Segment.splitLast?_eq_some hcut
      cases nested with
      | nil =>
          refine .inl ⟨.inr ?_, rfl⟩
          rw [hname, List.getLast?_concat]
      | cons c rest => exact .inr ⟨outer, c :: rest, hname, hfree, List.cons_ne_nil c rest, rfl⟩

theorem simple_suffix (n : ClassName) : n.simple.toList <:+ n.unqualified := by
  rcases n.simple_cases with ⟨_, hsimple⟩ | ⟨outer, nested, hname, _, _, hsimple⟩
  · exact ⟨[], (List.nil_append _).trans hsimple⟩
  · rw [hsimple, hname]
    exact (List.suffix_cons '$' nested).trans (List.suffix_append outer _)

theorem simple_eq_unqualified_iff (n : ClassName) :
    n.simple.toList = n.unqualified ↔
      '$' ∉ n.unqualified ∨ n.unqualified.getLast? = some '$' := by
  rcases n.simple_cases with ⟨hplain, hsimple⟩ | ⟨outer, nested, hname, hfree, hne, hsimple⟩
  · exact ⟨fun _ => hplain, fun _ => hsimple⟩
  · -- Here the simple name leaves out a `$`, and the last character is no `$`.
    have hmem : '$' ∈ n.unqualified := by
      rw [hname]
      exact List.mem_append_right outer List.mem_cons_self
    rw [hsimple]
    constructor
    · intro heq
      exact absurd (heq ▸ hmem) hfree
    · rintro (hplain | hlast)
      · exact absurd hmem hplain
      · have hnested : nested.getLast? = some '$' := by
          rw [hname, List.append_cons, List.getLast?_append_of_ne_nil _ hne] at hlast
          exact hlast
        exact absurd (List.mem_of_getLast? hnested) hfree

end ClassName

/-! ## Types -/

namespace JavaType

/-- The type that the components of an array come down to. -/
def innermost : JavaType → JavaType
  | .primitive p => .primitive p
  | .named n => .named n
  | .array component => component.innermost

theorem follows_unqualifiedName (t : JavaType) :
    Follows '.' t.name.toList t.unqualifiedName.toList := by
  rw [unqualifiedName, String.toList_ofList]
  exact follows_afterLast '.' t.name.toList

theorem unqualifiedName_named (n : ClassName) :
    (named n).unqualifiedName.toList = n.unqualified := by
  rw [unqualifiedName, String.toList_ofList]
  rfl

theorem simpleName_primitive (p : Primitive) :
    (primitive p).simpleName = (primitive p).unqualifiedName := by
  cases p <;> decide

theorem unqualifiedName_array (component : JavaType) :
    (array component).unqualifiedName.toList = component.unqualifiedName.toList ++ ['[', ']'] := by
  have hbrackets : '.' ∉ ['[', ']'] := by decide
  have hfollows := component.follows_unqualifiedName.append hbrackets
  have hname : (array component).name.toList = component.name.toList ++ ['[', ']'] := by
    rw [name, String.toList_append]
    rfl
  rw [← hname] at hfollows
  rw [unqualifiedName, String.toList_ofList]
  exact hfollows.eq_afterLast.symm

theorem simpleName_array (component : JavaType) :
    (array component).simpleName.toList = component.simpleName.toList ++ ['[', ']'] := by
  rw [simpleName, String.toList_append]
  rfl

theorem simpleName_suffix (t : JavaType) : t.simpleName.toList <:+ t.unqualifiedName.toList := by
  induction t with
  | primitive p =>
      have hsame := congrArg String.toList (simpleName_primitive p)
      exact ⟨[], (List.nil_append _).trans hsame⟩
  | named n =>
      rw [unqualifiedName_named, simpleName]
      exact n.simple_suffix
  | array component ih =>
      obtain ⟨outer, houter⟩ := ih
      rw [simpleName_array, unqualifiedName_array, ← houter, List.append_assoc]
      exact List.suffix_append outer _

/-- A primitive type, or a class whose name without the package has no `$` to cut at: none at all, or
one at the end, after which nothing would be left. -/
def Unnested (t : JavaType) : Prop :=
  (∃ p, t = .primitive p) ∨
    ∃ n part, t = .named n ∧ Follows '.' n.text.toList part ∧
      ('$' ∉ part ∨ part.getLast? = some '$')

theorem unnested_primitive (p : Primitive) : (primitive p).Unnested := .inl ⟨p, rfl⟩

theorem unnested_named_iff (n : ClassName) :
    (named n).Unnested ↔ '$' ∉ n.unqualified ∨ n.unqualified.getLast? = some '$' := by
  constructor
  · rintro (⟨p, hp⟩ | ⟨m, part, hm, hpart, hplain⟩)
    · cases hp
    · cases hm
      rw [hpart.eq_afterLast] at hplain
      exact hplain
  · intro hplain
    exact .inr ⟨n, n.unqualified, rfl, follows_afterLast '.' n.text.toList, hplain⟩

theorem simpleName_eq_iff (t : JavaType) :
    t.simpleName = t.unqualifiedName ↔ t.innermost.Unnested := by
  rw [← String.toList_inj]
  induction t with
  | primitive p =>
      have hsame := congrArg String.toList (simpleName_primitive p)
      exact ⟨fun _ => unnested_primitive p, fun _ => hsame⟩
  | named n =>
      rw [unqualifiedName_named, simpleName, innermost, unnested_named_iff]
      exact n.simple_eq_unqualified_iff
  | array component ih =>
      rw [simpleName_array, unqualifiedName_array, List.append_left_inj, innermost]
      exact ih

/-- Both ways to shorten the name of a type cut it at the front, the simple name possibly further.
They agree on everything but nested classes and arrays of these. -/
theorem shortNames_agree (t : JavaType) :
    '.' ∉ t.unqualifiedName.toList ∧
    t.unqualifiedName.toList <:+ t.name.toList ∧
    t.simpleName.toList <:+ t.unqualifiedName.toList ∧
    (t.simpleName = t.unqualifiedName ↔ t.innermost.Unnested) :=
  ⟨t.follows_unqualifiedName.free, t.follows_unqualifiedName.suffix, t.simpleName_suffix,
    t.simpleName_eq_iff⟩

example : (array (ofName "java.util.Map$Entry")).unqualifiedName = "Map$Entry[]" ∧
    (array (ofName "java.util.Map$Entry")).simpleName = "Entry[]" := by
  decide

-- A `$` in the package or at the end is not a cut.
example : (ofName "a$b.Outer$Inner$").simpleName = "Outer$Inner$" := by
  decide

end JavaType

end SourceRecovery
