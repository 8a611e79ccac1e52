import SourceRecovery.Type.Signature

/-! # The language of descriptors

A text is read as a type exactly when the type is one that descriptors can spell and the text is its
spelling, up to the separator inside class names: the binary and the internal form are read alike.
The statements about readers carry the text that follows, because nothing stands between the types
of a parameter list.
-/

namespace SourceRecovery

/-! ## What descriptors can spell -/

/-- Characters that end a class name or cannot stand in one. -/
def Descriptor.reserved : List Char := [';', '[', '(', ')']

/-- A name that can stand between `L` and `;`. -/
def ClassName.Spellable (n : ClassName) : Prop :=
  n.text ≠ "" ∧ ∀ c ∈ n.text.toList, c ∉ Descriptor.reserved

/-- The type of a field or a parameter: anything but `void`, arrays of it, and classes whose name a
descriptor cannot hold. -/
def JavaType.IsField : JavaType → Prop
  | .primitive p => p ≠ .void
  | .named n => n.Spellable
  | .array component => component.IsField

def Signature.WellFormed (s : Signature) : Prop :=
  (∀ t ∈ s.parameters, t.IsField) ∧ (s.result = .void ∨ s.result.IsField)

instance (n : ClassName) : Decidable n.Spellable := inferInstanceAs (Decidable (_ ∧ _))

instance JavaType.decidableIsField : (t : JavaType) → Decidable t.IsField
  | .primitive p => inferInstanceAs (Decidable (p ≠ .void))
  | .named n => inferInstanceAs (Decidable n.Spellable)
  | .array component => decidableIsField component

instance (s : Signature) : Decidable s.WellFormed := inferInstanceAs (Decidable (_ ∧ _))

/-- The text with the separator of the internal form throughout. -/
def Descriptor.internal (text : String) : String :=
  String.ofList (text.toList.map ClassName.slashed)

/-! ## Separators -/

namespace ClassName

theorem slashed_eq_iff {c x : Char} (hdot : x ≠ '.') (hslash : x ≠ '/') :
    slashed c = x ↔ c = x := by
  unfold slashed
  split
  · next h => subst h; exact ⟨fun e => absurd e.symm hslash, fun e => absurd e.symm hdot⟩
  · exact Iff.rfl

theorem dotted_slashed (c : Char) : dotted (slashed c) = dotted c := by
  unfold slashed
  split
  · next h => subst h; decide
  · rfl

theorem slashed_dotted (c : Char) : slashed (dotted c) = slashed c := by
  unfold dotted
  split
  · next h => subst h; decide
  · rfl

theorem slashed_ne_dot (c : Char) : slashed c ≠ '.' := by
  unfold slashed
  split
  · decide
  · assumption

theorem slashed_slashed (c : Char) : slashed (slashed c) = slashed c := by
  rw [slashed.eq_1 (slashed c), if_neg (slashed_ne_dot c)]

theorem slashed_mem_reserved (c : Char) :
    slashed c ∈ Descriptor.reserved ↔ c ∈ Descriptor.reserved := by
  unfold slashed
  split
  · next h => subst h; decide
  · exact Iff.rfl

/-- A class name has no separator left to read. -/
theorem map_dotted_text (n : ClassName) : n.text.toList.map dotted = n.text.toList := by
  conv => rhs; rw [← List.map_id n.text.toList]
  apply List.map_congr_left
  intro c hc
  exact if_neg fun (h : c = '/') => n.slash_free (h ▸ hc)

theorem ext {m n : ClassName} (h : m.text.toList = n.text.toList) : m = n := by
  cases m
  cases n
  simpa only [ClassName.mk.injEq] using String.toList_inj.mp h

/-- A text names a class exactly when the two differ in separators only. -/
theorem ofText_eq_iff (cs : List Char) (n : ClassName) :
    ofText (String.ofList cs) = n ↔ cs.map slashed = n.text.toList.map slashed := by
  have htext : (ofText (String.ofList cs)).text.toList = cs.map dotted := by
    simp [ofText]
  constructor
  · intro h
    rw [← h, htext, List.map_map]
    exact (List.map_congr_left fun c _ => slashed_dotted c).symm
  · intro h
    apply ext
    calc
      (ofText (String.ofList cs)).text.toList = cs.map dotted := htext
      _ = (cs.map slashed).map dotted := by
            rw [List.map_map]
            exact (List.map_congr_left fun c _ => dotted_slashed c).symm
      _ = n.text.toList.map dotted := by
            rw [h, List.map_map]
            exact List.map_congr_left fun c _ => dotted_slashed c
      _ = n.text.toList := n.map_dotted_text

/-- Whether a name is spellable does not depend on its separators. -/
theorem spellable_iff {n : ClassName} {cs : List Char}
    (h : cs.map slashed = n.text.toList.map slashed) :
    n.Spellable ↔ cs ≠ [] ∧ ∀ c ∈ cs, c ∉ Descriptor.reserved := by
  have hall (l : List Char) : (∀ c ∈ l, c ∉ Descriptor.reserved) ↔
      ∀ c ∈ l.map slashed, c ∉ Descriptor.reserved := by
    simp only [List.mem_map, forall_exists_index, and_imp, forall_apply_eq_imp_iff₂,
      slashed_mem_reserved]
  have hnil : n.text = "" ↔ cs = [] := by
    rw [← String.toList_inj, String.toList_empty, ← List.map_eq_nil_iff (f := slashed), ← h,
      List.map_eq_nil_iff]
  rw [Spellable, hall n.text.toList, ← h, ← hall cs]
  exact and_congr (not_congr hnil) Iff.rfl

end ClassName

/-! ## Spellings as lists of characters -/

namespace JavaType

def spelling (t : JavaType) : List Char := t.descriptor.toList

@[simp] theorem spelling_primitive (p : Primitive) : (primitive p).spelling = [p.letter] := by
  simp [spelling, descriptor]

@[simp] theorem spelling_named (n : ClassName) :
    (named n).spelling = 'L' :: (n.text.toList.map ClassName.slashed ++ [';']) := by
  simp [spelling, descriptor, ClassName.internal]

@[simp] theorem spelling_array (t : JavaType) : (array t).spelling = '[' :: t.spelling := by
  simp [spelling, descriptor]

end JavaType

namespace Descriptor

open ClassName (slashed slashed_eq_iff)

/-- The characters spell the type, up to separators. -/
def Spells (cs : List Char) (t : JavaType) : Prop := cs.map slashed = t.spelling

theorem isNameChar_iff (c : Char) : isNameChar c = true ↔ c ∉ reserved := by
  simp [isNameChar, reserved, and_assoc]

/-! ## Reading a field type -/

theorem readClass?_eq_some_iff {cs rest : List Char} {t : JavaType} :
    readClass? cs = some (t, rest) ↔
      ∃ name, cs = name ++ ';' :: rest ∧ name ≠ [] ∧ (∀ c ∈ name, c ∉ reserved) ∧
        t = .ofName (String.ofList name) := by
  constructor
  · intro h
    unfold readClass? at h
    split at h
    · next c name r htake hdrop =>
        cases h
        refine ⟨c :: name, ?_, by simp, ?_, rfl⟩
        · rw [← htake, ← hdrop, List.takeWhile_append_dropWhile]
        · intro x hx
          rw [← htake] at hx
          exact (isNameChar_iff x).mp (List.all_eq_true.mp List.all_takeWhile x hx)
    · exact nomatch h
  · rintro ⟨name, rfl, hne, hall, rfl⟩
    have hname : ∀ c ∈ name, isNameChar c = true := fun c hc => (isNameChar_iff c).mpr (hall c hc)
    have htake : (name ++ ';' :: rest).takeWhile isNameChar = name := by
      rw [List.takeWhile_append_of_pos hname, List.takeWhile_cons_of_neg (by decide),
        List.append_nil]
    have hdrop : (name ++ ';' :: rest).dropWhile isNameChar = ';' :: rest := by
      rw [List.dropWhile_append_of_pos hname, List.dropWhile_cons_of_neg (by decide)]
    obtain ⟨c, tail, rfl⟩ := List.exists_cons_of_ne_nil hne
    unfold readClass?
    rw [htake, hdrop]
    rfl

/-- A class is read where its name is spelled, and nowhere else. -/
theorem readClass?_iff_spells {cs rest : List Char} {t : JavaType} :
    readClass? cs = some (t, rest) ↔
      ∃ n name, t = .named n ∧ n.Spellable ∧ cs = name ++ ';' :: rest ∧
        name.map slashed = n.text.toList.map slashed := by
  rw [readClass?_eq_some_iff]
  constructor
  · rintro ⟨name, hcs, hne, hall, rfl⟩
    have hsame := (ClassName.ofText_eq_iff name _).mp rfl
    exact ⟨_, name, rfl, (ClassName.spellable_iff hsame).mpr ⟨hne, hall⟩, hcs, hsame⟩
  · rintro ⟨n, name, rfl, hspell, hcs, hsame⟩
    obtain ⟨hne, hall⟩ := (ClassName.spellable_iff hsame).mp hspell
    exact ⟨name, hcs, hne, hall, congrArg JavaType.named
      ((ClassName.ofText_eq_iff name n).mpr hsame).symm⟩

theorem spells_primitive {cs : List Char} {p : Primitive} :
    Spells cs (.primitive p) ↔ cs = [p.letter] := by
  rw [Spells, JavaType.spelling_primitive, List.map_eq_singleton_iff]
  constructor
  · rintro ⟨c, rfl, hc⟩
    rw [(slashed_eq_iff (by cases p <;> decide) (by cases p <;> decide)).mp hc]
  · rintro rfl
    exact ⟨_, rfl, (slashed_eq_iff (by cases p <;> decide) (by cases p <;> decide)).mpr rfl⟩

theorem spells_array {cs : List Char} {t : JavaType} :
    Spells cs (.array t) ↔ ∃ inner, cs = '[' :: inner ∧ Spells inner t := by
  rw [Spells, JavaType.spelling_array, List.map_eq_cons_iff]
  constructor
  · rintro ⟨c, inner, rfl, hc, hinner⟩
    rw [slashed_eq_iff (by decide) (by decide)] at hc
    exact ⟨inner, by rw [hc], hinner⟩
  · rintro ⟨inner, rfl, hinner⟩
    exact ⟨'[', inner, rfl, by decide, hinner⟩

theorem spells_named {cs : List Char} {n : ClassName} :
    Spells cs (.named n) ↔
      ∃ name, cs = 'L' :: (name ++ [';']) ∧ name.map slashed = n.text.toList.map slashed := by
  rw [Spells, JavaType.spelling_named, List.map_eq_cons_iff]
  constructor
  · rintro ⟨c, tail, rfl, hc, htail⟩
    obtain ⟨name, last, rfl, hname, hlast⟩ := List.map_eq_append_iff.mp htail
    obtain ⟨d, rfl, hd⟩ := List.map_eq_singleton_iff.mp hlast
    rw [slashed_eq_iff (by decide) (by decide)] at hc hd
    exact ⟨name, by rw [hc, hd], hname⟩
  · rintro ⟨name, rfl, hname⟩
    exact ⟨'L', _, rfl, by decide, by rw [List.map_append, hname]; rfl⟩

theorem readField?_sound {cs rest : List Char} {t : JavaType}
    (h : readField? cs = some (t, rest)) :
    t.IsField ∧ ∃ front, cs = front ++ rest ∧ Spells front t := by
  induction cs generalizing t with
  | nil => exact nomatch h
  | cons c cs ih =>
      unfold readField? at h
      split at h
      · next hc =>
          obtain ⟨found, hfound, heq⟩ := Option.map_eq_some_iff.mp h
          cases heq
          obtain ⟨hfield, front, hcs, hspells⟩ := ih hfound
          exact ⟨hfield, '[' :: front, by rw [hc, hcs]; rfl, spells_array.mpr ⟨front, rfl, hspells⟩⟩
      · split at h
        · next hc =>
            obtain ⟨n, name, rfl, hspell, hcs, hsame⟩ := readClass?_iff_spells.mp h
            refine ⟨hspell, 'L' :: (name ++ [';']), ?_, spells_named.mpr ⟨name, rfl, hsame⟩⟩
            rw [hc, hcs]
            simp
        · split at h
          · exact nomatch h
          · exact nomatch h
          · next p hnotVoid hletter =>
              cases h
              refine ⟨hnotVoid, [c], rfl, ?_⟩
              rw [spells_primitive, Primitive.letter_of_ofLetter? hletter]

theorem readField?_complete {front : List Char} {t : JavaType} (hfield : t.IsField)
    (hspells : Spells front t) (rest : List Char) :
    readField? (front ++ rest) = some (t, rest) := by
  induction t generalizing front with
  | primitive p =>
      rw [spells_primitive] at hspells
      subst hspells
      cases p
      case void => exact absurd rfl hfield
      all_goals rfl
  | named n =>
      obtain ⟨name, rfl, hsame⟩ := spells_named.mp hspells
      have hclass : readClass? (name ++ ';' :: rest) = some (.named n, rest) :=
        readClass?_iff_spells.mpr ⟨n, name, rfl, hfield, rfl, hsame⟩
      simpa [readField?] using hclass
  | array t ih =>
      obtain ⟨inner, rfl, hinner⟩ := spells_array.mp hspells
      simp [readField?, ih hfield hinner]

/-- What is read at the front of a text is exactly what is spelled there. -/
theorem readField?_eq_some_iff {cs rest : List Char} {t : JavaType} :
    readField? cs = some (t, rest) ↔ t.IsField ∧ ∃ front, cs = front ++ rest ∧ Spells front t := by
  constructor
  · exact readField?_sound
  · rintro ⟨hfield, front, rfl, hspells⟩
    exact readField?_complete hfield hspells rest

/-- The whole text is a field type exactly when it spells one. -/
theorem readType?_eq_some_iff {cs : List Char} {t : JavaType} :
    readType? cs = some t ↔ t.IsField ∧ Spells cs t := by
  have hwhole : readType? cs = some t ↔ readField? cs = some (t, []) := by
    unfold readType?
    split
    · next u hread => rw [hread]; simp
    · next hnone =>
        constructor
        · exact fun h => nomatch h
        · exact fun h => absurd h (hnone t)
  rw [hwhole, readField?_eq_some_iff]
  simp only [List.append_nil, exists_eq_left']

/-! ## Reading parameters and results -/

theorem readFields_of_none {cs : List Char} (h : readField? cs = none) :
    readFields cs = ([], cs) := by
  rw [readFields]
  split
  · rfl
  · next hsome =>
      rw [h] at hsome
      cases hsome

theorem readFields_of_some {cs rest : List Char} {t : JavaType}
    (h : readField? cs = some (t, rest)) :
    readFields cs = (t :: (readFields rest).1, (readFields rest).2) := by
  rw [readFields]
  split
  · next hnone =>
      rw [h] at hnone
      cases hnone
  · next hsome =>
      rw [h] at hsome
      cases hsome
      rfl

/-- The characters spell the types one after the other, up to separators. -/
def SpellsAll (cs : List Char) (ts : List JavaType) : Prop :=
  cs.map slashed = ts.flatMap JavaType.spelling

theorem spellsAll_cons {cs : List Char} {t : JavaType} {ts : List JavaType} :
    SpellsAll cs (t :: ts) ↔
      ∃ front more, cs = front ++ more ∧ Spells front t ∧ SpellsAll more ts := by
  rw [SpellsAll, List.flatMap_cons, List.map_eq_append_iff]
  rfl

theorem readFields_sound (cs : List Char) :
    (∀ t ∈ (readFields cs).1, t.IsField) ∧
      ∃ front, cs = front ++ (readFields cs).2 ∧ SpellsAll front (readFields cs).1 := by
  cases h : readField? cs with
  | none =>
      rw [readFields_of_none h]
      exact ⟨List.forall_mem_nil _, [], rfl, rfl⟩
  | some found =>
      obtain ⟨t, rest⟩ := found
      have hshorter := readField?_length h
      obtain ⟨hfields, more, hrest, hmore⟩ := readFields_sound rest
      obtain ⟨hfield, front, hcs, hspells⟩ := readField?_sound h
      rw [readFields_of_some h]
      refine ⟨List.forall_mem_cons.mpr ⟨hfield, hfields⟩, front ++ more, ?_, ?_⟩
      · rw [List.append_assoc, ← hrest, hcs]
      · exact spellsAll_cons.mpr ⟨front, more, rfl, hspells, hmore⟩
termination_by cs.length

/-- Parameters are read up to the first character that begins no field type. -/
theorem readFields_complete {cs rest : List Char} {ts : List JavaType}
    (hfields : ∀ t ∈ ts, t.IsField) (hspells : SpellsAll cs ts) (hstop : readField? rest = none) :
    readFields (cs ++ rest) = (ts, rest) := by
  induction ts generalizing cs with
  | nil =>
      rw [List.map_eq_nil_iff.mp hspells]
      exact readFields_of_none hstop
  | cons t ts ih =>
      obtain ⟨hfield, hmore⟩ := List.forall_mem_cons.mp hfields
      obtain ⟨front, more, rfl, hfront, hts⟩ := spellsAll_cons.mp hspells
      have hread := readField?_complete hfield hfront (more ++ rest)
      rw [List.append_assoc, readFields_of_some hread, ih hmore hts]

theorem readResult?_eq_some_iff {cs : List Char} {t : JavaType} :
    readResult? cs = some t ↔ (t = .void ∨ t.IsField) ∧ Spells cs t := by
  have hvoid : Spells ['V'] .void := spells_primitive.mpr rfl
  unfold readResult?
  split
  · next hcs =>
      subst hcs
      constructor
      · rintro ⟨⟩
        exact ⟨.inl rfl, hvoid⟩
      · rintro ⟨rfl | hfield, hspells⟩
        · rfl
        · -- No field type is spelled like `void`.
          have hread := readType?_eq_some_iff.mpr ⟨hfield, hspells⟩
          exact nomatch hread
  · next hcs =>
      rw [readType?_eq_some_iff]
      constructor
      · rintro ⟨hfield, hspells⟩
        exact ⟨.inr hfield, hspells⟩
      · rintro ⟨rfl | hfield, hspells⟩
        · exact absurd (spells_primitive.mp hspells) hcs
        · exact ⟨hfield, hspells⟩

/-! ## Reading a whole descriptor -/

def signatureSpelling (s : Signature) : List Char :=
  '(' :: (s.parameters.flatMap JavaType.spelling ++ ')' :: s.result.spelling)

theorem toList_signature (s : Signature) : s.descriptor.toList = signatureSpelling s := by
  have hjoin (ts : List JavaType) :
      (String.join (ts.map JavaType.descriptor)).toList = ts.flatMap JavaType.spelling := by
    rw [String.toList_join, List.flatMap_map]
    rfl
  simp [Signature.descriptor, signatureSpelling, hjoin, JavaType.spelling]

/-- A method descriptor splits in one way only: no field type begins with a parenthesis. -/
theorem readSignature?_eq_some_iff {cs : List Char} {s : Signature} :
    readSignature? cs = some s ↔ s.WellFormed ∧ cs.map slashed = signatureSpelling s := by
  constructor
  · intro h
    unfold readSignature? at h
    split at h
    · next cs =>
        split at h
        · next parameters rest hread =>
            obtain ⟨result, hresult, rfl⟩ := Option.map_eq_some_iff.mp h
            obtain ⟨hres, hrest⟩ := readResult?_eq_some_iff.mp hresult
            obtain ⟨hfields, front, hcs, hfront⟩ := readFields_sound cs
            rw [hread] at hfields hcs hfront
            refine ⟨⟨hfields, hres⟩, ?_⟩
            rw [hcs, List.map_cons, List.map_append, List.map_cons, hfront, hrest]
            rfl
        · exact nomatch h
    · exact nomatch h
  · rintro ⟨⟨hfields, hres⟩, hspells⟩
    obtain ⟨c, inner, rfl, hc, hinner⟩ := List.map_eq_cons_iff.mp hspells
    obtain ⟨front, tail, rfl, hfront, htail⟩ := List.map_eq_append_iff.mp hinner
    obtain ⟨d, rest, rfl, hd, hrest⟩ := List.map_eq_cons_iff.mp htail
    rw [slashed_eq_iff (by decide) (by decide)] at hc hd
    subst hc hd
    have hread : readFields (front ++ ')' :: rest) = (s.parameters, ')' :: rest) :=
      readFields_complete hfields hfront rfl
    have hresult : readResult? rest = some s.result := readResult?_eq_some_iff.mpr ⟨hres, hrest⟩
    simp only [readSignature?, hread, hresult, Option.map_some]

theorem internal_eq_iff (text : String) (t : String) :
    internal text = t ↔ text.toList.map slashed = t.toList := by
  rw [internal, ← String.toList_inj, String.toList_ofList]

theorem map_slashed_spelling (t : JavaType) : t.spelling.map slashed = t.spelling := by
  induction t with
  | primitive p => cases p <;> rfl
  | named n =>
      simp only [JavaType.spelling_named, List.map_cons, List.map_append, List.map_map]
      congr 2
      exact List.map_congr_left fun c _ => ClassName.slashed_slashed c
  | array t ih =>
      rw [JavaType.spelling_array, List.map_cons, ih]
      rfl

/-- Printed descriptors are in internal form already. -/
theorem internal_signature (s : Signature) : internal s.descriptor = s.descriptor := by
  rw [internal_eq_iff, toList_signature, signatureSpelling]
  simp only [List.map_cons, List.map_append, List.map_flatMap, map_slashed_spelling]
  rfl

/-- Reading accepts the spellings of well-formed signatures and field types, up to separators, and
nothing else. So reading undoes printing exactly on the well-formed ones. -/
theorem parse_exact :
    (∀ (text : String) (s : Signature),
      Signature.parse text = .ok s ↔ s.WellFormed ∧ internal text = s.descriptor) ∧
    (∀ (text : String) (t : JavaType),
      JavaType.parse text = .ok t ↔ t.IsField ∧ internal text = t.descriptor) ∧
    (∀ s : Signature, Signature.parse s.descriptor = .ok s ↔ s.WellFormed) := by
  have hsignature (text : String) (s : Signature) :
      Signature.parse text = .ok s ↔ s.WellFormed ∧ internal text = s.descriptor := by
    rw [internal_eq_iff, toList_signature, ← readSignature?_eq_some_iff]
    unfold Signature.parse
    split <;> simp_all
  have htype (text : String) (t : JavaType) :
      JavaType.parse text = .ok t ↔ t.IsField ∧ internal text = t.descriptor := by
    rw [internal_eq_iff, ← JavaType.spelling, ← Spells, ← readType?_eq_some_iff]
    unfold JavaType.parse
    split <;> simp_all
  refine ⟨hsignature, htype, fun s => ?_⟩
  rw [hsignature, internal_signature]
  exact and_iff_left rfl

end Descriptor

end SourceRecovery
