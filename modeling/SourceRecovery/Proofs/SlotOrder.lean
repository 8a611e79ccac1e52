import SourceRecovery.ClassFile

/-! # Tables in slot order

Sorting a local variable table keeps the entries of one slot in their order. So the sorted table is
the only one in slot order that holds the entries of the table for every slot, and a table without
two entries for a slot is sorted alike whatever order it was in. A method with its table sorted has
the same first entry for every slot.
-/

namespace SourceRecovery.LocalVariable

def InSlotOrder (table : List LocalVariable) : Prop :=
  table.Pairwise fun a b => a.index ≤ b.index

instance (table : List LocalVariable) : Decidable (InSlotOrder table) :=
  inferInstanceAs (Decidable (table.Pairwise fun a b => a.index ≤ b.index))

def DistinctSlots (table : List LocalVariable) : Prop := (table.map index).Nodup

instance (table : List LocalVariable) : Decidable (DistinctSlots table) :=
  inferInstanceAs (Decidable (table.map index).Nodup)

def entriesFor (slot : UInt16) (table : List LocalVariable) : List LocalVariable :=
  table.filter fun v => v.index == slot

variable {slot : UInt16} {table other : List LocalVariable} {v : LocalVariable}

theorem mem_entriesFor : v ∈ entriesFor slot table ↔ v ∈ table ∧ v.index = slot := by
  simp [entriesFor]

theorem entriesFor_append (slot : UInt16) (a b : List LocalVariable) :
    entriesFor slot (a ++ b) = entriesFor slot a ++ entriesFor slot b := List.filter_append a b

theorem entriesFor_cons_self (v : LocalVariable) (table : List LocalVariable) :
    entriesFor v.index (v :: table) = v :: entriesFor v.index table := by
  simp [entriesFor]

theorem entriesFor_cons_of_ne (h : v.index ≠ slot) (table : List LocalVariable) :
    entriesFor slot (v :: table) = entriesFor slot table := by
  simp [entriesFor, h]

theorem entriesFor_eq_nil (h : ∀ v ∈ table, v.index ≠ slot) : entriesFor slot table = [] := by
  apply List.eq_nil_iff_forall_not_mem.mpr
  intro v hv
  obtain ⟨hmem, hindex⟩ := mem_entriesFor.mp hv
  exact h v hmem hindex

/-! ## One entry for a slot -/

theorem DistinctSlots.length_entriesFor_le (h : DistinctSlots table) (slot : UInt16) :
    (entriesFor slot table).length ≤ 1 := by
  have hcount := List.nodup_iff_count.mp h slot
  rw [List.count_eq_countP, List.countP_map] at hcount
  rw [entriesFor, ← List.countP_eq_length_filter]
  exact hcount

theorem entriesFor_eq_of_perm (h : DistinctSlots table) (hperm : table.Perm other)
    (slot : UInt16) : entriesFor slot table = entriesFor slot other := by
  have hentries : (entriesFor slot table).Perm (entriesFor slot other) := hperm.filter _
  have hshort := h.length_entriesFor_le slot
  cases hlist : entriesFor slot table with
  | nil =>
      rw [hlist] at hentries
      exact hentries.nil_eq
  | cons v rest =>
      rw [hlist] at hentries hshort
      have hrest : rest = [] := by
        rw [List.length_cons] at hshort
        exact List.eq_nil_of_length_eq_zero (by omega)
      rw [hrest] at hentries ⊢
      exact hentries.singleton_eq

/-! ## Tables that agree for every slot -/

theorem mem_of_entriesFor_eq (h : ∀ slot, entriesFor slot table = entriesFor slot other)
    (hv : v ∈ table) : v ∈ other := by
  have hentry : v ∈ entriesFor v.index table := mem_entriesFor.mpr ⟨hv, rfl⟩
  rw [h v.index] at hentry
  exact (mem_entriesFor.mp hentry).1

/-- The first entry of a table in slot order has the least slot. -/
theorem InSlotOrder.head_le (h : InSlotOrder (v :: table)) {w : LocalVariable}
    (hw : w ∈ v :: table) : v.index ≤ w.index := by
  rcases List.mem_cons.mp hw with hw | hw
  · rw [hw]
    exact UInt16.le_refl _
  · exact (List.pairwise_cons.mp h).1 w hw

/-- Tables in slot order that have the same entries for every slot are the same. -/
theorem InSlotOrder.eq_of_entriesFor (htable : InSlotOrder table) (hother : InSlotOrder other)
    (h : ∀ slot, entriesFor slot table = entriesFor slot other) : table = other := by
  induction table generalizing other with
  | nil =>
      refine (List.eq_nil_iff_forall_not_mem.mpr fun v hv => ?_).symm
      exact List.not_mem_nil (mem_of_entriesFor_eq (fun slot => (h slot).symm) hv)
  | cons a rest ih =>
      cases other with
      | nil => exact absurd (mem_of_entriesFor_eq h List.mem_cons_self) List.not_mem_nil
      | cons b others =>
          -- Both heads have the least slot, and each is the first entry for it.
          have hindex : a.index = b.index := by
            have hba := hother.head_le (mem_of_entriesFor_eq h List.mem_cons_self)
            have hab := htable.head_le
              (mem_of_entriesFor_eq (fun slot => (h slot).symm) List.mem_cons_self)
            exact UInt16.le_antisymm hab hba
          have hslot := h a.index
          rw [entriesFor_cons_self, hindex, entriesFor_cons_self, List.cons.injEq] at hslot
          obtain ⟨hab, htail⟩ := hslot
          have hrest : ∀ slot, entriesFor slot rest = entriesFor slot others := by
            intro slot
            by_cases hb : b.index = slot
            · rw [← hb]
              exact htail
            · have hslot := h slot
              rw [entriesFor_cons_of_ne (hindex ▸ hb), entriesFor_cons_of_ne hb] at hslot
              exact hslot
          rw [hab, ih htable.of_cons hother.of_cons hrest]

/-- A table without two entries for a slot has one order by slots. -/
theorem InSlotOrder.eq_of_perm (htable : InSlotOrder table) (hother : InSlotOrder other)
    (hdistinct : DistinctSlots table) (hperm : table.Perm other) : table = other :=
  htable.eq_of_entriesFor hother (entriesFor_eq_of_perm hdistinct hperm)

/-! ## Sorting -/

theorem index_le_trans (a b c : LocalVariable) (hab : decide (a.index ≤ b.index) = true)
    (hbc : decide (b.index ≤ c.index) = true) : decide (a.index ≤ c.index) = true :=
  decide_eq_true (UInt16.le_trans (of_decide_eq_true hab) (of_decide_eq_true hbc))

theorem index_le_total (a b : LocalVariable) :
    (decide (a.index ≤ b.index) || decide (b.index ≤ a.index)) = true := by
  simpa using UInt16.le_total a.index b.index

theorem perm_sortByIndex (table : List LocalVariable) : (sortByIndex table).Perm table :=
  List.mergeSort_perm table _

theorem inSlotOrder_sortByIndex (table : List LocalVariable) : InSlotOrder (sortByIndex table) :=
  (List.pairwise_mergeSort index_le_trans index_le_total table).imp of_decide_eq_true

/-- Sorting keeps the entries of one slot in their order. -/
theorem entriesFor_sortByIndex (slot : UInt16) (table : List LocalVariable) :
    entriesFor slot (sortByIndex table) = entriesFor slot table := by
  have hequal : (entriesFor slot table).Pairwise fun a b => decide (a.index ≤ b.index) = true := by
    apply List.pairwise_of_forall_mem_list
    intro a ha b hb
    rw [(mem_entriesFor.mp ha).2, (mem_entriesFor.mp hb).2]
    exact decide_eq_true (UInt16.le_refl slot)
  have hkept : (entriesFor slot table).Sublist (sortByIndex table) :=
    List.sublist_mergeSort index_le_trans index_le_total hequal List.filter_sublist
  have hsub := hkept.filter fun v => v.index == slot
  rw [entriesFor, List.filter_filter] at hsub
  simp only [Bool.and_self] at hsub
  exact (hsub.eq_of_length ((perm_sortByIndex table).filter _).length_eq.symm).symm

/-- The first entry for a slot is the same before and after. -/
theorem find?_sortByIndex (slot : UInt16) (table : List LocalVariable) :
    (sortByIndex table).find? (fun v => v.index == slot) =
      table.find? fun v => v.index == slot := by
  have hentries := entriesFor_sortByIndex slot table
  rw [entriesFor, entriesFor] at hentries
  rw [← List.head?_filter, hentries, List.head?_filter]

/-- Whatever is in slot order and has the entries of the table for every slot is the sorted
table. -/
theorem sortByIndex_eq (hother : InSlotOrder other)
    (h : ∀ slot, entriesFor slot other = entriesFor slot table) : sortByIndex table = other := by
  refine ((inSlotOrder_sortByIndex table).eq_of_entriesFor hother fun slot => ?_)
  rw [entriesFor_sortByIndex, h]

theorem sortByIndex_of_inSlotOrder (h : InSlotOrder table) : sortByIndex table = table :=
  sortByIndex_eq h fun _ => rfl

/-- Two tables with distinct slots that differ in their order are sorted alike, also if the same
entries are appended to both. -/
theorem sortByIndex_append_of_perm (hdistinct : DistinctSlots table) (hperm : table.Perm other)
    (more : List LocalVariable) : sortByIndex (table ++ more) = sortByIndex (other ++ more) := by
  refine sortByIndex_eq (inSlotOrder_sortByIndex _) fun slot => ?_
  rw [entriesFor_sortByIndex, entriesFor_append, entriesFor_append,
    entriesFor_eq_of_perm hdistinct hperm]

/-! ## Entries that come first -/

/-- An entry comes first if its slot is below those before it and not above those after it. -/
theorem sortByIndex_least {before after : List LocalVariable}
    (hbefore : ∀ w ∈ before, v.index < w.index) (hafter : ∀ w ∈ after, v.index ≤ w.index) :
    sortByIndex (before ++ v :: after) = v :: sortByIndex (before ++ after) := by
  have hsorted : InSlotOrder (v :: sortByIndex (before ++ after)) := by
    refine List.pairwise_cons.mpr ⟨fun w hw => ?_, inSlotOrder_sortByIndex _⟩
    rcases List.mem_append.mp ((perm_sortByIndex _).mem_iff.mp hw) with hw | hw
    · exact UInt16.le_of_lt (hbefore w hw)
    · exact hafter w hw
  refine sortByIndex_eq hsorted fun slot => ?_
  rw [entriesFor_append]
  by_cases hslot : v.index = slot
  · have hnone : entriesFor slot before = [] := by
      apply entriesFor_eq_nil
      intro w hw heq
      have hlt := hbefore w hw
      rw [heq, hslot] at hlt
      exact UInt16.lt_irrefl _ hlt
    rw [← hslot] at hnone ⊢
    rw [entriesFor_cons_self, entriesFor_cons_self, entriesFor_sortByIndex, entriesFor_append,
      hnone, List.nil_append, List.nil_append]
  · rw [entriesFor_cons_of_ne hslot, entriesFor_cons_of_ne hslot, entriesFor_sortByIndex,
      entriesFor_append]

/-- Two entries for the least slot come first, in their order. -/
theorem sortByIndex_pair {before after : List LocalVariable} {w : LocalVariable}
    (hw : w.index = v.index) (hbefore : ∀ x ∈ before, v.index < x.index)
    (hafter : ∀ x ∈ after, v.index ≤ x.index) :
    sortByIndex (v :: before ++ w :: after) = v :: w :: sortByIndex (before ++ after) := by
  have hfirst : ∀ x ∈ before ++ w :: after, v.index ≤ x.index := by
    intro x hx
    rcases List.mem_append.mp hx with hx | hx
    · exact UInt16.le_of_lt (hbefore x hx)
    · rcases List.mem_cons.mp hx with hx | hx
      · rw [hx, hw]
        exact UInt16.le_refl _
      · exact hafter x hx
  calc sortByIndex (v :: before ++ w :: after)
      = v :: sortByIndex (before ++ w :: after) :=
        sortByIndex_least (List.forall_mem_nil _) hfirst
    _ = v :: w :: sortByIndex (before ++ after) := by
        rw [sortByIndex_least (hw ▸ hbefore) (hw ▸ hafter)]

/-- A table that is in slot order already, and stands before entries for the same slots or higher
ones, stays there. -/
theorem sortByIndex_append_of_le {front rest : List LocalVariable} (hfront : InSlotOrder front)
    (h : ∀ v ∈ front, ∀ w ∈ rest, v.index ≤ w.index) :
    sortByIndex (front ++ rest) = front ++ sortByIndex rest := by
  induction front with
  | nil => rfl
  | cons v front ih =>
      obtain ⟨hv, hfront⟩ := List.pairwise_cons.mp hfront
      obtain ⟨hrest, h⟩ := List.forall_mem_cons.mp h
      have hleast : ∀ w ∈ front ++ rest, v.index ≤ w.index := by
        intro w hw
        rcases List.mem_append.mp hw with hw | hw
        · exact hv w hw
        · exact hrest w hw
      have hfirst := sortByIndex_least (List.forall_mem_nil _) hleast
      rw [List.nil_append, List.nil_append] at hfirst
      rw [List.cons_append, hfirst, ih hfront h, List.cons_append]

/-- A table that is in slot order already, and stands after entries for higher slots, goes before
them. -/
theorem sortByIndex_append_of_lt {rest later : List LocalVariable} (hlater : InSlotOrder later)
    (h : ∀ v ∈ later, ∀ w ∈ rest, v.index < w.index) :
    sortByIndex (rest ++ later) = later ++ sortByIndex rest := by
  induction later with
  | nil => rw [List.append_nil, List.nil_append]
  | cons v later ih =>
      obtain ⟨hv, hlater⟩ := List.pairwise_cons.mp hlater
      obtain ⟨hrest, h⟩ := List.forall_mem_cons.mp h
      rw [sortByIndex_least hrest hv, ih hlater h, List.cons_append]

/-! ## Methods with sorted tables -/

/-- The second table has the entries of the first in slot order, and those of one slot in the order
of the first. -/
structure StablySorts (table sorted : List LocalVariable) : Prop where
  perm : sorted.Perm table
  ascending : InSlotOrder sorted
  stable : ∀ slot, entriesFor slot sorted = entriesFor slot table

theorem stablySorts_sortByIndex (table : List LocalVariable) :
    StablySorts table (sortByIndex table) where
  perm := perm_sortByIndex table
  ascending := inSlotOrder_sortByIndex table
  stable slot := entriesFor_sortByIndex slot table

end SourceRecovery.LocalVariable

namespace SourceRecovery.Method

open LocalVariable

theorem locals_sortTable (m : Method) : m.sortTable.locals = sortByIndex m.locals := by
  unfold locals sortTable
  cases m.table with
  | none => exact List.mergeSort_nil.symm
  | some table => rfl

theorem sortTable_of_inSlotOrder {m : Method} (h : InSlotOrder m.locals) : m.sortTable = m := by
  obtain ⟨name, signature, flags, code, table⟩ := m
  cases table with
  | none => rfl
  | some table =>
      have hsame : sortByIndex table = table := sortByIndex_of_inSlotOrder h
      rw [sortTable, Option.map_some, hsame]

/-- Sorting the table of a method changes no lookup, though slots may have several entries: it is
the stable sort, of which there is one only, and it is not changed by sorting again. Nothing else
about the method changes. -/
theorem sortTable_keeps_lookups (m : Method) :
    (∀ slot, m.sortTable.localAt? slot = m.localAt? slot) ∧
    StablySorts m.locals m.sortTable.locals ∧
    (∀ other, StablySorts m.locals other → other = m.sortTable.locals) ∧
    m.sortTable.sortTable = m.sortTable ∧
    { m.sortTable with table := m.table } = m := by
  have hsorted : InSlotOrder m.sortTable.locals := by
    rw [locals_sortTable]
    exact inSlotOrder_sortByIndex m.locals
  refine ⟨fun slot => ?_, ?_, fun other hother => ?_, sortTable_of_inSlotOrder hsorted, rfl⟩
  · rw [localAt?, localAt?, locals_sortTable, find?_sortByIndex]
  · rw [locals_sortTable]
    exact stablySorts_sortByIndex m.locals
  · rw [locals_sortTable]
    exact (sortByIndex_eq hother.ascending hother.stable).symm

end SourceRecovery.Method
