import Mathlib.Data.List.Basic
import SourceRecovery.Java.Lambda
import SourceRecovery.Proofs.SlotOrder

/-! # Captured variables in headers

A backing method takes the captured variables as its first arguments, and they are sorted into its
table by slot. If the declared table leaves their slots free, they come first in the header and the
other names follow by slot. If the declared table has entries for these slots already, each of them
is followed by that of the captured variable, and the header counts both.
-/

namespace SourceRecovery.Java

open LocalVariable

/-! ## Entries for captured variables -/

section Entries

variable {first : Nat} {captured : List Variable} {v : LocalVariable}

theorem capturedEntries_cons (first : Nat) (var : Variable) (rest : List Variable) :
    capturedEntries first (var :: rest) =
      ⟨none, var.name, var.type, UInt16.ofNat first⟩ :: capturedEntries (first + 1) rest := by
  simp only [capturedEntries, List.zipIdx_cons', List.map_cons, List.map_map, Nat.add_zero]
  congr 1
  apply List.map_congr_left
  intro x _
  simp only [Function.comp, Prod.map]
  congr 2
  omega

theorem map_name_capturedEntries (first : Nat) (captured : List Variable) :
    (capturedEntries first captured).map LocalVariable.name = captured.map Variable.name := by
  induction captured generalizing first with
  | nil => rfl
  | cons var rest ih => rw [capturedEntries_cons, List.map_cons, List.map_cons, ih]

theorem le_of_mem_capturedEntries (hfits : first + captured.length ≤ UInt16.size)
    (h : v ∈ capturedEntries first captured) :
    first ≤ v.index.toNat ∧ v.index.toNat < first + captured.length := by
  induction captured generalizing first with
  | nil => cases h
  | cons var rest ih =>
      rw [List.length_cons] at hfits ⊢
      rw [capturedEntries_cons] at h
      rcases List.mem_cons.mp h with h | h
      · rw [h, UInt16.toNat_ofNat_of_lt' (by omega)]
        omega
      · have := ih (by omega) h
        omega

theorem inSlotOrder_capturedEntries (hfits : first + captured.length ≤ UInt16.size) :
    InSlotOrder (capturedEntries first captured) := by
  induction captured generalizing first with
  | nil => exact .nil
  | cons var rest ih =>
      rw [List.length_cons] at hfits
      rw [capturedEntries_cons]
      refine List.pairwise_cons.mpr ⟨fun w hw => ?_, ih (by omega)⟩
      have := le_of_mem_capturedEntries (by omega) hw
      rw [UInt16.le_iff_toNat_le, UInt16.toNat_ofNat_of_lt' (by omega)]
      omega

end Entries

/-! ## Slots left free -/

/-- The table has entries of different slots, one for each slot below `first` and the others behind
the next `count` slots. -/
structure LeavesFree (first count : Nat) (table : List LocalVariable) : Prop where
  distinct : DistinctSlots table
  below : (table.filter fun v => v.index.toNat < first).length = first
  apart : ∀ v ∈ table, v.index.toNat < first ∨ first + count ≤ v.index.toNat

/-- The captured variables come between the entries below their slots and those behind. -/
theorem LeavesFree.sortByIndex_append {first : Nat} {captured : List Variable}
    {table later : List LocalVariable} (h : LeavesFree first captured.length table)
    (hfits : first + captured.length ≤ UInt16.size) (hlater : InSlotOrder later)
    (hperm : later.Perm (table.filter fun v => first + captured.length ≤ v.index.toNat)) :
    (sortByIndex (table ++ capturedEntries first captured)).drop first =
      capturedEntries first captured ++ later := by
  generalize hlow : sortByIndex (table.filter fun v => v.index.toNat < first) = low
  have hlowperm := hlow ▸ perm_sortByIndex (table.filter fun v => v.index.toNat < first)
  have hlowsorted : InSlotOrder low := hlow ▸ inSlotOrder_sortByIndex _
  have hlowlength : low.length = first := hlowperm.length_eq.trans h.below
  have hlowslot (v : LocalVariable) (hv : v ∈ low) : v.index.toNat < first :=
    of_decide_eq_true (List.mem_filter.mp (hlowperm.mem_iff.mp hv)).2
  have hlaterslot (v : LocalVariable) (hv : v ∈ later) :
      first + captured.length ≤ v.index.toNat :=
    of_decide_eq_true (List.mem_filter.mp (hperm.mem_iff.mp hv)).2
  have hcaptured (v : LocalVariable) (hv : v ∈ capturedEntries first captured) :=
    le_of_mem_capturedEntries hfits hv
  have hsplit : table.Perm (low ++ later) := by
    have hrest : (table.filter fun v => first + captured.length ≤ v.index.toNat) =
        table.filter fun v => !decide (v.index.toNat < first) := by
      apply List.filter_congr
      intro v hv
      have := h.apart v hv
      simp only [← decide_not, decide_eq_decide]
      omega
    rw [hrest] at hperm
    exact ((hlowperm.append hperm).trans (List.filter_append_perm _ table)).symm
  have hlow_le : ∀ v ∈ low, ∀ w ∈ later ++ capturedEntries first captured, v.index ≤ w.index := by
    intro v hv w hw
    have hvslot := hlowslot v hv
    rw [UInt16.le_iff_toNat_le]
    rcases List.mem_append.mp hw with hw | hw
    · have := hlaterslot w hw
      omega
    · have := hcaptured w hw
      omega
  have hcaptured_lt : ∀ v ∈ capturedEntries first captured, ∀ w ∈ later, v.index < w.index := by
    intro v hv w hw
    have hvslot := hcaptured v hv
    have hwslot := hlaterslot w hw
    rw [UInt16.lt_iff_toNat_lt]
    omega
  have hmerged : sortByIndex (table ++ capturedEntries first captured) =
      low ++ (capturedEntries first captured ++ later) := by
    rw [sortByIndex_append_of_perm h.distinct hsplit, List.append_assoc,
      sortByIndex_append_of_le hlowsorted hlow_le,
      sortByIndex_append_of_lt (inSlotOrder_capturedEntries hfits) hcaptured_lt,
      sortByIndex_of_inSlotOrder hlater]
  rw [hmerged, ← hlowlength, List.drop_left]

/-! ## Slots with entries of their own -/

/-- The table is in slot order and has one entry for each slot below `count`. -/
structure NamesSlots (count : Nat) (table : List LocalVariable) : Prop where
  sorted : InSlotOrder table
  once : ∀ slot < count, (table.map fun v => v.index.toNat).count slot = 1

/-- The elements of a list, each with its partner in another behind it as long as there are any. -/
def weave {α : Type} : List α → List α → List α
  | [], _ => []
  | a :: as, [] => a :: as
  | a :: as, b :: bs => a :: b :: weave as bs

theorem length_le_weave {α : Type} (as bs : List α) : as.length ≤ (weave as bs).length := by
  fun_induction weave as bs with
  | case1 bs => exact Nat.le_refl _
  | case2 a as => exact Nat.le_refl _
  | case3 a as b bs ih =>
      simp only [List.length_cons]
      omega

theorem map_weave {α β : Type} (f : α → β) (as bs : List α) :
    (weave as bs).map f = weave (as.map f) (bs.map f) := by
  fun_induction weave as bs with
  | case1 bs => rfl
  | case2 a as => rfl
  | case3 a as b bs ih => simp only [List.map_cons, weave, ih]

/-- A second list adds nothing if it is empty, or before the second place. -/
theorem take_weave {α : Type} {as bs : List α} (h : bs = [] ∨ as.length ≤ 1) :
    (weave as bs).take as.length = as := by
  rcases as with _ | ⟨a, as⟩
  · rfl
  · rcases bs with _ | ⟨b, bs⟩
    · exact List.take_length
    · rcases as with _ | ⟨a', as⟩
      · rfl
      · rcases h with h | h
        · cases h
        · simp at h

/-- A table in slot order without slots below `first` that has one entry for each of the next
`count` slots begins with these entries. -/
theorem take_of_once {first count : Nat} {table : List LocalVariable} (hsorted : InSlotOrder table)
    (hfirst : ∀ v ∈ table, first ≤ v.index.toNat)
    (honce : ∀ slot, first ≤ slot → slot < first + count →
      (table.map fun v => v.index.toNat).count slot = 1) :
    (table.take count).map (fun v => v.index.toNat) = List.range' first count ∧
      ∀ v ∈ table.drop count, first + count ≤ v.index.toNat := by
  induction count generalizing first table with
  | zero => exact ⟨rfl, hfirst⟩
  | succ count ih =>
      have hcount := honce first (Nat.le_refl first) (by omega)
      cases table with
      | nil => cases hcount
      | cons head rest =>
          obtain ⟨hhead, hrest⟩ := List.pairwise_cons.mp hsorted
          have hindex : head.index.toNat = first := by
            have hmem : first ∈ (head :: rest).map fun v => v.index.toNat :=
              List.count_pos_iff.mp (by omega)
            obtain ⟨v, hv, hslot⟩ := List.mem_map.mp hmem
            have hle := UInt16.le_iff_toNat_le.mp (hsorted.head_le hv)
            have := hfirst head List.mem_cons_self
            omega
          rw [List.map_cons, hindex, List.count_cons_self] at hcount
          have hnext : ∀ v ∈ rest, first + 1 ≤ v.index.toNat := by
            intro v hv
            have hne : v.index.toNat ≠ first := by
              intro heq
              have hmem : first ∈ rest.map fun v => v.index.toNat :=
                List.mem_map.mpr ⟨v, hv, heq⟩
              have := List.count_pos_iff.mpr hmem
              omega
            have := hfirst v (List.mem_cons_of_mem head hv)
            omega
          have honce' : ∀ slot, first + 1 ≤ slot → slot < first + 1 + count →
              (rest.map fun v => v.index.toNat).count slot = 1 := by
            intro slot hle hlt
            have hslot := honce slot (by omega) (by omega)
            rw [List.map_cons, hindex, List.count_cons_of_ne (by omega)] at hslot
            exact hslot
          obtain ⟨htake, hdrop⟩ := ih hrest hnext honce'
          refine ⟨?_, fun v hv => ?_⟩
          · rw [List.take_succ_cons, List.map_cons, htake, hindex, List.range'_succ]
          · have := hdrop v hv
            omega

/-- A table that begins with entries for all slots of captured variables is woven together with
those of the captured variables. -/
theorem sortByIndex_weave {first : Nat} {captured : List Variable}
    {named later : List LocalVariable} (hsorted : InSlotOrder (named ++ later))
    (hfits : first + captured.length ≤ UInt16.size)
    (hnamed : named.map (fun v => v.index.toNat) = List.range' first named.length)
    (hlater : ∀ v ∈ later, first + named.length ≤ v.index.toNat) :
    ∃ rest, sortByIndex (named ++ later ++ capturedEntries first captured) =
      weave named (capturedEntries first captured) ++ rest := by
  induction named generalizing first captured with
  | nil => exact ⟨_, rfl⟩
  | cons v named ih =>
      rw [List.length_cons, List.range'_succ, List.map_cons, List.cons.injEq] at hnamed
      obtain ⟨hslot, hnamed⟩ := hnamed
      cases captured with
      | nil =>
          refine ⟨later, ?_⟩
          have hnone : capturedEntries first [] = [] := rfl
          rw [hnone, List.append_nil, sortByIndex_of_inSlotOrder hsorted]
          rfl
      | cons var captured =>
          rw [List.length_cons] at hfits hlater
          have hindex : UInt16.ofNat first = v.index := by
            rw [← hslot, UInt16.ofNat_toNat]
          have hbehind : ∀ w ∈ named ++ later, v.index < w.index := by
            intro w hw
            rw [UInt16.lt_iff_toNat_lt, hslot]
            rcases List.mem_append.mp hw with hw | hw
            · have hmem : w.index.toNat ∈ List.range' (first + 1) named.length :=
                hnamed ▸ List.mem_map_of_mem hw
              exact (List.mem_range'_1.mp hmem).1
            · have := hlater w hw
              omega
          have hcaptured : ∀ w ∈ capturedEntries (first + 1) captured, v.index ≤ w.index := by
            intro w hw
            have := le_of_mem_capturedEntries (by omega) hw
            rw [UInt16.le_iff_toNat_le, hslot]
            omega
          have hroom : first + 1 + captured.length ≤ UInt16.size := by omega
          have hmore : ∀ w ∈ later, first + 1 + named.length ≤ w.index.toNat := by
            intro w hw
            have := hlater w hw
            omega
          obtain ⟨rest, hrest⟩ := ih hsorted.of_cons hroom hnamed hmore
          refine ⟨rest, ?_⟩
          rw [capturedEntries_cons, List.cons_append, sortByIndex_pair hindex hbehind hcaptured,
            hrest, weave]
          rfl

/-- The table in parts: entries for the slots below `first`, for the next `count` slots, and others
behind. -/
theorem NamesSlots.split {first count : Nat} {table : List LocalVariable}
    (h : NamesSlots (first + count) table) :
    ∃ front named later, table = front ++ (named ++ later) ∧ front.length = first ∧
      named.length = count ∧ (∀ v ∈ front, v.index.toNat < first) ∧
      named.map (fun v => v.index.toNat) = List.range' first count ∧
      ∀ v ∈ later, first + count ≤ v.index.toNat := by
  have honce : ∀ slot, 0 ≤ slot → slot < 0 + (first + count) →
      (table.map fun v => v.index.toNat).count slot = 1 := by
    intro slot _ hlt
    exact h.once slot (by omega)
  obtain ⟨htake, hdrop⟩ := take_of_once h.sorted (fun _ _ => Nat.zero_le _) honce
  have hlength : first + count ≤ table.length := by
    have hall := congrArg List.length htake
    rw [List.length_map, List.length_take, List.length_range'] at hall
    omega
  have hfront : (table.take first).length = first := by
    rw [List.length_take]
    omega
  have hnamed : ((table.drop first).take count).length = count := by
    rw [List.length_take, List.length_drop]
    omega
  rw [List.take_add, List.map_append, ← List.range'_append_1] at htake
  have hsame : ((table.take first).map fun v => v.index.toNat).length =
      (List.range' 0 first).length := by
    rw [List.length_map, List.length_range', hfront]
  obtain ⟨hbelow, hslots⟩ := List.append_inj htake hsame
  refine ⟨table.take first, (table.drop first).take count, table.drop (first + count), ?_, hfront,
    hnamed, ?_, ?_, ?_⟩
  · rw [← List.drop_drop, List.take_append_drop, List.take_append_drop]
  · intro v hv
    have hmem : v.index.toNat ∈ List.range' 0 first := hbelow ▸ List.mem_map_of_mem hv
    have := (List.mem_range'_1.mp hmem).2
    omega
  · rw [hslots, Nat.zero_add]
  · intro v hv
    have := hdrop v hv
    omega

/-- With entries for all slots below, looking a slot up finds its one entry. -/
theorem NamesSlots.localAt? {count : Nat} {method : Method} (h : NamesSlots count method.locals)
    {v : LocalVariable} (hv : v ∈ method.locals) (hlt : v.index.toNat < count) :
    method.localAt? v.index = some v := by
  have hlength : (entriesFor v.index method.locals).length = 1 := by
    rw [← h.once _ hlt, List.count_eq_countP, List.countP_map, entriesFor,
      ← List.countP_eq_length_filter]
    congr 1
    funext w
    rw [Bool.eq_iff_iff, beq_iff_eq, Function.comp, beq_iff_eq, UInt16.toNat_inj]
  obtain ⟨w, hw⟩ := List.length_eq_one_iff.mp hlength
  have hmem : v ∈ entriesFor v.index method.locals := mem_entriesFor.mpr ⟨hv, rfl⟩
  rw [hw, List.mem_singleton] at hmem
  rw [Method.localAt?, ← List.head?_filter, ← entriesFor, hw, hmem]
  rfl

/-- The names in the table of a method for so many slots from one on. -/
def slotNames (method : Method) (first count : Nat) : List String :=
  (List.range' first count).filterMap fun slot =>
    (method.localAt? (UInt16.ofNat slot)).map LocalVariable.name

theorem NamesSlots.slotNames_eq {method : Method} {first count : Nat}
    {front named later : List LocalVariable} (h : NamesSlots (first + count) method.locals)
    (htable : method.locals = front ++ (named ++ later))
    (hslots : named.map (fun v => v.index.toNat) = List.range' first count) :
    slotNames method first count = named.map LocalVariable.name := by
  rw [slotNames, ← hslots, List.filterMap_map, ← List.filterMap_eq_map]
  apply List.filterMap_congr
  intro v hv
  have hmem : v ∈ method.locals := by
    rw [htable]
    exact List.mem_append_right _ (List.mem_append_left _ hv)
  have hslot : v.index.toNat ∈ List.range' first count := hslots ▸ List.mem_map_of_mem hv
  have hlt := (List.mem_range'_1.mp hslot).2
  simp only [Function.comp, UInt16.ofNat_toNat, h.localAt? hmem hlt, Option.map_some]

theorem NamesSlots.length_slotNames {method : Method} {first count : Nat}
    (h : NamesSlots (first + count) method.locals) :
    (slotNames method first count).length = count := by
  obtain ⟨front, named, later, htable, _, hcount, _, hslots, _⟩ := h.split
  rw [h.slotNames_eq htable hslots, List.length_map, hcount]

/-- After the captured variables have been sorted in, the names from `first` on begin with those of
the slots, woven together with those of the captured variables. -/
theorem NamesSlots.names_sortByIndex {method : Method} {first count : Nat}
    {captured : List Variable} (h : NamesSlots (first + count) method.locals)
    (hfits : first + captured.length ≤ UInt16.size) :
    count ≤ ((sortByIndex (method.locals ++ capturedEntries first captured)).drop first).length ∧
      (((sortByIndex (method.locals ++ capturedEntries first captured)).drop first).take
        count).map LocalVariable.name =
          (weave (slotNames method first count) (captured.map Variable.name)).take count := by
  obtain ⟨front, named, later, htable, hfront, hcount, hbelow, hslots, hlater⟩ := h.split
  have hsorted := h.sorted
  rw [htable, InSlotOrder, List.pairwise_append] at hsorted
  obtain ⟨hfrontsorted, hrestsorted, hfrontle⟩ := hsorted
  have hle : ∀ v ∈ front, ∀ w ∈ named ++ later ++ capturedEntries first captured,
      v.index ≤ w.index := by
    intro v hv w hw
    rcases List.mem_append.mp hw with hw | hw
    · exact hfrontle v hv w hw
    · have hvslot := hbelow v hv
      have hwslot := le_of_mem_capturedEntries hfits hw
      rw [UInt16.le_iff_toNat_le]
      omega
  obtain ⟨rest, hrest⟩ := sortByIndex_weave hrestsorted hfits (hcount.symm ▸ hslots)
    (hcount.symm ▸ hlater)
  have hdrop : (sortByIndex (method.locals ++ capturedEntries first captured)).drop first =
      weave named (capturedEntries first captured) ++ rest := by
    rw [htable, List.append_assoc, sortByIndex_append_of_le hfrontsorted hle, hrest, ← hfront,
      List.drop_left]
  have hlength := length_le_weave named (capturedEntries first captured)
  rw [hcount] at hlength
  rw [hdrop]
  constructor
  · rw [List.length_append]
    omega
  · rw [List.take_append_of_le_length hlength, List.map_take, map_weave, map_name_capturedEntries,
      h.slotNames_eq htable hslots]

/-! ## The table of a backing method -/

section Backing

variable {method : Method} {hasReceiver : Bool} {captured : List Variable} {first : Nat}

theorem signature_withCaptured (method : Method) (hasReceiver : Bool) (captured : List Variable) :
    (withCaptured method hasReceiver captured).signature = method.signature := by
  unfold withCaptured
  split <;> rfl

theorem locals_withCaptured (hfirst : first = if hasReceiver then 1 else 0)
    (hsorted : captured = [] → InSlotOrder method.locals) :
    (withCaptured method hasReceiver captured).locals =
      sortByIndex (method.locals ++ capturedEntries first captured) := by
  cases captured with
  | nil =>
      have hnone : capturedEntries first [] = [] := rfl
      rw [hnone, List.append_nil, sortByIndex_of_inSlotOrder (hsorted rfl)]
      rfl
  | cons var rest =>
      rw [hfirst]
      rfl

end Backing

end SourceRecovery.Java
