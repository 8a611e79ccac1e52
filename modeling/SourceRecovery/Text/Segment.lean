/-!
# Cutting a text at its last separator

Qualified names are cut at the last `.`, nested names at the last `$`. Both cuts are the same
function on character lists.
-/

namespace SourceRecovery.Segment

/-- What stands before and after the last occurrence of `sep`, if there is one. -/
def splitLast? (sep : Char) : List Char → Option (List Char × List Char)
  | [] => none
  | c :: rest =>
    match splitLast? sep rest with
    | some (before, after) => some (c :: before, after)
    | none => if c = sep then some ([], rest) else none

/-- The part after the last `sep`, or everything. -/
def afterLast (sep : Char) (cs : List Char) : List Char :=
  match splitLast? sep cs with
  | some (_, after) => after
  | none => cs

theorem splitLast?_eq_none_iff {sep : Char} {cs : List Char} :
    splitLast? sep cs = none ↔ sep ∉ cs := by
  induction cs with
  | nil => simp [splitLast?]
  | cons c rest ih =>
    simp only [splitLast?, List.mem_cons, not_or]
    cases h : splitLast? sep rest with
    | some cut =>
      have : sep ∈ rest := by
        apply Classical.byContradiction
        intro hn
        rw [ih.2 hn] at h
        exact nomatch h
      simp [this]
    | none =>
      have hn := ih.1 h
      by_cases hc : c = sep
      · simp [hc]
      · simp [hc, hn, Ne.symm hc]

/-- The cut loses nothing, and the second part holds no separator. -/
theorem splitLast?_eq_some {sep : Char} {cs before after : List Char}
    (h : splitLast? sep cs = some (before, after)) :
    cs = before ++ sep :: after ∧ sep ∉ after := by
  induction cs generalizing before after with
  | nil => exact nomatch h
  | cons c rest ih =>
    simp only [splitLast?] at h
    cases hr : splitLast? sep rest with
    | some cut =>
      obtain ⟨b, a⟩ := cut
      rw [hr] at h
      cases h
      obtain ⟨eq, free⟩ := ih hr
      exact ⟨by rw [eq]; rfl, free⟩
    | none =>
      rw [hr] at h
      by_cases hc : c = sep
      · rw [if_pos hc] at h
        cases h
        exact ⟨by rw [hc]; rfl, splitLast?_eq_none_iff.1 hr⟩
      · rw [if_neg hc] at h
        exact nomatch h

end SourceRecovery.Segment
