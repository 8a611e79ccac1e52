import Mathlib.Data.List.Basic
import Mathlib.Data.List.DropRight
import SourceRecovery.Report

/-! # Where a report points

Any layout may draw the report of a failure. Of the layout it is only known how texts are cut into
lines and how characters are found on them; then the notice that it is given points at the marker:
the label covers the marker and nothing else, at the end of the last line, whatever terminators the
written text has and also if it ends with one.
-/

namespace SourceRecovery

/-! ## Layouts -/

/-- What is known of the lines of a layout, and of where it finds the characters of a text. -/
structure Layout.Lawful (layout : Layout) : Prop where
  /-- Nothing that is seen of a text ends a line. -/
  visible : ∀ c, '!'.toNat ≤ c.toNat → c.toNat ≤ '~'.toNat → layout.isTerminator c = false
  /-- The lines make up the text. -/
  whole : ∀ text, (layout.lines text).flatten = text
  ended : ∀ text, ∀ line ∈ (layout.lines text).dropLast,
    ∃ c, line.getLast? = some c ∧ layout.isTerminator c = true
  /-- Behind a terminator the line is over, but for a line feed behind a carriage return. -/
  closed : ∀ text, ∀ line ∈ layout.lines text, ∀ before c after, line = before ++ c :: after →
    layout.isTerminator c = true → after = [] ∨ c = '\r' ∧ after = ['\n']
  /-- A character is found on the line that holds it. -/
  placed : ∀ text offset, offset < text.length → ∃ before line after column,
    layout.lines text = before ++ line :: after ∧ column < line.length ∧
      offset = before.flatten.length + column ∧
      layout.place? text offset = some (before.length + 1, column + 1)

namespace Layout.Lawful

variable {layout : Layout} {text : List Char} {earlier : List (List Char)} {last : List Char}

theorem flatten_append (h : layout.Lawful) (hlines : layout.lines text = earlier ++ [last]) :
    earlier.flatten ++ last = text := by
  have hwhole := h.whole text
  rwa [hlines, List.flatten_append, List.flatten_singleton] at hwhole

/-- The text before the last line ends with a terminator. -/
theorem isTerminator_of_concat (h : layout.Lawful) (hlines : layout.lines text = earlier ++ [last])
    {before : List Char} {c : Char} (hc : earlier.flatten = before ++ [c]) :
    layout.isTerminator c = true := by
  rcases List.eq_nil_or_concat' earlier with hnil | ⟨lines, line, hconcat⟩
  · rw [hnil] at hc
    exact absurd hc.symm (List.append_ne_nil_of_right_ne_nil before (List.cons_ne_nil c []))
  · have hline : line ∈ (layout.lines text).dropLast := by
      rw [hlines, List.dropLast_concat, hconcat]
      exact List.mem_append_right _ (List.mem_singleton_self line)
    obtain ⟨d, hd, hterminator⟩ := h.ended text line hline
    have hsame := congrArg List.getLast? hc
    rw [hconcat, List.flatten_append, List.flatten_singleton, List.getLast?_append, hd,
      List.getLast?_concat] at hsame
    cases hsame
    exact hterminator

variable {ended rest : List Char}

/-- The last line does not begin before the last terminator. -/
theorem not_begins_before (h : layout.Lawful) (hlines : layout.lines text = earlier ++ [last])
    (hended : ∀ before c, ended = before ++ [c] → layout.isTerminator c = true)
    (hlength : 1 < rest.length) {piece : List Char} (hfirst : ended = earlier.flatten ++ piece)
    (hlast : last = piece ++ rest) : piece = [] := by
  rcases List.eq_nil_or_concat' piece with hnil | ⟨before, c, hpiece⟩
  · exact hnil
  · rw [hpiece, ← List.append_assoc] at hfirst
    rw [hpiece, List.append_assoc, List.singleton_append] at hlast
    have hmem : last ∈ layout.lines text := by
      rw [hlines]
      exact List.mem_append_right _ (List.mem_singleton_self last)
    rcases h.closed text last hmem before c rest hlast (hended _ c hfirst) with hover | ⟨_, hover⟩
    · simp [hover] at hlength
    · simp [hover] at hlength

/-- Nor does it begin behind it. -/
theorem not_begins_behind (h : layout.Lawful) (hlines : layout.lines text = earlier ++ [last])
    (hrest : ∀ c ∈ rest, layout.isTerminator c = false) {piece : List Char}
    (hfirst : earlier.flatten = ended ++ piece) (hlast : rest = piece ++ last) : piece = [] := by
  rcases List.eq_nil_or_concat' piece with hnil | ⟨before, c, hpiece⟩
  · exact hnil
  · rw [hpiece, ← List.append_assoc] at hfirst
    have hmem : c ∈ rest := by simp [hlast, hpiece]
    have hterminator := h.isTerminator_of_concat hlines hfirst
    rw [hrest c hmem] at hterminator
    cases hterminator

/-- What stands behind the last terminator is the last line. -/
theorem lines_append (h : layout.Lawful)
    (hended : ∀ before c, ended = before ++ [c] → layout.isTerminator c = true)
    (hrest : ∀ c ∈ rest, layout.isTerminator c = false) (hlength : 1 < rest.length) :
    ∃ earlier, layout.lines (ended ++ rest) = earlier ++ [rest] ∧ earlier.flatten = ended := by
  rcases List.eq_nil_or_concat' (layout.lines (ended ++ rest)) with hnil | ⟨earlier, last, hlines⟩
  · have hwhole := h.whole (ended ++ rest)
    rw [hnil] at hwhole
    have hempty : rest = [] := (List.append_eq_nil_iff.mp hwhole.symm).2
    simp [hempty] at hlength
  · have hwhole := h.flatten_append hlines
    have hsame : earlier.flatten = ended ∧ last = rest := by
      rcases List.append_eq_append_iff.mp hwhole with
        ⟨piece, hfirst, hlast⟩ | ⟨piece, hfirst, hlast⟩
      · have hpiece := h.not_begins_before hlines hended hlength hfirst hlast
        rw [hpiece] at hfirst hlast
        exact ⟨by rw [hfirst, List.append_nil], hlast⟩
      · have hpiece := h.not_begins_behind hlines hrest hfirst hlast
        rw [hpiece] at hfirst hlast
        exact ⟨by rw [hfirst, List.append_nil], hlast.symm⟩
    obtain ⟨hfirst, hlast⟩ := hsame
    exact ⟨earlier, by rw [hlines, hlast], hfirst⟩

/-- The characters of the last line are found on it. -/
theorem place?_last (h : layout.Lawful) (hlines : layout.lines text = earlier ++ [last])
    {position : Nat} (hposition : position < last.length) :
    layout.place? text (earlier.flatten.length + position) =
      some ((layout.lines text).length, position + 1) := by
  have hlength : text.length = earlier.flatten.length + last.length := by
    rw [← h.flatten_append hlines, List.length_append]
  obtain ⟨before, line, after, column, hsplit, hcolumn, hoffset, hplace⟩ :=
    h.placed text (earlier.flatten.length + position) (by omega)
  have hafter : after = [] := by
    rcases List.eq_nil_or_concat' after with hnil | ⟨between, final, hconcat⟩
    · exact hnil
    -- Otherwise the line found would end before the last one begins.
    · rw [hlines, hconcat, ← List.cons_append, ← List.append_assoc] at hsplit
      have hearlier := (List.append_inj' hsplit rfl).1
      have hflatten := congrArg (fun lines => lines.flatten.length) hearlier
      simp only [List.flatten_append, List.flatten_cons, List.length_append] at hflatten
      omega
  rw [hafter] at hsplit
  obtain ⟨hearlier, _⟩ := List.append_inj' (hlines.symm.trans hsplit) rfl
  rw [← hearlier] at hoffset hplace
  have hsame : column = position := by omega
  rw [hplace, hsame, hlines, List.length_append, List.length_singleton]

end Layout.Lawful

/-! ## The boxed layout -/

namespace Line

theorem flatten_split (cs : List Char) : (split cs).flatten = cs := by
  fun_induction split cs with
  | case1 => rfl
  | case2 rest ih => rw [List.flatten_cons, ih]; rfl
  | case3 c rest _ _ ih => rw [List.flatten_cons, ih]; rfl
  | case4 c rest _ _ hnil ih =>
      rw [hnil] at ih
      rw [← ih]
      rfl
  | case5 c rest _ _ line more hcons ih =>
      rw [hcons, List.flatten_cons] at ih
      rw [List.flatten_cons, List.cons_append, ih]

theorem mem_dropLast_cons {line first : List Char} {more : List (List Char)}
    (h : line ∈ (first :: more).dropLast) : more ≠ [] ∧ (line = first ∨ line ∈ more.dropLast) := by
  cases more with
  | nil => cases h
  | cons second more =>
      rw [List.dropLast_cons_cons] at h
      exact ⟨List.cons_ne_nil _ _, List.mem_cons.mp h⟩

theorem getLast?_of_mem_dropLast_split {cs line : List Char} (h : line ∈ (split cs).dropLast) :
    ∃ c, line.getLast? = some c ∧ isTerminator c = true := by
  fun_induction split cs generalizing line with
  | case1 => cases h
  | case2 rest ih =>
      rcases (mem_dropLast_cons h).2 with hpair | hmore
      · exact ⟨'\n', by rw [hpair]; rfl, by decide⟩
      · exact ih hmore
  | case3 c rest _ hc ih =>
      rcases (mem_dropLast_cons h).2 with hsingle | hmore
      · exact ⟨c, by rw [hsingle]; rfl, hc⟩
      · exact ih hmore
  | case4 c rest _ _ hnil ih => cases h
  | case5 c rest _ _ first more hcons ih =>
      obtain ⟨hsome, hline⟩ := mem_dropLast_cons h
      rw [hcons, List.dropLast_cons_of_ne_nil hsome] at ih
      rcases hline with hfirst | hmore
      · obtain ⟨d, hd, hterminator⟩ := ih List.mem_cons_self
        exact ⟨d, by rw [hfirst, List.getLast?_cons, hd, Option.getD_some], hterminator⟩
      · exact ih (List.mem_cons_of_mem _ hmore)

theorem closed_of_mem_split {cs line before after : List Char} {c : Char} (h : line ∈ split cs)
    (hline : line = before ++ c :: after) (hc : isTerminator c = true) :
    after = [] ∨ c = '\r' ∧ after = ['\n'] := by
  fun_induction split cs generalizing line before with
  | case1 => cases h
  | case2 rest ih =>
      rcases List.mem_cons.mp h with hpair | hmore
      · rcases before with _ | ⟨_, _ | ⟨_, before⟩⟩ <;> simp_all
      · exact ih hmore hline
  | case3 d rest _ _ ih =>
      rcases List.mem_cons.mp h with hsingle | hmore
      · cases before <;> simp_all
      · exact ih hmore hline
  | case4 d rest _ hd hnil ih =>
      rw [List.mem_singleton.mp h] at hline
      cases before <;> simp_all
  | case5 d rest _ hd first more hcons ih =>
      rw [hcons] at ih
      rcases List.mem_cons.mp h with hfirst | hmore
      · rw [hfirst] at hline
        cases before with
        | nil => cases hline; exact absurd hc hd
        | cons b before => exact ih List.mem_cons_self (List.cons.inj hline).2
      · exact ih (List.mem_cons_of_mem _ hmore) hline

theorem place?_of_lt {lines : List (List Char)} {offset : Nat} (h : offset < lines.flatten.length) :
    ∃ before line after column, lines = before ++ line :: after ∧ column < line.length ∧
      offset = before.flatten.length + column ∧
      place? offset lines = some (before.length + 1, column + 1) := by
  induction lines generalizing offset with
  | nil => cases h
  | cons first more ih =>
      unfold place?
      split
      · next hlt => exact ⟨[], first, more, offset, rfl, hlt, by simp, rfl⟩
      · next hge =>
          rw [List.flatten_cons, List.length_append] at h
          have hlt : offset - first.length < more.flatten.length := by omega
          obtain ⟨before, line, after, column, hmore, hcolumn, hoffset, hplace⟩ := ih hlt
          refine ⟨first :: before, line, after, column, by rw [hmore, List.cons_append], hcolumn,
            ?_, by rw [hplace]; rfl⟩
          rw [List.flatten_cons, List.length_append]
          omega

end Line

theorem Layout.boxed_lawful : Layout.boxed.Lawful where
  visible := by
    intro c hlow hhigh
    apply Bool.eq_false_iff.mpr
    intro hc
    simp only [Layout.boxed, Line.isTerminator, Bool.or_eq_true, beq_iff_eq, or_assoc] at hc
    rcases hc with rfl | rfl | rfl | rfl | rfl | rfl | rfl
    all_goals first | exact absurd hlow (by decide) | exact absurd hhigh (by decide)
  whole := Line.flatten_split
  ended _ _ hline := Line.getLast?_of_mem_dropLast_split hline
  closed _ _ hline _ _ _ hsplit hc := Line.closed_of_mem_split hline hsplit hc
  placed text offset hlt := by
    have hflatten : offset < (Line.split text).flatten.length := by
      rw [Line.flatten_split]
      exact hlt
    exact Line.place?_of_lt hflatten

/-! ## Reports -/

namespace Report

/-- What was written behind the last line terminator. -/
def openLine (layout : Layout) (f : Failure) : List Char :=
  f.written.toList.rtakeWhile fun c => !layout.isTerminator c

/-- The report is drawn from a notice that points at the marker. -/
structure PointsAtMarker (layout : Layout) (colours : Bool) (f : Failure) (n : Notice) : Prop where
  drawn : renderWith layout colours f = layout.draw n
  text : n.text = f.written ++ "<?>"
  /-- The label is for what the notice is about. -/
  label : n.label.span = n.span
  /-- These are the characters of the marker, -/
  selects : (n.text.toList.drop n.span.start).take (n.span.stop - n.span.start) = ['<', '?', '>']
  /-- and the last of the text. -/
  ends : n.span.stop = n.text.length
  /-- The marker is at the end of the last line. -/
  lastLine : (layout.lines n.text.toList).getLast? = some (openLine layout f ++ ['<', '?', '>'])
  /-- The label is reported there. -/
  place : layout.place? n.text.toList n.span.start =
    some ((layout.lines n.text.toList).length, (openLine layout f).length + 1)
  /-- It does not leave that line. -/
  onLine : ∀ offset, n.span.start ≤ offset → offset < n.span.stop →
    ∃ column, layout.place? n.text.toList offset =
      some ((layout.lines n.text.toList).length, column)

theorem toList_marker : marker.toList = ['<', '?', '>'] := by decide

theorem utf8ByteSize_marker : marker.utf8ByteSize = marker.toList.length := by decide

variable (layout : Layout) (colours : Bool) (f : Failure)

theorem toList_text : (notice colours f).text.toList = f.written.toList ++ marker.toList :=
  String.toList_append

theorem renderWith_eq (hsetup : ∀ reason, f.error ≠ .precondition reason)
    (hsink : f.error ≠ .write) :
    renderWith layout colours f = layout.draw (notice colours f) := by
  unfold renderWith
  split
  · next reason hreason => exact absurd hreason (hsetup reason)
  · next hwrite => exact absurd hwrite hsink
  · rfl

theorem labelled_selects :
    ((notice colours f).text.toList.drop (labelled f).start).take
      ((labelled f).stop - (labelled f).start) = marker.toList := by
  have hstart : (labelled f).start = f.written.toList.length := String.length_toList.symm
  have hwidth : (labelled f).stop - (labelled f).start = marker.toList.length := by
    rw [← utf8ByteSize_marker]
    exact Nat.add_sub_cancel_left _ _
  rw [toList_text, hwidth, hstart, List.drop_left, List.take_length]

theorem labelled_stop : (labelled f).stop = (notice colours f).text.length := by
  show f.written.length + marker.utf8ByteSize = (f.written ++ marker).length
  rw [String.length_append, utf8ByteSize_marker, String.length_toList]

theorem isTerminator_of_mem_openLine {c : Char} (h : c ∈ openLine layout f) :
    layout.isTerminator c = false := by
  unfold openLine at h
  have hnot := List.mem_rtakeWhile_imp h
  simpa using hnot

/-- Before the last line, what was written ends with a terminator. -/
theorem exists_ended : ∃ ended, f.written.toList = ended ++ openLine layout f ∧
    ∀ before c, ended = before ++ [c] → layout.isTerminator c = true := by
  refine ⟨f.written.toList.rdropWhile fun c => !layout.isTerminator c,
    List.rdropWhile_append_rtakeWhile.symm, ?_⟩
  intro before c hconcat
  have hsome : (f.written.toList.rdropWhile fun c => !layout.isTerminator c) ≠ [] := by
    rw [hconcat]
    exact List.append_ne_nil_of_right_ne_nil before (List.cons_ne_nil c [])
  have hlast := List.rdropWhile_last_not _ _ hsome
  simpa only [hconcat, List.getLast_append_singleton, Bool.not_eq_true', Bool.not_eq_false] using
    hlast

variable {layout} in
/-- The marker goes on the line that was being written. -/
theorem exists_lines (h : layout.Lawful) :
    ∃ earlier, layout.lines (notice colours f).text.toList =
        earlier ++ [openLine layout f ++ marker.toList] ∧
      (labelled f).start = earlier.flatten.length + (openLine layout f).length := by
  have hmarker : ∀ c ∈ marker.toList, layout.isTerminator c = false := by
    have hless := h.visible '<' (by decide) (by decide)
    have hasked := h.visible '?' (by decide) (by decide)
    have hgreater := h.visible '>' (by decide) (by decide)
    simp [toList_marker, hless, hasked, hgreater]
  have hrest : ∀ c ∈ openLine layout f ++ marker.toList, layout.isTerminator c = false :=
    List.forall_mem_append.mpr ⟨fun _ => isTerminator_of_mem_openLine layout f, hmarker⟩
  have hlength : 1 < (openLine layout f ++ marker.toList).length := by
    rw [List.length_append, toList_marker]
    exact Nat.lt_of_lt_of_le (by decide) (Nat.le_add_left 3 _)
  obtain ⟨ended, hwritten, hended⟩ := exists_ended layout f
  obtain ⟨earlier, hlines, hearlier⟩ := h.lines_append hended hrest hlength
  refine ⟨earlier, ?_, ?_⟩
  · rw [toList_text, hwritten, List.append_assoc, hlines]
  · rw [hearlier, ← List.length_append, ← hwritten]
    exact String.length_toList.symm

/-- Whatever layout draws it, the report of a failure with code to show is drawn from a notice that
points at the marker. -/
theorem report_points_at_marker (hlayout : layout.Lawful)
    (hsetup : ∀ reason, f.error ≠ .precondition reason) (hsink : f.error ≠ .write) :
    PointsAtMarker layout colours f (notice colours f) := by
  obtain ⟨earlier, hlines, hstart⟩ := exists_lines colours f hlayout
  have hselects := labelled_selects colours f
  have hstop : (labelled f).stop = (labelled f).start + marker.toList.length := by
    rw [← utf8ByteSize_marker]
    rfl
  -- All offsets of the label are on the last line.
  have hplace (position : Nat) (hposition : position < marker.toList.length) :
      layout.place? (notice colours f).text.toList ((labelled f).start + position) =
        some ((layout.lines (notice colours f).text.toList).length,
          (openLine layout f).length + position + 1) := by
    rw [hstart, Nat.add_assoc]
    apply hlayout.place?_last hlines
    rw [List.length_append]
    omega
  rw [toList_marker] at hlines hselects hplace hstop
  refine ⟨renderWith_eq layout colours f hsetup hsink, rfl, rfl, hselects, labelled_stop colours f,
    ?_, hplace 0 (by decide), ?_⟩
  · rw [hlines, List.getLast?_concat]
  · intro offset hle hlt
    have hoffset : offset = (labelled f).start + (offset - (labelled f).start) :=
      (Nat.add_sub_cancel' hle).symm
    have hposition : offset - (labelled f).start < ['<', '?', '>'].length := by
      have hlt' : offset < (labelled f).stop := hlt
      omega
    rw [hoffset]
    exact ⟨_, hplace _ hposition⟩

namespace Stopped

def failure (written : String) : Failure := ⟨.unsupportedElement "GOTO", "Main.main", written⟩

/-- Behind a pair of terminators, with characters of more than one byte. -/
def within : Failure := failure "() -> \x7b\r\n   größe = "

/-- Behind terminators that each end a line. -/
def behind : Failure := failure "\r\u2028;\n"

end Stopped

theorem report_points_at_marker_boxed :
    Layout.boxed.Lawful ∧
    PointsAtMarker .boxed true Stopped.within (notice true Stopped.within) ∧
    (notice true Stopped.within).span = ⟨20, 23⟩ ∧
    Layout.boxed.place? (notice true Stopped.within).text.toList 20 = some (2, 12) ∧
    PointsAtMarker .boxed false Stopped.behind (notice false Stopped.behind) ∧
    (notice false Stopped.behind).span = ⟨4, 7⟩ ∧
    Layout.boxed.place? (notice false Stopped.behind).text.toList 4 = some (4, 1) := by
  have hpoints (colours : Bool) (written : String) :=
    report_points_at_marker .boxed colours (Stopped.failure written) Layout.boxed_lawful
      (fun _ => GenerationError.noConfusion) GenerationError.noConfusion
  exact ⟨Layout.boxed_lawful, hpoints true _, by decide, by decide, hpoints false _, by decide,
    by decide⟩

end Report

end SourceRecovery
