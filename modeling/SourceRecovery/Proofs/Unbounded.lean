import SourceRecovery.Proofs.Header
import SourceRecovery.Proofs.Performed

/-! # Plans without a bound on depth

What a plan leaves behind if sites may be handed back as deeply as it takes. Nothing is left if no
depth is enough. Plans that leave the same from every sink can take each other's place in a longer
plan, although they may need different depths.
-/

namespace SourceRecovery

theorem Run.EndsAs.observed_eq {r s : Run} (h : r.EndsAs s) : r.observed = s.observed := by
  rw [Run.observed, Run.observed, h.outcome, h.sink]

namespace Catalog

variable (catalog : Catalog) (fallback : Rule)

/-- At some depth the plan is run to an end and leaves this. -/
def Leaves (p : Plan) (sink : Sink) (left : Except GenerationError Unit × Sink) : Prop :=
  ∃ depth, (p.run (catalog.dispatch fallback depth) sink).observed = some left

/-- Both plans leave the same, whatever the sink. -/
def LeaveAlike (p q : Plan) : Prop :=
  ∀ sink left, catalog.Leaves fallback p sink left ↔ catalog.Leaves fallback q sink left

variable {catalog fallback}

/-- What is left at some depth is left at every greater depth. -/
theorem observed_of_le {p : Plan} {sink : Sink} {left : Except GenerationError Unit × Sink}
    {depth deeper : Nat} (hle : depth ≤ deeper)
    (h : (p.run (catalog.dispatch fallback depth) sink).observed = some left) :
    (p.run (catalog.dispatch fallback deeper) sink).observed = some left := by
  have hfinished : (p.run (catalog.dispatch fallback depth) sink).Finished :=
    Run.observed_isSome_iff.mp (by rw [h]; rfl)
  have hextends := catalog.dispatch_extends_of_le fallback hle
  rw [Plan.run_extends hextends p sink hfinished, h]

namespace Leaves

variable {p q : Plan} {sink : Sink} {left other : Except GenerationError Unit × Sink}

theorem unique (h : catalog.Leaves fallback p sink left)
    (hother : catalog.Leaves fallback p sink other) : left = other := by
  obtain ⟨depth, hdepth⟩ := h
  obtain ⟨deeper, hdeeper⟩ := hother
  have hleft := observed_of_le (Nat.le_max_left depth deeper) hdepth
  have hright := observed_of_le (Nat.le_max_right depth deeper) hdeeper
  exact Option.some.inj (hleft.symm.trans hright)

/-- One plan after the other leaves what the second leaves, or what the first leaves if it fails. -/
theorem append_iff : catalog.Leaves fallback (p ++ q) sink left ↔
    (∃ mid, catalog.Leaves fallback p sink (.ok (), mid) ∧ catalog.Leaves fallback q mid left) ∨
    (∃ e after, left = (.error e, after) ∧ catalog.Leaves fallback p sink left) := by
  constructor
  · rintro ⟨depth, hdepth⟩
    rw [Plan.run_append, Run.observed_andThen] at hdepth
    obtain ⟨⟨result, mid⟩, hfirst, hrest⟩ := Option.bind_eq_some_iff.mp hdepth
    cases result with
    | ok _ => exact .inl ⟨mid, ⟨depth, hfirst⟩, depth, hrest⟩
    | error e =>
        cases hrest
        exact .inr ⟨e, mid, rfl, depth, hfirst⟩
  · rintro (⟨mid, ⟨depth, hfirst⟩, deeper, hrest⟩ | ⟨e, after, rfl, depth, hfirst⟩)
    · refine ⟨max depth deeper, ?_⟩
      rw [Plan.run_append, Run.observed_andThen,
        observed_of_le (Nat.le_max_left depth deeper) hfirst]
      exact observed_of_le (Nat.le_max_right depth deeper) hrest
    · refine ⟨depth, ?_⟩
      rw [Plan.run_append, Run.observed_andThen, hfirst]
      rfl

theorem append {mid : Sink} (hp : catalog.Leaves fallback p sink (.ok (), mid))
    (hq : catalog.Leaves fallback q mid left) : catalog.Leaves fallback (p ++ q) sink left :=
  append_iff.mpr (.inl ⟨mid, hp, hq⟩)

theorem exists_append (hp : ∃ left, catalog.Leaves fallback p sink left)
    (hq : ∀ mid, ∃ left, catalog.Leaves fallback q mid left) :
    ∃ left, catalog.Leaves fallback (p ++ q) sink left := by
  obtain ⟨⟨result, mid⟩, hfirst⟩ := hp
  cases result with
  | ok _ =>
      obtain ⟨left, hrest⟩ := hq mid
      exact ⟨left, hfirst.append hrest⟩
  | error e => exact ⟨_, append_iff.mpr (.inr ⟨e, mid, rfl, hfirst⟩)⟩

end Leaves

namespace LeaveAlike

variable {p q p' q' : Plan}

theorem trans {r : Plan} (hpq : catalog.LeaveAlike fallback p q)
    (hqr : catalog.LeaveAlike fallback q r) : catalog.LeaveAlike fallback p r :=
  fun sink left => (hpq sink left).trans (hqr sink left)

theorem refl (p : Plan) : catalog.LeaveAlike fallback p p := fun _ _ => Iff.rfl

theorem append (hp : catalog.LeaveAlike fallback p p') (hq : catalog.LeaveAlike fallback q q') :
    catalog.LeaveAlike fallback (p ++ q) (p' ++ q') := by
  intro sink left
  rw [Leaves.append_iff, Leaves.append_iff]
  simp only [hp sink, hq _ left]

end LeaveAlike

/-- Text needs no depth, also if the sink refuses it. -/
theorem exists_leaves_texts (pieces : List String) (sink : Sink) :
    ∃ left, catalog.Leaves fallback (.texts pieces) sink left := by
  have hfinished : ((Plan.texts pieces).run (catalog.dispatch fallback 0) sink).Finished :=
    (Plan.Hands.texts pieces).finished (List.forall_mem_nil _) sink
  obtain ⟨left, hleft⟩ := Option.isSome_iff_exists.mp (Run.observed_isSome_iff.mpr hfinished)
  exact ⟨left, 0, hleft⟩

theorem observed_generate (ctx : Context) (site : Site) (e : Element) (depth : Nat) (sink : Sink) :
    ((ctx.generate site e).run (catalog.dispatch fallback depth) sink).observed =
      (catalog.dispatch fallback depth ctx (site.focus e) sink).observed :=
  (Plan.run_generate_endsAs (catalog.dispatch fallback depth) ctx site e sink).observed_eq

/-- To hand a site back is to run its stages. -/
theorem generate_leaveAlike (ctx : Context) (site : Site) (e : Element) :
    catalog.LeaveAlike fallback (ctx.generate site e)
      ((catalog.select ctx (site.focus e)).stages fallback ctx (site.focus e)) := by
  intro sink left
  constructor
  · rintro ⟨depth, hdepth⟩
    rw [observed_generate] at hdepth
    cases depth with
    | zero => cases hdepth
    | succ depth => exact ⟨depth, hdepth⟩
  · rintro ⟨depth, hdepth⟩
    refine ⟨depth + 1, ?_⟩
    rw [observed_generate]
    exact hdepth

end Catalog

end SourceRecovery
