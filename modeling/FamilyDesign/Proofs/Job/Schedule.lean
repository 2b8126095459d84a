import FamilyDesign.Job.Simulator
import FamilyDesign.Proofs.Job.Progress
import FamilyDesign.Proofs.Numeric.Order

/-!
# The schedule of a simulated job

A simulated job moves on by the time alone. What is said of it at a moment follows from the seconds
that have passed and from its duration, whichever number that is:

* **`Instant.since_le_since`** — the seconds to a later moment are no fewer.
* **`Simulator.statusAfter_follows`** — as time passes the status stays or goes where it may.
* **`progress_carried`** — progress that was reached earlier makes no difference: the ramps rise,
  and a number of tenths that was rounded before is at most the one that is rounded now.
* **`remaining_le_remaining`** — the seconds that are left never grow.
-/

namespace FamilyDesign

open Numeric (Binary64)

/-! ## Time that has passed -/

namespace Instant

/-- The seconds to a later moment are no fewer. -/
theorem since_le_since {t t' : Instant} (start : Instant) (h : t.micros ≤ t'.micros) :
    t.since start ≤ t'.since start := by
  unfold since
  rw [Binary64.ofQuotient_eq_ofValue, Binary64.ofQuotient_eq_ofValue]
  refine Binary64.ofValue_le_ofValue _ _ _ ?_
  exact Int.mul_le_mul_of_nonneg_right (by omega) (Int.natCast_nonneg _)

/-- No seconds have passed at the moment itself. -/
theorem since_self (t : Instant) : t.since t = 0 := by
  unfold since
  rw [Int.sub_self]
  decide +kernel

/-- The seconds since an earlier moment have no sign. -/
theorem since_unsigned {start now : Instant} (h : start.micros ≤ now.micros) :
    (now.since start).Unsigned := by
  unfold since
  rw [Binary64.ofQuotient_eq_ofValue]
  refine Binary64.unsigned_ofValue ?_ _
  exact Int.mul_nonneg (by omega) (Int.natCast_nonneg _)

end Instant

namespace Job

open Numeric.Binary64

/-! ## The status by the schedule -/

namespace Simulator

/-- The status that a job is at by the schedule. -/
def statusAfter (duration elapsed : Binary64) : Status :=
  (Status.ofWord? (schedule duration elapsed).status).getD .submitted

/-- The simulator says `submitted`. -/
theorem ofWord?_submitted : Status.ofWord? "submitted" = some .submitted := by
  decide

theorem ofWord?_inProgress : Status.ofWord? "inprogress" = some .inProgress := by
  decide

theorem ofWord?_success : Status.ofWord? "success" = some .success := by
  decide

variable (duration : Binary64) {elapsed elapsed' : Binary64}

/-- The words of the schedule are words for statuses. -/
theorem ofWord?_schedule (elapsed : Binary64) :
    Status.ofWord? (schedule duration elapsed).status = some (statusAfter duration elapsed) := by
  unfold statusAfter schedule
  split
  · simp only [ofWord?_submitted, Option.getD_some]
  · split
    · simp only [ofWord?_inProgress, Option.getD_some]
    · split
      · simp only [ofWord?_inProgress, Option.getD_some]
      · simp only [ofWord?_success, Option.getD_some]

/-- The schedule always has something to say. -/
theorem message_schedule_ne_empty (elapsed : Binary64) :
    (schedule duration elapsed).message.isEmpty = false := by
  unfold schedule
  split
  · decide
  · split
    · decide
    · split
      · decide
      · decide

/-- Whether the schedule has not come to its end. -/
def Unfinished (duration elapsed : Binary64) : Prop :=
  elapsed < duration * (3 / 15) ∨ elapsed < duration * (8 / 15) ∨ elapsed < duration

/-- The three phases of the schedule. -/
theorem statusAfter_cases (elapsed : Binary64) :
    (statusAfter duration elapsed = .submitted ∧ elapsed < duration * (3 / 15)) ∨
    (statusAfter duration elapsed = .inProgress ∧ ¬elapsed < duration * (3 / 15) ∧
      Unfinished duration elapsed) ∨
    (statusAfter duration elapsed = .success ∧ ¬Unfinished duration elapsed) := by
  -- Four bounds are asked one after another; the middle two phases share a status.
  unfold statusAfter schedule Unfinished
  split
  · next h => exact Or.inl ⟨by rw [ofWord?_submitted]; rfl, h⟩
  · next h =>
    split
    · next h' => exact Or.inr (Or.inl ⟨by rw [ofWord?_inProgress]; rfl, h, Or.inr (Or.inl h')⟩)
    · next h' =>
      split
      · next h'' =>
        exact Or.inr (Or.inl ⟨by rw [ofWord?_inProgress]; rfl, h, Or.inr (Or.inr h'')⟩)
      · next h'' =>
        refine Or.inr (Or.inr ⟨by rw [ofWord?_success]; rfl, ?_⟩)
        rintro (hlt | hlt | hlt)
        · exact h hlt
        · exact h' hlt
        · exact h'' hlt

/-- The schedule is under way or has succeeded. -/
theorem statusAfter_mem (elapsed : Binary64) :
    (statusAfter duration elapsed).isTerminal = false ∨
      statusAfter duration elapsed = .success := by
  rcases statusAfter_cases duration elapsed with ⟨h, -⟩ | ⟨h, -⟩ | ⟨h, -⟩
  · exact Or.inl (by rw [h]; rfl)
  · exact Or.inl (by rw [h]; rfl)
  · exact Or.inr h

/-- What is unfinished was unfinished before. -/
theorem Unfinished.of_le {duration : Binary64} (hle : elapsed ≤ elapsed')
    (h : Unfinished duration elapsed') : Unfinished duration elapsed :=
  h.imp (lt_of_le_of_lt hle) (Or.imp (lt_of_le_of_lt hle) (lt_of_le_of_lt hle))

/-- As time passes the status stays or goes where it may. Whatever bound the later moment keeps, the
earlier one keeps too, so the order of the bounds does not matter. -/
theorem statusAfter_follows (hle : elapsed ≤ elapsed') :
    (statusAfter duration elapsed).Follows (statusAfter duration elapsed') := by
  rcases statusAfter_cases duration elapsed with
    ⟨hstatus, hlt⟩ | ⟨hstatus, hnot, hunfinished⟩ | ⟨hstatus, hfinished⟩ <;>
  rcases statusAfter_cases duration elapsed' with
    ⟨hstatus', hlt'⟩ | ⟨hstatus', hnot', hunfinished'⟩ | ⟨hstatus', hfinished'⟩ <;>
  rw [hstatus, hstatus']
  · exact Status.Follows.refl _
  · exact Or.inr rfl
  · exact Or.inr rfl
  · -- A later moment in an earlier phase: the bound would hold before too.
    exact absurd (lt_of_le_of_lt hle hlt') hnot
  · exact Status.Follows.refl _
  · exact Or.inr rfl
  · exact absurd (Or.inl (lt_of_le_of_lt hle hlt')) hfinished
  · exact absurd (hunfinished'.of_le hle) hfinished
  · exact Status.Follows.refl _

/-- All successes are told of in the same words. -/
theorem message_schedule_of_success {elapsed : Binary64}
    (h : statusAfter duration elapsed = .success) :
    (schedule duration elapsed).message = Status.success.message := by
  rcases statusAfter_cases duration elapsed with ⟨hstatus, -⟩ | ⟨hstatus, -⟩ | ⟨-, hfinished⟩
  · rw [hstatus] at h
    cases h
  · rw [hstatus] at h
    cases h
  · unfold schedule
    rw [if_neg fun hlt => hfinished (Or.inl hlt),
      if_neg fun hlt => hfinished (Or.inr (Or.inl hlt)),
      if_neg fun hlt => hfinished (Or.inr (Or.inr hlt))]
    rfl

end Simulator

/-! ## The ramps -/

/-- A start, and a gain by the part of a window that has passed. -/
theorem gain_le_gain {start gain window x y : Binary64} (hgain : gain.Unsigned) (hpos : 0 < gain)
    (hfin : gain.isFinite = true) (hstart : start.Unsigned) (hwindow : window.Unsigned)
    (hpos' : 0 < window) (hfin' : window.isFinite = true) (hx : x.Unsigned) (hy : y.Unsigned)
    (hle : x ≤ y) : start + gain * (x / window) ≤ start + gain * (y / window) := by
  have hpart := hx.div hwindow hpos' hfin'
  have hpart' := hy.div hwindow hpos' hfin'
  have hparts := hx.div_le_div_right hy hwindow hpos' hfin' hle
  exact add_le_add_left (hgain.mul_le_mul_left hpos hfin hpart hpart' hparts)
    (hstart.add (hgain.mul hpos hfin hpart)).defined
    (hstart.add (hgain.mul hpos hfin hpart')).defined

/-- The progress of a submitted job by the part of its window that has passed. -/
theorem submitted_gain_le {x y : Binary64} (hx : x.Unsigned) (hy : y.Unsigned) (hle : x ≤ y) :
    5 + ((20 : Binary64) - 5) * (x / submittedWindow)
      ≤ 5 + ((20 : Binary64) - 5) * (y / submittedWindow) := by
  rw [show (20 : Binary64) - 5 = 15 from by decide +kernel]
  exact gain_le_gain (unsigned_ofNat 15) (ofNat_pos (by decide)) (isFinite_ofNat (by decide))
    (unsigned_ofNat 5) (unsigned_ofNat 30) (ofNat_pos (by decide)) (isFinite_ofNat (by decide))
    hx hy hle

/-- The progress of a job under way rises with time. -/
theorem inProgress_gain_le {x y : Binary64} (hx : x.Unsigned) (hy : y.Unsigned) (hle : x ≤ y) :
    20 + (progressCap - 20) * (x / inProgressWindow)
      ≤ 20 + (progressCap - 20) * (y / inProgressWindow) := by
  rw [show progressCap - 20 = 70 from by decide +kernel]
  exact gain_le_gain (unsigned_ofNat 70) (ofNat_pos (by decide)) (isFinite_ofNat (by decide))
    (unsigned_ofNat 20) (unsigned_ofNat 120) (ofNat_pos (by decide)) (isFinite_ofNat (by decide))
    hx hy hle

theorem submittedWindow_finite : submittedWindow.isFinite = true := isFinite_ofNat (by decide)

/-- The part of the window of a job in progress that has passed. -/
theorem beyond_unsigned {since : Binary64} (h : since.Unsigned) :
    (((since - submittedWindow).larger 0).smaller inProgressWindow).Unsigned :=
  (h.sub_larger_zero (unsigned_ofNat 30) submittedWindow_finite).smaller (unsigned_ofNat 120)

/-- There is a ramp just for the jobs that have not come to an end. -/
theorem exists_ramp_of_isTerminal {status : Status} (since : Binary64)
    (h : status.isTerminal = false) : ∃ v, ramp? status since = some v := by
  cases status with
  | submitted => exact ⟨_, rfl⟩
  | inProgress => exact ⟨_, rfl⟩
  | success => cases h
  | failed => cases h
  | cancelled => cases h

/-- The ramps rise with the time, and the later ramp starts where the earlier one ends. -/
theorem ramp_le_ramp {s s' : Status} {since since' v v' : Binary64} (hfollows : s.Follows s')
    (hsince : since.Unsigned) (hsince' : since'.Unsigned) (hle : since ≤ since')
    (h : ramp? s since = some v) (h' : ramp? s' since' = some v') : v ≤ v' := by
  have hpart := hsince.smaller (unsigned_ofNat 30)
  cases s with
  | submitted =>
    rw [← Option.some.inj h]
    cases s' with
    | submitted =>
      rw [← Option.some.inj h']
      exact submitted_gain_le hpart (hsince'.smaller (unsigned_ofNat 30))
        (hsince.smaller_le_smaller hsince' (unsigned_ofNat 30) hle)
    | inProgress =>
      rw [← Option.some.inj h']
      -- the one ends at twenty, and the other starts there
      have hend := submitted_gain_le hpart (unsigned_ofNat 30)
        (hsince.smaller_le_right (unsigned_ofNat 30))
      have hstart := inProgress_gain_le (unsigned_ofNat 0) (beyond_unsigned hsince')
        (beyond_unsigned hsince').zero_le
      rw [show (5 : Binary64) + (20 - 5) * (30 / submittedWindow)
        = 20 + (progressCap - 20) * (0 / inProgressWindow) from by decide +kernel] at hend
      exact Numeric.Binary64.le_trans hend hstart
    | success => cases h'
    | failed => cases h'
    | cancelled => cases h'
  | inProgress =>
    rw [← Option.some.inj h]
    cases s' with
    | submitted =>
      rcases hfollows with heq | hcan
      · cases heq
      · cases hcan
    | inProgress =>
      rw [← Option.some.inj h']
      have hbeyond : (since - submittedWindow).larger 0 ≤ (since' - submittedWindow).larger 0 := by
        refine larger_zero_le_larger_zero (sub_le_sub_right hle ?_ ?_)
        · exact hsince.isUndefined_sub (unsigned_ofNat 30) submittedWindow_finite
        · exact hsince'.isUndefined_sub (unsigned_ofNat 30) submittedWindow_finite
      exact inProgress_gain_le (beyond_unsigned hsince) (beyond_unsigned hsince')
        (Unsigned.smaller_le_smaller
          (hsince.sub_larger_zero (unsigned_ofNat 30) submittedWindow_finite)
          (hsince'.sub_larger_zero (unsigned_ofNat 30) submittedWindow_finite)
          (unsigned_ofNat 120) hbeyond)
    | success => cases h'
    | failed => cases h'
    | cancelled => cases h'
  | success => cases h
  | failed => cases h
  | cancelled => cases h

/-! ## Progress -/

/-- Rounding to some places keeps the greater of two numbers the greater. -/
theorem scaledMagnitude_max {r r' : Nat} (h : r ≤ Numeric.infinityRank)
    (h' : r' ≤ Numeric.infinityRank) (h'' : max r r' ≤ Numeric.infinityRank) (places : Nat) :
    (ranked false (max r r') h'').scaledMagnitude places
      = max ((ranked false r h).scaledMagnitude places)
          ((ranked false r' h').scaledMagnitude places) := by
  rcases Nat.le_total r r' with hle | hle
  · have hmono : (ranked false r h).scaledMagnitude places
        ≤ (ranked false r' h').scaledMagnitude places := scaledMagnitude_mono places hle
    simp only [Nat.max_eq_right hle, Nat.max_eq_right hmono]
  · have hmono : (ranked false r' h').scaledMagnitude places
        ≤ (ranked false r h).scaledMagnitude places := scaledMagnitude_mono places hle
    simp only [Nat.max_eq_left hle, Nat.max_eq_left hmono]

/-- The tenths that a ramp is rounded to. -/
def tenths (v : Binary64) : Nat := (v.smaller progressCap).scaledMagnitude 1

/-- The cap is nine hundred tenths. -/
theorem tenths_le {v : Binary64} (hv : v.Unsigned) : tenths v ≤ 900 := by
  have hcap : progressCap.Unsigned := unsigned_ofNat 90
  calc tenths v ≤ progressCap.scaledMagnitude 1 :=
        (hv.smaller hcap).scaledMagnitude_le hcap 1 (hv.smaller_le_right hcap)
    _ = 900 := by rw [← tenth_cap, scaledMagnitude_tenth (by decide)]

/-- A greater value has no fewer tenths. -/
theorem tenths_le_tenths {v v' : Binary64} (hv : v.Unsigned) (hv' : v'.Unsigned) (hle : v ≤ v') :
    tenths v ≤ tenths v' := by
  have hcap : progressCap.Unsigned := unsigned_ofNat 90
  exact (hv.smaller hcap).scaledMagnitude_le (hv'.smaller hcap) 1
    (hv.smaller_le_smaller hv' hcap hle)

/-- The progress of a job on a ramp, given tenths that were reached before: whichever are more. The
cap and the rounding keep the greater of two the greater, and tenths are rounded to themselves. -/
theorem progress_of_ramp {status : Status} {elapsed v : Binary64} (hv : v.Unsigned)
    (h : ramp? status ((0 : Binary64).larger elapsed) = some v) {k : Nat} (hk : k ≤ 900) :
    progress status elapsed (tenth k) = tenth (max (tenths v) k) := by
  have hstatus : status ≠ .success := by
    rintro rfl
    cases h
  obtain ⟨rank, bounded, rfl⟩ := hv
  have hmono : nearestRank (k * unitsPerOne) (10 ^ 1) ≤ nearestRank (900 * unitsPerOne) (10 ^ 1) :=
    nearestRank_mono (10 ^ 1) (Nat.mul_le_mul_right unitsPerOne hk)
  have hcap := nearestRank_tenth_lt (k := 900) (by decide)
  -- On ranks, capping and taking the greater commute, as the tenths reached are below the cap.
  have hround : min (max rank (nearestRank (k * unitsPerOne) (10 ^ 1)))
      (nearestRank (900 * unitsPerOne) (10 ^ 1))
        = max (min rank (nearestRank (900 * unitsPerOne) (10 ^ 1)))
            (nearestRank (k * unitsPerOne) (10 ^ 1)) := by
    omega
  have htenths : tenths (ranked false rank bounded)
      = (ranked false (min rank (nearestRank (900 * unitsPerOne) (10 ^ 1)))
          (by omega)).scaledMagnitude 1 := by
    unfold tenths
    rw [← tenth_cap]
    unfold tenth nearest
    rw [smaller_ranked]
  unfold progress
  rw [if_neg hstatus, h, Option.getD_some, ← tenth_cap]
  conv_lhs => unfold tenth nearest
  dsimp only
  rw [larger_ranked, smaller_ranked]
  simp only [hround]
  unfold roundTo
  rw [if_pos (isFinite_ranked_iff.mpr (by omega)),
    scaledMagnitude_max _ (nearestRank_le (k * unitsPerOne) (10 ^ 1)), htenths]
  -- Rounding leaves what was rounded before.
  have hback : (ranked false (nearestRank (k * unitsPerOne) (10 ^ 1))
      (nearestRank_le _ _)).scaledMagnitude 1 = k := scaledMagnitude_tenth (by omega)
  rw [hback]
  rfl

/-- **Progress reached earlier makes no difference.** -/
theorem progress_carried {s s' : Status} {elapsed elapsed' : Binary64} (hfollows : s.Follows s')
    (hs : s.isTerminal = false) (hs' : s'.isTerminal = false ∨ s' = .success)
    (hle : elapsed ≤ elapsed') :
    progress s' elapsed' (progress s elapsed 0) = progress s' elapsed' 0 := by
  rcases hs' with hopen | rfl
  · obtain ⟨hdef, hdef'⟩ := defined_of_le hle
    obtain ⟨v, hramp⟩ := exists_ramp_of_isTerminal ((0 : Binary64).larger elapsed) hs
    obtain ⟨v', hramp'⟩ := exists_ramp_of_isTerminal ((0 : Binary64).larger elapsed') hopen
    have hv := ramp_unsigned hdef hramp
    have hv' := ramp_unsigned hdef' hramp'
    have hramps : v ≤ v' := ramp_le_ramp hfollows (unsigned_zero_larger hdef)
      (unsigned_zero_larger hdef') (zero_larger_le_zero_larger hle) hramp hramp'
    -- The earlier tenths are no more than the later, so taking the greater drops them.
    have htenths := tenths_le_tenths hv hv' hramps
    rw [← tenth_zero, progress_of_ramp hv hramp (Nat.zero_le 900), Nat.max_zero,
      progress_of_ramp hv' hramp' (tenths_le hv), progress_of_ramp hv' hramp' (Nat.zero_le 900),
      Nat.max_eq_left htenths, Nat.max_zero]
  · unfold progress
    rw [if_pos rfl, if_pos rfl]

/-! ## The time that is left -/

/-- Nothing is left once endless time has passed, whatever the duration. -/
theorem zero_larger_sub_of_isInfinite (duration : Binary64) {elapsed : Binary64}
    (he : elapsed.Unsigned) (hinf : elapsed.isInfinite = true) :
    (0 : Binary64).larger (duration - elapsed) = 0 := by
  refine if_neg fun hpos => ?_
  have hunsigned := unsigned_of_pos hpos
  obtain ⟨rank, bounded, rfl⟩ := he
  have hopposite : (-ranked false rank bounded).isInfinite = true := hinf
  have hdef := hunsigned.defined
  rw [sub_eq_add_neg, add_swap] at hunsigned hdef
  -- a difference that is defined is the other infinity
  rw [add_of_isInfinite hopposite hdef] at hunsigned
  obtain ⟨rank', bounded', heq⟩ := hunsigned
  cases heq

/-- The seconds that are left never grow. -/
theorem remaining_le_remaining (duration : Binary64) {elapsed elapsed' : Binary64}
    (he : elapsed.Unsigned) (he' : elapsed'.Unsigned) (hle : elapsed ≤ elapsed') :
    (0 : Binary64).larger (duration - elapsed') ≤ (0 : Binary64).larger (duration - elapsed) := by
  rcases isFinite_or_isInfinite he'.defined with hfin' | hinf'
  · have hfin := he.isFinite_of_le he' hle hfin'
    cases hdef : duration.isUndefined with
    | false =>
      exact zero_larger_le_zero_larger
        (sub_le_sub_left hle (isUndefined_sub hdef hfin) (isUndefined_sub hdef hfin'))
    -- An undefined duration makes both differences undefined.
    | true =>
      cases duration with
      | nan shared =>
        have hnone : ∀ e : Binary64, e.Unsigned → nan shared - e = undefined := by
          rintro e ⟨rank, bounded, rfl⟩
          rfl
        rw [hnone elapsed he, hnone elapsed' he']
        exact (zero_larger_unsigned undefined).le_refl
      | ranked negative rank bounded => cases hdef
  · -- With infinitely many seconds gone nothing is left.
    rw [zero_larger_sub_of_isInfinite duration he' hinf']
    exact (zero_larger_unsigned _).zero_le

end Job

end FamilyDesign
