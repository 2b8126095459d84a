import FamilyDesign.Proofs.Job.Run
import FamilyDesign.Proofs.Numeric.Gaps

/-!
# Progress never falls

The progress of a job is computed from two ramps, a cap and what was reached before, and then
rounded to one place. What is reached before has been rounded already, so it may exceed the ramp;
time may go back; statuses may be skipped. The progress rises nevertheless:

* **`tenth`** — every progress below a success is a number of tenths, at most 900. Such numbers are
  fixed by rounding to one place (`scaledMagnitude_tenth`).
* **`progress_tenth`** — from `k` tenths the progress goes on to `k'` tenths, and `k ≤ k'`.
* **`Record.Fits`** — the invariant: a hundred at a success, and otherwise a number of tenths.
* **`keepsProgress`** — the headline: at every step of every run.
-/

namespace FamilyDesign.Job

open Numeric (Binary64)
open Numeric.Binary64

/-! ## Tenths -/

/-- The number nearest to `k` tenths. -/
def tenth (k : Nat) : Binary64 := nearest false (k * unitsPerOne) (10 ^ 1)

theorem tenth_zero : tenth 0 = 0 := by
  decide +kernel

theorem tenth_cap : tenth 900 = progressCap := by
  decide +kernel

theorem tenth_hundred : tenth 1000 = 100 := by
  decide +kernel

theorem tenth_le_tenth {k k' : Nat} (h : k ≤ k') : tenth k ≤ tenth k' :=
  nearest_le_nearest (10 ^ 1) (Nat.mul_le_mul_right unitsPerOne h)

theorem hundred_le_hundred : (100 : Binary64) ≤ 100 := by
  rw [← tenth_hundred]
  exact tenth_le_tenth (Nat.le_refl 1000)

/-- Up to a hundred nothing is infinite. -/
theorem nearestRank_tenth_lt {k : Nat} (hk : k ≤ 1000) :
    nearestRank (k * unitsPerOne) (10 ^ 1) < Numeric.infinityRank :=
  Nat.lt_of_le_of_lt (nearestRank_mono (10 ^ 1) (Nat.mul_le_mul_right unitsPerOne hk))
    (by decide +kernel)

/-- A number of tenths comes back when it is rounded to one place. -/
theorem scaledMagnitude_tenth {k : Nat} (hk : k ≤ 1000) : (tenth k).scaledMagnitude 1 = k :=
  scaledMagnitude_nearest (by omega) (by decide +kernel) (nearestRank_tenth_lt hk)

/-- Whatever lies from `k` to 900 tenths is rounded to a number of tenths that does too. -/
theorem roundTo_between {k rank : Nat} (h : rank ≤ Numeric.infinityRank) (hk : k ≤ 900)
    (hlo : nearestRank (k * unitsPerOne) (10 ^ 1) ≤ rank)
    (hhi : rank ≤ nearestRank (900 * unitsPerOne) (10 ^ 1)) :
    ∃ k', k ≤ k' ∧ k' ≤ 900 ∧ (ranked false rank h).roundTo 1 = tenth k' := by
  have hfinite : (ranked false rank h).isFinite = true := by
    have hcap : nearestRank (900 * unitsPerOne) (10 ^ 1) < Numeric.infinityRank :=
      nearestRank_tenth_lt (by decide)
    simp only [isFinite, bne_iff_ne, ne_eq]
    omega
  -- both bounds are tenths themselves, so rounding does not carry the number past them
  refine ⟨(ranked false rank h).scaledMagnitude 1, ?_, ?_, ?_⟩
  · rw [← scaledMagnitude_tenth (k := k) (by omega)]
    exact scaledMagnitude_mono 1 hlo
  · rw [← scaledMagnitude_tenth (k := 900) (by decide)]
    exact scaledMagnitude_mono 1 hhi
  · unfold roundTo
    rw [if_pos hfinite]
    rfl

/-! ## One observation -/

/-- The ramps have no sign, whatever time has passed. -/
theorem ramp_unsigned {status : Status} {elapsed v : Binary64} (hdef : elapsed.isUndefined = false)
    (h : ramp? status ((0 : Binary64).larger elapsed) = some v) : v.Unsigned := by
  have hsince : ((0 : Binary64).larger elapsed).Unsigned := unsigned_zero_larger hdef
  have hsubmitted : submittedWindow.Unsigned := unsigned_ofNat 30
  have hinProgress : inProgressWindow.Unsigned := unsigned_ofNat 120
  cases status with
  | submitted =>
    -- five, and a part of the fifteen up to twenty
    rw [← Option.some.inj h]
    have hpart := (hsince.smaller hsubmitted).div hsubmitted (ofNat_pos (by decide))
      (isFinite_ofNat (by decide))
    rw [show (20 : Binary64) - 5 = 15 from by decide +kernel]
    exact (unsigned_ofNat 5).add
      ((unsigned_ofNat 15).mul (ofNat_pos (by decide)) (isFinite_ofNat (by decide)) hpart)
  | inProgress =>
    -- twenty, and a part of the seventy up to the cap
    rw [← Option.some.inj h]
    have hbeyond := hsince.sub_larger_zero hsubmitted (isFinite_ofNat (by decide))
    have hpart := (hbeyond.smaller hinProgress).div hinProgress (ofNat_pos (by decide))
      (isFinite_ofNat (by decide))
    rw [show progressCap - 20 = 70 from by decide +kernel]
    exact (unsigned_ofNat 20).add
      ((unsigned_ofNat 70).mul (ofNat_pos (by decide)) (isFinite_ofNat (by decide)) hpart)
  | success => cases h
  | failed => cases h
  | cancelled => cases h

/-- Below a success, `k` tenths go on to some number of tenths that is no smaller and no more than
the cap: what is reached before is kept before it is rounded, and rounding keeps the order. -/
theorem progress_tenth {status : Status} (hstatus : status ≠ .success) {elapsed : Binary64}
    (hdef : elapsed.isUndefined = false) {k : Nat} (hk : k ≤ 900) :
    ∃ k', k ≤ k' ∧ k' ≤ 900 ∧ progress status elapsed (tenth k) = tenth k' := by
  have hreached : ((ramp? status ((0 : Binary64).larger elapsed)).getD (tenth k)).Unsigned := by
    cases hramp : ramp? status ((0 : Binary64).larger elapsed) with
    | none => exact unsigned_nearest _ _
    | some v => exact ramp_unsigned hdef hramp
  -- on unsigned numbers the larger and the smaller are those of the ranks
  obtain ⟨rank, h, heq⟩ := hreached
  have hcap : nearestRank (k * unitsPerOne) (10 ^ 1) ≤ nearestRank (900 * unitsPerOne) (10 ^ 1) :=
    nearestRank_mono (10 ^ 1) (Nat.mul_le_mul_right unitsPerOne hk)
  unfold progress
  rw [if_neg hstatus, heq, ← tenth_cap]
  unfold tenth nearest
  dsimp only
  rw [larger_ranked, smaller_ranked]
  exact roundTo_between _ hk (by omega) (Nat.min_le_right _ _)

/-! ## The invariant of a record -/

/-- The progress that fits a status: a hundred at a success, and a number of tenths up to the cap at
any other. -/
def Fits (status : Status) (progress : Binary64) : Prop :=
  if status = .success then progress = 100 else ∃ k, k ≤ 900 ∧ progress = tenth k

/-- Short of success the progress is some tenths, at most those of the cap. -/
theorem fits_of_ne {status : Status} {p : Binary64} (hstatus : status ≠ .success) :
    Fits status p ↔ ∃ k, k ≤ 900 ∧ p = tenth k := by
  unfold Fits
  rw [if_neg hstatus]

/-- No number of tenths up to the cap is a hundred. -/
theorem tenth_ne_hundred {k : Nat} (hk : k ≤ 900) : tenth k ≠ 100 := by
  intro heq
  have hscaled := scaledMagnitude_tenth (k := k) (by omega)
  rw [heq, ← tenth_hundred, scaledMagnitude_tenth (Nat.le_refl 1000)] at hscaled
  omega

/-- What the invariant says of the bounds. -/
theorem Fits.bounds {status : Status} {p : Binary64} (h : Fits status p) :
    0 ≤ p ∧ p ≤ 100 ∧ (p = 100 ↔ status = .success) ∧ (status ≠ .success → p ≤ 90) := by
  by_cases hstatus : status = .success
  · subst hstatus
    have hp : p = 100 := h
    subst hp
    refine ⟨?_, hundred_le_hundred, by simp, fun hne => absurd rfl hne⟩
    rw [← tenth_zero, ← tenth_hundred]
    exact tenth_le_tenth (Nat.zero_le 1000)
  · -- At most nine hundred tenths: below a hundred, and at most the cap.
    obtain ⟨k, hk, rfl⟩ := (fits_of_ne hstatus).mp h
    refine ⟨?_, ?_, ?_, ?_⟩
    · rw [← tenth_zero]
      exact tenth_le_tenth (Nat.zero_le k)
    · rw [← tenth_hundred]
      exact tenth_le_tenth (by omega)
    · exact iff_of_false (tenth_ne_hundred hk) hstatus
    · intro _
      show tenth k ≤ progressCap
      rw [← tenth_cap]
      exact tenth_le_tenth hk

/-- Progress that fits is a number, so it is at most itself. -/
theorem Fits.le_refl {status : Status} {p : Binary64} (h : Fits status p) : p ≤ p := by
  by_cases hstatus : status = .success
  · subst hstatus
    rw [show p = 100 from h]
    exact hundred_le_hundred
  · obtain ⟨k, _, rfl⟩ := (fits_of_ne hstatus).mp h
    exact tenth_le_tenth (Nat.le_refl k)

/-- One observation keeps the invariant and does not lower the progress. -/
theorem fits_progress {status : Status} {elapsed : Binary64} (hdef : elapsed.isUndefined = false)
    {k : Nat} (hk : k ≤ 900) :
    Fits status (progress status elapsed (tenth k)) ∧
      tenth k ≤ progress status elapsed (tenth k) := by
  -- Success is a hundred whatever was reached, all else stays a number of tenths.
  by_cases hstatus : status = .success
  · have hprogress : progress status elapsed (tenth k) = 100 := by
      unfold progress
      rw [if_pos hstatus]
    rw [hprogress]
    unfold Fits
    rw [if_pos hstatus, ← tenth_hundred]
    exact ⟨rfl, tenth_le_tenth (by omega)⟩
  · obtain ⟨k', hle, hk', heq⟩ := progress_tenth hstatus hdef hk
    rw [heq]
    exact ⟨(fits_of_ne hstatus).mpr ⟨k', hk', rfl⟩, tenth_le_tenth hle⟩

namespace Record

/-- The record of a new job. -/
theorem fits_ofSubmission (s : Submission) (session : Text) (simulated : Bool) (params : Fields)
    (seconds : Binary64) (now : Instant) :
    Fits (ofSubmission s session simulated params seconds now).status
      (ofSubmission s session simulated params seconds now).progress := by
  show Fits _ (Job.progress _ 0 0)
  rw [show (0 : Binary64) = tenth 0 from tenth_zero.symm]
  exact (fits_progress rfl (Nat.zero_le 900)).1

/-- Every way in which a record moves keeps the invariant and does not lower the progress. -/
theorem Moves.fits {r r' : Record} (hmoves : r.Moves r') (hopen : r.status.isTerminal = false)
    (hfits : Fits r.status r.progress) :
    Fits r'.status r'.progress ∧ r.progress ≤ r'.progress := by
  -- a job that has not come to an end is no success, so its progress is a number of tenths
  have hstatus : r.status ≠ .success := by
    intro h
    rw [h] at hopen
    cases hopen
  obtain ⟨k, hk, hp⟩ := (fits_of_ne hstatus).mp hfits
  cases hmoves with
  | observed o now =>
    show Fits _ (Job.progress _ (now.since r.createdAt) r.progress) ∧
      r.progress ≤ Job.progress _ (now.since r.createdAt) r.progress
    rw [hp]
    exact fits_progress rfl hk
  | lapsed now =>
    refine ⟨hfits, ?_⟩
    show r.progress ≤ r.progress
    rw [hp]
    exact tenth_le_tenth (Nat.le_refl k)
  | cancelled now =>
    show Fits .cancelled r.progress ∧ r.progress ≤ r.progress
    rw [hp]
    exact ⟨(fits_of_ne (by decide)).mpr ⟨k, hk, rfl⟩, tenth_le_tenth (Nat.le_refl k)⟩

end Record

/-! ## Runs -/

namespace Tracker

variable {σ : Type} {service : Option (Service σ)} {t : Tracker σ}

/-- Whether the progress of every job fits its status. -/
def Advanced (t : Tracker σ) : Prop := ∀ id r, t.jobs.get? id = some r → Fits r.status r.progress

theorem advanced_of_empty (h : t.jobs = {}) : t.Advanced := by
  intro id r hget
  rw [h] at hget
  cases hget

/-- **One operation keeps the invariant.** -/
theorem advanced_perform (service : Option (Service σ)) (hfiled : t.Filed) (hadvanced : t.Advanced)
    (op : Operation) : (t.perform service op).2.Advanced := by
  intro id r' hget
  rcases (effect_perform service hfiled op).of_found hget with
    hsame | ⟨r, hold, -, hopen, hmoves⟩ | ⟨s, session, simulated, params, seconds, now, -, rfl⟩
  · exact hadvanced id r' hsame
  · exact (hmoves.fits hopen (hadvanced r.id r hold)).1
  · exact Record.fits_ofSubmission s session simulated params seconds now

/-- A run keeps the invariant. -/
theorem advanced_run (service : Option (Service σ)) (hfiled : t.Filed) (hadvanced : t.Advanced)
    (ops : List Operation) : (t.run service ops).Advanced := by
  induction ops generalizing t with
  | nil => exact hadvanced
  | cons op ops ih =>
    exact ih (filed_perform service hfiled op) (advanced_perform service hfiled hadvanced op)

/-- What an operation does to the progress of jobs, and the operations after it. -/
structure KeepsProgress (service : Option (Service σ)) (t : Tracker σ) (op : Operation)
    (after : List Operation) : Prop where
  /-- The progress of a job never falls, at this step or by all the later ones. -/
  rises : ∀ id r, t.jobs.get? id = some r →
    ∃ r', (t.run service (op :: after)).jobs.get? id = some r' ∧ r.progress ≤ r'.progress
  /-- It lies between nothing and a hundred, which it is at a success alone; below one it is at most
  ninety. -/
  bounds : ∀ id r, (t.perform service op).2.jobs.get? id = some r →
    0 ≤ r.progress ∧ r.progress ≤ 100 ∧ (r.progress = 100 ↔ r.status = .success) ∧
      (r.status ≠ .success → r.progress ≤ 90)
  /-- What is reported is the progress that is kept. -/
  told : ∀ report, (t.perform service op).1 = .ok (.reported report) →
    ∃ r, (t.perform service op).2.jobs.get? report.id = some r ∧
      report.progress = r.progress ∧ report.status = r.status

/-- One operation that takes no id over lowers the progress of no job. -/
theorem rises_perform (hfiled : t.Filed) (hadvanced : t.Advanced) {op : Operation}
    (hfresh : t.TakesFreshId service op) {id : Text} {r : Record} (hget : t.jobs.get? id = some r) :
    ∃ r', (t.perform service op).2.jobs.get? id = some r' ∧ r.progress ≤ r'.progress := by
  have hfits : Fits r.status r.progress := hadvanced id r hget
  rcases (effect_perform service hfiled op).of_kept hfresh hget with
    hsame | ⟨r', hnew, hopen, hmoves⟩
  · exact ⟨r, hsame, hfits.le_refl⟩
  · exact ⟨r', hnew, (hmoves.fits hopen hfits).2⟩

/-- The progress of a job at the end of a run is no less than at its start. Induction on the run;
the progress after the first step is the one that the rest of the run starts from. -/
theorem rises_run (hfiled : t.Filed) (hadvanced : t.Advanced) {ops : List Operation}
    (hfresh : t.NoIdReused service ops) {id : Text} {r : Record}
    (hget : t.jobs.get? id = some r) :
    ∃ r', (t.run service ops).jobs.get? id = some r' ∧ r.progress ≤ r'.progress := by
  induction ops generalizing t r with
  | nil => exact ⟨r, hget, (hadvanced id r hget).le_refl⟩
  | cons op ops ih =>
    obtain ⟨r', hnext, hle⟩ := rises_perform hfiled hadvanced hfresh.1 hget
    obtain ⟨r'', hlast, hle'⟩ := ih (filed_perform service hfiled op)
      (advanced_perform service hfiled hadvanced op) hfresh.2 hnext
    exact ⟨r'', hlast, le_trans hle hle'⟩

/-- **Progress never falls.** At every step of every run that starts without jobs, with any service
and any clock, as long as no submission is given the id of a job that is kept already. -/
theorem keepsProgress (service : Option (Service σ)) {t : Tracker σ} (hempty : t.jobs = {})
    (before : List Operation) (op : Operation) (after : List Operation)
    (hfresh : t.NoIdReused service (before ++ op :: after)) :
    KeepsProgress service (t.run service before) op after := by
  have hfiled : (t.run service before).Filed := filed_run service (filed_of_empty hempty) before
  -- The invariant holds ahead of the step; each clause is then read off it.
  have hadvanced : (t.run service before).Advanced :=
    advanced_run service (filed_of_empty hempty) (advanced_of_empty hempty) before
  obtain ⟨-, hrest⟩ := (noIdReused_append service t before (op :: after)).mp hfresh
  refine ⟨?rises, ?bounds, ?told⟩
  case rises =>
    intro id r hget
    exact rises_run hfiled hadvanced hrest hget
  case bounds =>
    intro id r hget
    exact (advanced_perform service hfiled hadvanced op id r hget).bounds
  case told =>
    intro report hreport
    obtain ⟨r, now, hget, heq⟩ := (effect_perform service hfiled op).of_reported hreport
    refine ⟨r, hget, ?_, ?_⟩
    · rw [heq]
      rfl
    · rw [heq]
      rfl

/-- A simulated job that is polled when a third of its time has passed, and again with the clock put
back. -/
theorem keepsProgress_simulated :
    vacant.NoIdReused none
        ([.submit (.object []) (.text "s") .null, .moveClock ⟨5000000⟩] ++
          .poll "sim_000000010000" :: [.moveClock ⟨0⟩, .poll "sim_000000010000"]) ∧
      ((vacant.run none [.submit (.object []) (.text "s") .null, .moveClock ⟨5000000⟩]).jobs.get?
        "sim_000000010000").map (·.progress) = some 5 ∧
      KeepsProgress none
        (vacant.run none [.submit (.object []) (.text "s") .null, .moveClock ⟨5000000⟩])
        (.poll "sim_000000010000") [.moveClock ⟨0⟩, .poll "sim_000000010000"] := by
  have hfresh : vacant.NoIdReused none
      ([.submit (.object []) (.text "s") .null, .moveClock ⟨5000000⟩] ++
        .poll "sim_000000010000" :: [.moveClock ⟨0⟩, .poll "sim_000000010000"]) := by
    refine ⟨fun r _ => rfl, ?_, ?_, ?_, ?_, trivial⟩
    all_goals exact takesFreshId_of_not_submit (fun _ _ _ => Operation.noConfusion)
  exact ⟨hfresh, by decide +kernel, keepsProgress none rfl _ _ _ hfresh⟩

end Tracker

end FamilyDesign.Job
