import FamilyDesign.Proofs.Numeric.ReadBack
import FamilyDesign.Proofs.Quality.Readiness

/-!
# Scores and their mean

A deduction that is not negative takes points away and never gives any, so each score lies between 0
and 100. The mean of scores is then an ordinary number, and a report can always be written.

* **`score_bounds`** — the score of every verdict.
* **`Gateway.validate_lawful`** — there is a report on every design and script, whatever the passes;
  `Gateway.validate_standard`, in particular with the standard ones.
-/

namespace FamilyDesign.Quality

open Numeric (Binary64)

/-! ## One score -/

/-- Whether no kind of finding gives points. -/
def Deductions.Lawful (table : Deductions) : Prop := ∀ key, 0 ≤ table.points key

/-- A table without a negative entry gives no points. -/
theorem Deductions.lawful_of_forall {table : Deductions} (h : ∀ e ∈ table, 0 ≤ e.2) :
    table.Lawful := by
  intro key
  show 0 ≤ (List.lookup key table).getD 0
  cases hlookup : List.lookup key table with
  | none => exact Int.le_refl 0
  | some points =>
    obtain ⟨before, after, heq, -⟩ := List.lookup_eq_some_iff.mp hlookup
    exact h (key, points) (by rw [heq]; simp)

theorem Deductions.lawful_standard : Deductions.standard.Lawful :=
  lawful_of_forall (by decide)

/-- One deduction keeps a score from zero to a hundred. -/
theorem deduct_bounds {table : Deductions} (hlawful : table.Lawful) {score : Int} (f : Finding)
    (hlo : 0 ≤ score) (hhi : score ≤ 100) :
    0 ≤ deduct table score f ∧ deduct table score f ≤ 100 := by
  have hpoints := hlawful f.key
  unfold deduct
  omega

/-- Whatever is found, the score stays between 0 and 100. Induction on the findings. -/
theorem foldl_deduct_bounds {table : Deductions} (hlawful : table.Lawful) (findings : List Finding)
    {score : Int} (hlo : 0 ≤ score) (hhi : score ≤ 100) :
    0 ≤ findings.foldl (deduct table) score ∧ findings.foldl (deduct table) score ≤ 100 := by
  induction findings generalizing score with
  | nil => exact ⟨hlo, hhi⟩
  | cons f rest ih =>
    obtain ⟨hlo', hhi'⟩ := deduct_bounds hlawful f hlo hhi
    exact ih hlo' hhi'

/-- A pass has a score from zero to a hundred. -/
theorem score_bounds {table : Deductions} (hlawful : table.Lawful) (p : Pass) (d : Design)
    (code : Option Text) : 0 ≤ (p.run table d code).score ∧ (p.run table d code).score ≤ 100 := by
  unfold Pass.run
  rw [Pass.score_verdict]
  split
  · decide
  · exact foldl_deduct_bounds hlawful _ (by decide) (by decide)

/-! ## The mean -/

/-- Scores add up to a hundred apiece at most. -/
theorem sum_bounds {scores : List Int} (h : ∀ score ∈ scores, 0 ≤ score ∧ score ≤ 100) :
    0 ≤ scores.sum ∧ scores.sum ≤ 100 * scores.length := by
  induction scores with
  | nil => decide
  | cons score rest ih =>
    rw [List.forall_mem_cons] at h
    obtain ⟨hlo, hhi⟩ := ih h.2
    rw [List.sum_cons, List.length_cons]
    omega

/-- A quotient of at most a hundred is an ordinary number. -/
theorem isFinite_ofQuotient {n : Int} {d : Nat} (hlo : 0 ≤ n) (hhi : n ≤ 100 * d) (hd : 0 < d) :
    (Binary64.ofQuotient n d).isFinite = true := by
  -- the quotient has no greater rank than 100, and that is below the rank of infinity
  have hrank : Binary64.nearestRank (n.natAbs * Binary64.unitsPerOne) d
      ≤ Binary64.nearestRank (100 * Binary64.unitsPerOne) 1 := by
    rw [← Binary64.nearestRank_mul_right _ 1 hd, Nat.one_mul, Nat.mul_right_comm]
    exact Binary64.nearestRank_mono d (Nat.mul_le_mul_right Binary64.unitsPerOne (by omega))
  have hcap : Binary64.nearestRank (100 * Binary64.unitsPerOne) 1 < Numeric.infinityRank := by
    decide +kernel
  unfold Binary64.ofQuotient Binary64.nearest Binary64.isFinite
  simpa using Nat.ne_of_lt (Nat.lt_of_le_of_lt hrank hcap)

/-- The mean of scores between 0 and 100 is an ordinary number. -/
theorem meanScore_ok {scores : List Int} (h : ∀ score ∈ scores, 0 ≤ score ∧ score ≤ 100) :
    ∃ mean, meanScore scores = .ok mean := by
  obtain ⟨hlo, hhi⟩ := sum_bounds h
  unfold meanScore
  split
  · exact ⟨0, rfl⟩
  · next hempty =>
    have hlength : 0 < scores.length := by
      rw [List.length_pos_iff]
      exact fun hnil => hempty (List.isEmpty_iff.mpr hnil)
    exact ⟨Binary64.ofQuotient scores.sum scores.length,
      if_pos (isFinite_ofQuotient hlo hhi hlength)⟩

/-- Where passes have names that differ and no finding gives points, there is a report on every
design and script. -/
theorem Gateway.validate_lawful {g : Gateway} (hnodup : (g.passes.map (·.name)).Nodup)
    (hlawful : g.deductions.Lawful) (d : Design) (code : Option Text) (now : Instant) :
    ∃ r, g.validate d code now = .ok r := by
  have hbounds : ∀ score ∈ (g.verdicts d code).map (·.2.score), 0 ≤ score ∧ score ≤ 100 := by
    intro score hmem
    rw [g.verdicts_of_nodup hnodup, List.map_map] at hmem
    obtain ⟨p, -, rfl⟩ := List.mem_map.mp hmem
    exact score_bounds hlawful p d code
  obtain ⟨mean, hmean⟩ := meanScore_ok hbounds
  exact ⟨_, validate_eq_ok_iff.mpr ⟨mean, hmean, rfl⟩⟩

/-- With the standard passes and deductions there is a report on every design and script. -/
theorem Gateway.validate_standard {g : Gateway} (hpasses : g.passes = standardPasses)
    (hlawful : g.deductions.Lawful) (d : Design) (code : Option Text) (now : Instant) :
    ∃ r, g.validate d code now = .ok r := by
  refine validate_lawful ?_ hlawful d code now
  rw [hpasses]
  exact nodup_standardPasses

end FamilyDesign.Quality
