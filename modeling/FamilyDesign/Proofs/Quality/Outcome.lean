import FamilyDesign.Quality.Pass
import Mathlib.Data.List.Forall2

/-!
# Clean outcomes

A check passes if it was not ended by a fault and found no issue; warnings do not count. An outcome
is put together from parts, and is clean just if every part is, so what a passed check rules out is
read off its parts one by one.

* **`Clean`** — no fault and no issue.
* **`clean_append_iff`**, **`clean_all_iff`**, **`clean_mapIdx_iff`**,
  **`clean_onlyIf_issue_iff`** — the parts of a clean outcome.
* **`Tally.foldl_record`** — what findings leave behind that are recorded one by one.
* **`Outcome.Records`** — the issues of an outcome without a fault.
* **`Pass.passed_verdict_iff`** — a pass is passed just if its outcome is clean.
-/

namespace FamilyDesign.Quality

namespace Outcome

/-- An outcome without a fault and without an issue. -/
structure Clean (o : Outcome) : Prop where
  fault : o.fault = none
  findings : ∀ f ∈ o.findings, f.severity ≠ .issue

theorem clean_clear : clear.Clean := ⟨rfl, nofun⟩

theorem not_clean_issue (key message : Text) : ¬(issue key message).Clean := by
  intro h
  exact h.findings _ List.mem_cons_self rfl

/-- Two outcomes are clean together just if each is. -/
theorem clean_append_iff {a b : Outcome} : (a ++ b).Clean ↔ a.Clean ∧ b.Clean := by
  cases hfault : a.fault with
  | some message =>
    -- nothing follows a fault
    rw [append_of_fault b (by rw [hfault]; rfl)]
    have hnot : ¬a.Clean := by
      intro h
      rw [h.fault] at hfault
      cases hfault
    simp [hnot]
  | none =>
    constructor
    · rintro ⟨hf, hfindings⟩
      rw [fault_append b hfault] at hf
      rw [findings_append b hfault] at hfindings
      exact ⟨⟨hfault, fun f h => hfindings f (List.mem_append_left _ h)⟩,
        hf, fun f h => hfindings f (List.mem_append_right _ h)⟩
    · rintro ⟨ha, hb⟩
      refine ⟨?_, ?_⟩
      · rw [fault_append b hfault]
        exact hb.fault
      · rw [findings_append b hfault]
        intro f hf
        rcases List.mem_append.mp hf with h | h
        · exact ha.findings f h
        · exact hb.findings f h

/-- A list of outcomes is clean just if each of them is. -/
theorem clean_all_iff {outcomes : List Outcome} :
    (Outcome.all outcomes).Clean ↔ ∀ o ∈ outcomes, o.Clean := by
  induction outcomes with
  | nil => exact ⟨nofun, fun _ => clean_clear⟩
  | cons o rest ih =>
    show (o ++ Outcome.all rest).Clean ↔ _
    rw [clean_append_iff, ih, List.forall_mem_cons]

/-- Elements that are checked with their indices, where the index does not matter. -/
theorem clean_mapIdx_iff {α : Type} {f : Nat → α → Outcome} {p : α → Prop}
    (h : ∀ index a, (f index a).Clean ↔ p a) {items : List α} :
    (Outcome.all (items.mapIdx f)).Clean ↔ ∀ a ∈ items, p a := by
  rw [clean_all_iff]
  constructor
  · intro hclean a ha
    obtain ⟨index, hindex, rfl⟩ := List.getElem_of_mem ha
    exact (h index _).mp (hclean _ (List.mem_mapIdx.mpr ⟨index, hindex, rfl⟩))
  · intro hall o ho
    obtain ⟨index, hindex, rfl⟩ := List.mem_mapIdx.mp ho
    exact (h index _).mpr (hall _ (List.getElem_mem hindex))

/-- A warning is clean. -/
theorem clean_warning (key message : Text) : (warning key message).Clean := by
  refine ⟨rfl, ?_⟩
  intro f hf
  cases List.mem_singleton.mp hf
  exact Severity.noConfusion

/-- A warning is clean under any condition. -/
theorem clean_onlyIf_warning (condition : Bool) (key message : Text) :
    (onlyIf condition (warning key message)).Clean := by
  cases condition with
  | false => exact clean_clear
  | true => exact clean_warning key message

/-- An issue that is recorded on a condition: a clean outcome rules the condition out. -/
theorem clean_onlyIf_issue_iff {condition : Bool} {key message : Text} :
    (onlyIf condition (issue key message)).Clean ↔ condition = false := by
  cases condition with
  | false => exact ⟨fun _ => rfl, fun _ => clean_clear⟩
  | true => exact ⟨fun h => absurd h (not_clean_issue key message), nofun⟩

end Outcome

/-! ## What is recorded -/

/-- The texts of the findings of one severity. -/
def messages (severity : Severity) (findings : List Finding) : List Text :=
  (findings.filter (·.severity == severity)).map (·.message)

/-- No message is of a severity just if no finding is. -/
theorem messages_eq_nil_iff {severity : Severity} {findings : List Finding} :
    messages severity findings = [] ↔ ∀ f ∈ findings, f.severity ≠ severity := by
  unfold messages
  rw [List.map_eq_nil_iff, List.filter_eq_nil_iff]
  simp

/-- A finding of the severity has its message told. -/
theorem messages_cons_of_eq {severity : Severity} {f : Finding} (h : f.severity = severity)
    (findings : List Finding) :
    messages severity (f :: findings) = f.message :: messages severity findings := by
  unfold messages
  rw [List.filter_cons_of_pos (by simp [h]), List.map_cons]

/-- A finding of another severity has not. -/
theorem messages_cons_of_ne {severity : Severity} {f : Finding} (h : f.severity ≠ severity)
    (findings : List Finding) :
    messages severity (f :: findings) = messages severity findings := by
  unfold messages
  rw [List.filter_cons_of_neg (by simp [h])]

/-- A tally of which the mark of being passed says just that there is no issue. -/
def Tally.Marked (t : Tally) : Prop := t.passed = t.issues.isEmpty

/-- Finding by finding the texts are gathered and the points taken, and the mark is kept. Induction
on the findings, from any tally. -/
theorem Tally.foldl_record (deductions : Deductions) (findings : List Finding) (t : Tally)
    (h : t.Marked) :
    (findings.foldl (record deductions) t).Marked ∧
      (findings.foldl (record deductions) t).score = findings.foldl (deduct deductions) t.score ∧
      (findings.foldl (record deductions) t).issues = t.issues ++ messages .issue findings ∧
      (findings.foldl (record deductions) t).warnings
        = t.warnings ++ messages .warning findings := by
  induction findings generalizing t with
  | nil => exact ⟨h, rfl, (List.append_nil _).symm, (List.append_nil _).symm⟩
  | cons f rest ih =>
    -- An issue sets the mark itself; a warning leaves it as it was.
    have hmark : (t.record deductions f).Marked := by
      unfold record Marked
      split
      · simp
      · exact h
    obtain ⟨hmarked, hscore, hissues, hwarnings⟩ := ih (t.record deductions f) hmark
    refine ⟨hmarked, ?_, ?_, ?_⟩
    · rw [List.foldl_cons, hscore, List.foldl_cons]
      unfold record
      split <;> rfl
    · rw [List.foldl_cons, hissues]
      unfold record
      split
      · next hf => rw [messages_cons_of_eq hf, List.append_assoc]; rfl
      · next hf => rw [messages_cons_of_ne (by rw [hf]; decide)]
    · rw [List.foldl_cons, hwarnings]
      unfold record
      split
      · next hf => rw [messages_cons_of_ne (by rw [hf]; decide)]
      · next hf => rw [messages_cons_of_eq hf, List.append_assoc]; rfl

namespace Pass

variable (p : Pass) (deductions : Deductions) (o : Outcome)

theorem tally_of_clear {o : Outcome} (h : o.fault = none) :
    p.tally deductions o = o.findings.foldl (Tally.record deductions) {} := by
  unfold tally
  rw [h]

/-- With a fault the tally is that of the findings, failed. -/
theorem tally_of_fault {o : Outcome} {fault : Text} (h : o.fault = some fault) :
    p.tally deductions o
      = (o.findings.foldl (Tally.record deductions) {}).fail (p.faultIssue fault) := by
  unfold tally
  rw [h]

/-- The issues are those that were recorded, and the fault if there is one. -/
theorem issues_verdict : (p.verdict deductions o).issues
    = messages .issue o.findings ++ (o.fault.map p.faultIssue).toList := by
  obtain ⟨-, -, hissues, -⟩ := Tally.foldl_record deductions o.findings {} rfl
  show (p.tally deductions o).issues = _
  cases hfault : o.fault with
  | none =>
    rw [p.tally_of_clear deductions hfault, hissues]
    exact (List.append_nil _).symm
  | some fault =>
    rw [p.tally_of_fault deductions hfault]
    show (o.findings.foldl (Tally.record deductions) {}).issues ++ [p.faultIssue fault] = _
    rw [hissues]
    rfl

/-- The warnings are those that were recorded. -/
theorem warnings_verdict : (p.verdict deductions o).warnings = messages .warning o.findings := by
  obtain ⟨-, -, -, hwarnings⟩ := Tally.foldl_record deductions o.findings {} rfl
  show (p.tally deductions o).warnings = _
  cases hfault : o.fault with
  | none =>
    rw [p.tally_of_clear deductions hfault, hwarnings]
    rfl
  | some fault =>
    rw [p.tally_of_fault deductions hfault]
    exact hwarnings

/-- A fault costs all points, and every finding its own. -/
theorem score_verdict : (p.verdict deductions o).score
    = if o.fault.isSome then 0 else o.findings.foldl (deduct deductions) 100 := by
  obtain ⟨-, hscore, -, -⟩ := Tally.foldl_record deductions o.findings {} rfl
  show (p.tally deductions o).score = _
  cases hfault : o.fault with
  | none =>
    rw [p.tally_of_clear deductions hfault, hscore]
    rfl
  | some fault =>
    rw [p.tally_of_fault deductions hfault]
    rfl

/-- **A pass is passed just if it has no issue.** -/
theorem passed_verdict :
    (p.verdict deductions o).passed = (p.verdict deductions o).issues.isEmpty := by
  obtain ⟨hmarked, -⟩ := Tally.foldl_record deductions o.findings {} rfl
  show (p.tally deductions o).Marked
  cases hfault : o.fault with
  | none =>
    rw [p.tally_of_clear deductions hfault]
    exact hmarked
  | some fault =>
    rw [p.tally_of_fault deductions hfault]
    unfold Tally.Marked Tally.fail
    simp

/-- A pass is passed just if its outcome is clean. -/
theorem passed_verdict_iff : (p.verdict deductions o).passed = true ↔ o.Clean := by
  rw [passed_verdict, issues_verdict, List.isEmpty_iff, List.append_eq_nil_iff,
    messages_eq_nil_iff]
  cases hfault : o.fault with
  | none => exact ⟨fun h => ⟨hfault, h.1⟩, fun h => ⟨h.findings, rfl⟩⟩
  | some message =>
    constructor
    · rintro ⟨-, h⟩
      cases h
    · intro h
      rw [h.fault] at hfault
      cases hfault

end Pass

/-- An outcome without a fault, and the issues of it. -/
structure Outcome.Records (o : Outcome) (issues : List Text) : Prop where
  fault : o.fault = none
  issues : messages .issue o.findings = issues

namespace Outcome

/-- Two outcomes record their issues one after another. -/
theorem Records.append {a b : Outcome} {issues issues' : List Text} (ha : a.Records issues)
    (hb : b.Records issues') : (a ++ b).Records (issues ++ issues') := by
  refine ⟨(fault_append b ha.fault).trans hb.fault, ?_⟩
  rw [findings_append b ha.fault, ← ha.issues, ← hb.issues]
  unfold messages
  rw [List.filter_append, List.map_append]

/-- Outcomes one after another. Induction on them. -/
theorem records_all {outcomes : List Outcome} {issues : List (List Text)}
    (h : List.Forall₂ Records outcomes issues) : (Outcome.all outcomes).Records issues.flatten := by
  induction h with
  | nil => exact ⟨rfl, rfl⟩
  | cons hfirst _ ih => exact hfirst.append ih

theorem records_detail (key : Text) (v : Json) : (detail key v).Records [] := ⟨rfl, rfl⟩

theorem records_onlyIf_warning (condition : Bool) (key message : Text) :
    (onlyIf condition (warning key message)).Records [] := by
  cases condition <;> exact ⟨rfl, rfl⟩

theorem records_onlyIf_issue (condition : Bool) (key message : Text) :
    (onlyIf condition (issue key message)).Records (if condition then [message] else []) := by
  cases condition <;> exact ⟨rfl, rfl⟩

theorem Records.issues_verdict {o : Outcome} {issues : List Text} (h : o.Records issues)
    (p : Pass) (deductions : Deductions) : (p.verdict deductions o).issues = issues := by
  rw [p.issues_verdict, h.issues, h.fault]
  exact List.append_nil _

end Outcome

/-- A pass of which the outcome is clean has no issue. -/
theorem issues_of_clean {p : Pass} {deductions : Deductions} {d : Design} {code : Option Text}
    (h : (p.check d code).Clean) : (p.run deductions d code).issues = [] := by
  have hpassed := (p.passed_verdict_iff deductions _).mpr h
  rw [Pass.passed_verdict] at hpassed
  exact List.isEmpty_iff.mp hpassed

end FamilyDesign.Quality
