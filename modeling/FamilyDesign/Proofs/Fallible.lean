import FamilyDesign.Document.Checked
import Mathlib.Data.List.Forall2

/-!
# When a fallible computation succeeds

Most of the library is computed step by step, where a step may fail. There are two ways to go on:
the first fault ends a computation, or the faults of all parts are gathered. Either way the result
is taken apart by what is shown here, and nothing is unfolded for it.

* **`bind_eq_ok_iff`**, **`bind_eq_error_iff`** — steps that end at the first fault, with
  `mapError_eq_ok_iff` and its siblings for a step of which the fault or the value is renamed.
* **`exists_of_mapM_error`** — a list that fails does so at one of its items;
  `mapM_eq_ok_iff` — one that succeeds does so item by item.
* **`Checked.map_eq_valid`**, **`Checked.seq_eq_valid`** — a document is valid just if every part of
  it is, and then it is made of their values.
-/

namespace FamilyDesign

variable {α β ε ε' : Type}

/-! ## Up to the first fault -/

/-- Two steps one behind the other give a value if both do. -/
theorem bind_eq_ok_iff {x : Except ε α} {f : α → Except ε β} {b : β} :
    x >>= f = .ok b ↔ ∃ a, x = .ok a ∧ f a = .ok b := by
  cases x with
  | error fault => simp [bind, Except.bind]
  | ok a => simp [bind, Except.bind]

/-- They fail with the first fault there is. -/
theorem bind_eq_error_iff {x : Except ε α} {f : α → Except ε β} {fault : ε} :
    x >>= f = .error fault ↔ x = .error fault ∨ ∃ a, x = .ok a ∧ f a = .error fault := by
  cases x with
  | error fault => simp [bind, Except.bind]
  | ok a => simp [bind, Except.bind]

theorem mapError_eq_ok_iff {wrap : ε → ε'} {x : Except ε α} {a : α} :
    x.mapError wrap = .ok a ↔ x = .ok a := by
  cases x with
  | error fault => exact ⟨nofun, nofun⟩
  | ok b =>
    show Except.ok b = _ ↔ _
    simp

/-- A fault that is reworded has a cause. -/
theorem mapError_eq_error_iff {wrap : ε → ε'} {x : Except ε α} {fault : ε'} :
    x.mapError wrap = .error fault ↔ ∃ cause, x = .error cause ∧ wrap cause = fault := by
  cases x with
  | error cause =>
    show Except.error (wrap cause) = _ ↔ _
    simp
  | ok a => exact ⟨nofun, nofun⟩

theorem map_eq_ok_iff {f : α → β} {x : Except ε α} {b : β} :
    x.map f = .ok b ↔ ∃ a, x = .ok a ∧ f a = b := by
  cases x with
  | error cause => exact ⟨nofun, nofun⟩
  | ok a =>
    show Except.ok (f a) = _ ↔ _
    simp

theorem map_eq_error_iff {f : α → β} {x : Except ε α} {fault : ε} :
    x.map f = .error fault ↔ x = .error fault := by
  cases x with
  | error cause =>
    show Except.error cause = _ ↔ _
    simp
  | ok a => exact ⟨nofun, nofun⟩

/-- A list that is mapped with faults fails at one of its items. Induction on the list. -/
theorem exists_of_mapM_error {f : α → Except ε β} {items : List α} {fault : ε}
    (h : items.mapM f = .error fault) : ∃ x ∈ items, f x = .error fault := by
  induction items with
  | nil => cases h
  | cons x rest ih =>
    rw [List.mapM_cons, bind_eq_error_iff] at h
    rcases h with hx | ⟨y, -, hrest⟩
    · exact ⟨x, List.mem_cons_self, hx⟩
    · rcases bind_eq_error_iff.mp hrest with hrest | ⟨ys, -, hnone⟩
      · obtain ⟨z, hz, hfz⟩ := ih hrest
        exact ⟨z, List.mem_cons_of_mem x hz, hfz⟩
      · cases hnone

/-- A list that is mapped with faults succeeds item by item. Induction on the list. -/
theorem mapM_eq_ok_iff {f : α → Except ε β} {items : List α} {ys : List β} :
    items.mapM f = .ok ys ↔ List.Forall₂ (fun x y => f x = .ok y) items ys := by
  induction items generalizing ys with
  | nil =>
    rw [List.forall₂_nil_left_iff]
    show Except.ok [] = Except.ok ys ↔ _
    rw [Except.ok.injEq, eq_comm]
  | cons x rest ih =>
    rw [List.mapM_cons, bind_eq_ok_iff, List.forall₂_cons_left_iff]
    constructor
    · rintro ⟨y, hx, hrest⟩
      obtain ⟨zs, hzs, hys⟩ := bind_eq_ok_iff.mp hrest
      cases hys
      exact ⟨y, zs, hx, ih.mp hzs, rfl⟩
    · rintro ⟨y, zs, hx, hzs, rfl⟩
      exact ⟨y, hx, bind_eq_ok_iff.mpr ⟨zs, ih.mpr hzs, rfl⟩⟩

/-- What is measured alike of related items is measured alike of both lists. -/
theorem map_eq_of_forall₂ {γ : Type} {related : α → β → Prop} {xs : List α} {ys : List β}
    (h : List.Forall₂ related xs ys) {f : α → γ} {g : β → γ}
    (hsame : ∀ x y, related x y → f x = g y) : xs.map f = ys.map g := by
  rw [← List.forall₂_eq_eq_eq, List.forall₂_map_left_iff, List.forall₂_map_right_iff]
  exact h.imp hsame

/-- What is measured of the results is measured of the items, if so of each. -/
theorem map_eq_of_mapM {γ : Type} {f : α → Except ε β} {items : List α} {ys : List β}
    (h : items.mapM f = .ok ys) {measure : β → γ} {expected : α → γ}
    (hmeasure : ∀ x y, f x = .ok y → measure y = expected x) :
    ys.map measure = items.map expected :=
  (map_eq_of_forall₂ (mapM_eq_ok_iff.mp h) fun x y hy => (hmeasure x y hy).symm).symm

/-- What holds of each result holds of all. -/
theorem forall_of_mapM {f : α → Except ε β} {items : List α} {ys : List β}
    (h : items.mapM f = .ok ys) {P : β → Prop} (hf : ∀ x y, f x = .ok y → P y) : ∀ y ∈ ys, P y := by
  have hall := mapM_eq_ok_iff.mp h
  clear h
  induction hall with
  | nil => exact List.forall_mem_nil _
  | cons hfirst _ ih => exact List.forall_mem_cons.mpr ⟨hf _ _ hfirst, ih⟩

/-- A list succeeds just if each of its items does. -/
theorem exists_mapM_ok_iff {f : α → Except ε β} {items : List α} :
    (∃ ys, items.mapM f = .ok ys) ↔ ∀ x ∈ items, ∃ y, f x = .ok y := by
  constructor
  · rintro ⟨ys, h⟩ x hx
    have hall := mapM_eq_ok_iff.mp h
    clear h
    induction hall with
    | nil => cases hx
    | cons hfirst _ ih =>
      rcases List.mem_cons.mp hx with rfl | hx
      · exact ⟨_, hfirst⟩
      · exact ih hx
  · intro h
    cases hys : items.mapM f with
    | ok ys => exact ⟨ys, rfl⟩
    | error fault =>
      obtain ⟨x, hx, hfault⟩ := exists_of_mapM_error hys
      obtain ⟨y, hy⟩ := h x hx
      rw [hy] at hfault
      cases hfault

namespace Checked

/-! ## All faults at once -/

theorem map_eq_valid {f : α → β} {x : Checked α} {v : β} :
    f <$> x = .valid v ↔ ∃ a, x = .valid a ∧ f a = v := by
  show Checked.map f x = .valid v ↔ _
  cases x with
  | valid a => simp [map]
  | invalid places => simp [map]

/-- Checks that are made side by side are passed if both are. -/
theorem seq_eq_valid {f : Checked (α → β)} {x : Checked α} {v : β} :
    f <*> x = .valid v ↔ ∃ g a, f = .valid g ∧ x = .valid a ∧ g a = v := by
  show apply f x = .valid v ↔ _
  cases f with
  | valid g =>
    cases x with
    | valid a => simp [apply]
    | invalid places => simp [apply]
  | invalid places =>
    cases x with
    | valid a => simp [apply]
    | invalid places' => simp [apply]

end Checked

end FamilyDesign
