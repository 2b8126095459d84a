import FamilyDesign.Entries

/-!
# Entries under keys that differ

Pairs with keys that differ are entries as they are: none replaces another, and each is found under
its key.
-/

namespace FamilyDesign.Entries

variable {α : Type}

theorem put_of_not_mem {entries : Entries α} {key : Text} (value : α)
    (h : key ∉ entries.map (·.1)) : entries.put key value = entries ++ [(key, value)] := by
  induction entries with
  | nil => rfl
  | cons e rest ih =>
    obtain ⟨k, v⟩ := e
    rw [List.map_cons, List.mem_cons, not_or] at h
    unfold put
    rw [if_neg (Ne.symm h.1), ih h.2]
    rfl

/-- A value that is replaced by one like it leaves the entries as they are, as far as they are
looked at. Induction on the entries, up to the first with the key. -/
theorem map_put_of_lookup {β : Type} {entries : Entries α} {key : Text} {old new : α}
    {f : Text × α → β} (hget : entries.lookup key = some old) (hf : f (key, new) = f (key, old)) :
    (entries.put key new).map f = entries.map f := by
  unfold lookup at hget
  induction entries with
  | nil => cases hget
  | cons e rest ih =>
    obtain ⟨k, v⟩ := e
    unfold put
    by_cases hk : k = key
    · subst hk
      rw [List.lookup_cons_self] at hget
      cases hget
      rw [if_pos rfl, List.map_cons, List.map_cons, hf]
    · have hne : (key == k) = false := beq_eq_false_iff_ne.mpr (Ne.symm hk)
      rw [List.lookup_cons, hne] at hget
      rw [if_neg hk, List.map_cons, List.map_cons, ih hget]

/-- Pairs with keys that differ are their own entries. Induction on the pairs, where the keys that
have been put already differ from those to come. -/
theorem foldl_put_of_nodup {pairs entries : Entries α}
    (h : (entries.map (·.1) ++ pairs.map (·.1)).Nodup) :
    pairs.foldl (fun entries (k, v) => entries.put k v) entries = entries ++ pairs := by
  induction pairs generalizing entries with
  | nil => exact (List.append_nil entries).symm
  | cons e rest ih =>
    obtain ⟨k, v⟩ := e
    -- no entry has the key, so the pair is put at the end
    have hnew : k ∉ entries.map (·.1) := by
      intro hmem
      exact (List.nodup_append.mp h).2.2 k hmem k List.mem_cons_self rfl
    show rest.foldl _ (entries.put k v) = _
    rw [put_of_not_mem v hnew, ih]
    · rw [List.append_assoc]
      rfl
    · rw [List.map_append, List.append_assoc]
      exact h

theorem ofPairs_of_nodup {pairs : Entries α} (h : (pairs.map (·.1)).Nodup) :
    ofPairs pairs = pairs := by
  have hput := @foldl_put_of_nodup α pairs [] h
  rwa [List.nil_append] at hput

/-- What is put is there, and nothing else is new. -/
theorem mem_put {entries : Entries α} {key : Text} {value : α} {e : Text × α}
    (h : e ∈ entries.put key value) : e = (key, value) ∨ e ∈ entries := by
  induction entries with
  | nil => exact .inl (List.mem_singleton.mp h)
  | cons first rest ih =>
    obtain ⟨k, v⟩ := first
    unfold put at h
    split at h
    · rcases List.mem_cons.mp h with rfl | hrest
      · exact .inl rfl
      · exact .inr (List.mem_cons_of_mem _ hrest)
    · rcases List.mem_cons.mp h with rfl | hrest
      · exact .inr List.mem_cons_self
      · exact (ih hrest).imp_right (List.mem_cons_of_mem _)

/-- The entries of some pairs are among them. Induction on the pairs, with what has been put. -/
theorem mem_ofPairs {pairs : Entries α} {e : Text × α} (h : e ∈ ofPairs pairs) : e ∈ pairs := by
  have hfold : ∀ (pairs entries : Entries α),
      e ∈ pairs.foldl (fun entries (k, v) => entries.put k v) entries →
        e ∈ entries ∨ e ∈ pairs := by
    intro pairs
    induction pairs with
    | nil => exact fun entries he => .inl he
    | cons first rest ih =>
      intro entries he
      rcases ih _ he with hput | hrest
      · rcases mem_put hput with rfl | hold
        · exact .inr List.mem_cons_self
        · exact .inl hold
      · exact .inr (List.mem_cons_of_mem _ hrest)
  rcases hfold pairs [] h with hnone | hpairs
  · cases hnone
  · exact hpairs

theorem lookup_of_mem {entries : Entries α} (h : (entries.map (·.1)).Nodup)
    {e : Text × α} (he : e ∈ entries) : entries.lookup e.1 = some e.2 := by
  obtain ⟨before, after, rfl⟩ := List.append_of_mem he
  refine List.lookup_eq_some_iff.mpr ⟨before, after, rfl, ?_⟩
  rw [List.map_append, List.nodup_append] at h
  intro e' he'
  have hne := h.2.2 e'.1 (List.mem_map_of_mem he') e.1 List.mem_cons_self
  exact bne_iff_ne.mpr (Ne.symm hne)

end FamilyDesign.Entries
