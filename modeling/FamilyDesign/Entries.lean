import FamilyDesign.Text.Basic

/-!
# Entries

A list of values by key, in the order in which the keys were first put. `lookup_put` says what a
write does to every later look-up, `map_fst_put` what it does to the keys.
-/

namespace FamilyDesign

/-- Values by key, in order. -/
abbrev Entries (α : Type) := List (Text × α)

namespace Entries

variable {α : Type}

/-- The value under a key. -/
def lookup (entries : Entries α) (key : Text) : Option α :=
  List.lookup key entries

/-- The entries with `value` under `key`: in the place of the key if it is present, else at the
end. -/
def put (entries : Entries α) (key : Text) (value : α) : Entries α :=
  match entries with
  | [] => [(key, value)]
  | (k, v) :: rest => if k = key then (key, value) :: rest else (k, v) :: put rest key value

/-- The entries without a key. -/
def erase (entries : Entries α) (key : Text) : Entries α :=
  entries.filter (·.1 ≠ key)

/-- The entries of a list of pairs, where a repeated key keeps its first place and its last
value. -/
def ofPairs (pairs : List (Text × α)) : Entries α :=
  pairs.foldl (fun entries (k, v) => entries.put k v) []

theorem lookup_put (entries : Entries α) (key k : Text) (value : α) :
    (entries.put key value).lookup k = if k = key then some value else entries.lookup k := by
  induction entries with
  | nil =>
    by_cases h : k = key
    · simp [lookup, put, h]
    · have hk : (k == key) = false := by simpa using h
      simp [lookup, put, List.lookup_cons, hk, h]
  | cons e rest ih =>
    obtain ⟨a, v⟩ := e
    unfold put
    by_cases ha : a = key
    · subst ha
      by_cases hk : k = a
      · simp [lookup, hk]
      · have hka : (k == a) = false := by simpa using hk
        simp [lookup, List.lookup_cons, hka, hk]
    · by_cases hk : k = a
      · subst hk
        simp [lookup, ha]
      · have hka : (k == a) = false := by simpa using hk
        simpa [lookup, List.lookup_cons, ha, hka] using ih

theorem map_fst_put (entries : Entries α) (key : Text) (value : α) :
    (entries.put key value).map (·.1) =
      if key ∈ entries.map (·.1) then entries.map (·.1) else entries.map (·.1) ++ [key] := by
  induction entries with
  | nil => simp [put]
  | cons e rest ih =>
    obtain ⟨a, v⟩ := e
    unfold put
    by_cases ha : a = key
    · simp [ha]
    · have hka : key ≠ a := fun h => ha h.symm
      simp only [ha, if_false, List.map_cons, ih, List.mem_cons, hka, false_or]
      split <;> simp

end Entries

end FamilyDesign
