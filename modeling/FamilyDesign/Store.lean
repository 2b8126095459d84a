import FamilyDesign.Entries

/-!
# Stores

A store keeps one value per key, in the order in which the keys were first put. The last write
wins: `get?_put_self` and `get?_put_of_ne`.
-/

namespace FamilyDesign

/-- Values by key, in the order of first insertion. -/
structure Store (α : Type) where
  entries : Entries α := []

namespace Store

variable {α : Type}

instance : Inhabited (Store α) := ⟨⟨[]⟩⟩

/-- The value under a key. -/
def get? (store : Store α) (key : Text) : Option α :=
  store.entries.lookup key

/-- The store with a value under a key, in place of the former one if there is one. -/
def put (store : Store α) (key : Text) (value : α) : Store α :=
  ⟨store.entries.put key value⟩

/-- The store without a key. -/
def delete (store : Store α) (key : Text) : Store α :=
  ⟨store.entries.erase key⟩

/-- The keys in order. -/
def keys (store : Store α) : List Text :=
  store.entries.map (·.1)

/-- The values in the order of their keys. -/
def values (store : Store α) : List α :=
  store.entries.map (·.2)

/-- The number of keys. -/
def size (store : Store α) : Nat :=
  store.entries.length

/-- The value found under a key where a stored value may itself be an absence. -/
def find? (store : Store (Option α)) (key : Text) : Option α :=
  (store.get? key).join

/-- The values that are not absences, in order. -/
def presentValues (store : Store (Option α)) : List α :=
  store.values.filterMap id

@[simp] theorem get?_put_self (store : Store α) (key : Text) (value : α) :
    (store.put key value).get? key = some value := by
  simp [put, get?, Entries.lookup_put]

theorem get?_put_of_ne (store : Store α) {key k : Text} (value : α) (h : k ≠ key) :
    (store.put key value).get? k = store.get? k := by
  simp [put, get?, Entries.lookup_put, h]

theorem keys_put (store : Store α) (key : Text) (value : α) :
    (store.put key value).keys =
      if key ∈ store.keys then store.keys else store.keys ++ [key] :=
  Entries.map_fst_put store.entries key value

end Store

end FamilyDesign
