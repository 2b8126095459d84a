import FamilyDesign.Json.Value
import FamilyDesign.Proofs.Entries

/-!
# Values that are the same

A value is the same as itself, even one that holds undefined numbers, as long as its objects have
each key once. A value that has just been made is so too if no number in it is undefined.

* **`KeysDiffer`** — each object in a value has each of its keys once.
* **`same_self`** — such a value is the same as itself.
* **`AllDefined`** — no number in a value is undefined.
* **`newlySame_self`** — a value with both, just made, is the same as one that was there.
-/

namespace FamilyDesign

open Numeric (Binary64)

/-- A number equals itself; an undefined one is one of its kind. -/
theorem Scalar.same_self (x : Scalar) : x.same x = true := by
  unfold same
  cases x with
  | int n => exact beq_self_eq_true n
  | real x =>
    show (x == x || x.eqv x) = true
    rw [beq_self_eq_true]
    rfl
  | truth b => exact beq_self_eq_true (ofTruth b)

namespace Json

/-! ## Keys -/

mutual

/-- Whether each object in a value has each of its keys once. -/
def KeysDiffer : Json → Prop
  | array items => ItemsKeysDiffer items
  | object fields => (fields.map (·.1)).Nodup ∧ FieldsKeysDiffer fields
  | _ => True

/-- Whether this holds of each item. -/
def ItemsKeysDiffer : List Json → Prop
  | [] => True
  | v :: rest => v.KeysDiffer ∧ ItemsKeysDiffer rest

/-- Whether this holds of the value of each field. -/
def FieldsKeysDiffer : Fields → Prop
  | [] => True
  | (_, v) :: rest => v.KeysDiffer ∧ FieldsKeysDiffer rest

end

/-- The keys of all items differ just if those of each do. -/
theorem itemsKeysDiffer_iff {items : List Json} :
    ItemsKeysDiffer items ↔ ∀ v ∈ items, v.KeysDiffer := by
  induction items with
  | nil => exact ⟨nofun, fun _ => trivial⟩
  | cons v rest ih => rw [List.forall_mem_cons, ← ih, ItemsKeysDiffer]

/-- The keys within all fields differ just if those within each do. -/
theorem fieldsKeysDiffer_iff {fields : Fields} :
    FieldsKeysDiffer fields ↔ ∀ e ∈ fields, e.2.KeysDiffer := by
  induction fields with
  | nil => exact ⟨nofun, fun _ => trivial⟩
  | cons e rest ih => rw [List.forall_mem_cons, ← ih, FieldsKeysDiffer]

mutual

/-- **A value is the same as itself**, if no object in it has a key twice. -/
theorem same_self (v : Json) (h : v.KeysDiffer) : v.same v = true := by
  cases v with
  | null => rfl
  | bool b => exact Scalar.same_self (.truth b)
  | int n => exact Scalar.same_self (.int n)
  | real x => exact Scalar.same_self (.real x)
  | text s => exact beq_self_eq_true s
  | array items =>
    rw [KeysDiffer] at h
    rw [same]
    exact sameItems_self items h
  -- Fields are compared by their keys, so a key that is there twice would find the wrong one.
  | object fields =>
    rw [KeysDiffer] at h
    rw [same, beq_self_eq_true, Bool.true_and]
    exact sameFields_self fields fields h.2 fun e he => Entries.lookup_of_mem h.1 he

/-- Items are the same as themselves. -/
theorem sameItems_self (items : List Json) (h : ItemsKeysDiffer items) :
    sameItems items items = true := by
  match items, h with
  | [], _ => rfl
  | v :: rest, h =>
    rw [ItemsKeysDiffer] at h
    rw [sameItems, same_self v h.1, sameItems_self rest h.2]
    rfl

/-- The fields that are left, each of which is found among all. -/
theorem sameFields_self (fields all : Fields) (h : FieldsKeysDiffer fields)
    (hfound : ∀ e ∈ fields, all.lookup e.1 = some e.2) : sameFields fields all = true := by
  match fields, h with
  | [], _ => rfl
  | (key, v) :: rest, h =>
    rw [FieldsKeysDiffer] at h
    rw [List.forall_mem_cons] at hfound
    have hlookup : all.lookup key = some v := hfound.1
    rw [sameFields, hlookup]
    dsimp only
    rw [same_self v h.1, sameFields_self rest all h.2 hfound.2]
    rfl

end

/-! ## Defined numbers -/

mutual

/-- Whether no number in a value is undefined. -/
def AllDefined : Json → Prop
  | real x => x.isUndefined = false
  | array items => ItemsAllDefined items
  | object fields => FieldsAllDefined fields
  | _ => True

/-- Whether this holds of each item. -/
def ItemsAllDefined : List Json → Prop
  | [] => True
  | v :: rest => v.AllDefined ∧ ItemsAllDefined rest

/-- Whether this holds of the value of each field. -/
def FieldsAllDefined : Fields → Prop
  | [] => True
  | (_, v) :: rest => v.AllDefined ∧ FieldsAllDefined rest

end

/-- All items are defined just if each is. -/
theorem itemsAllDefined_iff {items : List Json} :
    ItemsAllDefined items ↔ ∀ v ∈ items, v.AllDefined := by
  induction items with
  | nil => exact ⟨nofun, fun _ => trivial⟩
  | cons v rest ih => rw [List.forall_mem_cons, ← ih, ItemsAllDefined]

mutual

/-- A value whose numbers are all defined holds no undefined one. -/
theorem holdsOwnUndefined_of_allDefined (v : Json) (h : v.AllDefined) :
    v.holdsOwnUndefined = false := by
  cases v with
  | null => rfl
  | bool b => rfl
  | int n => rfl
  | real x =>
    cases x with
    -- The one number that is not defined is excluded.
    | nan shared =>
      rw [AllDefined] at h
      cases h
    | ranked negative rank bounded => rfl
  | text s => rfl
  | array items =>
    rw [AllDefined] at h
    rw [holdsOwnUndefined]
    exact itemsHoldOwnUndefined_of_allDefined items h
  | object fields =>
    rw [AllDefined] at h
    rw [holdsOwnUndefined]
    exact fieldsHoldOwnUndefined_of_allDefined fields h

theorem itemsHoldOwnUndefined_of_allDefined (items : List Json) (h : ItemsAllDefined items) :
    itemsHoldOwnUndefined items = false := by
  match items, h with
  | [], _ => rfl
  | v :: rest, h =>
    rw [ItemsAllDefined] at h
    rw [itemsHoldOwnUndefined, holdsOwnUndefined_of_allDefined v h.1,
      itemsHoldOwnUndefined_of_allDefined rest h.2]
    rfl

theorem fieldsHoldOwnUndefined_of_allDefined (fields : Fields) (h : FieldsAllDefined fields) :
    fieldsHoldOwnUndefined fields = false := by
  match fields, h with
  | [], _ => rfl
  | (key, v) :: rest, h =>
    rw [FieldsAllDefined] at h
    rw [fieldsHoldOwnUndefined, holdsOwnUndefined_of_allDefined v h.1,
      fieldsHoldOwnUndefined_of_allDefined rest h.2]
    rfl

end

/-- A value without undefined numbers and with keys that differ is the same as itself, whether it
has just been made or not. -/
theorem newlySame_self {v : Json} (hdefined : v.AllDefined) (hkeys : v.KeysDiffer) :
    v.newlySame v = true := by
  unfold newlySame
  rw [holdsOwnUndefined_of_allDefined v hdefined, same_self v hkeys]
  rfl

end Json

end FamilyDesign
