import FamilyDesign.Design.Wire
import FamilyDesign.Proofs.Fallible
import FamilyDesign.Proofs.Json.Portable

/-!
# Fields that are read and written back

A record of a document asks for its fields by name and keeps the others. What holds of all that a
reader can give holds of the fields that are loaded with it; and what is written under the wire
names, with the fields that were kept behind, is loaded as it was.

* **`Reads`** — all that a reader gives of a value with keys that differ has a property.
* **`Kept`** — the fields that a record keeps because none of its names stands for them.
* **`kept_of_load`** — a record that is loaded keeps such fields.
* **`Kept.load_eq`**, **`Kept.keepingExtras_eq`**, **`Kept.unasked_eq`** — the parts of a record
  that is loaded from what has been written.
-/

namespace FamilyDesign

/-! ## What can be given -/

namespace Checked

variable {α β : Type} {P : β → Prop}

/-- If there is a value, it has a property. -/
def Gives (x : Checked α) (P : α → Prop) : Prop := ∀ a, x = .valid a → P a

/-- What is made of a value that is read has what the value gives it. -/
theorem gives_map {f : α → β} {x : Checked α} (h : x.Gives fun a => P (f a)) :
    (f <$> x).Gives P := by
  intro b hb
  obtain ⟨a, ha, rfl⟩ := map_eq_valid.mp hb
  exact h a ha

/-- Of two readings one behind the other, the second may rely on the first. -/
theorem gives_seq {f : Checked (α → β)} {x : Checked α}
    (h : f.Gives fun g => x.Gives fun a => P (g a)) : (f <*> x).Gives P := by
  intro b hb
  obtain ⟨g, a, hg, ha, rfl⟩ := seq_eq_valid.mp hb
  exact h g hg a ha

/-- A value that needs no reading. -/
theorem gives_seq_pure {f : Checked (α → β)} {a : α} (h : f.Gives fun g => P (g a)) :
    (f <*> pure a).Gives P := by
  refine gives_seq ?_
  intro g hg a' ha
  cases Checked.valid.inj ha
  exact h g hg

theorem map_valid {f : α → β} {x : Checked α} {a : α} (h : x = .valid a) :
    f <$> x = .valid (f a) := by
  rw [h]
  rfl

theorem seq_valid {f : Checked (α → β)} {x : Checked α} {g : α → β} {a : α} (hf : f = .valid g)
    (hx : x = .valid a) : f <*> x = .valid (g a) := by
  rw [hf, hx]
  rfl

end Checked

namespace Document

open Json

variable {α β : Type}

/-! ## What readers give -/

/-- All that a reader gives of a value with keys that differ has a property. -/
def Reads (read : Json → Checked α) (P : α → Prop) : Prop :=
  ∀ v, v.KeysDiffer → (read v).Gives P

/-- A dictionary is given with its keys. -/
theorem reads_fields : Reads asFields fun fields => (fields.map (·.1)).Nodup := by
  intro v hv a h
  cases v with
  | object fields =>
    cases h
    rw [KeysDiffer] at hv
    exact hv.1
  | _ => cases h

/-- A record is read of an object whose keys differ. -/
theorem reads_record {load : Fields → Checked α} {P : α → Prop}
    (hload : ∀ fields, (object fields).KeysDiffer → (load fields).Gives P) :
    Reads (asRecord load) P := by
  intro v hv a h
  cases v with
  | object fields => exact hload fields hv a h
  | _ => cases h

/-- An optional value is none, or what is read. -/
theorem reads_optional {read : Json → Checked α} {P : α → Prop} (hread : Reads read P) :
    Reads (asOptional read) fun o => ∀ a ∈ o, P a := by
  intro v hv o h a ha
  cases ha
  unfold asOptional at h
  split at h
  · cases h
  · obtain ⟨a', ha', heq⟩ := Checked.map_eq_valid.mp h
    cases heq
    exact hread v hv a ha'

/-- Induction on the items; the index is only for the places of what is wrong. -/
theorem reads_allFrom {read : Json → Checked α} {P : α → Prop} (hread : Reads read P)
    {items : List Json} (hitems : ∀ v ∈ items, v.KeysDiffer) {index : Nat} {xs : List α}
    (h : Checked.allFrom index (items.map read) = .valid xs) : ∀ x ∈ xs, P x := by
  induction items generalizing index xs with
  | nil =>
    cases h
    exact List.forall_mem_nil P
  | cons v rest ih =>
    rw [List.forall_mem_cons] at hitems
    obtain ⟨f, ys, hf, hys, rfl⟩ := Checked.seq_eq_valid.mp h
    obtain ⟨x, hx, rfl⟩ := Checked.map_eq_valid.mp hf
    rw [List.forall_mem_cons]
    refine ⟨?_, ih hitems.2 hys⟩
    cases hv : read v with
    | invalid places =>
      rw [hv] at hx
      cases hx
    | valid x' =>
      rw [hv] at hx
      cases hx
      exact hread v hitems.1 _ hv

/-- Each item of a list is read by itself. -/
theorem reads_list {read : Json → Checked α} {P : α → Prop} (hread : Reads read P) :
    Reads (asList read) fun xs => ∀ x ∈ xs, P x := by
  intro v hv xs h
  cases v with
  | array items =>
    rw [KeysDiffer, itemsKeysDiffer_iff] at hv
    exact reads_allFrom hread hv h
  | _ => cases h

/-- What is found under a key is among the entries. -/
theorem mem_of_lookup {entries : Entries β} {key : Text} {v : β}
    (h : entries.lookup key = some v) : (key, v) ∈ entries := by
  obtain ⟨before, after, rfl, -⟩ := List.lookup_eq_some_iff.mp h
  exact List.mem_append_right before List.mem_cons_self

theorem Name.mem_of_find? {name : Name} {fields : Fields} {e : Text × Json}
    (h : name.find? fields = some e) : e ∈ fields := by
  unfold Name.find? at h
  split at h
  · next v hv =>
    cases h
    exact mem_of_lookup hv
  · obtain ⟨v, hv, rfl⟩ := Option.map_eq_some_iff.mp h
    exact mem_of_lookup hv

/-- A field that is found under its wire name is read. -/
theorem Name.read_of_load {name : Name} {fields : Fields} {v : Json}
    (hfind : fields.lookup name.wire = some v) {default a : α} {read : Json → Checked α}
    (h : name.load default read fields = .valid a) : read v = .valid a := by
  unfold Name.load Name.find? at h
  rw [hfind] at h
  dsimp only at h
  cases hread : read v with
  | invalid places =>
    rw [hread] at h
    cases h
  | valid a' =>
    rw [hread] at h
    exact h

/-- A field that is loaded is the default, or was read. -/
theorem Name.gives_load {fields : Fields} (hkeys : (object fields).KeysDiffer) (name : Name)
    {default : α} {read : Json → Checked α} {P : α → Prop} (hread : Reads read P)
    (hdefault : P default) : (name.load default read fields).Gives P := by
  intro a h
  unfold Name.load at h
  split at h
  · next key v hfind =>
    rw [KeysDiffer, fieldsKeysDiffer_iff] at hkeys
    have hv : v.KeysDiffer := hkeys.2 (key, v) (Name.mem_of_find? hfind)
    cases hvalid : read v with
    | invalid places =>
      rw [hvalid] at h
      cases h
    | valid a' =>
      rw [hvalid] at h
      cases h
      exact hread v hv _ hvalid
  · cases h
    exact hdefault

/-! ## Fields that are kept -/

/-- Fields that a record may keep: under none of its wire names, and each under a key of its own. -/
structure Kept (names : List Name) (extras : Fields) : Prop where
  unnamed : ∀ name ∈ names, name.wire ∉ extras.map (·.1)
  whole : (extras.any fun (key, _) => key.holdsHalf) = false
  differ : (extras.map (·.1)).Nodup

/-- A record that keeps nothing keeps only what it may. -/
theorem kept_nil (names : List Name) : Kept names [] where
  unnamed _ _ := List.not_mem_nil
  whole := rfl
  differ := List.nodup_nil

/-- A wire name that is a key of an object stands for that field, so the field is not kept. -/
theorem not_mem_unasked {names : List Name} {name : Name} (hname : name ∈ names)
    (fields : Fields) : name.wire ∉ (unasked names fields).map (·.1) := by
  intro hmem
  obtain ⟨e, he, hkey⟩ := List.mem_map.mp hmem
  obtain ⟨hfield, hunused⟩ := List.mem_filter.mp he
  obtain ⟨v, hv⟩ : ∃ v, fields.lookup name.wire = some v := by
    cases hlookup : fields.lookup name.wire with
    | some v => exact ⟨v, rfl⟩
    | none =>
      have hne := List.lookup_eq_none_iff.mp hlookup e hfield
      rw [← hkey, bne_self_eq_false] at hne
      cases hne
  have hfind : name.find? fields = some (name.wire, v) := by
    unfold Name.find?
    rw [hv]
  have hused : e.1 ∈ names.filterMap fun name => (name.find? fields).map (·.1) := by
    refine List.mem_filterMap.mpr ⟨name, hname, ?_⟩
    rw [hfind, hkey]
    rfl
  dsimp only at hunused
  rw [List.contains_iff_mem.mpr hused] at hunused
  cases hunused

/-- The fields that no name has asked for are kept, if none has half of a surrogate pair in its key.
-/
theorem kept_unasked {names : List Name} {fields : Fields} (hkeys : (object fields).KeysDiffer)
    (hwhole : ((unasked names fields).any fun (key, _) => key.holdsHalf) = false) :
    Kept names (unasked names fields) where
  unnamed name hname := not_mem_unasked hname fields
  whole := hwhole
  differ := by
    rw [KeysDiffer] at hkeys
    exact (List.filter_sublist.map _).nodup hkeys.1

/-- What is given of the parts of a record is given of the record. -/
theorem gives_of_keepingExtras {names : List Name} {fields : Fields} {loaded : Checked α}
    {P : α → Prop} (h : loaded.Gives P) : (keepingExtras names fields loaded).Gives P := by
  intro a ha
  unfold keepingExtras at ha
  split at ha
  · cases ha
  · exact h a ha

/-- A record that is loaded keeps fields that it may keep. -/
theorem gives_keepingExtras {names : List Name} {fields : Fields}
    (hkeys : (object fields).KeysDiffer) {loaded : Checked α} {P : α → Prop}
    (h : Kept names (unasked names fields) → loaded.Gives P) :
    (keepingExtras names fields loaded).Gives P := by
  intro a ha
  unfold keepingExtras at ha
  split at ha
  · cases ha
  · next hwhole => exact h (kept_unasked hkeys (Bool.eq_false_iff.mpr hwhole)) a ha

/-! ## What has been written -/

section Written

variable {names : List Name} {declared extras : Fields}

/-- Extra fields in which nothing is lost are written as they are. -/
theorem writeExtras_eq (hportable : ∀ e ∈ extras, e.2.Portable) :
    writeExtras .portable extras = extras := by
  unfold writeExtras
  conv_rhs => rw [← List.map_id extras]
  refine List.map_congr_left ?_
  intro e he
  exact congrArg (e.1, ·) (writable_eq e.2 (hportable e he).finite)

/-- Behind the declared fields, the kept ones have keys of their own. -/
theorem Kept.nodup (h : Kept names extras) (hnames : (names.map (·.wire)).Nodup)
    (hdeclared : declared.map (·.1) = names.map (·.wire)) :
    ((declared ++ extras).map (·.1)).Nodup := by
  rw [List.map_append, hdeclared, List.nodup_append]
  refine ⟨hnames, h.differ, ?_⟩
  intro key hkey key' hkey' heq
  obtain ⟨name, hname, rfl⟩ := List.mem_map.mp hkey
  exact h.unnamed name hname (heq ▸ hkey')

/-- A declared field is found under its wire name. -/
theorem Kept.lookup_eq (h : Kept names extras) (hnames : (names.map (·.wire)).Nodup)
    (hdeclared : declared.map (·.1) = names.map (·.wire)) {key : Text} {v : Json}
    (hmem : (key, v) ∈ declared) : (declared ++ extras : Fields).lookup key = some v :=
  Entries.lookup_of_mem (h.nodup hnames hdeclared) (List.mem_append_left extras hmem)

/-- Behind the declared fields, what is kept hides none of them. -/
theorem Kept.find?_eq (h : Kept names extras) (hnames : (names.map (·.wire)).Nodup)
    (hdeclared : declared.map (·.1) = names.map (·.wire)) {name : Name} {v : Json}
    (hmem : (name.wire, v) ∈ declared) : name.find? (declared ++ extras) = some (name.wire, v) := by
  unfold Name.find?
  rw [h.lookup_eq hnames hdeclared hmem]

/-- A declared field is loaded as it has been written. -/
theorem Kept.load_eq (h : Kept names extras) (hnames : (names.map (·.wire)).Nodup)
    (hdeclared : declared.map (·.1) = names.map (·.wire)) (i : Nat) {name : Name} {v : Json}
    (hfield : declared[i]? = some (name.wire, v)) {default a : α} {read : Json → Checked α}
    (hread : read v = .valid a) : name.load default read (declared ++ extras) = .valid a := by
  unfold Name.load
  rw [h.find?_eq hnames hdeclared (List.mem_of_getElem? hfield)]
  dsimp only
  rw [hread]
  rfl

/-- The fields that were kept are kept again. -/
theorem Kept.unasked_eq (h : Kept names extras) (hnames : (names.map (·.wire)).Nodup)
    (hdeclared : declared.map (·.1) = names.map (·.wire)) :
    unasked names (declared ++ extras) = extras := by
  -- the names ask for the declared fields, each for its own
  have hused : (names.filterMap fun name => (name.find? (declared ++ extras)).map (·.1))
      = names.map (·.wire) := by
    rw [← List.filterMap_eq_map]
    refine List.filterMap_congr ?_
    intro name hname
    have hwire : name.wire ∈ declared.map (·.1) := by
      rw [hdeclared]
      exact List.mem_map_of_mem hname
    obtain ⟨⟨key, v⟩, hmem, rfl⟩ := List.mem_map.mp hwire
    rw [h.find?_eq hnames hdeclared hmem]
    rfl
  unfold unasked
  dsimp only
  rw [hused, List.filter_append, List.filter_eq_nil_iff.mpr, List.filter_eq_self.mpr]
  · rfl
  · intro e he
    -- a field that is kept has none of the names, so it is not asked for
    have hnot : e.1 ∉ names.map (·.wire) := by
      intro hmem
      obtain ⟨name, hname, hkey⟩ := List.mem_map.mp hmem
      exact h.unnamed name hname (hkey ▸ List.mem_map_of_mem he)
    simpa using hnot
  · intro e he
    have hmem : e.1 ∈ names.map (·.wire) := by
      rw [← hdeclared]
      exact List.mem_map_of_mem he
    simpa using hmem

/-- A record is loaded with the fields that it has kept. -/
theorem Kept.keepingExtras_eq (h : Kept names extras) (hnames : (names.map (·.wire)).Nodup)
    (hdeclared : declared.map (·.1) = names.map (·.wire)) {f : Checked (Fields → α)}
    {g : Fields → α} {a : α} (hf : f = .valid g) (ha : g extras = a) :
    keepingExtras names (declared ++ extras) (f <*> pure (unasked names (declared ++ extras)))
      = .valid a := by
  unfold keepingExtras
  rw [h.unasked_eq hnames hdeclared, h.whole, hf, ← ha]
  rfl

/-- The parts of a record in which nothing is lost. -/
theorem portable_parts (h : (object (declared ++ writeExtras .asIs extras)).Portable) :
    (∀ (i : Nat) (e : Text × Json), declared[i]? = some e → e.2.Portable) ∧
      ∀ e ∈ extras, e.2.Portable := by
  refine ⟨?_, ?_⟩
  · intro i e he
    exact (h.of_field (List.mem_append_left _ (List.mem_of_getElem? he))).2
  · intro e he
    exact (h.of_field (List.mem_append_right _ (List.mem_map_of_mem he))).2

end Written

/-! ## Lists and absent values -/

/-- Induction on the items. -/
theorem allFrom_eq {read : Json → Checked α} {write : α → Json} {items : List α}
    (h : ∀ x ∈ items, read (write x) = .valid x) (index : Nat) :
    Checked.allFrom index ((items.map write).map read) = .valid items := by
  induction items generalizing index with
  | nil => rfl
  | cons x rest ih =>
    rw [List.forall_mem_cons] at h
    rw [List.map_cons, List.map_cons, Checked.allFrom, h.1, ih h.2]
    rfl

/-- A list comes back if its items do. -/
theorem asList_writeList {read : Json → Checked α} {write : α → Json} {items : List α}
    (h : ∀ x ∈ items, read (write x) = .valid x) :
    asList read (writeList write items) = .valid items :=
  allFrom_eq h 0

/-- So does an optional value that is not written as null when it is there. -/
theorem asOptional_optional {read : Json → Checked α} {write : α → Json} {o : Option α}
    (hpresent : ∀ x, write x ≠ .null) (h : ∀ x ∈ o, read (write x) = .valid x) :
    asOptional read (optional write o) = .valid o := by
  cases o with
  | none => rfl
  | some x =>
    show asOptional read (write x) = .valid (some x)
    unfold asOptional
    split
    · next hnull => exact absurd hnull (hpresent x)
    · rw [h x rfl]
      rfl

theorem asOptional_text (o : Option Text) : asOptional asText (optional .text o) = .valid o :=
  asOptional_optional (fun _ => Json.noConfusion) fun _ _ => rfl

theorem asList_text (texts : List Text) : asList asText (writeList .text texts) = .valid texts :=
  asList_writeList fun _ _ => rfl

/-- The items of a portable list are portable. -/
theorem portable_list {write : α → Json} {items : List α} (h : (writeList write items).Portable) :
    ∀ x ∈ items, (write x).Portable :=
  fun _ hx => h.of_item (List.mem_map_of_mem hx)

/-- So is an optional value that is there. -/
theorem portable_optional {write : α → Json} {o : Option α} (h : (optional write o).Portable) :
    ∀ x ∈ o, (write x).Portable := by
  intro x hx
  cases hx
  exact h

/-- Values of no declared kind in which nothing is lost. -/
theorem asList_any {items : List Json} (h : (writeList id items).Portable) :
    asList asAny (writeList writable items) = .valid items := by
  refine asList_writeList ?_
  intro v hv
  exact congrArg Checked.valid (writable_eq v (portable_list h v hv).finite)

end Document

end FamilyDesign
