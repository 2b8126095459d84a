import FamilyDesign.Design.Structure
import FamilyDesign.Proofs.Fallible

/-!
# What the document gate lets through

The gate on a document reads its level of detail as an integer. Every value that is no number is
named as such, except one: an infinite real has no integer part, and is refused with a fault of its
own.

* **`HasUnboundedLod`** — a document that passes the gate up to an infinite level of detail.
* **`ofReply_unbounded_iff`** — just such a document in a reply makes the fault.
* **`ofReply_beyond_iff`** — a limit that a reply exceeds is one on its text.
-/

namespace FamilyDesign

open Numeric (Binary64)

/-- Only a real has an infinite integer part. -/
theorem Json.toInteger_infinite_iff {v : Json} :
    v.toInteger = .error .infiniteInteger ↔ ∃ x, v = .real x ∧ x.isInfinite = true := by
  cases v with
  | null => simp [toInteger]
  | bool b => simp [toInteger]
  | int n => simp [toInteger]
  | array items => simp [toInteger]
  | object fields => simp [toInteger]
  | text s =>
    simp only [toInteger]
    cases Numeric.freeInt? s with
    | none => simp
    | some n => simp
  | real x =>
    simp only [toInteger, integerPart]
    cases x with
    | nan shared => simp [Binary64.isUndefined, Binary64.isInfinite]
    | ranked negative rank h => simp [Binary64.isUndefined]

namespace Design

/-- A document that has all sections, a name and a category, and an infinite level of detail. -/
structure HasUnboundedLod (fields : Fields) : Prop where
  sections : missingSection? requiredSections fields = none
  lod : ∃ (metadata : Fields) (x : Binary64),
    fields.lookup "familyMetadata" = some (.object metadata) ∧ hasNames metadata = true ∧
      metadata.lookup "lodLevel" = some (.real x) ∧ x.isInfinite = true

/-- Whether metadata have a name, a category and an infinite level of detail. -/
def namesUnboundedLod (metadata : Fields) : Bool :=
  hasNames metadata &&
    match metadata.lookup "lodLevel" with
    | some (.real x) => x.isInfinite
    | _ => false

/-- The test for an infinite level of detail behind names, in terms of the fields. -/
theorem namesUnboundedLod_iff {metadata : Fields} :
    namesUnboundedLod metadata = true ↔ ∃ x, hasNames metadata = true ∧
      metadata.lookup "lodLevel" = some (.real x) ∧ x.isInfinite = true := by
  unfold namesUnboundedLod
  rw [Bool.and_eq_true]
  split
  · next x heq => simp [heq]
  · next hne =>
    constructor
    · rintro ⟨-, h⟩
      cases h
    · rintro ⟨x, -, heq, -⟩
      exact absurd heq (hne x)

instance (fields : Fields) : Decidable (HasUnboundedLod fields) :=
  decidable_of_iff (missingSection? requiredSections fields = none ∧
      (match fields.lookup "familyMetadata" with
        | some (.object metadata) => namesUnboundedLod metadata
        | _ => false) = true) <| by
    constructor
    · rintro ⟨hsections, h⟩
      split at h
      · next metadata heq =>
        obtain ⟨x, hlod⟩ := namesUnboundedLod_iff.mp h
        exact ⟨hsections, metadata, x, heq, hlod⟩
      · cases h
    · rintro ⟨hsections, metadata, x, heq, hlod⟩
      refine ⟨hsections, ?_⟩
      rw [heq]
      exact namesUnboundedLod_iff.mpr ⟨x, hlod⟩

/-! ## The gate, from the inside -/

/-- The level of detail is unbounded just if it is an infinite real. -/
theorem checkedLod_unbounded_iff {metadata : Fields} {fault : NumberFault} :
    checkedLod metadata = .error (.lodUnbounded fault) ↔
      fault = .infiniteInteger ∧
        ∃ x, metadata.lookup "lodLevel" = some (.real x) ∧ x.isInfinite = true := by
  -- an absent level of detail reads as `null`, which is no real
  have hreal : (∃ x, metadata.lookup "lodLevel" = some (.real x) ∧ x.isInfinite = true) ↔
      ((metadata.lookup "lodLevel").getD .null).toInteger = .error .infiniteInteger := by
    rw [Json.toInteger_infinite_iff]
    cases metadata.lookup "lodLevel" with
    | none => simp
    | some v => simp
  rw [hreal]
  unfold checkedLod
  dsimp only
  split
  · next lod heq => simp [heq]
  · next heq => simp [heq, eq_comm]
  · next fault' hne heq =>
    simp only [heq, reduceCtorEq, false_iff, Except.error.injEq]
    exact fun h => hne h.2

/-- Reading the level of detail meets no limit on documents. -/
theorem checkedLod_ne_beyond (metadata : Fields) (limit : Limit) :
    checkedLod metadata ≠ .error (.beyond limit) := by
  unfold checkedLod
  dsimp only
  split
  · nofun
  · nofun
  · nofun

/-- Metadata is unbounded just if it is an object with both names and an infinite level of detail.
-/
theorem checkMetadata_unbounded_iff {v : Json} {fault : NumberFault} :
    checkMetadata v = .error (.lodUnbounded fault) ↔
      fault = .infiniteInteger ∧ ∃ (metadata : Fields) (x : Binary64), v = .object metadata ∧
        hasNames metadata = true ∧ metadata.lookup "lodLevel" = some (.real x) ∧
        x.isInfinite = true := by
  cases v with
  | object metadata =>
    simp only [checkMetadata, Json.object.injEq]
    by_cases hnames : hasNames metadata = true
    · -- behind the level of detail only its range is checked
      have hrange : ¬∃ lod, checkedLod metadata = .ok lod ∧
          (if lodInRange lod then .ok () else .error (.lodOutOfRange lod))
            = (.error (.lodUnbounded fault) : Except StructureFault Unit) := by
        rintro ⟨lod, -, h⟩
        split at h
        · cases h
        · cases h
      rw [if_pos hnames, bind_eq_error_iff, or_iff_left hrange, checkedLod_unbounded_iff]
      constructor
      · rintro ⟨hfault, x, hlookup, hinf⟩
        exact ⟨hfault, metadata, x, rfl, hnames, hlookup, hinf⟩
      · rintro ⟨hfault, metadata', x, rfl, -, hlookup, hinf⟩
        exact ⟨hfault, x, hlookup, hinf⟩
    · rw [if_neg hnames]
      constructor
      · nofun
      · rintro ⟨-, metadata', x, rfl, hnames', -⟩
        exact absurd hnames' hnames
  | null => simp [checkMetadata]
  | bool b => simp [checkMetadata]
  | int n => simp [checkMetadata]
  | real x => simp [checkMetadata]
  | text s => simp [checkMetadata]
  | array items => simp [checkMetadata]

/-- A document is unbounded just if it has all sections and such metadata. -/
theorem checkStructure_unbounded_iff {fields : Fields} {fault : NumberFault} :
    checkStructure fields = .error (.lodUnbounded fault) ↔
      fault = .infiniteInteger ∧ HasUnboundedLod fields := by
  -- absent metadata read as `null`, which is no object
  have hmetadata : ∀ metadata : Fields, (fields.lookup "familyMetadata").getD .null
      = .object metadata ↔ fields.lookup "familyMetadata" = some (.object metadata) := by
    intro metadata
    cases fields.lookup "familyMetadata" with
    | none => simp
    | some v => simp
  unfold checkStructure
  cases hsections : missingSection? requiredSections fields with
  | some name =>
    constructor
    · nofun
    · rintro ⟨-, h⟩
      rw [h.sections] at hsections
      cases hsections
  | none =>
    show checkMetadata _ = _ ↔ _
    rw [checkMetadata_unbounded_iff]
    constructor
    · rintro ⟨hfault, metadata, x, heq, hrest⟩
      exact ⟨hfault, hsections, metadata, x, (hmetadata metadata).mp heq, hrest⟩
    · rintro ⟨hfault, -, metadata, x, heq, hrest⟩
      exact ⟨hfault, metadata, x, (hmetadata metadata).mpr heq, hrest⟩

/-- Loading can only fail by the schema. -/
theorem ofFields_eq_error {fields : Fields} {fault : StructureFault}
    (h : ofFields fields = .error fault) : ∃ count, fault = .schemaMismatch count := by
  unfold ofFields at h
  split at h
  · cases h
  · next places _ =>
    cases h
    exact ⟨places.length, rfl⟩

/-- A document that passes the gate is refused, if at all, for what its schema finds wrong. -/
theorem build_eq_error_iff {fields : Fields} {fault : StructureFault}
    (hfault : ∀ count, fault ≠ .schemaMismatch count) :
    build fields = .error fault ↔ checkStructure fields = .error fault := by
  unfold build
  rw [bind_eq_error_iff, or_iff_left]
  rintro ⟨_, -, h⟩
  obtain ⟨count, heq⟩ := ofFields_eq_error h
  exact hfault count heq

/-! ## Replies -/

/-- A reply whose object has an infinite level of detail, and nothing wrong ahead of it. -/
def ReplyIsUnbounded (reply : Option Text) : Prop :=
  ∃ fields, objectOfReply reply = .ok fields ∧ HasUnboundedLod fields

instance (reply : Option Text) : Decidable (ReplyIsUnbounded reply) :=
  match h : objectOfReply reply with
  | .ok fields =>
    decidable_of_iff (HasUnboundedLod fields) <| by
      constructor
      · intro hfields
        exact ⟨fields, h, hfields⟩
      · rintro ⟨fields', heq, hfields⟩
        rw [h] at heq
        cases heq
        exact hfields
  | .error _ => isFalse <| by
      rintro ⟨fields, heq, -⟩
      rw [h] at heq
      cases heq

/-- Finding the object in a reply says nothing of a level of detail. -/
theorem objectOfReply_ne_unbounded (reply : Option Text) (fault : NumberFault) :
    objectOfReply reply ≠ .error (.lodUnbounded fault) := by
  unfold objectOfReply
  split
  · nofun
  · nofun
  · split
    · nofun
    · split
      · nofun
      · nofun
      · nofun
      · nofun

/-- A reply is unbounded just if its object is. -/
theorem ofReply_unbounded_iff {reply : Option Text} {fault : NumberFault} :
    ofReply reply = .error (.lodUnbounded fault) ↔
      fault = .infiniteInteger ∧ ReplyIsUnbounded reply := by
  have hne : ∀ count, StructureFault.lodUnbounded fault ≠ .schemaMismatch count := nofun
  have hbuild : ∀ fields, build fields = .error (.lodUnbounded fault) ↔
      fault = .infiniteInteger ∧ HasUnboundedLod fields := by
    intro fields
    rw [build_eq_error_iff hne, checkStructure_unbounded_iff]
  unfold ofReply
  -- the search for an object does not look at the level of detail
  rw [bind_eq_error_iff, or_iff_right (objectOfReply_ne_unbounded reply fault)]
  constructor
  · rintro ⟨fields, hobject, h⟩
    obtain ⟨hfault, hfields⟩ := (hbuild fields).mp h
    exact ⟨hfault, fields, hobject, hfields⟩
  · rintro ⟨hfault, fields, hobject, hfields⟩
    exact ⟨fields, hobject, (hbuild fields).mpr ⟨hfault, hfields⟩⟩

/-- The structure gate meets no limit on documents. -/
theorem checkStructure_ne_beyond (fields : Fields) (limit : Limit) :
    checkStructure fields ≠ .error (.beyond limit) := by
  unfold checkStructure
  split
  · nofun
  · unfold checkMetadata
    split
    · next metadata _ =>
      split
      · intro h
        rcases bind_eq_error_iff.mp h with hlod | ⟨lod, -, hrange⟩
        · exact checkedLod_ne_beyond metadata limit hlod
        · split at hrange
          · cases hrange
          · cases hrange
      · nofun
    · nofun

/-- A limit that a reply exceeds is one on its text. -/
theorem ofReply_beyond_iff {reply : Option Text} {limit : Limit} :
    ofReply reply = .error (.beyond limit) ↔ objectOfReply reply = .error (.beyond limit) := by
  have hne : ∀ count, StructureFault.beyond limit ≠ .schemaMismatch count := nofun
  unfold ofReply
  rw [bind_eq_error_iff, or_iff_left]
  -- once there is an object no text is read any more
  rintro ⟨fields, -, h⟩
  exact checkStructure_ne_beyond fields limit ((build_eq_error_iff hne).mp h)

/-! ## The gate ahead of a script -/

/-- The gate ahead of a script gives back what it lets through. -/
theorem eq_of_checkEmittable {d d' : Design} (h : checkEmittable d = .ok d') : d' = d := by
  unfold checkEmittable at h
  split at h
  · cases h
  · split at h
    · cases h
    · split at h
      · cases h
      · split at h
        · exact (Except.ok.inj h).symm
        · cases h

/-- What passes the gate ahead of a script has metadata. -/
theorem isSome_metadata_of_checkEmittable {d : Design}
    (h : checkEmittable d = .ok d) : d.metadata.isSome = true := by
  cases hm : d.metadata with
  | some metadata => rfl
  | none =>
    unfold checkEmittable at h
    rw [hm] at h
    cases h

end Design

end FamilyDesign
