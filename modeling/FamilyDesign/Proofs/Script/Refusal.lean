import FamilyDesign.Proofs.Script.Emission
import FamilyDesign.Proofs.Script.Lines

/-!
# When there is a script

A script is refused at the gate ahead of it, or written — unless it holds an integer that is out of
range. Such an integer has no literal, not even the quoted one that any other value falls back to,
and it passes the gate, which does not look at values. So the fault leaves the emission as it is.

* **`Bounded`** — each integer that a script holds has a literal.
* **`Refuses`** — what an emission gives, in terms of its gate.
* **`emit_refuses`** — the emission of a design, and of a document, is of this kind.
-/

namespace FamilyDesign.Script

/-! ## Integers out of range -/

/-- Whether each integer that a script of the design holds is in range. -/
structure Bounded (d : Design) : Prop where
  defaults : ∀ p ∈ d.parameters, ¬OutOfRange p.default p.type
  bindings : ∀ t ∈ d.types, ∀ b ∈ t.bindings, ¬OutOfRange b.2 (boundTypeOf d b.1)

/-- Only the defaults and the family types hold values of a declared type. -/
theorem bounded_iff {d : Design} : Bounded d ↔ ∀ s : Section, s.InRange d := by
  have hdefaults : Section.parameters.InRange d ↔
      ∀ p ∈ d.parameters, ¬OutOfRange p.default p.type := by
    simp only [Section.InRange, Section.typedValues, List.forall_mem_map]
  have hbindings : Section.familyTypes.InRange d ↔
      ∀ t ∈ d.types, ∀ b ∈ t.bindings, ¬OutOfRange b.2 (boundTypeOf d b.1) := by
    simp only [Section.InRange, Section.typedValues, List.forall_mem_flatMap, List.forall_mem_map]
  -- A section without typed values is in range.
  have hother : ∀ {s : Section}, s.typedValues d = [] → s.InRange d := by
    intro s hvalues
    unfold Section.InRange
    rw [hvalues]
    exact List.forall_mem_nil _
  constructor
  · intro h s
    cases s with
    | parameters => exact hdefaults.mpr h.defaults
    | familyTypes => exact hbindings.mpr h.bindings
    | _ => exact hother rfl
  · intro h
    exact ⟨hdefaults.mp (h .parameters), hbindings.mp (h .familyTypes)⟩

/-- A literal that is not written is out of range. -/
theorem isRange_of_formatValue {v : Json} {typeName : Text} {fault : NumberFault}
    (h : formatValue v typeName = .error fault) : fault.isRange = true := by
  -- Any other fault is answered by quoting the value.
  have horQuote : ∀ {written}, orQuote v written = .error fault → fault.isRange = true := by
    intro written h
    unfold orQuote at h
    split at h
    · split at h
      · next hrange =>
        cases h
        exact hrange
      · cases h
    · next hok => exact absurd h (hok fault)
  unfold formatValue literal at h
  split at h
  · exact horQuote h
  · exact horQuote h
  · exact horQuote h
  · cases h
  · cases h
  · cases h

/-- A parameter that is not written has a number out of range. -/
theorem isRange_of_parameterEntryLines {p : Parameter} {fault : NumberFault}
    (h : parameterEntryLines p = .error fault) : fault.isRange = true := by
  have hdefault : defaultLines p = .error fault → fault.isRange = true := by
    intro h
    unfold defaultLines at h
    split at h
    · cases h
    · split at h
      · cases h
      · rcases bind_eq_error_iff.mp h with hvalue | ⟨_, -, hnone⟩
        · exact isRange_of_formatValue hvalue
        · cases hnone
  rcases bind_eq_error_iff.mp h with hlines | ⟨_, -, hnone⟩
  · exact hdefault hlines
  · cases hnone

/-- A family type that is not written has a number out of range. -/
theorem isRange_of_familyTypeEntryLines {d : Design} {t : FamilyType} {fault : NumberFault}
    (h : familyTypeEntryLines d t = .error fault) : fault.isRange = true := by
  have hbinding : ∀ {name v}, bindingLines d name v = .error fault → fault.isRange = true := by
    intro name v h
    unfold bindingLines at h
    dsimp only at h
    split at h
    · cases h
    · rcases bind_eq_error_iff.mp h with hvalue | ⟨_, -, hnone⟩
      · exact isRange_of_formatValue hvalue
      · cases hnone
  rcases bind_eq_error_iff.mp h with hbindings | ⟨_, -, hnone⟩
  · obtain ⟨b, -, hb⟩ := exists_of_mapM_error hbindings
    exact hbinding hb
  · cases hnone

/-- Two sections can fail for a number, and only for one out of range. -/
theorem Section.isRange_of_lines {s : Section} {d : Design} {fault : NumberFault}
    (h : s.lines d = .error (.unbounded fault)) : fault.isRange = true := by
  cases s with
  | parameters =>
    obtain ⟨cause, hcause, hwrap⟩ := mapError_eq_error_iff.mp h
    cases hwrap
    rcases bind_eq_error_iff.mp hcause with hentries | ⟨_, -, hnone⟩
    · obtain ⟨p, -, hp⟩ := exists_of_mapM_error hentries
      exact isRange_of_parameterEntryLines hp
    · cases hnone
  | familyTypes =>
    obtain ⟨cause, hcause, hwrap⟩ := mapError_eq_error_iff.mp h
    cases hwrap
    rcases bind_eq_error_iff.mp hcause with hentries | ⟨_, -, hnone⟩
    · obtain ⟨t, -, ht⟩ := exists_of_mapM_error hentries
      exact isRange_of_familyTypeEntryLines ht
    · cases hnone
  | familySetup =>
    unfold lines setup at h
    dsimp only at h
    split at h
    · cases h
    · cases h
  | imports => cases h
  | referencePlanes => cases h
  | geometry => cases h
  | constraints => cases h
  | materials => cases h
  | visibility => cases h
  | validation => cases h

/-! ## Behind the gate -/

section Behind

variable {rules : List Rule} {d : Design} {now : Instant}

/-- All sections are written just if the design is bounded. -/
theorem exists_sectionTexts_iff (hmetadata : d.metadata.isSome = true) :
    (∃ sections, sectionTexts d = .ok sections) ↔ Bounded d := by
  have htext : ∀ s : Section, (∃ named, (do .ok (s.name, ← s.text d) : Except Fault (Text × Text))
      = .ok named) ↔ s.InRange d := by
    intro s
    rw [← Section.exists_text_iff hmetadata]
    constructor
    · rintro ⟨named, hnamed⟩
      obtain ⟨t, ht, -⟩ := bind_eq_ok_iff.mp hnamed
      exact ⟨t, ht⟩
    · rintro ⟨t, ht⟩
      exact ⟨(s.name, t), bind_eq_ok_iff.mpr ⟨t, ht, rfl⟩⟩
  have hall : ∀ s : Section, s ∈ Section.all := by
    intro s
    cases s <;> decide
  unfold sectionTexts
  rw [exists_mapM_ok_iff, bounded_iff]
  exact ⟨fun h s => (htext s).mp (h s (hall s)), fun h s _ => (htext s).mpr (h s)⟩

/-- What is behind the gate is written just if each integer in it is in range. -/
theorem exists_write_iff (hmetadata : d.metadata.isSome = true) :
    (∃ e, write rules d now = .ok e) ↔ Bounded d := by
  rw [← exists_sectionTexts_iff hmetadata]
  constructor
  · rintro ⟨e, he⟩
    obtain ⟨sections, hsections, -⟩ := bind_eq_ok_iff.mp he
    exact ⟨sections, hsections⟩
  · rintro ⟨sections, hsections⟩
    exact ⟨_, bind_eq_ok_iff.mpr ⟨sections, hsections, rfl⟩⟩

/-- Writing fails only for a number out of range. -/
theorem isRange_of_write {fault : NumberFault} (h : write rules d now = .error (.unbounded fault)) :
    fault.isRange = true := by
  rcases bind_eq_error_iff.mp h with hsections | ⟨sections, -, hnone⟩
  · obtain ⟨s, -, hs⟩ := exists_of_mapM_error hsections
    rcases bind_eq_error_iff.mp hs with htext | ⟨text, -, hnone⟩
    · exact Section.isRange_of_lines (map_eq_error_iff.mp htext)
    · cases hnone
  · cases hnone

end Behind

/-! ## Emission in terms of its gate -/

/-- What an emission gives whose gate has given this. There is a script if the gate lets a design
through and each integer in it is in range; there is the fault of the gate if that has one; and
there is a fault of another kind, a number out of range, for what is left. -/
structure Refuses (gate : Except StructureFault Design) (result : Except Fault Emission) :
    Prop where
  written : (∃ e, result = .ok e) ↔ ∃ d, gate = .ok d ∧ Bounded d
  structural : ∀ fault, result = .error (.structural fault) ↔ gate = .error fault
  unbounded : (∃ fault, result = .error (.unbounded fault)) ↔ ∃ d, gate = .ok d ∧ ¬Bounded d
  range : ∀ fault, result = .error (.unbounded fault) → fault.isRange = true

/-- Emission is a gate that asks for metadata, and behind it the writing. -/
theorem refuses_of_gate {gate : Except StructureFault Design}
    (hmetadata : ∀ d, gate = .ok d → d.metadata.isSome = true) (rules : List Rule) (now : Instant) :
    Refuses gate (gate.mapError .structural >>= fun d => write rules d now) := by
  cases gate with
  -- Nothing is written behind a gate that refuses, and its fault is the one that is given.
  | error fault =>
    refine ⟨?_, ?_, ?_, nofun⟩
    · exact iff_of_false nofun nofun
    · intro fault'
      show Except.error (Fault.structural fault) = _ ↔ _
      simp
    · exact iff_of_false nofun nofun
  | ok d =>
    have hmetadata : d.metadata.isSome = true := hmetadata d rfl
    have hwritten : (∃ e, write rules d now = .ok e) ↔ Bounded d := exists_write_iff hmetadata
    have hgate : ∀ P : Design → Prop, (∃ d', Except.ok d = (.ok d' : Except StructureFault Design)
        ∧ P d') ↔ P d := by simp
    show Refuses (.ok d) (write rules d now)
    refine ⟨?_, ?_, ?_, fun fault => isRange_of_write⟩
    · rw [hgate]
      exact hwritten
    · intro fault
      exact iff_of_false (write_ne_structural hmetadata rules now fault) nofun
    · rw [hgate, ← hwritten]
      cases hresult : write rules d now with
      | ok e => simp
      | error fault =>
        cases fault with
        | structural fault => exact absurd hresult (write_ne_structural hmetadata rules now fault)
        | unbounded fault => simp

/-- The gate for documents ends in the gate for designs. -/
theorem isSome_metadata_of_emittableOfFields {fields : Fields} {d : Design}
    (h : Design.emittableOfFields fields = .ok d) : d.metadata.isSome = true := by
  unfold Design.emittableOfFields at h
  split at h
  · cases h
  · obtain ⟨d', -, hgate⟩ := bind_eq_ok_iff.mp h
    cases Design.eq_of_checkEmittable hgate
    exact Design.isSome_metadata_of_checkEmittable hgate

/-- **When there is a script.** The emission of a design, and that of a document, gives a script if
its gate accepts and each integer in the design is in range. It has a structural fault just if the
gate has that fault. And a design that the gate accepts gives a fault that is not structural just if
it has an integer out of range: a default value, or a value of a family type. -/
theorem emit_refuses (rules : List Rule) (now : Instant) :
    (∀ d, Refuses (Design.checkEmittable d) (emit rules d now)) ∧
      ∀ fields, Refuses (Design.emittableOfFields fields) (emitFields rules fields now) := by
  refine ⟨fun d => refuses_of_gate ?_ rules now, fun fields => refuses_of_gate ?_ rules now⟩
  · intro d' h
    cases Design.eq_of_checkEmittable h
    exact Design.isSome_metadata_of_checkEmittable h
  · intro d h
    exact isSome_metadata_of_emittableOfFields h

/-- A document with an integer parameter of an infinite default. -/
def infiniteDefault : Fields := [
  ("familyMetadata", .object [("lodLevel", .int 300)]),
  ("geometryDefinition", .object []),
  ("parameters", .object [("familyParameters", .array [.object [
    ("name", .text "N"), ("type", .text "Integer"), ("defaultValue", .text "inf")]])])]

/-- An integer parameter whose default is unbounded makes a design unbounded. -/
theorem not_bounded_of_default {d : Design} {p : Parameter} (hp : p ∈ d.parameters)
    (hinteger : ValueType.ofName? p.type = some .integer) (hvalue : isUnbounded p.default = true) :
    ¬Bounded d :=
  fun h => h.defaults p hp ⟨hinteger, hvalue⟩

/-- Its gate accepts it, and it gives a fault that is not structural. -/
theorem emit_refuses_infinite :
    (∃ d, Design.emittableOfFields infiniteDefault = .ok d) ∧
      ∀ rules now, ∃ fault, emitFields rules infiniteDefault now = .error (.unbounded fault) ∧
        fault.isRange = true := by
  have hsome : (Design.emittableOfFields infiniteDefault).toOption.any (fun d =>
      d.parameters.any fun p => ValueType.ofName? p.type = some .integer && isUnbounded p.default)
        = true := by
    decide +kernel
  cases hgate : Design.emittableOfFields infiniteDefault with
  | error fault =>
    rw [hgate] at hsome
    cases hsome
  | ok d =>
    rw [hgate] at hsome
    obtain ⟨p, hp, hout⟩ := List.any_eq_true.mp hsome
    rw [Bool.and_eq_true, decide_eq_true_iff] at hout
    -- The gate accepts the default, since it does not look at its range.
    refine ⟨⟨d, rfl⟩, ?_⟩
    intro rules now
    have hrefuses := (emit_refuses rules now).2 infiniteDefault
    obtain ⟨fault, hfault⟩ :=
      hrefuses.unbounded.mpr ⟨d, hgate, not_bounded_of_default hp hout.1 hout.2⟩
    exact ⟨fault, hfault, hrefuses.range fault hfault⟩

end FamilyDesign.Script
