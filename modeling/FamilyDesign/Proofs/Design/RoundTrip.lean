import FamilyDesign.Design.Structure
import FamilyDesign.Design.Written
import FamilyDesign.Json.Writer
import FamilyDesign.Proofs.Design.Reloading

/-!
# The way of a design out and back

A design goes out in its wire form, to be stored or to be shown to an assistant, and comes back from
it, from a document or from the middle of a reply. It comes back as it was, in all fields and with
all that it keeps, unless a key in it holds half of a surrogate pair or a value of no declared kind
nests too deep.

* **`portable_untyped`** — in a design without such keys and numbers, the values of no declared kind
  are without them.
* **`IsComplete`** — what a design must have to come back from a reply.
* **`reloads`** — the headline.
* **`reloads_not`** — a half in a key of a value of no declared kind keeps the design from going
  out, and so does a value that nests too deep; a half in a name that a type binds is lost on the
  way.
-/

namespace FamilyDesign

open Document

/-! ## Values of no declared kind -/

section Untyped

variable {α : Type} {write : α → Json} {values : α → List Json}

/-- The values of extra fields. -/
theorem portable_valuesOf {extras : Fields} (h : ∀ e ∈ extras, e.2.Portable) :
    ∀ v ∈ valuesOf extras, v.Portable :=
  List.forall_mem_map.mpr h

/-- Those of the items of a list, if what is written of an item tells of them. -/
theorem portable_flatMap (hvalues : ∀ x, (write x).Portable → ∀ v ∈ values x, v.Portable)
    {items : List α} (h : (writeList write items).Portable) :
    ∀ v ∈ items.flatMap values, v.Portable := by
  intro v hv
  obtain ⟨x, hx, hv⟩ := List.mem_flatMap.mp hv
  exact hvalues x (portable_list h x hx) v hv

/-- Those of what may be absent. -/
theorem portable_toList (hvalues : ∀ x, (write x).Portable → ∀ v ∈ values x, v.Portable)
    {o : Option α} (h : (optional write o).Portable) :
    ∀ v ∈ o.toList.flatMap values, v.Portable := by
  intro v hv
  obtain ⟨x, hx, hv⟩ := List.mem_flatMap.mp hv
  exact hvalues x (portable_optional h x (Option.mem_toList.mp hx)) v hv

/-- Those of a record that has no others than its extra fields. -/
theorem portable_extras {declared extras : Fields}
    (h : (Json.object (declared ++ writeExtras .asIs extras)).Portable) :
    ∀ v ∈ valuesOf extras, v.Portable :=
  portable_valuesOf (portable_parts h).2

end Untyped

/-- Whatever kinds an extrusion declares, the values outside them are portable if it is. -/
theorem Extrusion.portable_untyped (e : Extrusion) (h : (e.write .asIs).Portable) :
    ∀ v ∈ e.untyped, v.Portable := by
  obtain ⟨hdeclared, hextras⟩ := portable_parts h
  unfold untyped
  rw [List.forall_mem_append, List.forall_mem_append, List.forall_mem_append]
  refine ⟨⟨⟨?_, ?_⟩, ?_⟩, portable_valuesOf hextras⟩
  · exact portable_flatMap (fun _ => portable_extras) (hdeclared 1 _ rfl)
  · exact portable_extras (hdeclared 2 _ rfl)
  · exact portable_extras (hdeclared 3 _ rfl)

/-- So are those of a plane and its points. -/
theorem ReferencePlane.portable_untyped (p : ReferencePlane) (h : (p.write .asIs).Portable) :
    ∀ v ∈ p.untyped, v.Portable := by
  obtain ⟨hdeclared, hextras⟩ := portable_parts h
  unfold untyped
  rw [List.forall_mem_append, List.forall_mem_append]
  refine ⟨⟨?_, ?_⟩, portable_valuesOf hextras⟩
  · exact portable_extras (hdeclared 1 _ rfl)
  · exact portable_extras (hdeclared 2 _ rfl)

/-- So are those of the geometry, the lists of no declared kind among them. -/
theorem Geometry.portable_untyped (g : Geometry) (h : (g.write .asIs).Portable) :
    ∀ v ∈ g.untyped, v.Portable := by
  obtain ⟨hdeclared, hextras⟩ := portable_parts h
  unfold untyped
  rw [List.forall_mem_append, List.forall_mem_append, List.forall_mem_append,
    List.forall_mem_append, List.forall_mem_append, List.forall_mem_append]
  refine ⟨⟨⟨⟨⟨⟨?_, ?_⟩, ?_⟩, ?_⟩, ?_⟩, ?_⟩, portable_valuesOf hextras⟩
  · exact portable_flatMap Extrusion.portable_untyped (hdeclared 0 _ rfl)
  · exact portable_flatMap ReferencePlane.portable_untyped (hdeclared 1 _ rfl)
  · exact portable_flatMap (fun _ => portable_extras) (hdeclared 2 _ rfl)
  · exact portable_list (hdeclared 3 _ rfl)
  · exact portable_list (hdeclared 4 _ rfl)
  · exact portable_list (hdeclared 5 _ rfl)

/-- The default of a parameter is one of its values of no declared kind. -/
theorem Parameter.portable_untyped (p : Parameter) (h : (p.write .asIs).Portable) :
    ∀ v ∈ p.untyped, v.Portable := by
  obtain ⟨hdeclared, hextras⟩ := portable_parts h
  unfold untyped
  rw [List.forall_mem_cons]
  exact ⟨hdeclared 4 _ rfl, portable_valuesOf hextras⟩

/-- So are the values that a type binds. -/
theorem FamilyType.portable_untyped (t : FamilyType) (h : (t.write .asIs).Portable) :
    ∀ v ∈ t.untyped, v.Portable := by
  obtain ⟨hdeclared, hextras⟩ := portable_parts h
  have hbindings : (Json.object t.bindings).Portable := hdeclared 1 _ rfl
  unfold untyped
  rw [List.forall_mem_append]
  exact ⟨portable_valuesOf fun e he => (hbindings.of_field he).2, portable_valuesOf hextras⟩

theorem ParameterSet.portable_untyped (s : ParameterSet) (h : (s.write .asIs).Portable) :
    ∀ v ∈ s.untyped, v.Portable := by
  obtain ⟨hdeclared, hextras⟩ := portable_parts h
  unfold untyped
  rw [List.forall_mem_append, List.forall_mem_append, List.forall_mem_append]
  refine ⟨⟨⟨?_, ?_⟩, ?_⟩, portable_valuesOf hextras⟩
  · exact portable_flatMap Parameter.portable_untyped (hdeclared 0 _ rfl)
  · exact portable_list (hdeclared 1 _ rfl)
  · exact portable_flatMap FamilyType.portable_untyped (hdeclared 2 _ rfl)

/-- The values of no declared kind in a design are as the design. -/
theorem Design.portable_untyped {d : Design} (h : d.full.Portable) :
    ∀ v ∈ d.untyped, v.Portable := by
  obtain ⟨hdeclared, hextras⟩ := portable_parts h
  unfold untyped
  rw [List.forall_mem_append, List.forall_mem_append, List.forall_mem_append,
    List.forall_mem_append, List.forall_mem_append, List.forall_mem_append]
  refine ⟨⟨⟨⟨⟨⟨?_, ?_⟩, ?_⟩, ?_⟩, ?_⟩, ?_⟩, portable_valuesOf hextras⟩
  · exact portable_toList (fun _ => portable_extras) (hdeclared 0 _ rfl)
  · exact portable_toList Geometry.portable_untyped (hdeclared 1 _ rfl)
  · exact portable_toList ParameterSet.portable_untyped (hdeclared 2 _ rfl)
  · exact portable_flatMap (fun _ => portable_extras) (hdeclared 3 _ rfl)
  · exact portable_list (hdeclared 4 _ rfl)
  · exact portable_toList (fun _ => portable_extras) (hdeclared 5 _ rfl)

/-! ## Replies -/

/-- What is dropped at the end is what follows the last item that stays. -/
theorem dropRightWhile_append_cons {α : Type} {p : α → Bool} {xs ys : List α} {y : α}
    (hy : p y = false) (hys : ∀ x ∈ ys, p x = true) :
    Text.dropRightWhile p (xs ++ y :: ys) = xs ++ [y] := by
  have hall : ∀ x ∈ ys.reverse, p x = true := fun x hx => hys x (List.mem_reverse.mp hx)
  unfold Text.dropRightWhile
  rw [List.reverse_append, List.reverse_cons, List.append_assoc,
    List.dropWhile_append_of_pos hall, List.singleton_append,
    List.dropWhile_cons_of_neg (by rw [hy]; exact Bool.false_ne_true), List.reverse_cons,
    List.reverse_reverse]

namespace Design

/-- The object is found between a text without an opening brace and one without a closing brace. -/
theorem objectSpan?_eq {before inner after : List CodePoint} (hbefore : .char '\x7b' ∉ before)
    (hafter : .char '\x7d' ∉ after) :
    objectSpan? (before ++ (.char '\x7b' :: (inner ++ [.char '\x7d'])) ++ after)
      = some (.char '\x7b' :: (inner ++ [.char '\x7d'])) := by
  have hopening : ∀ c ∈ before, (c != .char '\x7b') = true := by
    intro c hc
    refine bne_iff_ne.mpr ?_
    rintro rfl
    exact hbefore hc
  have hclosing : ∀ c ∈ after, (c != .char '\x7d') = true := by
    intro c hc
    refine bne_iff_ne.mpr ?_
    rintro rfl
    exact hafter hc
  have hfrom : (before ++ (CodePoint.char '\x7b' :: (inner ++ [CodePoint.char '\x7d']))
      ++ after).dropWhile (fun c : CodePoint => c != '\x7b')
        = (CodePoint.char '\x7b' :: inner) ++ CodePoint.char '\x7d' :: after := by
    rw [List.append_assoc, List.dropWhile_append_of_pos hopening]
    simp
  have hspan : Text.dropRightWhile (fun c : CodePoint => c != '\x7d')
      ((CodePoint.char '\x7b' :: inner) ++ CodePoint.char '\x7d' :: after)
        = .char '\x7b' :: (inner ++ [.char '\x7d']) :=
    dropRightWhile_append_cons (bne_self_eq_false _) hclosing
  -- between the first opening and the last closing brace there is the object
  unfold objectSpan?
  dsimp only
  rw [hfrom, hspan, if_neg]
  rw [List.length_cons, List.length_append, List.length_singleton]
  omega

/-- A reply that holds an object, as a text that is read as it, between two such texts. -/
theorem objectOfReply_eq {fields : Fields}
    (hread : Json.read (Json.object fields).compact = .ok (.object fields)) {before after : Text}
    (hbefore : .char '\x7b' ∉ before.toList) (hafter : .char '\x7d' ∉ after.toList) :
    objectOfReply (some (before ++ (Json.object fields).compact ++ after)) = .ok fields := by
  obtain ⟨inner, hinner⟩ : ∃ inner : List CodePoint,
      (Json.object fields).compact.toList = .char '\x7b' :: (inner ++ [.char '\x7d']) := by
    rw [Json.compact]
    exact ⟨(Text.joinWith ", " (Json.compactFields fields)).toList, rfl⟩
  have hspan : objectSpan? (before ++ (Json.object fields).compact ++ after).toList
      = some (Json.object fields).compact.toList := by
    rw [Text.toList_append, Text.toList_append, hinner]
    exact objectSpan?_eq hbefore hafter
  have hchars : Json.readChars (Json.object fields).compact.toList = .ok (.object fields) := hread
  -- of the three cases only the one with a span is left
  unfold objectOfReply
  split
  · next heq => cases heq
  · next heq =>
    rw [Option.some.inj heq] at hspan
    cases hspan
  · next s _ heq =>
    rw [← Option.some.inj heq, hspan]
    dsimp only
    rw [hchars]

/-! ## The gate -/

/-- A design with all sections, a name, a category and a level of detail in range. -/
structure IsComplete (d : Design) : Prop where
  metadata : d.metadata.isSome = true
  geometry : d.geometry.isSome = true
  parameterSet : d.parameterSet.isSome = true
  visibility : d.visibility.isSome = true
  named : d.familyName.isEmpty = false
  placed : d.category.isEmpty = false
  detailed : ∃ lod, d.lod = some lod ∧ lodInRange lod = true

/-- What the gate looks for is found in metadata that are written. -/
theorem lookup_write {m : Metadata} (h : m.Loaded) (hportable : (m.write .asIs).Portable) :
    ∃ fields : Fields, m.write .portable = .object fields ∧
      fields.lookup "familyName" = some (.text m.familyName) ∧
      fields.lookup "category" = some (.text m.category) ∧
      fields.lookup "lodLevel" = some (optional .int m.lod) := by
  have hnodup := Metadata.nodup_names
  unfold Metadata.write
  rw [writeExtras_eq (portable_parts hportable).2]
  refine ⟨_, rfl, ?_, ?_, ?_⟩
  · exact h.kept.lookup_eq hnodup rfl (List.mem_of_getElem? (i := 0) rfl)
  · exact h.kept.lookup_eq hnodup rfl (List.mem_of_getElem? (i := 1) rfl)
  · exact h.kept.lookup_eq hnodup rfl (List.mem_of_getElem? (i := 3) rfl)

/-- Metadata that are written pass with their name, their category and their level of detail. -/
theorem checkMetadata_write {m : Metadata} (h : m.Loaded) (hportable : (m.write .asIs).Portable)
    (hnamed : m.familyName.isEmpty = false) (hplaced : m.category.isEmpty = false) {lod : Int}
    (hlod : m.lod = some lod) (hrange : lodInRange lod = true) :
    checkMetadata (m.write .portable) = .ok () := by
  obtain ⟨fields, hfields, hname, hcategory, hlevel⟩ := lookup_write h hportable
  have hnames : hasNames fields = true := by
    unfold hasNames
    rw [hname, hcategory]
    show (!m.familyName.isEmpty && !m.category.isEmpty) = true
    rw [hnamed, hplaced]
    rfl
  have hchecked : checkedLod fields = .ok lod := by
    unfold checkedLod
    rw [hlevel, hlod]
    rfl
  rw [hfields]
  unfold checkMetadata
  dsimp only
  rw [hnames, if_pos rfl]
  exact bind_eq_ok_iff.mpr ⟨lod, hchecked, if_pos hrange⟩

/-- The sections of a design that is written are found. -/
theorem lookup_writeFields {d : Design} (h : d.Loaded) (hportable : d.full.Portable) :
    (d.writeFields .portable : Fields).lookup "familyMetadata"
        = some (optional (Metadata.write .portable) d.metadata) ∧
      (d.writeFields .portable : Fields).lookup "geometryDefinition"
        = some (optional (Geometry.write .portable) d.geometry) ∧
      (d.writeFields .portable : Fields).lookup "parameters"
        = some (optional (ParameterSet.write .portable) d.parameterSet) ∧
      (d.writeFields .portable : Fields).lookup "materials"
        = some (writeList (MaterialSlot.write .portable) d.materials) ∧
      (d.writeFields .portable : Fields).lookup "visibilitySettings"
        = some (optional (Visibility.write .portable) d.visibility) := by
  have hnodup := nodup_names
  unfold writeFields
  rw [writeExtras_eq (portable_parts hportable).2]
  refine ⟨?_, ?_, ?_, ?_, ?_⟩
  · exact h.kept.lookup_eq hnodup rfl (List.mem_of_getElem? (i := 0) rfl)
  · exact h.kept.lookup_eq hnodup rfl (List.mem_of_getElem? (i := 1) rfl)
  · exact h.kept.lookup_eq hnodup rfl (List.mem_of_getElem? (i := 2) rfl)
  · exact h.kept.lookup_eq hnodup rfl (List.mem_of_getElem? (i := 3) rfl)
  · exact h.kept.lookup_eq hnodup rfl (List.mem_of_getElem? (i := 5) rfl)

/-- A field counts if it is there and not null. -/
theorem field?_eq {fields : Fields} {key : Text} {v : Json} (h : fields.lookup key = some v)
    (hv : v ≠ .null) : (Json.object fields).field? key = some v := by
  show (Entries.lookup fields key).bind Json.present? = some v
  rw [h, Option.bind_some]
  cases v with
  | null => exact absurd rfl hv
  | _ => rfl

/-- A complete design passes the gate for documents. -/
theorem checkStructure_writeFields {d : Design} (h : d.Loaded) (hportable : d.full.Portable)
    (hcomplete : d.IsComplete) : checkStructure (d.writeFields .portable) = .ok () := by
  obtain ⟨hmetadata, hgeometry, hset, hmaterials, hvisibility⟩ := lookup_writeFields h hportable
  obtain ⟨m, hm⟩ := Option.isSome_iff_exists.mp hcomplete.metadata
  obtain ⟨g, hg⟩ := Option.isSome_iff_exists.mp hcomplete.geometry
  obtain ⟨s, hs⟩ := Option.isSome_iff_exists.mp hcomplete.parameterSet
  obtain ⟨v, hv⟩ := Option.isSome_iff_exists.mp hcomplete.visibility
  obtain ⟨lod, hlod, hrange⟩ := hcomplete.detailed
  have hnamed := hcomplete.named
  have hplaced := hcomplete.placed
  rw [hm] at hmetadata
  rw [hg] at hgeometry
  rw [hs] at hset
  rw [hv] at hvisibility
  unfold familyName at hnamed
  unfold category at hplaced
  unfold Design.lod at hlod
  rw [hm] at hnamed hplaced hlod
  -- none of the five sections is missing, nor null
  have hmissing : missingSection? requiredSections (d.writeFields .portable) = none := by
    unfold missingSection? requiredSections
    rw [List.find?_eq_none, List.forall_mem_cons, List.forall_mem_cons, List.forall_mem_cons,
      List.forall_mem_cons, List.forall_mem_singleton, field?_eq hmetadata Json.noConfusion,
      field?_eq hgeometry Json.noConfusion, field?_eq hset Json.noConfusion,
      field?_eq hmaterials Json.noConfusion, field?_eq hvisibility Json.noConfusion]
    exact ⟨Bool.false_ne_true, Bool.false_ne_true, Bool.false_ne_true, Bool.false_ne_true,
      Bool.false_ne_true⟩
  unfold checkStructure
  rw [hmissing]
  dsimp only
  rw [hmetadata]
  have hportable' : (m.write .asIs).Portable :=
    portable_optional ((portable_parts hportable).1 0 _ rfl) m hm
  exact checkMetadata_write (h.metadata m hm) hportable' hnamed hplaced hlod hrange

/-! ## Out and back -/

/-- A design without such keys goes out, if its values of no declared kind have few levels. -/
theorem written_eq_wire {d : Design} (hportable : d.full.Portable)
    (hlevels : ∀ v ∈ d.untyped, v.levels ≤ Json.mostLevels) : d.written = .ok d.wire := by
  rw [written_eq_ok_iff]
  intro v hv
  exact Json.exceeds?_eq_none_iff.mpr ⟨hlevels v hv, (portable_untyped hportable v hv).whole⟩

/-- **A design comes back as it was.** -/
theorem reloads {fields : Fields} {d : Design} (hkeys : (Json.object fields).KeysDiffer)
    (hload : load fields = .valid d) (hfinite : d.full.AllFinite) (hwhole : d.full.KeysWhole)
    (hlevels : ∀ v ∈ d.untyped, v.levels ≤ Json.mostLevels) :
    ∃ out, d.written = .ok (.object out) ∧ ofFields out = .ok d ∧
      (d.IsComplete → Json.read (Json.object out).compact = .ok (.object out) →
        ∀ before after : Text, .char '\x7b' ∉ before.toList → .char '\x7d' ∉ after.toList →
          ofReply (some (before ++ (Json.object out).compact ++ after)) = .ok d) := by
  have hloaded : d.Loaded := gives_load fields hkeys d hload
  have hportable : d.full.Portable := ⟨hfinite, hwhole⟩
  have hback : ofFields (d.writeFields .portable) = .ok d := by
    unfold ofFields
    rw [load_writeFields hloaded hportable]
  refine ⟨d.writeFields .portable, written_eq_wire hportable hlevels, hback, ?_⟩
  intro hcomplete hread before after hbefore hafter
  refine bind_eq_ok_iff.mpr ⟨_, objectOfReply_eq hread hbefore hafter, ?_⟩
  exact bind_eq_ok_iff.mpr ⟨(), checkStructure_writeFields hloaded hportable hcomplete, hback⟩

/-- A document with both names of a field, a level of detail in words and fields of its own. -/
def mixedFields : Fields := [
  ("family_metadata", .object [("family_name", .text "b"), ("familyName", .text "a"),
    ("category", .text "Doors"), ("lod_level", .text " 300 ")]),
  ("geometryDefinition", .object [("note", .int 2)]), ("parameters", .object []),
  ("visibility_settings", .object [])]

/-- The design that it describes. -/
def mixedDesign : Design where
  metadata := some {
    familyName := "a", category := "Doors", lod := some 300
    extras := [("family_name", .text "b")] }
  geometry := some { extras := [("note", .int 2)] }
  parameterSet := some {}
  visibility := some {}

theorem isComplete_mixedDesign : mixedDesign.IsComplete where
  metadata := rfl
  geometry := rfl
  parameterSet := rfl
  visibility := rfl
  named := rfl
  placed := rfl
  detailed := ⟨300, rfl, rfl⟩

set_option maxRecDepth 2000 in
/-- Its text is read as what was written. -/
theorem read_compact_mixedDesign :
    Json.read (Json.object (mixedDesign.writeFields .portable)).compact
      = .ok (.object (mixedDesign.writeFields .portable)) := by
  rfl

/-- It comes back from the middle of a reply. -/
theorem reloads_mixedDesign :
    load mixedFields = .valid mixedDesign ∧ ∃ out, mixedDesign.written = .ok (.object out) ∧
      ofFields out = .ok mixedDesign ∧
      ofReply (some ("Here it is: " ++ (Json.object out).compact ++ " Done."))
        = .ok mixedDesign := by
  have hload : load mixedFields = .valid mixedDesign := rfl
  have hkeys : (Json.object mixedFields).KeysDiffer := by
    simp only [mixedFields, Json.KeysDiffer, Json.FieldsKeysDiffer, List.map_cons, List.map_nil]
    decide +kernel
  have hfinite : mixedDesign.full.AllFinite := by
    decide +kernel
  have hwhole : mixedDesign.full.KeysWhole := by
    decide +kernel
  have hlevels : ∀ v ∈ mixedDesign.untyped, v.levels ≤ Json.mostLevels := by
    -- two fields have no names, and their values are on one level
    show ∀ v ∈ ([.text "b", .int 2] : List Json), v.levels ≤ Json.mostLevels
    rw [List.forall_mem_cons, List.forall_mem_singleton]
    decide +kernel
  obtain ⟨out, hwritten, hback, hreply⟩ := reloads hkeys hload hfinite hwhole hlevels
  refine ⟨hload, out, hwritten, hback, ?_⟩
  have hout : out = mixedDesign.writeFields .portable := by
    cases hwritten.symm.trans (written_eq_wire ⟨hfinite, hwhole⟩ hlevels)
    rfl
  refine hreply isComplete_mixedDesign ?_ "Here it is: " " Done." ?_ ?_
  · rw [hout]
    exact read_compact_mixedDesign
  · decide +kernel
  · decide +kernel

/-! ### What does not come back -/

/-- A text that is half of a surrogate pair. -/
def halfText : Text := Text.ofList [.half 0]

/-- An object whose key is half of a surrogate pair. -/
def halfKeyed : Json := .object [(halfText, .int 1)]

/-- A number in so many arrays. -/
def nested : Nat → Json
  | 0 => .int 1
  | depth + 1 => .array [nested depth]

/-- A document of nested families. -/
def nestedFields (families : List Json) : Fields := [(nestedFamiliesName.wire, .array families)]

/-- A document with a type that binds a name. -/
def bindingFields (name : Text) : Fields :=
  [(parametersName.wire, .object [(ParameterSet.typesName.wire,
    .array [.object [(FamilyType.bindingsName.wire, .object [(name, .int 1)])]])])]

/-- The design that it describes. -/
def bindingDesign (name : Text) : Design where
  parameterSet := some { types := [{ bindings := [(name, .int 1)] }] }

/-- A number in too many arrays exceeds the limit on levels. Induction on the arrays. -/
theorem exceeds?_nested {depth room : Nat} (h : room ≤ depth) :
    (nested depth).exceeds? room = some .levelsWritten := by
  induction depth generalizing room with
  | zero =>
    rw [Nat.le_zero.mp h]
    rfl
  | succ depth ih =>
    cases room with
    | zero => rfl
    | succ room =>
      rw [nested, Json.exceeds?, Json.itemsExceed?, ih (Nat.le_of_succ_le_succ h)]
      rfl

/-- A nested family that exceeds a limit keeps its design from going out. -/
theorem written_nested {v : Json} {limit : Limit} (h : v.exceeds? Json.mostLevels = some limit) :
    written { nestedFamilies := [v] } = .error limit := by
  refine (Json.within_eq_error_iff _ _ limit).mpr ?_
  show [v].findSome? (·.exceeds? Json.mostLevels) = some limit
  rw [List.findSome?_cons, h]

/-- **Three designs that do not come back.** All their numbers are finite; but two do not go out,
the one for the half in a key and the other for its levels, and one comes back with another name
bound. -/
theorem reloads_not :
    (∃ d, load (nestedFields [halfKeyed]) = .valid d ∧ d.full.AllFinite ∧
      d.written = .error (.keyWritten ⟨0, [.half 0]⟩)) ∧
    (∃ d, load (nestedFields [nested 255]) = .valid d ∧ d.full.AllFinite ∧
      d.written = .error .levelsWritten) ∧
    ∃ d out d', load (bindingFields halfText) = .valid d ∧ d.full.AllFinite ∧
      d.written = .ok (.object out) ∧ load out = .valid d' ∧ d'.same d = false := by
  refine ⟨⟨{ nestedFamilies := [halfKeyed] }, rfl, ?_, written_nested rfl⟩,
    ⟨{ nestedFamilies := [nested 255] }, rfl, ?_, written_nested (exceeds?_nested le_rfl)⟩,
    ⟨bindingDesign halfText, _, bindingDesign "\uFFFD\uFFFD\uFFFD", rfl, ?_, rfl, rfl, ?_⟩⟩
  · decide +kernel
  · decide +kernel
  · decide +kernel
  · decide +kernel

end Design

end FamilyDesign
