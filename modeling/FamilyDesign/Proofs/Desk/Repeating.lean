import FamilyDesign.Proofs.Desk.Remaking

/-!
# Refining twice

A desk without an assistant makes all its designs of briefs, and it recognises them: what it refines
is made anew of the brief that is read back with the text read on top. A text that is read a second
time changes nothing that it did not change the first time. Only the style of a window might, since
it is read back out of the name of the family; but a text tells none that the name does not keep.

* **`Brief.Told`** — a brief that texts have made, and `Brief.told_ofText`, that another text keeps
  it one.
* **`Brief.toDesign_ofText_again`** — the text read again makes the same design.
* **`Desk.Reached`** — the desks that requests for designs lead to; `Desk.Reached.allTold` says what
  their sessions hold.
* **`Desk.refine_again`** — the second refinement makes the design of the first.
-/

namespace FamilyDesign

open Numeric (Binary64)

/-! ## Briefs that texts have made -/

namespace Brief

/-- A brief that texts have made: its lengths are unsigned, its category is one of the four and its
style one of those that windows are known by. -/
structure Told (b : Brief) : Prop where
  unsigned : ∀ dim, (b.dimension dim).Unsigned
  category_mem : b.category ∈ categories
  style_mem : b.windowStyle ∈ windowStyles

/-- The style of a text is always one of those that there are words for. -/
theorem windowStyleOf_mem (text : Text) : windowStyleOf text ∈ windowStyles := by
  unfold windowStyleOf
  split
  · decide
  · split
    · decide
    · decide

/-- The brief that a reading starts from is one that texts make. -/
theorem told_default : Told {} where
  unsigned := sound_default.unsigned
  category_mem := sound_default.category_mem
  style_mem := by decide

namespace Told

variable {b : Brief} (h : b.Told)
include h

/-- A brief that texts have made has a category. -/
theorem isEmpty_category : b.category.isEmpty = false := by
  have hall : ∀ category ∈ categories, category.isEmpty = false := by
    decide
  exact hall _ h.category_mem

/-- The style that a name tells is one of those that there are words for. -/
theorem restyled : b.restyled.Told where
  unsigned dim := by
    cases dim with
    | width => exact h.unsigned .width
    | height => exact h.unsigned .height
    | sillHeight => exact h.unsigned .sillHeight
    | inset => exact h.unsigned .inset
  category_mem := h.category_mem
  style_mem := windowStyleOf_mem _

end Told

/-- The style shows in nothing but the name of the family, and there only for a window. -/
theorem toDesign_of_not_windows {b : Brief} (h : b.category ≠ "Windows") (style : Text) :
    ({ b with windowStyle := style } : Brief).toDesign = b.toDesign := by
  have hlabel : ({ b with windowStyle := style } : Brief).familyLabel = b.familyLabel := by
    unfold familyLabel
    rw [if_neg h, if_neg h]
  have hmetadata : ({ b with windowStyle := style } : Brief).metadata = b.metadata := by
    unfold metadata
    rw [hlabel]
    rfl
  unfold toDesign
  rw [hmetadata]
  rfl

end Brief

/-! ## A text that is read again -/

namespace Reading

/-- The length that is bound to a dimension, or else the one before. -/
def boundOr (bindings : List (Dimension × Prompt.Binding)) (dim : Dimension) (x : Binary64) :
    Binary64 :=
  ((bindings.lookup dim).map fun b => (lengthOf b.quantity).1).getD x

/-- What is bound replaces the lengths, and nothing else of the brief changes. -/
theorem brief_dimensions (bindings : List (Dimension × Prompt.Binding)) (r : Reading) :
    (dimensions bindings r).brief = { r.brief with
      width := boundOr bindings .width r.brief.width
      height := boundOr bindings .height r.brief.height
      sillHeight := boundOr bindings .sillHeight r.brief.sillHeight
      inset := boundOr bindings .inset r.brief.inset } := by
  show (dimensions bindings r).brief = Dimension.all.foldl (fun (b : Brief) dim =>
    b.withDimension dim (boundOr bindings dim (b.dimension dim))) r.brief
  unfold dimensions
  refine (List.foldl_hom Reading.brief ?_).symm
  intro r dim
  unfold boundOr
  cases bindings.lookup dim with
  | none => cases dim <;> rfl
  | some b => rfl

/-- What is said of a text does not depend on the brief that it is read on top of. -/
theorem said_dimensions (bindings : List (Dimension × Prompt.Binding)) (b b' : Brief) :
    (dimensions bindings { brief := b }).matched = (dimensions bindings { brief := b' }).matched ∧
      (dimensions bindings { brief := b }).warnings
        = (dimensions bindings { brief := b' }).warnings := by
  have hsaid : ∀ r : Reading, ((dimensions bindings r).matched, (dimensions bindings r).warnings)
      = Dimension.all.foldl (fun said dim => (bindings.lookup dim).elim said fun b =>
          (said.1 ++ [(dim, b.label)], said.2 ++ (lengthOf b.quantity).2))
        (r.matched, r.warnings) := by
    intro r
    unfold dimensions
    refine (List.foldl_hom (fun r : Reading => (r.matched, r.warnings)) ?_).symm
    intro r dim
    cases bindings.lookup dim <;> rfl
  exact Prod.mk.inj ((hsaid { brief := b }).trans (hsaid { brief := b' }).symm)

/-- A length that a text binds is bound to the same when it is read again. -/
theorem boundOr_boundOr (bindings : List (Dimension × Prompt.Binding)) (dim : Dimension)
    (x : Binary64) : boundOr bindings dim (boundOr bindings dim x) = boundOr bindings dim x := by
  unfold boundOr
  cases bindings.lookup dim <;> rfl

/-- What a text makes of a brief: each length that is bound in it, and then its words. -/
theorem brief_ofText (text : Text) (base : Option Brief) :
    (ofText text base).brief = words text base.isNone { base.getD {} with
      width := boundOr (Prompt.bindings text) .width (base.getD {}).width
      height := boundOr (Prompt.bindings text) .height (base.getD {}).height
      sillHeight := boundOr (Prompt.bindings text) .sillHeight (base.getD {}).sillHeight
      inset := boundOr (Prompt.bindings text) .inset (base.getD {}).inset } :=
  congrArg (words text base.isNone) (brief_dimensions _ _)

/-- What a text binds has no sign, and what it does not bind stays. -/
theorem unsigned_boundOr (text : Text) (dim : Dimension) {x : Binary64} (hx : x.Unsigned) :
    (boundOr (Prompt.bindings text) dim x).Unsigned := by
  unfold boundOr
  cases hbound : (Prompt.bindings text).lookup dim with
  | none => exact hx
  | some b => exact unsigned_lengthOf hbound

/-- **Another text keeps a brief one that texts have made.** -/
theorem told_ofText (text : Text) {base : Option Brief} (h : ∀ b ∈ base, b.Told) :
    (ofText text base).brief.Told := by
  have hbase : (base.getD {}).Told := by
    cases base with
    | none => exact Brief.told_default
    | some b => exact h b rfl
  -- lengths, category and style are bound one by one
  rw [brief_ofText]
  refine ⟨?_, ?_, ?_⟩
  · intro dim
    cases dim with
    | width => exact unsigned_boundOr text .width (hbase.unsigned .width)
    | height => exact unsigned_boundOr text .height (hbase.unsigned .height)
    | sillHeight => exact unsigned_boundOr text .sillHeight (hbase.unsigned .sillHeight)
    | inset => exact unsigned_boundOr text .inset (hbase.unsigned .inset)
  · unfold words
    dsimp only
    split
    · exact Brief.categoryOf_mem text
    · exact hbase.category_mem
  · unfold words
    dsimp only
    split
    · exact Brief.windowStyleOf_mem text
    · exact hbase.style_mem

/-- Whether a text has a word for a style of windows. -/
def namesStyle (text : Text) : Bool := mentions text ["sliding", "fixed", "double"]

/-- A text that is read again changes no more than the style. -/
theorem brief_ofText_again (text : Text) (b : Brief) (style : Text) :
    (ofText text (some { (ofText text (some b)).brief with windowStyle := style })).brief
      = { (ofText text (some b)).brief with
          windowStyle := if namesStyle text then windowStyleOf text else style } := by
  have hcategory : (if categoryOf text ≠ genericCategory ∨ false = true then categoryOf text
      else if categoryOf text ≠ genericCategory ∨ false = true then categoryOf text
        else b.category)
      = if categoryOf text ≠ genericCategory ∨ false = true then categoryOf text
        else b.category := by
    split
    · rfl
    · rfl
  have hglass : (glassOf? text).getD ((glassOf? text).getD b.glass)
      = (glassOf? text).getD b.glass := by
    cases glassOf? text <;> rfl
  have hsash : (sashOf? text).getD ((sashOf? text).getD b.sash)
      = (sashOf? text).getD b.sash := by
    cases sashOf? text <;> rfl
  have hlength := boundOr_boundOr (Prompt.bindings text)
  rw [brief_ofText, brief_ofText]
  exact (Brief.mk.injEq ..).mpr ⟨hlength .width b.width, hlength .height b.height,
    hlength .sillHeight b.sillHeight, hlength .inset b.inset, hcategory, rfl, hglass, hsash⟩

end Reading

namespace Brief

/-- **A text that is read again makes the same design**, on top of the brief that is read back. -/
theorem toDesign_ofText_again {b : Brief} (h : b.Told) (text : Text) :
    (Reading.ofText text (some (Reading.ofText text (some b)).brief.restyled)).brief.toDesign
      = (Reading.ofText text (some b)).brief.toDesign := by
  have htold : (Reading.ofText text (some b)).brief.Told := by
    refine Reading.told_ofText text ?_
    rintro _ ⟨rfl⟩
    exact h
  unfold restyled
  rw [Reading.brief_ofText_again]
  by_cases hwindows : (Reading.ofText text (some b)).brief.category = "Windows"
  · -- the name of a window keeps its style, which is that of the text if it names one
    have hkept := congrArg (·.windowStyle) (restyled_of_known hwindows htold.style_mem)
    have hstyle : (if Reading.namesStyle text then windowStyleOf text
        else (Reading.ofText text (some b)).brief.restyled.windowStyle)
        = (Reading.ofText text (some b)).brief.windowStyle := by
      rw [hkept]
      split
      · next hnames =>
        rw [Reading.brief_ofText]
        exact (if_pos hnames).symm
      · rfl
    exact congrArg
      (fun style => ({ (Reading.ofText text (some b)).brief with windowStyle := style }).toDesign)
      hstyle
  · -- only a window shows its style
    exact toDesign_of_not_windows hwindows _

/-- A brief that texts have made can be drawn. -/
theorem Told.drawable {b : Brief} (h : b.Told) : b.Drawable := drawable_of_unsigned h.unsigned

/-- What is said of a revision does not depend on the design. -/
theorem revisionWarnings_ofText (text : Text) (b b' : Brief) :
    Design.revisionWarnings (Reading.ofText text (some b))
      = Design.revisionWarnings (Reading.ofText text (some b')) := by
  obtain ⟨hmatched, hwarnings⟩ := Reading.said_dimensions (Prompt.bindings text) b b'
  show (Reading.dimensions (Prompt.bindings text) { brief := b }).warnings
      ++ (if (Reading.dimensions (Prompt.bindings text) { brief := b }).matched.isEmpty
        then [Design.noDimensionWarning] else []) = _
  rw [hmatched, hwarnings]
  rfl

end Brief

/-! ## Desks that requests for designs lead to -/

namespace Desk

variable {σ : Type} {tools : DeskTools σ} {desk : Desk σ}

/-- The desks that requests for new and for refined designs lead to, granted or not, each made where
those before have led. A design that is handed in to be refined is one that a session has, or has
had, on such a desk. -/
inductive Reached (tools : DeskTools σ) : Desk σ → Prop
  | start {desk : Desk σ} (h : desk.sessions = {}) : Reached tools desk
  | generate {desk : Desk σ} (h : Reached tools desk) (prompt id : Text) (context : Option Json)
      (now : Instant) : Reached tools (desk.generate tools prompt id context now).2
  | refine {desk : Desk σ} (h : Reached tools desk) (id feedback : Text) (now : Instant) :
      Reached tools (desk.refine tools id feedback none now).2
  | refineGiven {desk source : Desk σ} (h : Reached tools desk) (hsource : Reached tools source)
      {owner : Text} {given : Design} (hgiven : source.design? owner = some given)
      (id feedback : Text) (now : Instant) :
      Reached tools (desk.refine tools id feedback (some given) now).2

/-- All sessions have designs that briefs of texts have made. -/
def AllTold (desk : Desk σ) : Prop :=
  desk.AllSessions fun s => ∃ b : Brief, b.Told ∧ s.design = some b.toDesign

/-- The design of such a brief may be committed. -/
theorem AllTold.commit (hall : desk.AllTold) {b : Brief} (hb : b.Told) (id prompt : Text)
    (source : Source) (kind : TurnKind) (warnings : List Text) (now : Instant) :
    (desk.commit id prompt b.toDesign source kind warnings now).2.AllTold :=
  allSessions_keep hall ⟨b, hb, rfl⟩

/-- The design of a session is one of such a brief. -/
theorem AllTold.told (hall : desk.AllTold) {id : Text} {d : Design} (h : desk.design? id = some d) :
    ∃ b : Brief, b.Told ∧ d = b.toDesign := by
  obtain ⟨s, hs, hd⟩ := Option.bind_eq_some_iff.mp h
  obtain ⟨b, hb, hmade⟩ := (hall id s hs).2
  exact ⟨b, hb, Option.some.inj (hd.symm.trans hmade)⟩

section

variable (hassistant : tools.assistant = none) (hread : tools.read = .standard)
include hassistant hread

/-- Without an assistant the design is committed that is read in the prompt. -/
theorem AllTold.generate (hall : desk.AllTold) (prompt id : Text) (context : Option Json)
    (now : Instant) : (desk.generate tools prompt id context now).2.AllTold := by
  unfold Desk.generate
  split
  · next context _ =>
    have hgenerated : desk.generated tools (Text.strip prompt) context = (.ok none, desk) := by
      unfold generated proposal
      rw [hassistant]
      split
      · rfl
      · rfl
    unfold generateIn reading
    rw [hgenerated, hread]
    refine hall.commit (Reading.told_ofText (Text.strip prompt) ?_) id _ _ _ _ now
    nofun
  · exact hall

/-- Without an assistant the design of such a brief is made anew, with the text read on top of the
brief that is read back. -/
theorem refine_eq_commit {b : Brief} (hb : b.Told) {id : Text} {given : Option Design}
    (hgiven : given.or (desk.design? id) = some b.toDesign) (feedback : Text) (now : Instant) :
    desk.refine tools id feedback given now =
      let (draft, desk) := desk.commit id ("Refinement: " ++ feedback)
        (Reading.ofText feedback (some b.restyled)).brief.toDesign .heuristic .refinement
        (Design.revisionWarnings (Reading.ofText feedback (some b.restyled))) now
      (.ok draft, desk) := by
  have hproposal : desk.proposal tools (desk.refinementQuery id feedback b.toDesign)
      = (.ok none, desk) := by
    unfold proposal
    rw [hassistant]
  unfold refine
  rw [hgiven]
  dsimp only
  unfold refineDesign
  rw [hproposal, hread]
  dsimp only
  rw [Brief.revise_toDesign_of_read hb.drawable hb.isEmpty_category rfl]

/-- A refinement makes such a design of such a design. -/
theorem AllTold.refine (hall : desk.AllTold) {id : Text} {given : Option Design}
    (hgiven : ∀ d, given = some d → ∃ b : Brief, b.Told ∧ d = b.toDesign) (feedback : Text)
    (now : Instant) : (desk.refine tools id feedback given now).2.AllTold := by
  cases hdesign : given.or (desk.design? id) with
  | none =>
    unfold Desk.refine
    rw [hdesign]
    exact hall
  | some d =>
    obtain ⟨b, hb, rfl⟩ : ∃ b : Brief, b.Told ∧ d = b.toDesign := by
      cases given with
      | some given =>
        cases hdesign
        exact hgiven d rfl
      | none => exact hall.told hdesign
    rw [refine_eq_commit hassistant hread hb hdesign]
    refine hall.commit (Reading.told_ofText feedback ?_) id _ _ _ _ now
    rintro _ ⟨rfl⟩
    exact hb.restyled

/-- **All that requests without an assistant have made is made of texts.** Induction on the
requests. -/
theorem Reached.allTold (h : Reached tools desk) : desk.AllTold := by
  induction h with
  | start hempty => exact allSessions_of_empty hempty
  | generate _ prompt id context now ih => exact ih.generate hassistant hread prompt id context now
  | refine _ id feedback now ih =>
    refine ih.refine hassistant hread ?_ feedback now
    intro d hd
    cases hd
  | refineGiven _ _ hgiven id feedback now ih hsource =>
    refine ih.refine hassistant hread ?_ feedback now
    intro d hd
    cases hd
    exact hsource.told hgiven

/-- What a session is refined to. -/
def refinement (s : Session) (b : Brief) (feedback : Text) (now : Instant) : Draft where
  design := (Reading.ofText feedback (some b.restyled)).brief.toDesign
  source := .heuristic
  session := s.id
  kind := .refinement
  version := s.version + 1
  time := now
  warnings := Design.revisionWarnings (Reading.ofText feedback (some b.restyled))

/-- The session with its refinement. -/
def refined (s : Session) (feedback : Text) (draft : Draft) : Session :=
  (s.supersede draft.design draft.source).addTurn (draft.turn ("Refinement: " ++ feedback))

/-- One refinement of a session that has the design of a brief. -/
theorem refine_of_session {s : Session} (hs : desk.session? s.id = some s) {b : Brief}
    (hb : b.Told) (hdesign : s.design = some b.toDesign) (feedback : Text) (now : Instant) :
    desk.refine tools s.id feedback none now
      = (.ok (refinement s b feedback now),
        desk.keep (refined s feedback (refinement s b feedback now))) := by
  have hcurrent : (none : Option Design).or (desk.design? s.id) = some b.toDesign := by
    unfold design?
    rw [hs]
    exact hdesign
  rw [refine_eq_commit hassistant hread hb hcurrent]
  unfold commit
  rw [hs]
  rfl

/-- **A text that refines a design a second time changes nothing more.** Whatever requests without
an assistant have led to, the second refinement gives the design of the first; the drafts differ in
version and time, and the sessions in these and in the turn that is recorded. -/
theorem refine_again (h : Reached tools desk) {id : Text} {d : Design}
    (hdesign : desk.design? id = some d) (feedback : Text) (now later : Instant) :
    ∃ (first second : Draft) (once twice : Desk σ) (s : Session),
      desk.refine tools id feedback none now = (.ok first, once) ∧
        once.refine tools id feedback none later = (.ok second, twice) ∧
        second = { first with version := first.version + 1, time := later } ∧
        second.design.newlySame first.design = true ∧
        once.session? id = some s ∧ s.design = some first.design ∧
        twice.session? id = some
          (({ s with version := s.version + 1 } : Session).addTurn
            (second.turn ("Refinement: " ++ feedback))) := by
  obtain ⟨s, hs, hd⟩ := Option.bind_eq_some_iff.mp hdesign
  obtain ⟨hid, b, hb, hmade⟩ := h.allTold hassistant hread id s hs
  subst hid
  let revised := (Reading.ofText feedback (some b.restyled)).brief
  have hrevised : revised.Told := by
    refine Reading.told_ofText feedback ?_
    rintro _ ⟨rfl⟩
    exact hb.restyled
  let s' := refined s feedback (refinement s b feedback now)
  -- the second refinement starts from the brief that the first has made
  have hsame : refinement s' revised feedback later
      = { refinement s b feedback now with version := s.version + 2, time := later } := by
    unfold refinement
    rw [Brief.toDesign_ofText_again hb.restyled feedback,
      Brief.revisionWarnings_ofText feedback revised.restyled b.restyled]
    rfl
  have hs' : (desk.keep s').session? s'.id = some s' := session?_keep_self desk s'
  refine ⟨refinement s b feedback now, refinement s' revised feedback later, desk.keep s',
    (desk.keep s').keep (refined s' feedback (refinement s' revised feedback later)), s',
    refine_of_session hassistant hread hs hb hmade feedback now,
    refine_of_session hassistant hread hs' hrevised rfl feedback later, hsame, ?_, hs', rfl, ?_⟩
  · rw [hsame]
    exact Json.newlySame_self (Brief.allDefined_full hrevised.drawable) (Brief.keysDiffer_full _)
  · rw [hsame]
    exact session?_keep_self (desk.keep s') _

end

/-- A sliding window that has been made a door, whose design tells no style any more. -/
def formerWindow : Desk Unit :=
  ((((⟨(), {}⟩ : Desk Unit).generate {} "3 ft wide sliding window" "s" none ⟨0⟩).2).refine {} "s"
    "make it a door" none ⟨1⟩).2

/-- The desk is reached by two calls. -/
theorem reached_formerWindow : Reached {} formerWindow :=
  ((Reached.start rfl).generate _ _ _ _).refine _ _ _

/-- It is made a wooden window of another width, and that again. -/
theorem refine_again_formerWindow :
    ∃ (first second : Draft) (once twice : Desk Unit),
      formerWindow.refine {} "s" "a wooden window, 900 mm wide" none ⟨2⟩ = (.ok first, once) ∧
        once.refine {} "s" "a wooden window, 900 mm wide" none ⟨3⟩ = (.ok second, twice) ∧
        second.design = first.design ∧ once.version "s" = 3 ∧ twice.version "s" = 4 := by
  obtain ⟨d, hd⟩ : ∃ d, formerWindow.design? "s" = some d :=
    Option.isSome_iff_exists.mp (by decide +kernel)
  obtain ⟨first, second, once, twice, s, honce, htwice, hsame, -, hs, -, hs'⟩ :=
    refine_again rfl rfl reached_formerWindow hd "a wooden window, 900 mm wide" ⟨2⟩ ⟨3⟩
  have hversion : (formerWindow.refine {} "s" "a wooden window, 900 mm wide" none ⟨2⟩).2.version "s"
      = 3 := by
    decide +kernel
  rw [honce] at hversion
  refine ⟨first, second, once, twice, honce, htwice, congrArg (·.design) hsame, hversion, ?_⟩
  unfold version at hversion ⊢
  rw [hs] at hversion
  rw [hs']
  exact congrArg (· + 1) hversion

end Desk

end FamilyDesign
