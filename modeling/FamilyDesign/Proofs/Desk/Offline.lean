import FamilyDesign.Proofs.Brief.Rebuilding
import FamilyDesign.Proofs.Brief.Variation
import FamilyDesign.Proofs.Desk.Generation
import FamilyDesign.Proofs.Desk.Requests

/-!
# A desk without an assistant

Without an assistant a desk makes its designs itself: from what is read in a text, anew from the
brief of a design that it recognises, or by scaling. All of them are assembled, so all can be
written, and so can what a session has been about.

* **`Session.Sound`** — a session whose design a sound brief has made and whose turns are assembled.
* **`exists_context`** — what such sessions have been about can be written.
* **`variations_sound`**, **`exists_variations`** — variations are assembled, the sessions stay
  sound, and as many are made as are asked for.
-/

namespace FamilyDesign

/-- A turn whose design is assembled. -/
def Turn.IsAssembled (t : Turn) : Prop := ∃ a : Assembly, a.design = t.design

/-- A session whose design a sound brief has made, and whose turns are assembled. -/
structure Session.Sound (s : Session) : Prop where
  made : ∃ b : Brief, b.Sound ∧ s.design = some b.toDesign
  assembled : ∀ t ∈ s.turns, t.IsAssembled

namespace Brief

/-- The assembly of the design that a sound brief makes. -/
def Sound.assembly {b : Brief} (h : b.Sound) : Assembly := h.buildable.assembly

theorem Sound.design_assembly {b : Brief} (h : b.Sound) : h.assembly.design = b.toDesign := rfl

end Brief

/-- A turn of an assembled design can be written. -/
theorem Turn.IsAssembled.exists_written {t : Turn} (h : t.IsAssembled) :
    ∃ v, t.written = .ok v := by
  obtain ⟨a, ha⟩ := h
  have hwritten := a.written
  rw [ha] at hwritten
  exact ⟨_, bind_eq_ok_iff.mpr ⟨_, hwritten, rfl⟩⟩

/-- The last items of a list are among its items. -/
theorem mem_of_mem_lastOf {α : Type} {count : Nat} {items : List α} {x : α}
    (h : x ∈ Session.lastOf count items) : x ∈ items :=
  List.mem_of_mem_drop h

/-- What assembled turns have been about can be written. -/
theorem exists_contextOf {id : Text} {session : Option Session}
    (h : ∀ s ∈ session, ∀ t ∈ s.turns, t.IsAssembled) : ∃ v, contextOf id session = .ok v := by
  have hrecent : ∃ recent, (Session.lastOf Session.contextTurns
      ((session.map (·.turns)).getD [])).mapM (·.written) = .ok recent := by
    rw [exists_mapM_ok_iff]
    intro t ht
    refine Turn.IsAssembled.exists_written ?_
    cases session with
    | none => cases mem_of_mem_lastOf ht
    | some s => exact h s rfl t (mem_of_mem_lastOf ht)
  obtain ⟨recent, hrecent⟩ := hrecent
  exact ⟨_, bind_eq_ok_iff.mpr ⟨recent, hrecent, rfl⟩⟩

namespace Session

/-- An assembled turn is recorded. -/
theorem Sound.addTurn {s : Session} (h : s.Sound) {t : Turn} (ht : t.IsAssembled) :
    (s.addTurn t).Sound where
  made := h.made
  assembled := by
    intro t' ht'
    rcases List.mem_append.mp (mem_of_mem_lastOf ht') with hold | hnew
    · exact h.assembled t' hold
    · cases List.mem_singleton.mp hnew
      exact ht

end Session

namespace Desk

variable {σ : Type} {tools : DeskTools σ} {desk : Desk σ}

/-- Where all turns are assembled, what a session has been about can be written. -/
theorem exists_context (hall : ∀ id s, desk.session? id = some s → ∀ t ∈ s.turns, t.IsAssembled)
    (id : Text) : ∃ v, desk.context id = .ok v :=
  exists_contextOf fun s hs => hall id s hs

/-! ## Refined designs -/

/-- Where the assistant gives no design, the given one is revised as the text says. -/
theorem refine_of_no_proposal {id feedback : Text} {given : Option Design} {design : Design}
    (hgiven : given.or (desk.design? id) = some design)
    (hproposal : (desk.proposal tools (desk.refinementQuery id feedback design)).1 = .ok none)
    (now : Instant) :
    match design.revise tools.read feedback with
    | .error fault => (desk.refine tools id feedback given now).1 = .error (.revision fault)
    | .ok (revised, _) =>
      ∃ draft, (desk.refine tools id feedback given now).1 = .ok draft ∧ draft.session = id ∧
        draft.design = revised := by
  unfold refine
  rw [hgiven]
  dsimp only
  unfold refineDesign
  generalize desk.proposal tools (desk.refinementQuery id feedback design) = drafted at hproposal
  obtain ⟨proposed, asked⟩ := drafted
  cases hproposal
  dsimp only
  cases design.revise tools.read feedback with
  | error fault => rfl
  | ok revision => exact ⟨_, rfl, rfl, rfl⟩

/-- Where there is no assistant the design is revised as its text says. -/
theorem refine_of_no_assistant (hassistant : tools.assistant = none) {id feedback : Text}
    {given : Option Design} {design revised : Design} {warnings : List Text} {now : Instant}
    (hgiven : given.or (desk.design? id) = some design)
    (hrevise : design.revise tools.read feedback = .ok (revised, warnings)) :
    ∃ draft, (desk.refine tools id feedback given now).1 = .ok draft ∧ draft.session = id ∧
      draft.design = revised := by
  have hproposal : (desk.proposal tools (desk.refinementQuery id feedback design)).1
      = .ok none := by
    unfold proposal
    rw [hassistant]
  have hrefine := refine_of_no_proposal hgiven hproposal now
  rw [hrevise] at hrefine
  exact hrefine

/-! ## Variations -/

/-- Where there is no assistant a variation is scaled. -/
theorem variation_of_no_assistant (hassistant : tools.assistant = none) (design : Design)
    (wire : Json) (id : Option Text) (now : Instant) (index : Nat) :
    desk.variation tools design wire id now index = match design.variation index with
      | .error fault => (.error (.number fault), desk)
      | .ok sibling =>
        let (draft, desk) := desk.commitVariation id index sibling .heuristic now
        (.ok draft, desk) := by
  unfold variation proposal
  rewrite [hassistant]
  rfl

/-- A variation that is assembled leaves the sessions sound when it is recorded. -/
theorem commitVariation_sound {P : Session → Prop}
    (hturned : ∀ (s : Session) (t : Turn), P s → t.IsAssembled → P (s.addTurn t))
    (hall : desk.AllSessions P) (id : Option Text) (index : Nat) (a : Assembly) (source : Source)
    (now : Instant) : (desk.commitVariation id index a.design source now).2.AllSessions P ∧
      (desk.commitVariation id index a.design source now).1.design = a.design := by
  unfold commitVariation
  dsimp only
  split
  · next s hget =>
    obtain ⟨given, -, hs⟩ := Option.bind_eq_some_iff.mp hget
    exact ⟨allSessions_keep hall (hturned s _ (hall given s hs).2 ⟨a, rfl⟩), rfl⟩
  · exact ⟨hall, rfl⟩

/-- Induction on the indexes; a variation that is not made ends them, and leaves what has been
recorded. -/
theorem variationsAt_sound {P : Session → Prop}
    (hturned : ∀ (s : Session) (t : Turn), P s → t.IsAssembled → P (s.addTurn t))
    (hassistant : tools.assistant = none) (a : Assembly) (wire : Json) (id : Option Text)
    (now : Instant) (indexes : List Nat) (hall : desk.AllSessions P) :
    (variationsAt tools a.design wire id now indexes desk).2.AllSessions P ∧
      ∀ drafts, (variationsAt tools a.design wire id now indexes desk).1 = .ok drafts →
        ∀ draft ∈ drafts, ∃ a' : Assembly, a'.design = draft.design := by
  induction indexes generalizing desk with
  | nil =>
    refine ⟨hall, ?_⟩
    intro drafts hdrafts
    cases hdrafts
    exact List.forall_mem_nil _
  | cons index rest ih =>
    unfold variationsAt
    rw [variation_of_no_assistant hassistant]
    rcases a.variation_cases index with ⟨fault, hfault⟩ | ⟨a', hsibling⟩
    · rw [hfault]
      refine ⟨hall, ?_⟩
      intro drafts hdrafts
      cases hdrafts
    · rw [hsibling]
      -- the turn of the sibling is recorded before the next one is made
      obtain ⟨hall', hdesign⟩ := commitVariation_sound hturned hall id index a' .heuristic now
      obtain ⟨hlast, hrest⟩ := ih hall'
      refine ⟨hlast, ?_⟩
      intro drafts hdrafts
      obtain ⟨others, hothers, rfl⟩ := map_eq_ok_iff.mp hdrafts
      rw [List.forall_mem_cons]
      exact ⟨⟨a', hdesign.symm⟩, hrest others hothers⟩

/-- Variations whose places can be written are all made. -/
theorem exists_variationsAt (hassistant : tools.assistant = none) (a : Assembly) (wire : Json)
    (id : Option Text) (now : Instant) {indexes : List Nat}
    (hplaces : ∀ index ∈ indexes, ∃ place, Json.textOfInt ((index : Int) + 1) = .ok place) :
    ∃ drafts, (variationsAt tools a.design wire id now indexes desk).1 = .ok drafts ∧
      drafts.length = indexes.length := by
  induction indexes generalizing desk with
  | nil => exact ⟨[], rfl, rfl⟩
  | cons index rest ih =>
    rw [List.forall_mem_cons] at hplaces
    obtain ⟨⟨place, hplace⟩, hplaces⟩ := hplaces
    unfold variationsAt
    rw [variation_of_no_assistant hassistant, a.variation_design hplace]
    dsimp only
    obtain ⟨drafts, hdrafts, hlength⟩ := ih hplaces
    rw [hdrafts]
    exact ⟨_, rfl, congrArg (· + 1) hlength⟩

/-- **Variations of an assembled design are assembled**, and the sessions keep what turns of such
designs do not take away. -/
theorem variations_sound {P : Session → Prop}
    (hturned : ∀ (s : Session) (t : Turn), P s → t.IsAssembled → P (s.addTurn t))
    (hassistant : tools.assistant = none) (a : Assembly) (count : Int) (id : Option Text)
    (now : Instant) (hall : desk.AllSessions P) :
    (desk.variations tools a.design count id now).2.AllSessions P ∧
      ∀ drafts, (desk.variations tools a.design count id now).1 = .ok drafts →
        ∀ draft ∈ drafts, ∃ a' : Assembly, a'.design = draft.design := by
  unfold variations
  rw [a.written]
  exact variationsAt_sound hturned hassistant a a.design.wire id now _ hall

/-- **So many variations are made as are asked for**, unless they are so many that their number
cannot be written. -/
theorem exists_variations (hassistant : tools.assistant = none) (a : Assembly) {count : Int}
    (hcount : count < 10 ^ Numeric.longestInteger) (id : Option Text) (now : Instant) :
    ∃ drafts, (desk.variations tools a.design count id now).1 = .ok drafts ∧
      drafts.length = count.toNat := by
  have hplaces : ∀ index ∈ List.range count.toNat,
      ∃ place, Json.textOfInt ((index : Int) + 1) = .ok place := by
    intro index hindex
    have hlt : index < count.toNat := List.mem_range.mp hindex
    refine Json.exists_textOfInt (n := index + 1) ?_
    zify
    omega
  obtain ⟨drafts, hdrafts, hlength⟩ := exists_variationsAt hassistant a a.design.wire id now hplaces
  rw [List.length_range] at hlength
  unfold variations
  rw [a.written]
  exact ⟨drafts, hdrafts, hlength⟩

end Desk

end FamilyDesign
