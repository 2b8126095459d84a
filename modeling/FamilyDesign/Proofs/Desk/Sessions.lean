import FamilyDesign.Desk.Drafting

/-!
# What a desk does to its sessions

Whatever a desk is asked for, it changes a session in two ways only: it puts a new design in the
place of the current one, and it records a turn. A property of sessions that both keep therefore
outlasts every request, granted or not.

* **`Committed`**, **`Recorded`** — all that a request for a new design, and for a variation, can
  do; `committed_generate`, `committed_refine` and `recorded_variation` say so.
* **`Lasting`** — a property of sessions that is kept by both.
* **`AllSessions`** — each session of a desk has it, and is kept under its own id.
* **`Keeps`** — a request keeps such a property, and what it drafts is the current design of its
  session; `keeps_generate` and `keeps_refine` say so of the two requests for a new design.
* **`allSessions_variations`** — variations keep it as well.
-/

namespace FamilyDesign.Desk

variable {σ : Type} {P : Session → Prop}

/-- A property of sessions that holds of each session whose design has just been replaced, and that
recording a turn does not take away. -/
structure Lasting (P : Session → Prop) : Prop where
  superseded : ∀ (s : Session) (design : Design) (source : Source), P (s.supersede design source)
  turned : ∀ (s : Session) (turn : Turn), P s → P (s.addTurn turn)

/-- Each session is kept under its own id and has a property. -/
def AllSessions (P : Session → Prop) (desk : Desk σ) : Prop :=
  ∀ id s, desk.session? id = some s → s.id = id ∧ P s

/-- What is so of all sessions depends on nothing else of a desk. -/
theorem allSessions_congr {desk desk' : Desk σ} (h : desk'.sessions = desk.sessions)
    (hall : desk.AllSessions P) : desk'.AllSessions P := by
  intro id s hget
  refine hall id s ?_
  unfold session? at hget ⊢
  rw [← h]
  exact hget

/-- What is so of all sessions but one is so of all, once that one is kept with it. -/
theorem allSessions_keep_of_others {desk desk' : Desk σ} (hall : desk.AllSessions P) {s : Session}
    (hs : P s) (hothers : ∀ id, id ≠ s.id → desk'.session? id = desk.session? id) :
    (desk'.keep s).AllSessions P := by
  intro id s' hget
  by_cases heq : id = s.id
  · rw [heq, session?_keep_self] at hget
    cases hget
    exact ⟨heq.symm, hs⟩
  · rw [session?_keep_of_ne desk' heq, hothers id heq] at hget
    exact hall id s' hget

/-- A session that is kept takes the place of the one with its id, and leaves the others. -/
theorem allSessions_keep {desk : Desk σ} (hall : desk.AllSessions P) {s : Session} (hs : P s) :
    (desk.keep s).AllSessions P :=
  allSessions_keep_of_others hall hs fun _ _ => rfl

/-- Anything is so of the sessions of a desk that has none. -/
theorem allSessions_of_empty {desk : Desk σ} (h : desk.sessions = {}) : desk.AllSessions P := by
  intro id s hget
  unfold session? at hget
  rw [h] at hget
  cases hget

/-! ## The assistant has no sessions -/

@[simp] theorem sessions_call {α : Type} (desk : Desk σ) (c : AssistantCall σ α) :
    (desk.call c).2.sessions = desk.sessions := rfl

/-- Consulting an assistant changes no session. -/
theorem sessions_consult (assistant : Assistant σ) (q : Except Limit Query) (desk : Desk σ) :
    (consult assistant q desk).2.sessions = desk.sessions := by
  have hready : (desk.call assistant.isReady).2.sessions = desk.sessions := sessions_call desk _
  -- the query is sent from the desk that the call for readiness left
  unfold consult
  generalize desk.call assistant.isReady = asked at hready ⊢
  obtain ⟨ready, desk'⟩ := asked
  split
  · next q' heq =>
    cases heq
    exact hready
  · next limit heq =>
    cases heq
    exact hready
  · rename_i heq _ _
    cases heq
    exact hready

/-- A proposal changes no session. -/
theorem sessions_proposal (tools : DeskTools σ) (q : Except Limit Query) (desk : Desk σ) :
    (desk.proposal tools q).2.sessions = desk.sessions := by
  unfold proposal
  split
  · exact sessions_consult _ q desk
  · rfl

/-- Generating a design changes no session, until it is committed. -/
theorem sessions_generated (tools : DeskTools σ) (prompt : Text) (context : Json) (desk : Desk σ) :
    (desk.generated tools prompt context).2.sessions = desk.sessions := by
  unfold generated
  split
  · rfl
  · exact sessions_proposal tools _ desk

/-! ## What a request does -/

/-- All that a request for a new design can do: nothing is kept of one that is refused, and
otherwise the design is committed, by a desk that has at most asked the assistant. -/
inductive Committed (desk : Desk σ) (id prompt : Text) : Except DeskFault Draft × Desk σ → Prop
  | refused (fault : DeskFault) {asked : Desk σ} (h : asked.sessions = desk.sessions) :
      Committed desk id prompt (.error fault, asked)
  | made {asked : Desk σ} (h : asked.sessions = desk.sessions) (design : Design) (source : Source)
      (kind : TurnKind) (warnings : List Text) (now : Instant) :
      Committed desk id prompt (.ok (asked.commit id prompt design source kind warnings now).1,
        (asked.commit id prompt design source kind warnings now).2)

/-- All that a request for one variation can do. -/
inductive Recorded (desk : Desk σ) (id : Option Text) (index : Nat) :
    Except DeskFault Draft × Desk σ → Prop
  | refused (fault : DeskFault) {asked : Desk σ} (h : asked.sessions = desk.sessions) :
      Recorded desk id index (.error fault, asked)
  | made {asked : Desk σ} (h : asked.sessions = desk.sessions) (sibling : Design)
      (source : Source) (now : Instant) :
      Recorded desk id index (.ok (asked.commitVariation id index sibling source now).1,
        (asked.commitVariation id index sibling source now).2)

/-- In a context a prompt is answered by a commitment, or by a fault that leaves the sessions. -/
theorem committed_generateIn (tools : DeskTools σ) (desk : Desk σ) (prompt id : Text)
    (context : Json) (now : Instant) :
    Committed desk id prompt (desk.generateIn tools prompt id context now) := by
  have hsessions := sessions_generated tools prompt context desk
  unfold generateIn
  generalize desk.generated tools prompt context = drafted at hsessions ⊢
  obtain ⟨answer, asked⟩ := drafted
  cases answer with
  | error fault => exact .refused fault hsessions
  | ok proposed =>
    cases proposed with
    | some design => exact .made hsessions design .model .generation [] now
    | none =>
      -- the prompt is read, and nothing is committed if that fails
      dsimp only
      split
      · exact .refused _ hsessions
      · exact .made hsessions _ .heuristic .generation _ now

/-- So is a prompt, whether or not there is a context for it. -/
theorem committed_generate (tools : DeskTools σ) (desk : Desk σ) (prompt id : Text)
    (context : Option Json) (now : Instant) :
    Committed desk id (Text.strip prompt) (desk.generate tools prompt id context now) := by
  unfold generate
  split
  · exact committed_generateIn tools desk _ id _ now
  · exact .refused _ rfl

/-- So is feedback on a design. -/
theorem committed_refineDesign (tools : DeskTools σ) (desk : Desk σ) (id feedback : Text)
    (design : Design) (now : Instant) :
    Committed desk id ("Refinement: " ++ feedback)
      (desk.refineDesign tools id feedback design now) := by
  have hsessions := sessions_proposal tools (desk.refinementQuery id feedback design) desk
  unfold refineDesign
  generalize desk.proposal tools (desk.refinementQuery id feedback design) = drafted
    at hsessions ⊢
  obtain ⟨answer, asked⟩ := drafted
  cases answer with
  | error fault => exact .refused fault hsessions
  | ok proposed =>
    cases proposed with
    | some revised => exact .made hsessions revised .model .refinement [] now
    | none =>
      dsimp only
      split
      · exact .refused _ hsessions
      · exact .made hsessions _ .heuristic .refinement _ now

/-- So is feedback on whatever the session holds. -/
theorem committed_refine (tools : DeskTools σ) (desk : Desk σ) (id feedback : Text)
    (given : Option Design) (now : Instant) :
    Committed desk id ("Refinement: " ++ feedback) (desk.refine tools id feedback given now) := by
  unfold refine
  split
  · exact committed_refineDesign tools desk id feedback _ now
  · exact .refused _ rfl

/-- A sibling that is made is recorded, and one that fails leaves the sessions. -/
theorem recorded_variation (tools : DeskTools σ) (desk : Desk σ) (design : Design) (wire : Json)
    (id : Option Text) (now : Instant) (index : Nat) :
    Recorded desk id index (desk.variation tools design wire id now index) := by
  have hsessions :=
    sessions_proposal tools (.ok (Instructions.variation wire (.int (index + 1)))) desk
  unfold variation
  generalize desk.proposal tools (.ok (Instructions.variation wire (.int (index + 1)))) = drafted
    at hsessions ⊢
  obtain ⟨answer, asked⟩ := drafted
  cases answer with
  | error fault => exact .refused fault hsessions
  | ok proposed =>
    cases proposed with
    | some sibling => exact .made hsessions sibling .model now
    | none =>
      dsimp only
      split
      · exact .refused _ hsessions
      · exact .made hsessions _ .heuristic now

/-! ## New and refined designs -/

/-- A draft that is made is the current design of its session. -/
def Drafted (made : Except DeskFault Draft × Desk σ) : Prop :=
  ∀ draft, made.1 = .ok draft →
    ∃ s, made.2.session? draft.session = some s ∧ s.design = some draft.design

/-- What a request for a new design owes: the property of sessions, and that its draft is
current. -/
def Keeps (P : Session → Prop) (made : Except DeskFault Draft × Desk σ) : Prop :=
  made.2.AllSessions P ∧ Drafted made

/-- A fault that leaves the sessions keeps what is so of them. -/
theorem keeps_error {desk : Desk σ} (hall : desk.AllSessions P) (fault : DeskFault) :
    Keeps P (.error fault, desk) := by
  refine ⟨hall, ?_⟩
  intro draft hdraft
  cases hdraft

/-- A draft whose session is kept with its design is drafted. -/
theorem keeps_keep {desk : Desk σ} (hall : desk.AllSessions P) {s : Session} (hs : P s)
    {draft : Draft} (hid : draft.session = s.id) (hdesign : s.design = some draft.design) :
    Keeps P (.ok draft, desk.keep s) := by
  refine ⟨allSessions_keep hall hs, ?_⟩
  intro draft' hdraft
  cases hdraft
  refine ⟨s, ?_, hdesign⟩
  rw [hid]
  exact session?_keep_self desk s

/-- A commitment keeps what lasts: the session is superseded and then gets a turn. -/
theorem keeps_commit (hlasting : Lasting P) {desk : Desk σ} (hall : desk.AllSessions P)
    (id prompt : Text) (design : Design) (source : Source) (kind : TurnKind) (warnings : List Text)
    (now : Instant) :
    Keeps P (.ok (desk.commit id prompt design source kind warnings now).1,
      (desk.commit id prompt design source kind warnings now).2) := by
  -- a session that is found under an id has it, and one that is started is given it
  have hid : ((desk.session? id).getD (.start id now)).id = id := by
    cases hget : desk.session? id with
    | none => rfl
    | some s => exact (hall id s hget).1
  exact keeps_keep hall (hlasting.turned _ _ (hlasting.superseded _ design source)) hid.symm rfl

/-- So does whatever commits or fails. -/
theorem keeps_of_committed (hlasting : Lasting P) {desk : Desk σ} (hall : desk.AllSessions P)
    {id prompt : Text} {made : Except DeskFault Draft × Desk σ}
    (h : Committed desk id prompt made) : Keeps P made := by
  cases h with
  | refused fault hsessions => exact keeps_error (allSessions_congr hsessions hall) fault
  | made hsessions design source kind warnings now =>
    exact keeps_commit hlasting (allSessions_congr hsessions hall) id prompt design source kind
      warnings now

/-- A prompt keeps what lasts. -/
theorem keeps_generate (hlasting : Lasting P) {desk : Desk σ} (hall : desk.AllSessions P)
    (tools : DeskTools σ) (prompt id : Text) (context : Option Json) (now : Instant) :
    Keeps P (desk.generate tools prompt id context now) :=
  keeps_of_committed hlasting hall (committed_generate tools desk prompt id context now)

/-- Feedback keeps what lasts. -/
theorem keeps_refine (hlasting : Lasting P) {desk : Desk σ} (hall : desk.AllSessions P)
    (tools : DeskTools σ) (id feedback : Text) (given : Option Design) (now : Instant) :
    Keeps P (desk.refine tools id feedback given now) :=
  keeps_of_committed hlasting hall (committed_refine tools desk id feedback given now)

/-! ## Variations -/

/-- A recorded sibling only adds a turn. -/
theorem allSessions_commitVariation (hlasting : Lasting P) {desk : Desk σ}
    (hall : desk.AllSessions P) (id : Option Text) (index : Nat) (sibling : Design)
    (source : Source) (now : Instant) :
    (desk.commitVariation id index sibling source now).2.AllSessions P := by
  unfold commitVariation
  dsimp only
  split
  · next s hget =>
    obtain ⟨given, -, hs⟩ := Option.bind_eq_some_iff.mp hget
    exact allSessions_keep hall (hlasting.turned s _ (hall given s hs).2)
  · exact hall

/-- A sibling that is made keeps what lasts. -/
theorem allSessions_variation (hlasting : Lasting P) {desk : Desk σ} (hall : desk.AllSessions P)
    (tools : DeskTools σ) (design : Design) (wire : Json) (id : Option Text) (now : Instant)
    (index : Nat) : (desk.variation tools design wire id now index).2.AllSessions P := by
  have hrecorded := recorded_variation tools desk design wire id now index
  generalize desk.variation tools design wire id now index = made at hrecorded ⊢
  cases hrecorded with
  | refused fault hsessions => exact allSessions_congr hsessions hall
  | made hsessions sibling source now =>
    exact allSessions_commitVariation hlasting (allSessions_congr hsessions hall) id index sibling
      source now

/-- Induction on the indexes; each sibling is recorded in the desk that the one before left. -/
theorem allSessions_variationsAt (hlasting : Lasting P) (tools : DeskTools σ) (design : Design)
    (wire : Json) (id : Option Text) (now : Instant) (indexes : List Nat) {desk : Desk σ}
    (hall : desk.AllSessions P) :
    (variationsAt tools design wire id now indexes desk).2.AllSessions P := by
  induction indexes generalizing desk with
  | nil => exact hall
  | cons index rest ih =>
    have hall' := allSessions_variation hlasting hall tools design wire id now index
    unfold variationsAt
    generalize desk.variation tools design wire id now index = made at hall' ⊢
    obtain ⟨answer, desk'⟩ := made
    cases answer with
    | error fault => exact hall'
    | ok draft => exact ih hall'

/-- So do several siblings. -/
theorem allSessions_variations (hlasting : Lasting P) {desk : Desk σ} (hall : desk.AllSessions P)
    (tools : DeskTools σ) (design : Design) (count : Int) (id : Option Text) (now : Instant) :
    (desk.variations tools design count id now).2.AllSessions P := by
  unfold variations
  split
  · exact allSessions_variationsAt hlasting tools design _ id now _ hall
  · exact hall

end FamilyDesign.Desk
