import FamilyDesign.Proofs.Desk.Sessions

/-!
# Requests to a desk

A desk is asked for a new design, for a refined one, or for variations, in any order and on any
sessions. What an answered request does to the sessions is said here once for each kind.

* **`Request`**, **`answer`**, **`run`** — one request and a list of them, up to the first that is
  not answered.
* **`Renewal`** — the effect of a request for a new design; `renewal_answer` says that it has no
  other.
* **`Siblings`** — the effect of a request for variations, with `siblings_answer`.
-/

namespace FamilyDesign.Desk

/-- What a desk may be asked for. -/
inductive Request
  | generate (prompt id : Text) (context : Option Json)
  | refine (id feedback : Text) (given : Option Design)
  | vary (design : Design) (count : Int) (id : Option Text)

namespace Request

/-- The session that a request is made on. -/
def session? : Request → Option Text
  | generate _ id _ => some id
  | refine id _ _ => some id
  | vary _ _ id => id

/-- Whether a request is for a new current design. -/
def renews : Request → Bool
  | generate _ _ _ => true
  | refine _ _ _ => true
  | vary _ _ _ => false

/-- How many drafts a request is for. -/
def size : Request → Nat
  | generate _ _ _ => 1
  | refine _ _ _ => 1
  | vary _ count _ => count.toNat

/-- What the draft at an index is recorded as asked for. -/
def prompt : Request → Nat → Text
  | generate prompt _ _, _ => Text.strip prompt
  | refine _ feedback _, _ => "Refinement: " ++ feedback
  | vary _ _ _, index => variationPrompt index

/-- A request that renews a session makes one draft. -/
theorem size_of_renews {request : Request} (h : request.renews = true) : request.size = 1 := by
  cases request with
  | generate prompt id context => rfl
  | refine id feedback given => rfl
  | vary design count id => cases h

end Request

/-- A request with the drafts that it was answered with. -/
structure Call where
  request : Request
  drafts : List Draft

namespace Call

/-- The turns that stand for the drafts of a call. -/
def turns (call : Call) : List Turn :=
  List.zipWith (fun index draft => draft.turn (call.request.prompt index))
    (List.range call.drafts.length) call.drafts

/-- Whether a call is on a session. -/
def isOn (call : Call) (id : Text) : Bool := call.request.session? = some id

/-- Whether a call is for a new current design of a session. -/
def renews (call : Call) (id : Text) : Bool := call.request.renews && call.isOn id

end Call

variable {σ : Type}

/-- One draft, as an answer that may hold several. -/
def alone (made : Except DeskFault Draft × Desk σ) : Except DeskFault (List Draft) × Desk σ :=
  (made.1.map ([·]), made.2)

/-- The drafts that a request is answered with, and the desk after it. -/
def answer (tools : DeskTools σ) (desk : Desk σ) (now : Instant) :
    Request → Except DeskFault (List Draft) × Desk σ
  | .generate prompt id context => alone (desk.generate tools prompt id context now)
  | .refine id feedback given => alone (desk.refine tools id feedback given now)
  | .vary design count id => desk.variations tools design count id now

/-- The calls that come of a list of requests, each made at its own moment, if all are answered. -/
def run (tools : DeskTools σ) (desk : Desk σ) :
    List (Request × Instant) → Except DeskFault (List Call) × Desk σ
  | [] => (.ok [], desk)
  | (request, now) :: rest =>
    match desk.answer tools now request with
    | (.error fault, desk) => (.error fault, desk)
    | (.ok drafts, desk) =>
      let (calls, desk) := run tools desk rest
      (calls.map (⟨request, drafts⟩ :: ·), desk)

/-- The version of a session, 0 if there is none. -/
def version (desk : Desk σ) (id : Text) : Nat := ((desk.session? id).map (·.version)).getD 0

/-- Each session is kept under its own id. -/
def KeptById (desk : Desk σ) : Prop := desk.AllSessions fun _ => True

/-- A desk without sessions keeps them under their ids. -/
theorem keptById_of_empty {desk : Desk σ} (h : desk.sessions = {}) : desk.KeptById :=
  allSessions_of_empty h

theorem lasting_true : Lasting fun _ => True where
  superseded _ _ _ := trivial
  turned _ _ _ := trivial

/-- That each session is kept under its own id outlasts every request. -/
theorem keptById_answer (tools : DeskTools σ) {desk : Desk σ} (h : desk.KeptById) (now : Instant)
    (request : Request) : (desk.answer tools now request).2.KeptById := by
  cases request with
  | generate prompt id context => exact (keeps_generate lasting_true h tools prompt id context now).1
  | refine id feedback given => exact (keeps_refine lasting_true h tools id feedback given now).1
  | vary design count id => exact allSessions_variations lasting_true h tools design count id now

variable {tools : DeskTools σ} {desk asked desk' : Desk σ} {id : Text} {now : Instant}
  {draft : Draft}

/-- Asking the assistant changes no session. -/
theorem session?_congr (h : asked.sessions = desk.sessions) (id : Text) :
    asked.session? id = desk.session? id := by
  unfold session?
  rw [h]

/-! ## New designs -/

/-- What a draft does that becomes the current design of its session: the session, begun if there is
none, has it as its design and as its last turn. -/
structure Renewal (desk desk' : Desk σ) (id prompt : Text) (draft : Draft) : Prop where
  renewed : ∃ now, desk'.session? id = some
    ((((desk.session? id).getD (.start id now)).supersede draft.design draft.source).addTurn
      (draft.turn prompt))
  numbered : draft.version = desk.version id + 1
  others : ∀ other, other ≠ id → desk'.session? other = desk.session? other

/-- Whatever the assistant has been asked before, a commitment renews the session of the desk. -/
theorem renewal_commit (hkept : desk.KeptById) (hsessions : asked.sessions = desk.sessions)
    {prompt : Text} {design : Design} {source : Source} {kind : TurnKind} {warnings : List Text}
    (h : asked.commit id prompt design source kind warnings now = (draft, desk')) :
    Renewal desk desk' id prompt draft := by
  unfold commit at h
  rw [session?_congr hsessions] at h
  cases h
  have hid : ((desk.session? id).getD (.start id now)).id = id := by
    cases hget : desk.session? id with
    | none => rfl
    | some s => exact (hkept id s hget).1
  have hversion : ((desk.session? id).getD (.start id now)).version = desk.version id := by
    unfold version
    cases desk.session? id with
    | none => rfl
    | some s => rfl
  -- from here on it matters of the session only which id and version it has
  generalize hfound : (desk.session? id).getD (.start id now) = found at hid hversion
  have hkeep : ∀ (s : Session) (t : Turn), s.id = id →
      (asked.keep (s.addTurn t)).session? id = some (s.addTurn t) := by
    intro s t hs
    rw [← hs]
    exact session?_keep_self asked (s.addTurn t)
  refine ⟨⟨now, ?_⟩, ?_, ?_⟩
  · rw [hfound]
    exact hkeep (found.supersede design source) _ hid
  · rw [← hversion]
    rfl
  · intro other hother
    have hne : other ≠ found.id := fun heq => hother (heq.trans hid)
    rw [← session?_congr hsessions]
    exact session?_keep_of_ne asked hne

/-- What has been committed renews its session. -/
theorem renewal_of_committed (hkept : desk.KeptById) {prompt : Text}
    (h : Committed desk id prompt (.ok draft, desk')) : Renewal desk desk' id prompt draft := by
  cases h with
  | made hsessions design source kind warnings now => exact renewal_commit hkept hsessions rfl

/-- A prompt that is answered renews the session, with the stripped prompt for its turn. -/
theorem renewal_generate (hkept : desk.KeptById) {prompt : Text} {given : Option Json}
    (h : desk.generate tools prompt id given now = (.ok draft, desk')) :
    Renewal desk desk' id (Text.strip prompt) draft := by
  have hcommitted := committed_generate tools desk prompt id given now
  rw [h] at hcommitted
  exact renewal_of_committed hkept hcommitted

/-- So does feedback, of which the turn says that it is a refinement. -/
theorem renewal_refine (hkept : desk.KeptById) {feedback : Text} {given : Option Design}
    (h : desk.refine tools id feedback given now = (.ok draft, desk')) :
    Renewal desk desk' id ("Refinement: " ++ feedback) draft := by
  have hcommitted := committed_refine tools desk id feedback given now
  rw [h] at hcommitted
  exact renewal_of_committed hkept hcommitted

/-- A list of one draft is made of one draft. -/
theorem alone_eq_ok {made : Except DeskFault Draft × Desk σ} {drafts : List Draft}
    (h : alone made = (.ok drafts, desk')) :
    ∃ draft, drafts = [draft] ∧ made = (.ok draft, desk') := by
  obtain ⟨answer, after⟩ := made
  cases answer with
  | error fault => cases h
  | ok draft =>
    cases h
    exact ⟨draft, rfl, rfl⟩

/-- **A request for a new design has the effect of a renewal.** -/
theorem renewal_answer (hkept : desk.KeptById) {request : Request} {drafts : List Draft}
    (hrenews : request.renews = true) (hon : request.session? = some id)
    (h : desk.answer tools now request = (.ok drafts, desk')) :
    ∃ draft, drafts = [draft] ∧ Renewal desk desk' id (request.prompt 0) draft := by
  cases request with
  | generate prompt given context =>
    cases hon
    obtain ⟨draft, hdrafts, hmade⟩ := alone_eq_ok h
    exact ⟨draft, hdrafts, renewal_generate hkept hmade⟩
  | refine given feedback current =>
    cases hon
    obtain ⟨draft, hdrafts, hmade⟩ := alone_eq_ok h
    exact ⟨draft, hdrafts, renewal_refine hkept hmade⟩
  | vary design count given => cases hrenews

/-! ## Variations -/

/-- Turns leave the version of a session and its design as they are. -/
theorem foldl_addTurn_eq (s : Session) (turns : List Turn) :
    (turns.foldl Session.addTurn s).version = s.version ∧
      (turns.foldl Session.addTurn s).design = s.design := by
  induction turns generalizing s with
  | nil => exact ⟨rfl, rfl⟩
  | cons turn turns ih => exact ih (s.addTurn turn)

/-- What drafts do that are recorded as turns of a session, if there is one with that id. -/
structure Siblings (desk desk' : Desk σ) (id : Option Text) (drafts : List Draft)
    (turns : List Turn) : Prop where
  recorded : ∀ given, id = some given → given.isEmpty = false →
    desk'.session? given = (desk.session? given).map fun s => turns.foldl Session.addTurn s
  numbered : ∀ given, id = some given → given.isEmpty = false →
    ∀ draft ∈ drafts, draft.version = desk.version given
  others : ∀ other, id ≠ some other → desk'.session? other = desk.session? other

/-- The session of the variations is the one with their id. -/
theorem variationSession?_some (desk : Desk σ) (h : id.isEmpty = false) :
    desk.variationSession? (some id) = desk.session? id := by
  unfold variationSession?
  rw [Option.filter_some, h]
  rfl

/-- One sibling is recorded as a turn of the session it is for, if any, and changes nothing else. -/
theorem siblings_commitVariation (hkept : desk.KeptById)
    (hsessions : asked.sessions = desk.sessions) {given : Option Text} {index : Nat}
    {sibling : Design} {source : Source}
    (h : asked.commitVariation given index sibling source now = (draft, desk')) :
    Siblings desk desk' given [draft] [draft.turn (variationPrompt index)] := by
  have hkept' : asked.KeptById := allSessions_congr hsessions hkept
  have hversion : ∀ id, asked.version id = desk.version id := by
    intro id
    unfold version
    rw [session?_congr hsessions]
  unfold commitVariation at h
  dsimp only at h
  cases hfound : asked.variationSession? given with
  | none =>
    rw [hfound] at h
    cases h
    have hnone : ∀ id, given = some id → id.isEmpty = false → desk.session? id = none := by
      intro id hgiven hid
      rw [← session?_congr hsessions, ← variationSession?_some asked hid, ← hgiven]
      exact hfound
    refine ⟨?_, ?_, ?_⟩
    · intro id hgiven hid
      rw [session?_congr hsessions, hnone id hgiven hid]
      rfl
    · intro id hgiven hid d hd
      cases List.mem_singleton.mp hd
      unfold version
      rw [hnone id hgiven hid]
      rfl
    · intro other _
      exact session?_congr hsessions other
  | some s =>
    rw [hfound] at h
    cases h
    -- the session was found under the id that was given, so it is kept there again
    have hgiven : given = some s.id ∧ asked.session? s.id = some s := by
      obtain ⟨id, hid, hget⟩ := Option.bind_eq_some_iff.mp hfound
      rw [(hkept' id s hget).1]
      exact ⟨(Option.filter_eq_some_iff.mp hid).1, hget⟩
    obtain ⟨rfl, hget⟩ := hgiven
    refine ⟨?_, ?_, ?_⟩
    · intro id hid _
      cases hid
      rw [← session?_congr hsessions, hget]
      exact session?_keep_self asked (s.addTurn _)
    · intro id hid _ d hd
      cases hid
      cases List.mem_singleton.mp hd
      rw [← hversion]
      unfold version
      rw [hget]
      rfl
    · intro other hother
      have hne : other ≠ s.id := fun heq => hother (congrArg some heq.symm)
      rw [← session?_congr hsessions]
      exact session?_keep_of_ne asked hne

/-- So it is whoever makes the sibling. -/
theorem siblings_variation (hkept : desk.KeptById) {design : Design} {wire : Json}
    {given : Option Text} {index : Nat}
    (h : desk.variation tools design wire given now index = (.ok draft, desk')) :
    Siblings desk desk' given [draft] [draft.turn (variationPrompt index)] := by
  have hrecorded := recorded_variation tools desk design wire given now index
  rw [h] at hrecorded
  cases hrecorded with
  | made hsessions sibling source now => exact siblings_commitVariation hkept hsessions rfl

/-- No siblings leave the desk as it is. -/
theorem siblings_nil (desk : Desk σ) (given : Option Text) : Siblings desk desk given [] [] := by
  refine ⟨?_, ?_, ?_⟩
  · intro id _ _
    exact Option.map_id_apply.symm
  · intro id _ _ d hd
    cases hd
  · intro other _
    rfl

/-- Variations are recorded one after another, each under the version that the first found. -/
theorem Siblings.append {desk'' : Desk σ} {given : Option Text} {drafts drafts' : List Draft}
    {turns turns' : List Turn} (h : Siblings desk desk' given drafts turns)
    (h' : Siblings desk' desk'' given drafts' turns') :
    Siblings desk desk'' given (drafts ++ drafts') (turns ++ turns') := by
  -- the siblings ahead have left the version as it was
  have hversion : ∀ id, given = some id → id.isEmpty = false →
      desk'.version id = desk.version id := by
    intro id hgiven hid
    unfold version
    rw [h.recorded id hgiven hid, Option.map_map]
    congr 1
    cases desk.session? id with
    | none => rfl
    | some s => exact congrArg some (foldl_addTurn_eq s turns).1
  refine ⟨?_, ?_, ?_⟩
  · intro id hgiven hid
    rw [h'.recorded id hgiven hid, h.recorded id hgiven hid, Option.map_map]
    simp only [List.foldl_append]
    rfl
  · intro id hgiven hid d hd
    rcases List.mem_append.mp hd with hd | hd
    · exact h.numbered id hgiven hid d hd
    · rw [h'.numbered id hgiven hid d hd, hversion id hgiven hid]
  · intro other hother
    rw [h'.others other hother, h.others other hother]

/-- Induction on the indexes; each sibling is recorded in the desk that the one before left. -/
theorem siblings_variationsAt {design : Design} {wire : Json} {given : Option Text}
    {indexes : List Nat} {drafts : List Draft} (hkept : desk.KeptById)
    (h : variationsAt tools design wire given now indexes desk = (.ok drafts, desk')) :
    drafts.length = indexes.length ∧ Siblings desk desk' given drafts
      (List.zipWith (fun index draft => draft.turn (variationPrompt index)) indexes drafts) := by
  induction indexes generalizing desk drafts with
  | nil =>
    cases h
    exact ⟨rfl, siblings_nil _ given⟩
  | cons index rest ih =>
    have hkept' := allSessions_variation lasting_true hkept tools design wire given now index
    unfold variationsAt at h
    cases hmade : desk.variation tools design wire given now index with
    | mk made after =>
      rw [hmade] at h hkept'
      cases made with
      -- one that fails leaves no list of drafts
      | error fault => cases h
      | ok draft =>
        dsimp only at h
        cases hrest : variationsAt tools design wire given now rest after with
        | mk others last =>
          rw [hrest] at h
          cases others with
          | error fault => cases h
          | ok others =>
            cases h
            obtain ⟨hlength, hsiblings⟩ := ih hkept' hrest
            refine ⟨congrArg (· + 1) hlength, ?_⟩
            exact (siblings_variation hkept hmade).append hsiblings

/-- **A request for variations has the effect of as many siblings.** -/
theorem siblings_answer (hkept : desk.KeptById) {request : Request} {drafts : List Draft}
    (hrenews : request.renews = false)
    (h : desk.answer tools now request = (.ok drafts, desk')) :
    drafts.length = request.size ∧
      Siblings desk desk' request.session? drafts (Call.turns ⟨request, drafts⟩) := by
  cases request with
  | generate prompt id context => cases hrenews
  | refine id feedback given => cases hrenews
  | vary design count given =>
    unfold answer variations at h
    dsimp only at h
    split at h
    · obtain ⟨hlength, hsiblings⟩ := siblings_variationsAt hkept h
      rw [List.length_range] at hlength
      refine ⟨hlength, ?_⟩
      unfold Call.turns
      rw [hlength]
      exact hsiblings
    · cases h

/-- **An answered request leaves every other session as it is.** -/
theorem session?_answer_of_ne (hkept : desk.KeptById) {request : Request} {drafts : List Draft}
    (hother : request.session? ≠ some id)
    (h : desk.answer tools now request = (.ok drafts, desk')) :
    desk'.session? id = desk.session? id := by
  cases hrenews : request.renews with
  | false => exact (siblings_answer hkept hrenews h).2.others id hother
  | true =>
    obtain ⟨given, hgiven⟩ : ∃ given, request.session? = some given := by
      cases request with
      | generate prompt given context => exact ⟨given, rfl⟩
      | refine given feedback current => exact ⟨given, rfl⟩
      | vary design count given => cases hrenews
    obtain ⟨draft, -, hrenewal⟩ := renewal_answer hkept hrenews hgiven h
    refine hrenewal.others id ?_
    rintro rfl
    exact hother hgiven

end FamilyDesign.Desk
