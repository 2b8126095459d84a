import FamilyDesign.Desk.Drafting
import FamilyDesign.Assistant.Prepared
import FamilyDesign.Proofs.Design.Structure
import FamilyDesign.Proofs.Json.Portable

/-!
# What becomes of a prompt

A new design comes from the assistant's reply or is read in the prompt. Whatever the assistant does,
one of the two is promised; what is kept of the promise is said here.

* **`reply?`** — the reply that an assistant gives, if it is ready, does not fail and withholds
  nothing.
* **`promised`** — the design that a reply holds, or else the one read in the prompt, with its
  source.
* **`exists_context_iff`** — when a session has a context in which the assistant can be asked.
* **`generate_eq_promised_iff`** — the promise is kept but for two things: a reply whose level of
  detail is infinite, and a recent design with half of a surrogate pair in a key. Either fault goes
  through to the caller.
-/

namespace FamilyDesign

namespace Desk

variable {σ : Type}

/-! ## The reply -/

/-- The reply that the desk's assistant gives for a query, if there is an assistant, it says that it
is ready, and it does not fail or withhold the reply. -/
def reply? (tools : DeskTools σ) (desk : Desk σ) (q : Query) : Option Text :=
  tools.assistant.bind fun assistant =>
    match desk.call assistant.isReady with
    | (some true, desk) => (desk.call (assistant.reply q)).1.join
    | _ => none

/-- No reply holds no design. -/
theorem designIn?_none : designIn? none = .ok none := rfl

/-- An assistant is heard just by its reply. -/
theorem proposal_eq (tools : DeskTools σ) (desk : Desk σ) (q : Query) :
    (desk.proposal tools (.ok q)).1 = designIn? (desk.reply? tools q) := by
  unfold proposal reply?
  cases tools.assistant with
  | none => rfl
  | some assistant =>
    show (consult assistant (.ok q) desk).1 = designIn? (match desk.call assistant.isReady with
      | (some true, desk) => (desk.call (assistant.reply q)).1.join
      | _ => none)
    unfold consult
    obtain ⟨ready, desk'⟩ := desk.call assistant.isReady
    cases ready with
    | none => rfl
    | some ready =>
      cases ready with
      | false => rfl
      | true => rfl

/-- The reply to a prompt; the assistant is not asked about an empty one. -/
def replyTo? (tools : DeskTools σ) (desk : Desk σ) (prompt : Text) (context : Json) : Option Text :=
  if prompt.isEmpty then none else desk.reply? tools (Instructions.generation prompt context)

/-- What is generated is told by the reply alone. -/
theorem generated_eq (tools : DeskTools σ) (desk : Desk σ) (prompt : Text) (context : Json) :
    (desk.generated tools prompt context).1 = designIn? (desk.replyTo? tools prompt context) := by
  unfold generated replyTo?
  split
  · rfl
  · exact proposal_eq tools desk _

/-! ## The draft -/

/-- The design that is promised for a prompt and a reply to it, and its source: the design in the
reply if there is a usable one, and otherwise the one that is read in the prompt. -/
def promised (reply : Option Text) (prompt : Text) : Design × Source :=
  match Design.ofReply reply with
  | .ok design => (design, .model)
  | .error _ => ((Reading.ofText prompt none).brief.toDesign, .heuristic)

/-- The assistant is the source just if the prompt is not empty and there is a usable reply. -/
theorem promised_source_iff {tools : DeskTools σ} {desk : Desk σ} {prompt : Text} {context : Json} :
    (promised (desk.replyTo? tools prompt context) prompt).2 = .model ↔
      prompt.isEmpty = false ∧ ∃ reply design,
        desk.reply? tools (Instructions.generation prompt context) = some reply ∧
          Design.ofReply (some reply) = .ok design := by
  -- the source says no more than whether the reply holds a design
  have husable : ∀ reply, (promised reply prompt).2 = .model ↔
      ∃ design, Design.ofReply reply = .ok design := by
    intro reply
    unfold promised
    cases Design.ofReply reply with
    | ok design => simp
    | error fault => simp
  have hnone : ∀ design, Design.ofReply none ≠ .ok design := nofun
  rw [husable]
  unfold replyTo?
  cases prompt.isEmpty with
  | true => simp [hnone]
  | false =>
    cases desk.reply? tools (Instructions.generation prompt context) with
    | none => simp [hnone]
    | some reply => simp

/-- A usable reply is drafted as it is. -/
theorem generateIn_of_design {tools : DeskTools σ} {desk : Desk σ} {prompt id : Text}
    {context : Json} {now : Instant} {design : Design}
    (h : designIn? (desk.replyTo? tools prompt context) = .ok (some design)) :
    ∃ draft, (desk.generateIn tools prompt id context now).1 = .ok draft ∧ draft.session = id ∧
      draft.design = design ∧ draft.source = .model := by
  have hgenerated := generated_eq tools desk prompt context
  rw [h] at hgenerated
  -- only the answer decides what is drafted, not what the assistant did to get it
  unfold generateIn
  generalize desk.generated tools prompt context = drafted at hgenerated ⊢
  obtain ⟨answer, desk'⟩ := drafted
  cases hgenerated
  exact ⟨_, rfl, rfl, rfl, rfl⟩

/-- Without a usable reply the prompt is read, which never fails. -/
theorem generateIn_of_none {tools : DeskTools σ} (hread : tools.read = .standard) {desk : Desk σ}
    {prompt id : Text} {context : Json} {now : Instant}
    (h : designIn? (desk.replyTo? tools prompt context) = .ok none) :
    ∃ draft, (desk.generateIn tools prompt id context now).1 = .ok draft ∧ draft.session = id ∧
      draft.design = (Reading.ofText prompt none).brief.toDesign ∧ draft.source = .heuristic := by
  have hgenerated := generated_eq tools desk prompt context
  rw [h] at hgenerated
  unfold generateIn
  generalize desk.generated tools prompt context = drafted at hgenerated ⊢
  obtain ⟨answer, desk'⟩ := drafted
  cases hgenerated
  unfold reading
  rw [hread]
  exact ⟨_, rfl, rfl, rfl, rfl⟩

/-- Where there is no assistant the prompt is read. -/
theorem generate_of_no_assistant {tools : DeskTools σ} (hassistant : tools.assistant = none)
    (hread : tools.read = .standard) {desk : Desk σ} (prompt id : Text) (given : Option Json)
    {context : Json} (hcontext : given.elim (desk.context id) .ok = .ok context) (now : Instant) :
    ∃ draft, (desk.generate tools prompt id given now).1 = .ok draft ∧ draft.session = id ∧
      draft.design = (Reading.ofText (Text.strip prompt) none).brief.toDesign ∧
      draft.source = .heuristic := by
  have hreply : desk.replyTo? tools (Text.strip prompt) context = none := by
    unfold replyTo? reply?
    rw [hassistant]
    split
    · rfl
    · rfl
  unfold generate
  rw [hcontext]
  refine generateIn_of_none hread ?_
  rw [hreply]
  exact designIn?_none

/-- A reply that is neither usable nor without use. -/
theorem generateIn_of_error {tools : DeskTools σ} {desk : Desk σ} {prompt id : Text}
    {context : Json} {now : Instant} {fault : DeskFault}
    (h : designIn? (desk.replyTo? tools prompt context) = .error fault) :
    (desk.generateIn tools prompt id context now).1 = .error fault := by
  have hgenerated := generated_eq tools desk prompt context
  rw [h] at hgenerated
  unfold generateIn
  generalize desk.generated tools prompt context = drafted at hgenerated ⊢
  obtain ⟨answer, desk'⟩ := drafted
  cases hgenerated
  rfl

/-- How a reply is taken: as a design, as none, or as one of the two faults that go through. -/
theorem designIn?_of_promise {reply : Option Text} (hbounded : ¬Design.ReplyIsUnbounded reply)
    (hlimit : ∀ limit, Design.objectOfReply reply ≠ .error (.beyond limit)) :
    (∃ design, Design.ofReply reply = .ok design ∧ designIn? reply = .ok (some design)) ∨
      (∃ fault, Design.ofReply reply = .error fault ∧ designIn? reply = .ok none) := by
  unfold designIn?
  split
  · next design heq => exact Or.inl ⟨design, heq, rfl⟩
  · next fault heq =>
    exact absurd (Design.ofReply_unbounded_iff.mp heq).2 hbounded
  · next limit heq =>
    exact absurd (Design.ofReply_beyond_iff.mp heq) (hlimit limit)
  · next fault _ _ heq => exact Or.inr ⟨fault, heq, rfl⟩

/-! ## The context -/

/-- The values of no declared kind in the designs that the context of a session tells of. -/
def recentValues (desk : Desk σ) (id : Text) : List Json :=
  (Session.lastOf Session.contextTurns (desk.turns id)).flatMap (·.design.untyped)

/-- Whether no key in these values holds half of a surrogate pair. -/
def RecentWhole (desk : Desk σ) (id : Text) : Prop := ∀ v ∈ desk.recentValues id, v.KeysWhole

/-- The context of a session can be written just if none of these values exceeds a limit. -/
theorem exists_context_iff {desk : Desk σ} {id : Text} :
    (∃ context, desk.context id = .ok context) ↔
      ∀ v ∈ desk.recentValues id, v.exceeds? Json.mostLevels = none := by
  -- a turn is written if its design is
  have hturn : ∀ t : Turn, (∃ w, t.written = .ok w) ↔
      ∀ v ∈ t.design.untyped, v.exceeds? Json.mostLevels = none := by
    intro t
    rw [← t.design.written_eq_ok_iff]
    constructor
    · rintro ⟨w, hw⟩
      obtain ⟨wire, hwire, -⟩ := bind_eq_ok_iff.mp hw
      exact Design.written_eq_of_ok hwire
    · exact fun h => ⟨_, bind_eq_ok_iff.mpr ⟨_, h, rfl⟩⟩
  -- the rest of the context is written in any case
  have hrecent : (∃ context, desk.context id = .ok context) ↔ ∃ recent,
      (Session.lastOf Session.contextTurns (desk.turns id)).mapM (·.written) = .ok recent := by
    constructor
    · rintro ⟨context, h⟩
      obtain ⟨recent, hrecent, -⟩ := bind_eq_ok_iff.mp h
      exact ⟨recent, hrecent⟩
    · rintro ⟨recent, h⟩
      exact ⟨_, bind_eq_ok_iff.mpr ⟨recent, h, rfl⟩⟩
  rw [hrecent, exists_mapM_ok_iff]
  unfold recentValues
  rw [List.forall_mem_flatMap]
  exact forall₂_congr fun t _ => hturn t

/-- A limit that keeps a context from being written is one that such a value exceeds. -/
theorem exists_of_context_error {desk : Desk σ} {id : Text} {limit : Limit}
    (h : desk.context id = .error limit) :
    ∃ v ∈ desk.recentValues id, v.exceeds? Json.mostLevels = some limit := by
  obtain hrecent | ⟨recent, -, hnone⟩ := bind_eq_error_iff.mp h
  · obtain ⟨t, ht, hturn⟩ := exists_of_mapM_error hrecent
    obtain hdesign | ⟨wire, -, hnone⟩ := bind_eq_error_iff.mp hturn
    · obtain ⟨v, hv, hlimit⟩ := List.exists_of_findSome?_eq_some
        ((Json.within_eq_error_iff _ _ limit).mp hdesign)
      exact ⟨v, List.mem_flatMap.mpr ⟨t, ht, hv⟩, hlimit⟩
    · cases hnone
  · cases hnone

section Levels

variable {desk : Desk σ} {id : Text}

/-- Where the levels are few, whole keys are enough for the context. -/
theorem exists_context_of_whole (hlevels : ∀ v ∈ desk.recentValues id, v.levels ≤ Json.mostLevels)
    (hwhole : desk.RecentWhole id) : ∃ context, desk.context id = .ok context := by
  rw [exists_context_iff]
  intro v hv
  exact Json.exceeds?_eq_none_iff.mpr ⟨hlevels v hv, hwhole v hv⟩

/-- And without them a half in a key is the fault. -/
theorem context_of_not_whole (hlevels : ∀ v ∈ desk.recentValues id, v.levels ≤ Json.mostLevels)
    (hhalf : ¬desk.RecentWhole id) : ∃ fault, desk.context id = .error (.keyWritten fault) := by
  cases hcontext : desk.context id with
  | ok context =>
    have hall := exists_context_iff.mp ⟨context, hcontext⟩
    exact absurd (fun v hv => (Json.exceeds?_eq_none_iff.mp (hall v hv)).2) hhalf
  | error limit =>
    obtain ⟨v, hv, hlimit⟩ := exists_of_context_error hcontext
    obtain ⟨⟨fault, rfl⟩, -⟩ := Json.exceeds?_of_levels (hlevels v hv) hlimit
    exact ⟨fault, rfl⟩

end Levels

/-! ## The promise -/

/-- The promise is kept: there is a context and a draft, with the promised design from the promised
source. -/
def KeepsPromise (tools : DeskTools σ) (desk : Desk σ) (prompt id : Text) (given : Option Json)
    (now : Instant) : Prop :=
  ∃ context draft, given.elim (desk.context id) .ok = .ok context ∧
    (desk.generate tools prompt id given now).1 = .ok draft ∧
    (draft.design, draft.source)
      = promised (desk.replyTo? tools (Text.strip prompt) context) (Text.strip prompt)

/-- In a context, the promise is kept just if the reply has no infinite level of detail; otherwise
that fault is the answer. -/
theorem keepsPromise_iff_of_context {tools : DeskTools σ} (hread : tools.read = .standard)
    {desk : Desk σ} {prompt id : Text} {given : Option Json} {now : Instant} {context : Json}
    (hcontext : given.elim (desk.context id) .ok = .ok context)
    (hlimit : ∀ limit, Design.objectOfReply (desk.replyTo? tools (Text.strip prompt) context)
      ≠ .error (.beyond limit)) :
    (desk.KeepsPromise tools prompt id given now ↔
      ¬Design.ReplyIsUnbounded (desk.replyTo? tools (Text.strip prompt) context)) ∧
    (Design.ReplyIsUnbounded (desk.replyTo? tools (Text.strip prompt) context) →
      (desk.generate tools prompt id given now).1 = .error (.number .infiniteInteger)) := by
  have hgenerate : desk.generate tools prompt id given now
      = desk.generateIn tools (Text.strip prompt) id context now := by
    unfold generate
    rw [hcontext]
  unfold KeepsPromise
  rw [hgenerate]
  -- the one fault that goes through is the answer of the whole request
  have hbroken : Design.ReplyIsUnbounded (desk.replyTo? tools (Text.strip prompt) context) →
      (desk.generateIn tools (Text.strip prompt) id context now).1
        = .error (.number .infiniteInteger) := by
    intro hunbounded
    refine generateIn_of_error ?_
    unfold designIn?
    rw [Design.ofReply_unbounded_iff.mpr ⟨rfl, hunbounded⟩]
  refine ⟨⟨?_, ?_⟩, hbroken⟩
  · rintro ⟨-, draft, -, hdraft, -⟩ hunbounded
    rw [hbroken hunbounded] at hdraft
    cases hdraft
  · intro hbounded
    -- the reply is used or it is not, and either way what is drafted is what was promised
    rcases designIn?_of_promise hbounded hlimit with
      ⟨design, hreply, hdesign⟩ | ⟨fault, hreply, hnone⟩
    · obtain ⟨draft, hdraft, -, hd, hs⟩ := generateIn_of_design hdesign
      refine ⟨context, draft, hcontext, hdraft, ?_⟩
      unfold promised
      rw [hreply, hd, hs]
    · obtain ⟨draft, hdraft, -, hd, hs⟩ := generateIn_of_none hread hnone
      refine ⟨context, draft, hcontext, hdraft, ?_⟩
      unfold promised
      rw [hreply, hd, hs]

/-- Where there is no context there is no draft either. -/
theorem generate_of_no_context {tools : DeskTools σ} {desk : Desk σ} {prompt id : Text}
    {given : Option Json} {now : Instant} {limit : Limit}
    (hcontext : given.elim (desk.context id) .ok = .error limit) :
    (desk.generate tools prompt id given now).1 = .error (.beyond limit) := by
  unfold generate
  rw [hcontext]

/-- **The promise, and what breaks it.** Where recent designs and the reply keep within the limits
on levels and texts, a prompt gets the promised design from the promised source just if neither of
two things is in the way. The one is half of a surrogate pair in a key of a recent design, if the
context is that of the session; the other is an infinite level of detail in the reply. Either fault
reaches the caller. -/
theorem generate_eq_promised_iff {tools : DeskTools σ} (hread : tools.read = .standard)
    {desk : Desk σ} {prompt id : Text} {given : Option Json} {now : Instant}
    (hlevels : given = none → ∀ v ∈ desk.recentValues id, v.levels ≤ Json.mostLevels)
    (hlimit : ∀ context, given.elim (desk.context id) .ok = .ok context →
      ∀ limit, Design.objectOfReply (desk.replyTo? tools (Text.strip prompt) context)
        ≠ .error (.beyond limit)) :
    (desk.KeepsPromise tools prompt id given now ↔
      (given = none → desk.RecentWhole id) ∧
      ∀ context, given.elim (desk.context id) .ok = .ok context →
        ¬Design.ReplyIsUnbounded (desk.replyTo? tools (Text.strip prompt) context)) ∧
    (given = none → ¬desk.RecentWhole id →
      ∃ fault, (desk.generate tools prompt id given now).1 = .error (.beyond (.keyWritten fault))) ∧
    ∀ context, given.elim (desk.context id) .ok = .ok context →
      Design.ReplyIsUnbounded (desk.replyTo? tools (Text.strip prompt) context) →
        (desk.generate tools prompt id given now).1 = .error (.number .infiniteInteger) := by
  have hbroken : given = none → ¬desk.RecentWhole id →
      ∃ fault, given.elim (desk.context id) .ok = .error (.keyWritten fault) := by
    rintro rfl hhalf
    exact context_of_not_whole (hlevels rfl) hhalf
  refine ⟨⟨?_, ?_⟩, ?_, ?_⟩
  · -- the promise is about a context, so there is one
    rintro ⟨context, draft, hcontext, hdraft, hpromise⟩
    refine ⟨?_, ?_⟩
    · intro hnone
      by_contra hhalf
      obtain ⟨fault, hfault⟩ := hbroken hnone hhalf
      rw [hcontext] at hfault
      cases hfault
    · intro context' hcontext'
      exact (keepsPromise_iff_of_context hread hcontext' (hlimit context' hcontext')).1.mp
        ⟨context, draft, hcontext, hdraft, hpromise⟩
  · -- a context is given, or that of the session can be written
    rintro ⟨hwhole, hbounded⟩
    obtain ⟨context, hcontext⟩ : ∃ context, given.elim (desk.context id) .ok = .ok context := by
      cases given with
      | none => exact exists_context_of_whole (hlevels rfl) (hwhole rfl)
      | some context => exact ⟨context, rfl⟩
    exact (keepsPromise_iff_of_context hread hcontext (hlimit context hcontext)).1.mpr
      (hbounded context hcontext)
  · intro hnone hhalf
    obtain ⟨fault, hfault⟩ := hbroken hnone hhalf
    exact ⟨fault, generate_of_no_context hfault⟩
  · intro context hcontext hunbounded
    exact (keepsPromise_iff_of_context hread hcontext (hlimit context hcontext)).2 hunbounded

/-- A reply that has all sections, a name and a category, and an infinite level of detail. -/
def boundlessReply : Text :=
  "\x7b\"familyMetadata\": \x7b\"familyName\": \"a\", \"category\": \"b\", "
    ++ "\"lodLevel\": 1e999\x7d, \"geometryDefinition\": \x7b\x7d, \"parameters\": \x7b\x7d, "
    ++ "\"materials\": \x7b\x7d, \"visibilitySettings\": \x7b\x7d\x7d"

/-- A design with a nested family that has half of a surrogate pair for a key. -/
def halvedDesign : Design where
  nestedFamilies := [.object [(Text.ofList [.ofNat 0xD800], .null)]]

/-- A desk that has recorded this design as the reply to a prompt. -/
def halvedDesk : Desk PreparedAssistant :=
  (Desk.commit ⟨{}, {}⟩ "s" "window" halvedDesign .model .generation [] ⟨0⟩).2

/-- The reply breaks the promise at once, and the design breaks it for the next prompt of its
session. -/
theorem generate_boundlessReply :
    (Desk.generate ⟨some PreparedAssistant.assistant, .standard⟩
        ⟨{ replies := [.ok (some boundlessReply)] }, {}⟩ "window" "s" none ⟨0⟩).1
      = .error (.number .infiniteInteger) ∧
    ∃ fault, (halvedDesk.generate ⟨some PreparedAssistant.assistant, .standard⟩ "window" "s" none
      ⟨0⟩).1 = .error (.beyond (.keyWritten fault)) := by
  refine ⟨?_, ?_⟩
  · have hunbounded : Design.ReplyIsUnbounded
        (Desk.replyTo? ⟨some PreparedAssistant.assistant, .standard⟩
          ⟨{ replies := [.ok (some boundlessReply)] }, {}⟩ (Text.strip "window")
          (.object [("recentInteractions", .array []), ("totalInteractions", .int 0),
            ("sessionId", .text "s")])) := by
      decide +kernel
    refine (generate_eq_promised_iff rfl (fun _ => List.forall_mem_nil _) ?_).2.2 _ rfl hunbounded
    rintro - ⟨⟩ limit hbeyond
    obtain ⟨fields, hok, -⟩ := hunbounded
    cases hok.symm.trans hbeyond
  · have hvalues : halvedDesk.recentValues "s" = halvedDesign.nestedFamilies := rfl
    have hlevels : ∀ v ∈ halvedDesk.recentValues "s", v.levels ≤ Json.mostLevels := by
      rw [hvalues]
      exact List.forall_mem_singleton.mpr (by decide)
    have hhalf : ¬halvedDesk.RecentWhole "s" := by
      unfold RecentWhole
      rw [hvalues]
      exact fun h => absurd (List.forall_mem_singleton.mp h) (by decide)
    refine (generate_eq_promised_iff rfl (fun _ => hlevels) ?_).2.1 rfl hhalf
    -- there is no context, so nothing is asked
    intro context hcontext
    obtain ⟨fault, hfault⟩ := context_of_not_whole hlevels hhalf
    cases hcontext.symm.trans hfault

end Desk

end FamilyDesign
