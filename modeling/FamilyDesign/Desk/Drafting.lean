import FamilyDesign.Assistant.Instructions
import FamilyDesign.Design.Variation
import FamilyDesign.Desk.Consultation

/-!
# Drafting

New designs, refined designs and variations. The assistant is asked first; where it gives no design,
the desk reads the text itself, or scales the design that is varied.
-/

namespace FamilyDesign.Desk

variable {σ : Type}

/-! ## New designs -/

/-- What is said of a prompt without a word. -/
def emptyPromptWarning : Text := "Empty prompt; using default dimensions."

/-- The design that the desk reads in a prompt, with warnings. -/
def reading (tools : DeskTools σ) (prompt : Text) : Except DeskFault (Design × List Text) :=
  match tools.read prompt none with
  | .ok r =>
    .ok (r.brief.toDesign, (if prompt.isEmpty then [emptyPromptWarning] else []) ++ r.warnings)
  | .error message => .error (.noReading message)

/-- The design that the assistant gives for a prompt; it is not asked about an empty one. -/
def generated (tools : DeskTools σ) (prompt : Text) (context : Json) (desk : Desk σ) :
    Except DeskFault (Option Design) × Desk σ :=
  if prompt.isEmpty then (.ok none, desk)
  else desk.proposal tools (.ok (Instructions.generation prompt context))

/-- A new current design for a session, in a context. -/
def generateIn (tools : DeskTools σ) (desk : Desk σ) (prompt id : Text) (context : Json)
    (now : Instant) : Except DeskFault Draft × Desk σ :=
  match desk.generated tools prompt context with
  | (.error fault, desk) => (.error fault, desk)
  | (.ok (some design), desk) =>
    let (draft, desk) := desk.commit id prompt design .model .generation [] now
    (.ok draft, desk)
  | (.ok none, desk) =>
    match reading tools prompt with
    | .error fault => (.error fault, desk)
    | .ok (design, warnings) =>
      let (draft, desk) := desk.commit id prompt design .heuristic .generation warnings now
      (.ok draft, desk)

/-- A new current design for a session, in a given context or else that of the session. -/
def generate (tools : DeskTools σ) (desk : Desk σ) (prompt id : Text) (context : Option Json)
    (now : Instant) : Except DeskFault Draft × Desk σ :=
  match context.elim (desk.context id) .ok with
  | .ok context => desk.generateIn tools (Text.strip prompt) id context now
  | .error limit => (.error (.beyond limit), desk)

/-! ## Refined designs -/

/-- The query for a design with changes, if design and context can be written. -/
def refinementQuery (desk : Desk σ) (id feedback : Text) (design : Design) :
    Except Limit Query := do
  .ok (Instructions.refinement feedback (← design.written) (← desk.context id))

/-- A new current design for a session, from a design and what a text says about it. -/
def refineDesign (tools : DeskTools σ) (desk : Desk σ) (id feedback : Text) (design : Design)
    (now : Instant) : Except DeskFault Draft × Desk σ :=
  let prompt := "Refinement: " ++ feedback
  match desk.proposal tools (desk.refinementQuery id feedback design) with
  | (.error fault, desk) => (.error fault, desk)
  | (.ok (some revised), desk) =>
    let (draft, desk) := desk.commit id prompt revised .model .refinement [] now
    (.ok draft, desk)
  | (.ok none, desk) =>
    match design.revise tools.read feedback with
    | .error fault => (.error (.revision fault), desk)
    | .ok (revised, warnings) =>
      let (draft, desk) := desk.commit id prompt revised .heuristic .refinement warnings now
      (.ok draft, desk)

/-- A new current design for a session, from a given design or else its current one. -/
def refine (tools : DeskTools σ) (desk : Desk σ) (id feedback : Text) (given : Option Design)
    (now : Instant) : Except DeskFault Draft × Desk σ :=
  match given.or (desk.design? id) with
  | some design => desk.refineDesign tools id feedback design now
  | none => (.error (.noDesign id), desk)

/-! ## Variations -/

/-- The session that variations are asked for, unless its id is empty. -/
def variationSession? (desk : Desk σ) (id : Option Text) : Option Session :=
  (id.filter (!·.isEmpty)).bind desk.session?

/-- What a variation is recorded as asked for. -/
def variationPrompt (index : Nat) : Text := "Variation " ++ Numeric.intText (index + 1)

/-- A draft of a sibling. It is recorded in its session, if there is one, but does not become the
current design. -/
def commitVariation (desk : Desk σ) (id : Option Text) (index : Nat) (sibling : Design)
    (source : Source) (now : Instant) : Draft × Desk σ :=
  let draft (version : Nat) : Draft := ⟨sibling, source, id.getD "", .variation, version, now, []⟩
  match desk.variationSession? id with
  | some s =>
    (draft s.version, desk.keep (s.addTurn ((draft s.version).turn (variationPrompt index))))
  | none => (draft 0, desk)

/-- A sibling of a design with a wire form, by the assistant or else scaled. -/
def variation (tools : DeskTools σ) (design : Design) (wire : Json) (id : Option Text)
    (now : Instant) (index : Nat) (desk : Desk σ) : Except DeskFault Draft × Desk σ :=
  match desk.proposal tools (.ok (Instructions.variation wire (.int (index + 1)))) with
  | (.error fault, desk) => (.error fault, desk)
  | (.ok (some sibling), desk) =>
    let (draft, desk) := desk.commitVariation id index sibling .model now
    (.ok draft, desk)
  | (.ok none, desk) =>
    match design.variation index with
    | .error fault => (.error (.number fault), desk)
    | .ok sibling =>
      let (draft, desk) := desk.commitVariation id index sibling .heuristic now
      (.ok draft, desk)

/-- Siblings of a design for the given indexes. -/
def variationsAt (tools : DeskTools σ) (design : Design) (wire : Json) (id : Option Text)
    (now : Instant) : List Nat → Desk σ → Except DeskFault (List Draft) × Desk σ
  | [], desk => (.ok [], desk)
  | index :: rest, desk =>
    match desk.variation tools design wire id now index with
    | (.error fault, desk) => (.error fault, desk)
    | (.ok draft, desk) =>
      let (drafts, desk) := variationsAt tools design wire id now rest desk
      (drafts.map (draft :: ·), desk)

/-- So many siblings of a design that can be written; none if the count is not positive. -/
def variations (tools : DeskTools σ) (desk : Desk σ) (design : Design) (count : Int)
    (id : Option Text) (now : Instant) : Except DeskFault (List Draft) × Desk σ :=
  match design.written with
  | .ok wire => variationsAt tools design wire id now (List.range count.toNat) desk
  | .error limit => (.error (.beyond limit), desk)

end FamilyDesign.Desk
