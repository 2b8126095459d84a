import FamilyDesign.Design.Written
import FamilyDesign.Quality.Report
import FamilyDesign.Script.Emission

/-!
# Sessions

A session holds one current design with its version, and the turns by which it came about, of which
only the last ten are kept. A new design takes the place of the current one, raises the version by
one and takes script and report away: `supersede_version`, `supersede_script`, `supersede_report`.
-/

namespace FamilyDesign

/-- How a design was asked for. -/
inductive TurnKind
  | generation
  | refinement
  | variation
deriving DecidableEq

/-- The word for how a design was asked for. -/
def TurnKind.word : TurnKind → Text
  | generation => "generation"
  | refinement => "refinement"
  | variation => "variation"

/-- Where a design comes from: an assistant, or the rules that read a text. -/
inductive Source
  | model
  | heuristic
deriving DecidableEq

/-- The word for a source. -/
def Source.word : Source → Text
  | model => "model"
  | heuristic => "heuristic"

/-- One exchange: what was asked, and the design that came of it. -/
structure Turn where
  time : Instant
  prompt : Text
  design : Design
  kind : TurnKind
  source : Source

/-- A turn as part of a context, if its design can be written. -/
def Turn.written (t : Turn) : Except Limit Json := do
  let design ← t.design.written
  .ok (.object [("timestamp", .text t.time.withOffset), ("userPrompt", .text t.prompt),
    ("type", .text t.kind.word), ("sir", design)])

/-- A session: its current design with source, version, script and report, its turns, the jobs
started for it, and when it began and last changed. -/
structure Session where
  id : Text
  design : Option Design := none
  source : Option Source := none
  version : Nat := 0
  turns : List Turn := []
  script : Option Script.Emission := none
  report : Option Quality.Report := none
  jobIds : List Text := []
  createdAt : Instant
  updatedAt : Instant

namespace Session

/-- How many turns are kept. -/
def turnLimit : Nat := 10

/-- How many turns a context tells of. -/
def contextTurns : Nat := 3

/-- The state that every session is in. -/
def status : Text := "active"

/-- The last items of a list. -/
def lastOf {α : Type} (count : Nat) (items : List α) : List α :=
  items.drop (items.length - count)

/-- A session that has just begun. -/
def start (id : Text) (now : Instant) : Session :=
  { id, createdAt := now, updatedAt := now }

/-- The session with a turn recorded. -/
def addTurn (s : Session) (t : Turn) : Session :=
  { s with turns := lastOf turnLimit (s.turns ++ [t]), updatedAt := t.time }

/-- The session with a new current design. -/
def supersede (s : Session) (design : Design) (source : Source) : Session :=
  { s with
    design := some design
    source := some source
    version := s.version + 1
    script := none
    report := none }

/-- The session with the script and the report of its current design. -/
def assessed (s : Session) (script : Option Script.Emission) (report : Quality.Report) : Session :=
  { s with script, report := some report }

/-- The session with a job started for it. -/
def withJob (s : Session) (id : Text) (time : Instant) : Session :=
  { s with jobIds := s.jobIds ++ [id], updatedAt := time }

@[simp] theorem supersede_version (s : Session) (design : Design) (source : Source) :
    (s.supersede design source).version = s.version + 1 := rfl

@[simp] theorem supersede_script (s : Session) (design : Design) (source : Source) :
    (s.supersede design source).script = none := rfl

@[simp] theorem supersede_report (s : Session) (design : Design) (source : Source) :
    (s.supersede design source).report = none := rfl

@[simp] theorem addTurn_version (s : Session) (t : Turn) : (s.addTurn t).version = s.version := rfl

@[simp] theorem addTurn_design (s : Session) (t : Turn) : (s.addTurn t).design = s.design := rfl

theorem length_lastOf {α : Type} (count : Nat) (items : List α) :
    (lastOf count items).length = min count items.length := by
  simp [lastOf]
  omega

end Session

/-- What a session with an id has been about, for an assistant that is asked next, if the designs of
its recent turns can be written. -/
def contextOf (id : Text) (session : Option Session) : Except Limit Json := do
  let turns := (session.map (·.turns)).getD []
  let recent ← (Session.lastOf Session.contextTurns turns).mapM (·.written)
  .ok (.object [
    ("recentInteractions", .array recent),
    ("totalInteractions", .int turns.length),
    ("sessionId", .text id)])

end FamilyDesign
