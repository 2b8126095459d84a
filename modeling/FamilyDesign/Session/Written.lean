import FamilyDesign.Quality.ReportText
import FamilyDesign.Session.Draft

/-!
# Written sessions

Drafts and sessions as JSON objects.
-/

namespace FamilyDesign

open Document

/-- The fields of a draft, without its design. -/
def Draft.write (d : Draft) : Fields :=
  [("version", .int d.version), ("source", .text d.source.word), ("kind", .text d.kind.word),
    ("session", .text d.session), ("timestamp", .text d.time.withOffset),
    ("warnings", Quality.textList d.warnings), ("heuristic", .bool (d.source = .heuristic))]

/-- A turn in one row: when, what was asked, how, from where, and for which family. -/
def Turn.row (t : Turn) : Json :=
  Quality.textList [t.time.withOffset, t.prompt, t.kind.word, t.source.word, t.design.familyName]

/-- The fields of a session. -/
def Session.write (s : Session) : Fields :=
  [("session_id", .text s.id), ("version", .int s.version),
    ("source", optional .text (s.source.map (·.word))), ("status", .text Session.status),
    ("created_at", .text s.createdAt.withOffset), ("updated_at", .text s.updatedAt.withOffset),
    ("job_ids", Quality.textList s.jobIds),
    ("family_name", optional .text (s.design.map (·.familyName))),
    ("code_length", optional (fun script => .int script.summary.length) s.script),
    ("qa", optional (fun report => .text report.summary) s.report),
    ("history", .array (s.turns.map (·.row)))]

end FamilyDesign
