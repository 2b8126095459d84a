import FamilyDesign.Quality.Pass

/-!
# The compliance pass

A place for checks of standards: each has a name and gives the texts of its issues. The three that
are there from the start find nothing.
-/

namespace FamilyDesign.Quality.Compliance

/-- Named checks, in order. -/
abbrev Checks := Entries (Design → List Text)

/-- The checks that are there from the start. -/
def standardChecks : Checks :=
  let names : List Text := ["bim_execution_plan", "industry_standards", "category_rules"]
  names.map fun name => (name, fun _ => [])

/-- What one check finds. -/
def runCheck (name : Text) (messages : List Text) : Outcome :=
  .all (messages.map (.issue ("compliance." ++ name)))

/-- The check of the pass. -/
def check (checks : Checks) (d : Design) (_code : Option Text) : Outcome :=
  .detail "checks" (.array (checks.map fun (name, _) => .text name))
    ++ .all (checks.map fun (name, find) => runCheck name (find d))

end FamilyDesign.Quality.Compliance

namespace FamilyDesign.Quality

/-- A compliance pass with the given checks. -/
def Pass.compliance (checks : Compliance.Checks) : Pass where
  name := "compliance"
  description := "Standards-body and category compliance (placeholder checks by default)."
  check := Compliance.check checks

end FamilyDesign.Quality
