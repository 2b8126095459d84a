import FamilyDesign.Entries

/-!
# Deductions

How many points each kind of finding costs. Structural defects cost more than matters of style, and
a kind without an entry costs nothing.
-/

namespace FamilyDesign.Quality

/-- Points by the key of a finding. -/
abbrev Deductions := Entries Int

namespace Deductions

/-- The deductions where nothing else is asked for. -/
def standard : Deductions := [
  ("geometry.no_extrusions", 30), ("geometry.invalid_profile", 20), ("geometry.zero_height", 15),
  ("geometry.invalid_normal", 10), ("geometry.invalid_constraint", 10),
  ("geometry.complex_profile", 5), ("geometry.lod_mismatch", 5),
  ("parameters.none_defined", 40), ("parameters.duplicate_name", 15),
  ("parameters.invalid_name", 10), ("parameters.invalid_type", 10),
  ("parameters.invalid_formula", 10), ("parameters.empty_type_name", 10),
  ("parameters.invalid_value", 5), ("parameters.missing_essential", 5),
  ("performance.loop_antipattern", 20), ("performance.profile_points", 15),
  ("performance.code_complexity", 10), ("performance.parameter_count", 10),
  ("performance.lod_geometry", 10),
  ("flexing.scenario_failed", 15), ("flexing.constraint_missing", 10),
  ("metadata.invalid_lod", 25), ("metadata.missing_field", 20),
  ("metadata.nonstandard_category", 5), ("metadata.missing_description", 5)]

/-- The points that a kind of finding costs. -/
def points (table : Deductions) (key : Text) : Int :=
  (table.lookup key).getD 0

/-- The deductions with those of another table in their place. -/
def merge (table other : Deductions) : Deductions :=
  other.foldl (fun merged (key, points) => merged.put key points) table

end Deductions

end FamilyDesign.Quality
