import FamilyDesign.Formula.Problem
import FamilyDesign.Formula.Substitution
import FamilyDesign.Json.Writer
import FamilyDesign.Quality.Pass

/-!
# The flexing pass

A formula has to stay valid when a parameter that it depends on takes other values: the default of
that parameter and four scales. One issue is recorded for each formula, at the first value that
breaks it.
-/

namespace FamilyDesign.Quality.Flexing

-- Sums start from the zero of the core library, whatever algebra is imported beside this module.
attribute [local instance (1100)] Zero.ofOfNat0

/-- The values that every length and number is flexed through. -/
def scales : List Json := [.real 0.1, .int 1, .int 10, .int 100]

/-- The values that a parameter is flexed through: its default, if it has one, and the scales. -/
def flexValues (p : Parameter) : List Json :=
  p.default.present?.toList ++ scales

/-- Whether a parameter is flexed. -/
def isFlexed (p : Parameter) : Bool :=
  p.type == "Length" || p.type == "Number"

/-- Whether the formula of `p` depends on another parameter, the flexed one. -/
def dependsOn (flexed p : Parameter) : Bool :=
  match p.formula? with
  | none => false
  | some formula => p.name != flexed.name && (Formula.references formula).contains flexed.name

/-- The formula of a parameter with a value in place of the flexed one. -/
def flexedFormula (flexed p : Parameter) (v : Json) : Except Formula.Template.Fault Text :=
  Formula.substitute (p.formula?.getD "") flexed.name v.plain

/-- The wording of a fault in the text of a value, taken as a template. -/
def faultMessage (v : Json) (fault : Formula.Template.Fault) : Text :=
  fault.message v.plain.toList

/-- The issue at the first value that breaks the formula of `p`. -/
def checkDependent (known : List Text) (flexed p : Parameter) : List Json → Outcome
  | [] => .clear
  | v :: rest =>
    .attempt (faultMessage v) (flexedFormula flexed p v) fun formula =>
      match Formula.problems formula known with
      | [] => checkDependent known flexed p rest
      | problem :: _ =>
        .issue "flexing.scenario_failed"
          ("Flexing scenario failed: " ++ p.name ++ " with " ++ flexed.name ++ "=" ++ v.plain
            ++ ": " ++ problem.message)

/-- The issues that flexing one parameter brings out. -/
def checkFlexed (known : List Text) (parameters : List Parameter) (flexed : Parameter) :
    Outcome :=
  .all ((parameters.filter (dependsOn flexed)).map fun p =>
    checkDependent known flexed p (flexValues flexed))

/-- Whether a constraint has both elements. -/
def checkConstraint (index : Nat) (c : Constraint) : Outcome :=
  .onlyIf ((nonempty? c.first).isNone || (nonempty? c.second).isNone)
    (.issue "flexing.constraint_missing" s!"Constraint {index} has missing elements")

/-- The check of the pass. -/
def check (d : Design) (_code : Option Text) : Outcome :=
  let flexed := d.parameters.filter isFlexed
  let known := d.parameters.map (·.name)
  .all (flexed.map (checkFlexed known d.parameters))
    ++ .detail "scenarios" (.int (flexed.map fun p => (flexValues p).length).sum)
    ++ .all (d.constraints.mapIdx checkConstraint)

end FamilyDesign.Quality.Flexing

namespace FamilyDesign.Quality

/-- The flexing pass. -/
def Pass.flexing : Pass where
  name := "flexing"
  description := "Substitute test values into dependent formulas; constraint references non-null."
  check := Flexing.check

end FamilyDesign.Quality
