import FamilyDesign.Json.Value
import FamilyDesign.Prompt.Binding

/-!
# Written quantities and bindings

What was found in a prompt as JSON objects.
-/

namespace FamilyDesign.Prompt

/-- The fields of a quantity. -/
def Quantity.write (q : Quantity) : Fields :=
  [("value", .real q.value), ("unit", .text q.unit), ("start", .int q.start), ("end", .int q.stop)]

/-- The fields of a keyword. -/
def Keyword.write (k : Keyword) : Fields :=
  [("phrase", .text k.phrase), ("kstart", .int k.start), ("kend", .int k.stop)]

/-- The fields of a binding. -/
def Binding.write (b : Binding) : Fields :=
  let relation : Fields := [("gap", .int b.gap), ("after", .bool b.after)]
  b.quantity.write ++ b.keyword.write ++ relation

end FamilyDesign.Prompt
