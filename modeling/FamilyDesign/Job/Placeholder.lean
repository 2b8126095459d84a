import FamilyDesign.Job.Service

/-!
# Placeholder artifacts

What a simulated job hands out in place of a family file: a header of 32 bytes, the file name behind
its length, a code for the window style, and padding.
-/

namespace FamilyDesign.Job

-- Powers are those of the core library, whatever algebra is imported beside this module.
attribute [local instance (1100)] instPowNat

/-- The four bytes of a number, the lowest first. -/
def littleEndian (n : Nat) : List UInt8 :=
  (List.range 4).map fun i => UInt8.ofNat (n / 256 ^ i)

/-- Zero bytes. -/
def zeros (count : Nat) : List UInt8 := List.replicate count 0

/-- The header. -/
def artifactHeader : List UInt8 :=
  "RFA File".toUTF8.toList ++ zeros 8 ++ [1] ++ zeros 7 ++ zeros 8

/-- The codes of the window styles. -/
def styleCodes : Entries Nat :=
  [("DoubleHungWindow", 1), ("SlidingDoubleWindow", 2), ("FixedWindow", 3)]

/-- The code of a window style; any style without one has the code of the first. -/
def styleCode (style : Text) : Nat := (styleCodes.lookup style).getD 1

/-- The code of the style under its key, which need not be a text but has to be a simple value. -/
def styleCodeOf : Json → Except ServiceFault Nat
  | .text style => .ok (styleCode style)
  | v@(.array _) | v@(.object _) => .error (.noKey v)
  | _ => .ok 1

/-- The value if it counts as true, else another. -/
def orElseValue (v otherwise : Json) : Json := if v.isTrue then v else otherwise

/-- The placeholder for a job with the given parameters. -/
def placeholder (params : Fields) : Except ServiceFault (List UInt8) := do
  let name := orElseValue ((params.lookup "FileName").getD .null) (.text "Generated Window")
  let bytes ← name.plain.utf8.mapError .unencodable
  let window ← fieldsOf (orElseValue ((params.lookup "WindowParams").getD .null) (.object []))
  let code ← styleCodeOf ((window.lookup "WindowStyle").getD (.text "DoubleHungWindow"))
  .ok (artifactHeader ++ littleEndian bytes.length ++ bytes ++ littleEndian code ++ zeros 1024)

end FamilyDesign.Job
