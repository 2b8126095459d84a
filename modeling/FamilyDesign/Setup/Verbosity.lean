import FamilyDesign.Json.Number
import FamilyDesign.Setup.Configuration

/-!
# Verbosity

The level from which on messages are logged, by its name in any case. A name that stands for nothing
means the middle level; two names stand for something else that is no level.
-/

namespace FamilyDesign.Verbosity

/-- Why no level is set. -/
inductive Fault
  | noText (v : Json)
  | unknownLevel (text : Text)
  | noLevel (shown : Text)

/-- The wording of a fault. -/
def Fault.message : Fault → Text
  | noText v => "'" ++ v.shapeName ++ "' object has no attribute 'upper'"
  | unknownLevel text => "Unknown level: " ++ Text.shown text
  | noLevel shown => "Level not an integer or a valid string: " ++ shown

/-- The level where a name is not one. -/
def standard : Nat := 20

/-- The level where nothing is said. -/
def unset : Nat := 10

/-- The level of a name in capitals. -/
def ofName? (name : Text) : Option Nat :=
  Entries.lookup [("CRITICAL", 50), ("FATAL", 50), ("ERROR", 40), ("WARNING", 30), ("WARN", 30),
    ("INFO", 20), ("DEBUG", 10), ("NOTSET", 0)] name

/-- The form in which messages are logged unless another is set. -/
def basicForm : Text := "%(levelname)s:%(name)s:%(message)s"

/-- The three styles of forms. -/
def styles : Text :=
  "\x7b'%': (<class 'logging.PercentStyle'>, '" ++ basicForm ++ "'), "
    ++ "'\x7b': (<class 'logging.StrFormatStyle'>, '"
    ++ "\x7blevelname\x7d:\x7bname\x7d:\x7bmessage\x7d'), "
    ++ "'$': (<class 'logging.StringTemplateStyle'>, '"
    ++ "$\x7blevelname\x7d:$\x7bname\x7d:$\x7bmessage\x7d')\x7d"

/-- A character as a capital, if it is or becomes an ASCII letter: the dotless small i and the long
small s are the two others that do. -/
def capital (c : CodePoint) : CodePoint :=
  if c.toNat = 0x131 then 'I' else if c.toNat = 0x17F then 'S' else c.toUpper

/-- The level of a name in any case. -/
def ofText (s : Text) : Except Fault Nat :=
  let name := Text.ofList (s.toList.map capital)
  if name = "BASIC_FORMAT" then .error (.unknownLevel basicForm)
  else if name = "_STYLES" then .error (.noLevel styles)
  else .ok ((ofName? name).getD standard)

/-- The level that a value asks for; one that counts as nothing leaves it at the level for
development. -/
def level (v : Json) : Except Fault Nat :=
  if v.isTrue then
    match v with
    | .text s => ofText s
    | v => .error (.noText v)
  else .ok unset

end FamilyDesign.Verbosity
