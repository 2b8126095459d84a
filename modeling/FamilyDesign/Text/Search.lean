import FamilyDesign.Text.Basic

/-!
# Searching in text

Occurrences of one text in another, and the two ways in which a text falls into lines: at newlines
alone, each line keeping its newline, or at every character that ends a line of prose.
-/

namespace FamilyDesign.Text

/-- Whether `needle` occurs in the characters. -/
def occursIn (needle : List CodePoint) : List CodePoint → Bool
  | [] => needle.isEmpty
  | c :: rest => needle.isPrefixOf (c :: rest) || occursIn needle rest

/-- Whether `needle` occurs in `hay`. -/
def contains (hay needle : Text) : Bool :=
  occursIn needle.toList hay.toList

/-- Occurrences of `needle` that do not overlap, from the left, where the first `skip` characters
belong to an occurrence already counted. -/
def countFrom (needle : List CodePoint) : Nat → List CodePoint → Nat
  | _, [] => 0
  | skip + 1, _ :: rest => countFrom needle skip rest
  | 0, c :: rest =>
    if needle.isPrefixOf (c :: rest) then 1 + countFrom needle (needle.length - 1) rest
    else countFrom needle 0 rest

/-- How often a nonempty `needle` occurs in `hay` without overlap. -/
def count (hay needle : Text) : Nat :=
  countFrom needle.toList 0 hay.toList

/-- The lines of a text, each with the newline that ends it. Their concatenation is the text. -/
def newlineLines : List CodePoint → List (List CodePoint)
  | [] => []
  | c :: rest =>
    if c = '\n' then [c] :: newlineLines rest
    else
      match newlineLines rest with
      | [] => [[c]]
      | line :: lines => (c :: line) :: lines

theorem flatten_newlineLines (cs : List CodePoint) : (newlineLines cs).flatten = cs := by
  induction cs with
  | nil => rfl
  | cons c rest ih =>
    unfold newlineLines
    split
    · simp [ih]
    · cases h : newlineLines rest with
      | nil => simp [h] at ih; simp [← ih]
      | cons line lines => simp [h] at ih; simp [ih]

/-- The pieces of a text between the marks in it. -/
def pieces (mark : CodePoint) : List CodePoint → List (List CodePoint)
  | [] => [[]]
  | c :: rest =>
    if c = mark then [] :: pieces mark rest
    else
      match pieces mark rest with
      | [] => [[c]]
      | piece :: others => (c :: piece) :: others

theorem length_pieces (mark : CodePoint) (cs : List CodePoint) :
    (pieces mark cs).length = cs.count mark + 1 := by
  induction cs with
  | nil => rfl
  | cons c rest ih =>
    unfold pieces
    split
    · next h => simp [h, ih]
    · next h =>
      rw [List.count_cons_of_ne h, ← ih]
      cases hp : pieces mark rest with
      | nil => simp [hp] at ih
      | cons piece others => rfl

/-- A character that ends a line of prose. -/
def endsLine (c : CodePoint) : Bool :=
  c.toNat ∈ [0x0A, 0x0B, 0x0C, 0x0D, 0x1C, 0x1D, 0x1E, 0x85, 0x2028, 0x2029]

/-- The number of lines of prose; `begun` tells whether the current line has begun. A carriage
return and the newline right behind it end one line together. -/
def proseLineCount : Bool → List CodePoint → Nat
  | begun, [] => if begun then 1 else 0
  | _, '\r' :: '\n' :: rest => 1 + proseLineCount false rest
  | _, c :: rest => if endsLine c then 1 + proseLineCount false rest else proseLineCount true rest

/-- The number of lines of prose in a text. -/
def lineCount (s : Text) : Nat :=
  proseLineCount false s.toList

/-- The texts one after another with `separator` between neighbours. -/
def joinWith (separator : Text) (parts : List Text) : Text :=
  Text.ofList (separator.toList.intercalate (parts.map toList))

/-- The items in the order of their first occurrence, each once. -/
def distinct {α : Type} [BEq α] (items : List α) : List α :=
  items.foldl (fun seen x => if seen.contains x then seen else seen ++ [x]) []

end FamilyDesign.Text
