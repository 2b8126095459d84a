import FamilyDesign.Proofs.Script.Constant
import FamilyDesign.Proofs.Script.Words

/-!
# The table of parameters

A script keeps the parameters that it creates in a table by their names: it empties the table,
assigns an entry for each parameter that it adds, and reads one for each value that a family type
binds. To read an entry that was not assigned is an error, and ends the script.

* **`Access`** — what a line does to the table, told from its characters; `access?` finds it.
* **`Access.run`** — one line, and `runAccesses` a sequence of them, by the keys in the table.
* **`runAccesses_assigns`**, **`runAccesses_reads_iff`** — a run of lines of one kind.
* **`access?_code`** — a line that opens with another piece of code leaves the table alone.
-/

namespace FamilyDesign.Script

/-! ## What lines do -/

/-- What a line does to the table: it makes it anew, assigns the entry of a key, or reads it. An
entry that is assigned only where there is none yet is there afterwards in any case. -/
inductive Access
  | clears
  | assigns (key : Text)
  | reads (key : Text)
deriving DecidableEq

/-- Why a line fails: there is no table yet, or no entry of the key. -/
inductive TableFault
  | noTable
  | noKey (key : Text)

/-- One line, by the keys in the table, if there is one. -/
def Access.run : Option (List Text) → Access → Except TableFault (Option (List Text))
  | _, clears => .ok (some [])
  | none, _ => .error .noTable
  | some keys, assigns key => .ok (some (key :: keys))
  | some keys, reads key => if key ∈ keys then .ok (some keys) else .error (.noKey key)

/-- Lines one after another. -/
def runAccesses (table : Option (List Text)) (accesses : List Access) :
    Except TableFault (Option (List Text)) :=
  accesses.foldlM Access.run table

section Running

variable {keys : List Text} {accesses : List Access}

/-- A cleared table holds no name, whatever it held. -/
@[simp] theorem runAccesses_clears (table : Option (List Text)) :
    runAccesses table (.clears :: accesses) = runAccesses (some []) accesses := by
  cases table <;> rfl

/-- What is assigned is in the table from then on. Induction on the lines. -/
theorem runAccesses_assigns (assigned : List Text) :
    runAccesses (some keys) (assigned.map .assigns ++ accesses)
      = runAccesses (some (assigned.reverse ++ keys)) accesses := by
  induction assigned generalizing keys with
  | nil => rfl
  | cons key rest ih =>
    rw [List.reverse_cons, List.append_assoc]
    exact ih

/-- Lines that read succeed just if each finds its key. Induction on the lines. -/
theorem runAccesses_reads_iff {read : List Text} :
    (∃ table, runAccesses (some keys) (read.map .reads) = .ok table) ↔
      ∀ key ∈ read, key ∈ keys := by
  induction read with
  | nil => exact iff_of_true ⟨_, rfl⟩ (List.forall_mem_nil _)
  | cons key rest ih =>
    have hstep : runAccesses (some keys) ((key :: rest).map .reads)
        = if key ∈ keys then runAccesses (some keys) (rest.map .reads)
          else .error (.noKey key) := by
      show Access.run (some keys) (.reads key) >>= _ = _
      unfold Access.run
      dsimp only
      split <;> rfl
    rw [hstep, List.forall_mem_cons, ← ih]
    by_cases hkey : key ∈ keys
    · rw [if_pos hkey]
      exact (and_iff_right hkey).symm
    · rw [if_neg hkey]
      exact iff_of_false nofun fun h => hkey h.1

end Running

/-! ## Keys -/

/-- The characters up to the first quotation mark, that mark included; `escaped` tells that a
backslash stands ahead. -/
def throughMark : Bool → List CodePoint → List CodePoint
  | _, [] => []
  | true, c :: rest => c :: throughMark false rest
  | false, c :: rest => if c = '"' then [c] else c :: throughMark (c == .char '\\') rest

/-- The text literal that characters open with. -/
def literalAhead : List CodePoint → Text
  | [] => .ofList []
  | c :: rest => .ofList (c :: throughMark false rest)

/-- The text that the literal ahead stands for. -/
def keyAhead? (cs : List CodePoint) : Option Text :=
  match Constant.read (literalAhead cs) with
  | some (.text key) => some key
  | _ => none

/-- The key of a name: the text that the literal of the name stands for. -/
def keyOf (name : Text) : Text := .ofList (name.toList.flatMap halves)

section Scanning

variable (rest : List CodePoint)

theorem throughMark_plain {c : CodePoint} (hquote : c ≠ .char '"') (hslash : c ≠ .char '\\') :
    throughMark false (c :: rest) = c :: throughMark false rest := by
  rw [throughMark, if_neg hquote, beq_eq_false_iff_ne.mpr hslash]

theorem throughMark_escaped (c : CodePoint) :
    throughMark false (.char '\\' :: c :: rest) = .char '\\' :: c :: throughMark false rest := by
  rw [throughMark, if_neg (by decide), beq_self_eq_true, throughMark]

/-- A digit is no character without a value. -/
theorem hexDigit_ne {c : CodePoint} (h : Text.hexValue? c = none) (n : Nat) :
    Text.hexDigit n ≠ c := by
  rintro rfl
  rw [hexValue?_hexDigit] at h
  cases h

/-- An escaped unit is passed through. -/
theorem throughMark_unitEscape (n : Nat) :
    throughMark false (Text.unitEscape n ++ rest)
      = Text.unitEscape n ++ throughMark false rest := by
  have hdigit : ∀ m rest, throughMark false (Text.hexDigit m :: rest)
      = Text.hexDigit m :: throughMark false rest := fun m rest =>
    throughMark_plain rest (hexDigit_ne rfl m) (hexDigit_ne rfl m)
  show throughMark false (.char '\\' :: .char 'u' :: Text.hexDigit (n >>> 12)
    :: Text.hexDigit (n >>> 8) :: Text.hexDigit (n >>> 4) :: Text.hexDigit (n >>> 0) :: rest) = _
  rw [throughMark_escaped, hdigit, hdigit, hdigit, hdigit]
  rfl

/-- No mark ends a literal inside of what is written of a code point. The cases are those of the
writer. -/
theorem throughMark_jsonEscapeChar (c : CodePoint) :
    throughMark false (Text.jsonEscapeChar c ++ rest)
      = Text.jsonEscapeChar c ++ throughMark false rest := by
  unfold Text.jsonEscapeChar
  split
  · exact throughMark_escaped rest _
  · exact throughMark_escaped rest _
  · exact throughMark_escaped rest _
  · exact throughMark_escaped rest _
  · exact throughMark_escaped rest _
  · next hquote hslash _ _ _ =>
    dsimp only
    split
    · exact throughMark_escaped rest _
    · split
      · exact throughMark_escaped rest _
      · split
        · exact throughMark_plain rest hquote hslash
        · -- A code point beyond 16 bits is written as two units.
          unfold Text.unitEscapes
          dsimp only
          split
          · exact throughMark_unitEscape rest _
          · rw [List.append_assoc, throughMark_unitEscape, throughMark_unitEscape,
              List.append_assoc]

/-- A literal is found as it is written. Induction along the text. -/
theorem throughMark_flatMap (cs : List CodePoint) :
    throughMark false (cs.flatMap Text.jsonEscapeChar ++ .char '"' :: rest)
      = cs.flatMap Text.jsonEscapeChar ++ [.char '"'] := by
  induction cs with
  | nil => rfl
  | cons c cs ih =>
    rw [List.flatMap_cons, List.append_assoc, throughMark_jsonEscapeChar, ih, List.append_assoc]

/-- What is neither in ASCII nor a control character there is written by its number. -/
theorem jsonEscapeChar_of_le {c : CodePoint} (h : 0x7F ≤ c.toNat) :
    Text.jsonEscapeChar c = Text.unitEscapes c := by
  have hother : ∀ {ascii : Char}, ascii.toNat < 0x7F → c ≠ .char ascii := by
    rintro ascii hascii rfl
    exact absurd hascii (Nat.not_lt.mpr h)
  unfold Text.jsonEscapeChar
  split
  · exact absurd rfl (hother (by decide))
  · exact absurd rfl (hother (by decide))
  · exact absurd rfl (hother (by decide))
  · exact absurd rfl (hother (by decide))
  · exact absurd rfl (hother (by decide))
  · dsimp only
    rw [if_neg (by omega), if_neg (by omega), if_neg (by omega)]

/-- Halves of a code point are written as the code point is. -/
theorem flatMap_jsonEscapeChar_halves (c : CodePoint) :
    (halves c).flatMap Text.jsonEscapeChar = Text.jsonEscapeChar c := by
  by_cases hc : c.toNat < 0x10000
  · rw [halves_of_lt hc, List.flatMap_singleton]
  · have hunit : ∀ n, 0x7F ≤ n → n < 0x10000 →
        Text.jsonEscapeChar (CodePoint.ofNat n) = Text.unitEscape n := by
      intro n hle hlt
      have hnumber : (CodePoint.ofNat n).toNat = n := CodePoint.toNat_ofNat (by omega)
      rw [jsonEscapeChar_of_le (by omega), Text.unitEscapes, hnumber]
      exact if_pos hlt
    have hbound := c.toNat_lt
    rw [jsonEscapeChar_of_le (by omega), Text.unitEscapes, halves, if_neg hc, if_neg hc,
      List.flatMap_cons, List.flatMap_singleton, hunit _ (by omega) (by omega),
      hunit _ (by omega) (by omega)]

/-- Names of one key have one literal. -/
theorem quote_keyOf (name : Text) : quote (keyOf name) = quote name := by
  have hwritten : (name.toList.flatMap halves).flatMap Text.jsonEscapeChar
      = name.toList.flatMap Text.jsonEscapeChar := by
    rw [List.flatMap_assoc]
    simp only [flatMap_jsonEscapeChar_halves]
  show Text.ofList (Text.jsonQuoted (name.toList.flatMap halves)) = _
  unfold Text.jsonQuoted
  rw [hwritten]
  rfl

/-- Where the literal of a name stands ahead its key is found. -/
theorem keyAhead?_quote (name rest : Text) :
    keyAhead? (quote name ++ rest).toList = some (keyOf name) := by
  have hahead : literalAhead (quote name ++ rest).toList = quote name := by
    have hlist : (quote name ++ rest).toList
        = .char '"' :: (name.toList.flatMap Text.jsonEscapeChar ++ .char '"' :: rest.toList) :=
      congrArg (List.cons (CodePoint.char '"')) (List.append_assoc _ [.char '"'] rest.toList)
    rw [hlist, literalAhead, throughMark_flatMap]
    rfl
  unfold keyAhead?
  rw [hahead, read_quote]
  rfl

end Scanning

/-! ## Lines by their characters -/

/-- What the table is called. -/
def tableName : List CodePoint :=
  ['c', 'r', 'e', 'a', 't', 'e', 'd', '_', 'p', 'a', 'r', 'a', 'm', 'e', 't', 'e', 'r', 's'].map
    .char

/-- What stands ahead of the table where an entry of it is read. -/
def setter : List CodePoint :=
  ['f', 'a', 'm', 'i', 'l', 'y', '_', 'm', 'a', 'n', 'a', 'g', 'e', 'r', '.', 'S', 'e', 't',
    '('].map .char

/-- The key of the entry whose bracket is ahead. -/
def entryAhead? : List CodePoint → Option Text
  | '[' :: rest => keyAhead? rest
  | _ => none

/-- What a line does to the table, if anything. -/
def access? (line : List CodePoint) : Option Access :=
  let code := line.dropWhile isIndentation
  match tableName.isPrefixOf? code, (setter ++ tableName).isPrefixOf? code with
  | some rest, _ =>
    if rest = [' ', '=', ' ', '\x7b', '\x7d'].map .char then some .clears
    else (entryAhead? rest).map .assigns
  | none, some rest => (entryAhead? rest).map .reads
  | none, none => none

/-- Whether a line begins with other code than those that do something to the table, whatever may
follow. -/
def beginsElsewhere (code : List CodePoint) : Bool :=
  [tableName, setter ++ tableName].all fun beginning =>
    !beginning.isPrefixOf code && !code.isPrefixOf beginning

/-- A line that begins elsewhere leaves the table alone. -/
theorem access?_of_beginsElsewhere {line rest : List CodePoint} (code : List CodePoint)
    (hline : line.dropWhile isIndentation = code ++ rest) (h : beginsElsewhere code = true) :
    access? line = none := by
  have hnone : ∀ beginning ∈ [tableName, setter ++ tableName],
      beginning.isPrefixOf? (code ++ rest) = none := by
    intro beginning hmem
    have hapart := List.all_eq_true.mp h beginning hmem
    rw [Bool.and_eq_true, Bool.not_eq_true', Bool.not_eq_true', Bool.eq_false_iff,
      Bool.eq_false_iff, ne_eq, ne_eq, List.isPrefixOf_iff_prefix, List.isPrefixOf_iff_prefix]
      at hapart
    rw [Option.eq_none_iff_forall_ne_some]
    intro after hafter
    have hprefix : beginning <+: code ++ rest :=
      ⟨after, List.isPrefixOf?_eq_some_iff_append_eq.mp hafter⟩
    -- The beginning would be a front of the code, or the code a front of it.
    rcases List.prefix_or_prefix_of_prefix hprefix (List.prefix_append code rest) with hle | hle
    · exact hapart.1 hle
    · exact hapart.2 hle
  unfold access?
  dsimp only
  rw [hline, hnone tableName (.head _), hnone (setter ++ tableName) (.tail _ (.head _))]

section

variable {s : String} {cs : List Char} (hs : s = String.ofList cs) (t : Text)
include hs

theorem dropWhile_literal (h : (cs.map CodePoint.char).dropWhile isIndentation ≠ []) :
    (Text.ofString s ++ t).toList.dropWhile isIndentation
      = (cs.map CodePoint.char).dropWhile isIndentation ++ t.toList := by
  rw [Text.toList_append, toList_ofString hs, List.dropWhile_append]
  cases hcode : (cs.map CodePoint.char).dropWhile isIndentation with
  | nil => exact absurd hcode h
  | cons c rest => rfl

/-- A line that opens with a fixed piece of other code leaves the table alone. -/
theorem access?_code (h : beginsElsewhere ((cs.map .char).dropWhile isIndentation) = true) :
    access? (Text.ofString s ++ t).toList = none := by
  refine access?_of_beginsElsewhere _ (dropWhile_literal hs t fun hnil => ?_) h
  rw [hnil] at h
  cases h

variable (name : Text)

/-- A line that opens with the table and the literal of a name assigns the entry of its key. -/
theorem access?_assigns
    (h : (cs.map CodePoint.char).dropWhile isIndentation = tableName ++ [.char '[']) :
    access? (Text.ofString s ++ (quote name ++ t)).toList = some (.assigns (keyOf name)) := by
  have hcode := dropWhile_literal hs (quote name ++ t) (by rw [h]; decide)
  rw [h, List.append_assoc] at hcode
  have hahead : tableName.isPrefixOf?
      ((Text.ofString s ++ (quote name ++ t)).toList.dropWhile isIndentation)
      = some (.char '[' :: (quote name ++ t).toList) :=
    List.isPrefixOf?_eq_some_iff_append_eq.mpr hcode.symm
  unfold access?
  dsimp only
  rw [hahead]
  dsimp only
  rw [if_neg (by simp), entryAhead?, keyAhead?_quote]
  rfl

/-- A line that opens with the setter of the table and the literal of a name reads the entry of its
key. -/
theorem access?_reads
    (h : (cs.map CodePoint.char).dropWhile isIndentation = setter ++ tableName ++ [.char '[']) :
    access? (Text.ofString s ++ (quote name ++ t)).toList = some (.reads (keyOf name)) := by
  have hcode := dropWhile_literal hs (quote name ++ t) (by rw [h]; decide)
  rw [h, List.append_assoc] at hcode
  have hahead : (setter ++ tableName).isPrefixOf?
      ((Text.ofString s ++ (quote name ++ t)).toList.dropWhile isIndentation)
      = some (.char '[' :: (quote name ++ t).toList) :=
    List.isPrefixOf?_eq_some_iff_append_eq.mpr hcode.symm
  have hother : tableName.isPrefixOf?
      ((Text.ofString s ++ (quote name ++ t)).toList.dropWhile isIndentation) = none := by
    rw [hcode]
    rfl
  unfold access?
  dsimp only
  rw [hother, hahead]
  dsimp only
  rw [entryAhead?, keyAhead?_quote]
  rfl

end

end FamilyDesign.Script
