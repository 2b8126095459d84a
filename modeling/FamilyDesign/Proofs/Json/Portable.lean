import FamilyDesign.Document.Field
import FamilyDesign.Json.Reader
import FamilyDesign.Proofs.Entries
import FamilyDesign.Proofs.Fallible
import FamilyDesign.Proofs.Json.Same
import FamilyDesign.Proofs.Numeric.Numerals
import Mathlib.Data.List.TakeWhile

/-!
# Values that JSON in UTF-8 can write

Written as JSON, a value loses the numbers that are not finite. A key with half of a surrogate pair
loses the half in a dictionary, and keeps a value of no declared kind from being written at all. A
value in which there is neither is written as it is.

* **`Json.all`** — whether a value and each of its parts pass a test.
* **`AllFinite`**, **`KeysWhole`** — the two tests of a value that is written as it is.
* **`exceeds?_eq_none_iff`** — a value keeps to the limits just if it has at most so many levels and
  its keys are whole; **`exceeds?_of_levels`** names the limit that is met if only the levels are
  few.
* **`isShort_of_read`** — no integer that a text holds has too many digits to be written.
* **`writable_eq`**, **`dictionary_eq`** — what is written as it is.
-/

namespace FamilyDesign

namespace Text

/-- A text without halves of surrogate pairs survives the way through a string. -/
theorem ofString_toString {s : Text} (h : s.holdsHalf = false) : ofString s.toString = s := by
  have hchars : ∀ cs : List CodePoint, cs.any (·.isHalf) = false →
      (cs.flatMap stringChars).map CodePoint.char = cs := by
    intro cs hcs
    induction cs with
    | nil => rfl
    | cons c rest ih =>
      rw [List.any_cons, Bool.or_eq_false_iff] at hcs
      -- A half is what the hypothesis excludes; a character is written as itself.
      cases c with
      | char c => exact congrArg (CodePoint.char c :: ·) (ih hcs.2)
      | half offset => cases hcs.1
  obtain ⟨cs⟩ := s
  unfold ofString toString
  rw [String.toList_ofList]
  exact congrArg Text.ofList (hchars cs h)

end Text

namespace Json

mutual

/-- Whether a value and each of its parts pass a test. -/
def all (test : Json → Bool) : Json → Bool
  | array items => test (array items) && allItems test items
  | object fields => test (object fields) && allFields test fields
  | v => test v

/-- Whether this is so of each item. -/
def allItems (test : Json → Bool) : List Json → Bool
  | [] => true
  | v :: rest => all test v && allItems test rest

/-- Whether this is so of the value of each field. -/
def allFields (test : Json → Bool) : Fields → Bool
  | [] => true
  | (_, v) :: rest => all test v && allFields test rest

end

/-- Whether a value is no number that is not finite. -/
def isNoneButFinite : Json → Bool
  | real x => x.isFinite
  | _ => true

/-- Whether a value is no object with a key that holds half of a surrogate pair. -/
def isWholeKeyed : Json → Bool
  | object fields => !fields.any fun (key, _) => key.holdsHalf
  | _ => true

/-- Whether all numbers in a value are finite. -/
def AllFinite (v : Json) : Prop := v.all isNoneButFinite = true

/-- Whether no key in a value holds half of a surrogate pair. -/
def KeysWhole (v : Json) : Prop := v.all isWholeKeyed = true

instance (v : Json) : Decidable v.AllFinite := inferInstanceAs (Decidable (_ = _))

instance (v : Json) : Decidable v.KeysWhole := inferInstanceAs (Decidable (_ = _))

/-- Whether a value is written as it is in JSON in UTF-8. -/
structure Portable (v : Json) : Prop where
  finite : v.AllFinite
  whole : v.KeysWhole

variable {test : Json → Bool}

/-- A test passes on all items just if it passes on each. -/
theorem allItems_iff {items : List Json} :
    allItems test items = true ↔ ∀ v ∈ items, v.all test = true := by
  induction items with
  | nil => exact ⟨nofun, fun _ => rfl⟩
  | cons v rest ih => rw [allItems, Bool.and_eq_true, ih, List.forall_mem_cons]

/-- A test passes on all fields just if it passes on each value. -/
theorem allFields_iff {fields : Fields} :
    allFields test fields = true ↔ ∀ e ∈ fields, e.2.all test = true := by
  induction fields with
  | nil => exact ⟨nofun, fun _ => rfl⟩
  | cons e rest ih => rw [allFields, Bool.and_eq_true, ih, List.forall_mem_cons]

/-- The items of a portable array are portable. -/
theorem Portable.of_item {items : List Json} (h : (array items).Portable) {v : Json}
    (hv : v ∈ items) : v.Portable := by
  have hfinite := h.finite
  have hwhole := h.whole
  unfold AllFinite at hfinite
  unfold KeysWhole at hwhole
  rw [all, Bool.and_eq_true, allItems_iff] at hfinite hwhole
  exact ⟨hfinite.2 v hv, hwhole.2 v hv⟩

/-- The fields of a portable object are, and no key has half of a surrogate pair. -/
theorem Portable.of_field {fields : Fields} (h : (object fields).Portable) {e : Text × Json}
    (he : e ∈ fields) : e.1.holdsHalf = false ∧ e.2.Portable := by
  have hfinite := h.finite
  have hwhole := h.whole
  unfold AllFinite at hfinite
  unfold KeysWhole at hwhole
  rw [all, Bool.and_eq_true, allFields_iff] at hfinite hwhole
  have hkeys : (fields.any fun (key, _) => key.holdsHalf) = false := by
    rw [← Bool.not_eq_true']
    exact hwhole.1
  exact ⟨Bool.eq_false_iff.mpr (List.any_eq_false.mp hkeys e he), hfinite.2 e he, hwhole.2 e he⟩

/-! ## The limits on what is written -/

/-- A key has bytes just if it holds no half. -/
theorem keyExceeds?_eq_none_iff {key : Text} :
    keyExceeds? key = none ↔ key.holdsHalf = false := by
  have hwhole : key.holdsHalf = false ↔ key.toList.dropWhile (!·.isHalf) = [] := by
    unfold Text.holdsHalf
    simp [List.dropWhile_eq_nil_iff]
  rw [hwhole]
  unfold keyExceeds? Text.utf8
  cases key.toList.dropWhile (!·.isHalf) with
  | nil => simp
  | cons half rest => simp

/-- What is met in a value of so many levels with keys that are whole or not, where so many levels
are left. -/
inductive Meets (levels room : Nat) (whole : Bool) : Option Limit → Prop
  | fits (h : levels ≤ room) (hwhole : whole = true) : Meets levels room whole none
  | deep (h : room < levels) : Meets levels room whole (some .levelsWritten)
  | halved (fault : Text.EncodingFault) (hwhole : whole = false) :
      Meets levels room whole (some (.keyWritten fault))

/-- A key has no levels: it exceeds a limit only through a half in it. -/
theorem meets_key (key : Text) (room : Nat) :
    Meets 0 room (!key.holdsHalf) (keyExceeds? key) := by
  cases h : keyExceeds? key with
  | none => exact .fits (Nat.zero_le room) (by rw [keyExceeds?_eq_none_iff.mp h]; rfl)
  | some limit =>
    have hhalf : key.holdsHalf = true := by
      rw [← Bool.not_eq_false, ← keyExceeds?_eq_none_iff, h]
      exact Option.some_ne_none limit
    unfold keyExceeds? at h
    split at h
    · cases h
    · cases h
      exact .halved _ (by rw [hhalf]; rfl)

/-- Of two values one behind the other, what is met in the first one is met first. -/
theorem Meets.or {levels levels' room : Nat} {whole whole' : Bool} {met met' : Option Limit}
    (h : Meets levels room whole met) (h' : Meets levels' room whole' met') :
    Meets (max levels levels') room (whole && whole') (met.or met') := by
  cases h with
  | deep h => exact .deep (Nat.lt_of_lt_of_le h (Nat.le_max_left levels levels'))
  | halved fault h => exact .halved fault (by rw [h, Bool.false_and])
  | fits h hwhole =>
    rw [hwhole, Bool.true_and, Option.none_or]
    cases h' with
    | fits h' hwhole' => exact .fits (Nat.max_le.mpr ⟨h, h'⟩) hwhole'
    | deep h' => exact .deep (Nat.lt_of_lt_of_le h' (Nat.le_max_right levels levels'))
    | halved fault h' => exact .halved fault h'

/-- What holds the values takes a level more. -/
theorem Meets.nest {levels room : Nat} {whole : Bool} {met : Option Limit}
    (h : Meets levels room whole met) : Meets (levels + 1) (room + 1) whole met := by
  cases h with
  | fits h hwhole => exact .fits (Nat.succ_le_succ h) hwhole
  | deep h => exact .deep (Nat.succ_lt_succ h)
  | halved fault h => exact .halved fault h

/-- Every value has a level. -/
theorem levels_pos (v : Json) : 0 < v.levels := by
  cases v with
  | array items =>
    rw [levels]
    exact Nat.succ_pos _
  | object fields =>
    rw [levels]
    exact Nat.succ_pos _
  | _ => exact Nat.one_pos

mutual

/-- The limit that a value exceeds is one that its levels and its keys tell of. Induction on the
value, along the order in which it is written. -/
theorem meets_exceeds? (v : Json) (room : Nat) :
    Meets v.levels room (v.all isWholeKeyed) (v.exceeds? room) := by
  cases room with
  | zero =>
    have hdeep : v.exceeds? 0 = some .levelsWritten := by
      cases v <;> rw [exceeds?]
    rw [hdeep]
    exact .deep v.levels_pos
  | succ room =>
    cases v with
    -- One level down there is room for one level less.
    | array items =>
      rw [levels, exceeds?, all]
      exact (meets_itemsExceed? items room).nest
    | object fields =>
      rw [levels, exceeds?, all]
      exact (meets_fieldsExceed? fields room).nest
    | null => exact .fits (Nat.succ_le_succ (Nat.zero_le room)) rfl
    | bool b => exact .fits (Nat.succ_le_succ (Nat.zero_le room)) rfl
    | int n => exact .fits (Nat.succ_le_succ (Nat.zero_le room)) rfl
    | real x => exact .fits (Nat.succ_le_succ (Nat.zero_le room)) rfl
    | text s => exact .fits (Nat.succ_le_succ (Nat.zero_le room)) rfl

/-- An item comes ahead of those behind it. -/
theorem meets_itemsExceed? (items : List Json) (room : Nat) :
    Meets (levelsOfItems items) room (allItems isWholeKeyed items) (itemsExceed? items room) := by
  match items with
  | [] => exact .fits (Nat.zero_le room) rfl
  | v :: rest =>
    rw [levelsOfItems, allItems, itemsExceed?]
    exact (meets_exceeds? v room).or (meets_itemsExceed? rest room)

/-- A key comes ahead of its value, and both ahead of the fields behind them. -/
theorem meets_fieldsExceed? (fields : Fields) (room : Nat) :
    Meets (levelsOfFields fields) room
      (isWholeKeyed (object fields) && allFields isWholeKeyed fields)
      (fieldsExceed? fields room) := by
  match fields with
  | [] => exact .fits (Nat.zero_le room) rfl
  | (key, v) :: rest =>
    have hboth := (meets_key key room).or
      ((meets_exceeds? v room).or (meets_fieldsExceed? rest room))
    -- The key adds no level of its own.
    rw [Nat.zero_max] at hboth
    rw [levelsOfFields, fieldsExceed?]
    have hkeys : (isWholeKeyed (object ((key, v) :: rest)) &&
        allFields isWholeKeyed ((key, v) :: rest))
          = (!key.holdsHalf && (v.all isWholeKeyed &&
            (isWholeKeyed (object rest) && allFields isWholeKeyed rest))) := by
      rw [allFields, isWholeKeyed, isWholeKeyed, List.any_cons, Bool.not_or, Bool.and_assoc,
        Bool.and_left_comm (v.all isWholeKeyed)]
    rw [hkeys]
    exact hboth

end

/-- A value is written just if it has at most so many levels and its keys are whole. -/
theorem exceeds?_eq_none_iff {v : Json} {room : Nat} :
    v.exceeds? room = none ↔ v.levels ≤ room ∧ v.KeysWhole := by
  have hmeets := v.meets_exceeds? room
  unfold KeysWhole
  generalize v.exceeds? room = met at hmeets
  cases hmeets with
  | fits h hwhole => simp [h, hwhole]
  | deep h => simp [Nat.not_le.mpr h]
  | halved fault hwhole => simp [hwhole]

/-- Where a value has few levels, only a key is in the way of writing it. -/
theorem exceeds?_of_levels {v : Json} {room : Nat} (h : v.levels ≤ room) {limit : Limit}
    (hlimit : v.exceeds? room = some limit) :
    (∃ fault, limit = .keyWritten fault) ∧ ¬v.KeysWhole := by
  have hmeets := v.meets_exceeds? room
  rw [hlimit] at hmeets
  unfold KeysWhole
  cases hmeets with
  | deep hdeep => exact absurd h (Nat.not_le.mpr hdeep)
  | halved fault hwhole => exact ⟨⟨fault, rfl⟩, Bool.eq_false_iff.mp hwhole⟩

/-! ## Integers that are read

An integer of too many digits is not read, so the writers set no limit on them.
-/

section Integers

-- Powers are those of the core library, whatever algebra is imported beside this module.
attribute [local instance (1100)] instPowNat

/-- Digits spell a number of no more digits. Induction on the digits, with what has been spelled. -/
theorem spell_lt {digits : List CodePoint} (h : ∀ c ∈ digits, c.isDigit = true) (start : Nat) :
    Numeric.spell start digits < (start + 1) * 10 ^ digits.length := by
  induction digits generalizing start with
  | nil =>
    rw [List.length_nil, Nat.pow_zero, Nat.mul_one]
    exact Nat.lt_succ_self start
  | cons c rest ih =>
    rw [List.forall_mem_cons, Numeric.isDigit_iff] at h
    have hzero : '0'.toNat = 48 := rfl
    show Numeric.spell (start * 10 + (c.toNat - '0'.toNat)) rest < _
    refine Nat.lt_of_lt_of_le (ih h.2 _) ?_
    rw [List.length_cons, Nat.pow_succ', ← Nat.mul_assoc]
    exact Nat.mul_le_mul_right _ (by omega)

theorem all_int (test : Json → Bool) (n : Int) : (int n).all test = test (int n) := rfl

/-- Whether a value is no integer of more digits than one may have. -/
def isShort : Json → Bool
  | int n => decide (n.natAbs < 10 ^ Numeric.longestInteger)
  | _ => true

/-- More digits than that are a fault. -/
theorem isShort_readInteger {negative : Bool} {digits : List CodePoint}
    (hdigits : ∀ c ∈ digits, c.isDigit = true) {v : Json}
    (h : readInteger negative digits = .ok v) : v.all isShort = true := by
  unfold readInteger at h
  split at h
  · cases h
  · next hfew =>
    cases h
    have hlt := spell_lt hdigits 0
    rw [Nat.zero_add, Nat.one_mul] at hlt
    rw [all_int, isShort, decide_eq_true_iff]
    refine Nat.lt_of_lt_of_le ?_ (Nat.pow_le_pow_right (by omega) (Nat.not_lt.mp hfew))
    split <;> omega

/-- The digits ahead of a fraction and an exponent are all that an integer has. -/
theorem isShort_readNumber {cs rest : List CodePoint} {v : Json}
    (h : readNumber cs = .ok (v, rest)) : v.all isShort = true := by
  unfold readNumber at h
  split at h
  next negative body hsign =>
  split at h
  next whole after hwhole =>
  -- A zero stands alone, other digits are taken as far as they go.
  have hdigits : ∀ c ∈ whole, c.isDigit = true := by
    split at hwhole
    · cases hwhole
      exact List.forall_mem_singleton.mpr (by decide)
    · cases hwhole
      intro c hc
      exact List.mem_takeWhile_imp hc
  split at h
  · cases h
  · dsimp only at h
    split at h
    · obtain ⟨n, hn, hv⟩ := map_eq_ok_iff.mp h
      cases hv
      exact isShort_readInteger hdigits hn
    · cases h
      rfl

/-- The words that stand for values stand for none of too many digits. -/
theorem isShort_words : ∀ e ∈ words, e.2.all isShort = true := by
  unfold words
  simp only [List.forall_mem_cons]
  exact ⟨rfl, rfl, rfl, rfl, rfl, rfl, List.forall_mem_nil _⟩

/-- A scalar that was read is no integer of too many digits. -/
theorem isShort_readScalar {cs rest : List CodePoint} {v : Json}
    (h : readScalar cs = .ok (v, rest)) : v.all isShort = true := by
  unfold readScalar at h
  split at h
  · next word v' hfind =>
    cases h
    exact isShort_words _ (List.mem_of_find?_eq_some hfind)
  · exact isShort_readNumber h

/-- What is read is short, so far as the fuel lasts. -/
structure ReadsShort (fuel : Nat) : Prop where
  value : ∀ {opened cs v rest}, readValue opened fuel cs = .ok (v, rest) → v.all isShort = true
  items : ∀ {opened cs items rest}, readItems opened fuel cs = .ok (items, rest) →
    ∀ v ∈ items, v.all isShort = true
  fields : ∀ {opened cs fields rest}, readFields opened fuel cs = .ok (fields, rest) →
    ∀ e ∈ fields, e.2.all isShort = true

/-- A value is short if what is read inside it is. -/
theorem ReadsShort.readValue {fuel : Nat} (ih : ReadsShort fuel) {opened : Nat}
    {cs rest : List CodePoint} {v : Json}
    (h : Json.readValue opened (fuel + 1) cs = .ok (v, rest)) : v.all isShort = true := by
  unfold Json.readValue at h
  dsimp only at h
  split at h
  · cases h
  · -- a text
    obtain ⟨⟨s, after⟩, -, h⟩ := bind_eq_ok_iff.mp h
    cases h
    rfl
  · -- an array, without or with items
    obtain ⟨_, -, h⟩ := bind_eq_ok_iff.mp h
    split at h
    · cases h
      rfl
    · obtain ⟨⟨items, after⟩, hitems, h⟩ := bind_eq_ok_iff.mp h
      cases h
      rw [all, Bool.and_eq_true, allItems_iff]
      exact ⟨rfl, ih.items hitems⟩
  · -- an object, of which each field is one that was read
    obtain ⟨_, -, h⟩ := bind_eq_ok_iff.mp h
    split at h
    · cases h
      rfl
    · obtain ⟨⟨fields, after⟩, hfields, h⟩ := bind_eq_ok_iff.mp h
      cases h
      rw [all, Bool.and_eq_true, allFields_iff]
      exact ⟨rfl, fun e he => ih.fields hfields e (Entries.mem_ofPairs he)⟩
  · exact isShort_readScalar h

/-- Items are short if the first one and the others are. -/
theorem ReadsShort.readItems {fuel : Nat} (ih : ReadsShort fuel) {opened : Nat}
    {cs rest : List CodePoint} {items : List Json}
    (h : Json.readItems opened (fuel + 1) cs = .ok (items, rest)) :
    ∀ v ∈ items, v.all isShort = true := by
  unfold Json.readItems at h
  obtain ⟨⟨v, after⟩, hv, h⟩ := bind_eq_ok_iff.mp h
  dsimp only at h
  split at h
  · cases h
    exact List.forall_mem_singleton.mpr (ih.value hv)
  · obtain ⟨⟨more, _⟩, hmore, h⟩ := bind_eq_ok_iff.mp h
    cases h
    exact List.forall_mem_cons.mpr ⟨ih.value hv, ih.items hmore⟩
  · cases h

/-- Fields are short if the first one and the others are. -/
theorem ReadsShort.readFields {fuel : Nat} (ih : ReadsShort fuel) {opened : Nat}
    {cs rest : List CodePoint} {fields : Fields}
    (h : Json.readFields opened (fuel + 1) cs = .ok (fields, rest)) :
    ∀ e ∈ fields, e.2.all isShort = true := by
  unfold Json.readFields at h
  dsimp only at h
  split at h
  · obtain ⟨⟨key, after⟩, -, h⟩ := bind_eq_ok_iff.mp h
    dsimp only at h
    split at h
    · obtain ⟨⟨v, behind⟩, hv, h⟩ := bind_eq_ok_iff.mp h
      dsimp only at h
      split at h
      · cases h
        exact List.forall_mem_singleton.mpr (ih.value hv)
      · obtain ⟨⟨more, _⟩, hmore, h⟩ := bind_eq_ok_iff.mp h
        cases h
        exact List.forall_mem_cons.mpr ⟨ih.value hv, ih.fields hmore⟩
      · cases h
    · cases h
  · cases h

/-- Induction on the fuel: what a value holds is read with less. -/
theorem readsShort (fuel : Nat) : ReadsShort fuel := by
  induction fuel with
  | zero => exact ⟨nofun, nofun, nofun⟩
  | succ fuel ih => exact ⟨ih.readValue, ih.readItems, ih.readFields⟩

/-- No integer that a text holds has more digits than one may have. -/
theorem isShort_of_read {s : Text} {v : Json} (h : read s = .ok v) : v.all isShort = true := by
  unfold read readChars at h
  obtain ⟨⟨v', rest⟩, hv, h⟩ := bind_eq_ok_iff.mp h
  dsimp only at h
  split at h
  · cases h
    exact (readsShort _).value hv
  · cases h

end Integers

end Json

namespace Document

open Json

/-! ## What is written as it is -/

mutual

/-- A value without such numbers is written as it is. -/
theorem writable_eq (v : Json) (h : v.AllFinite) : writable v = v := by
  cases v with
  | null => rfl
  | bool b => rfl
  | int n => rfl
  | real x =>
    have hfinite : x.isFinite = true := h
    rw [writable, if_pos hfinite]
  | text s => rfl
  | array items =>
    rw [AllFinite, all, Bool.and_eq_true, allItems_iff] at h
    rw [writable, writableItems_eq items h.2]
  | object fields =>
    rw [AllFinite, all, Bool.and_eq_true, allFields_iff] at h
    rw [writable, writableFields_eq fields h.2]

/-- Items without such numbers are written as they are. -/
theorem writableItems_eq (items : List Json) (h : ∀ v ∈ items, v.AllFinite) :
    writableItems items = items := by
  match items, h with
  | [], _ => rfl
  | v :: rest, h =>
    rw [List.forall_mem_cons] at h
    rw [writableItems, writable_eq v h.1, writableItems_eq rest h.2]

/-- Fields without such numbers are written as they are. -/
theorem writableFields_eq (fields : Fields) (h : ∀ e ∈ fields, e.2.AllFinite) :
    writableFields fields = fields := by
  match fields, h with
  | [], _ => rfl
  | (key, v) :: rest, h =>
    rw [List.forall_mem_cons] at h
    rw [writableFields, writable_eq v h.1, writableFields_eq rest h.2]

end

/-- The fields that are left are put behind those that are written, since no key repeats. Induction
on the fields that are left. -/
theorem dictionaryFrom_eq {written fields : Fields}
    (h : ∀ e ∈ fields, e.1.holdsHalf = false ∧ e.2.AllFinite)
    (hdiffer : ((written ++ fields).map (·.1)).Nodup) :
    dictionaryFrom written fields = written ++ fields := by
  induction fields generalizing written with
  | nil => exact (List.append_nil written).symm
  | cons e rest ih =>
    obtain ⟨key, v⟩ := e
    rw [List.forall_mem_cons] at h
    -- A key among those written would be there twice.
    have hnew : key ∉ written.map (·.1) := by
      intro hmem
      rw [List.map_append, List.nodup_append] at hdiffer
      exact hdiffer.2.2 key hmem key List.mem_cons_self rfl
    have hassoc : written ++ (key, v) :: rest = (written ++ [(key, v)]) ++ rest := by
      rw [List.append_assoc]
      rfl
    rw [hassoc] at hdiffer ⊢
    rw [dictionaryFrom, Text.ofString_toString h.1.1, writable_eq v h.1.2,
      Entries.put_of_not_mem v hnew, ih h.2 hdiffer]

/-- A dictionary in which nothing is lost is written as it is, if it has each key once. -/
theorem dictionary_eq {fields : Fields} (h : (object fields).Portable)
    (hdiffer : (fields.map (·.1)).Nodup) : dictionary fields = fields :=
  dictionaryFrom_eq (fun _ he => ⟨(h.of_field he).1, (h.of_field he).2.finite⟩) hdiffer

end Document

end FamilyDesign
