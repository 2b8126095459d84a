import FamilyDesign.Formula.Substitution
import FamilyDesign.Proofs.Formula.Scanning

/-!
# Whole words replaced, piece by piece

What substitution makes of a formula, in the pieces into which a scan of it falls: it changes
nothing but whole names, and of those only the word itself.

* **`Follows`** — what stands behind a whole-word occurrence.
* **`replaceFrom_cons`**, **`replaceFrom_name`** — what is put in the place of a piece.
* **`follows_cons_iff`**, **`follows_name_iff`** — where the occurrences are.
* **`takeSymbol_replaceFrom`** — symbols are taken as before.
-/

namespace FamilyDesign.Formula

/-- `tail` follows a whole-word occurrence of the word; `glued` tells that a character of a name
stands ahead of the text. -/
inductive Follows (word : List CodePoint) : Bool → List CodePoint → List CodePoint → Prop
  | here {tail : List CodePoint} (h : StopsName tail) : Follows word false (word ++ tail) tail
  | later {glued : Bool} {c : CodePoint} {rest tail : List CodePoint}
      (h : Follows word (inName c) rest tail) : Follows word glued (c :: rest) tail

variable {word replacement : List CodePoint} {glued : Bool} {c : CodePoint}
  {name rest tail : List CodePoint}

/-! ## Where the word stands -/

/-- A word is ahead just if it is whole: behind no character of a name, and ahead of none. -/
theorem wordAhead_iff {cs : List CodePoint} : wordAhead word glued cs = true ↔
    glued = false ∧ ∃ tail, StopsName tail ∧ cs = word ++ tail := by
  unfold wordAhead
  rw [Bool.and_eq_true, Bool.and_eq_true, Bool.not_eq_true', Bool.not_eq_true',
    List.isPrefixOf_iff_prefix, and_assoc]
  refine and_congr_right fun _ => ?_
  constructor
  · rintro ⟨⟨tail, rfl⟩, hstops⟩
    rw [List.drop_left] at hstops
    refine ⟨tail, ?_, rfl⟩
    intro c hc
    rw [Option.mem_def.mp hc] at hstops
    exact hstops
  · rintro ⟨tail, hstops, rfl⟩
    refine ⟨List.prefix_append _ _, ?_⟩
    rw [List.drop_left]
    -- At the end of the text nothing is left that could go on with the name.
    cases tail with
    | nil => rfl
    | cons c rest => exact hstops c rfl

/-- The word does not stand where no name starts. -/
theorem wordAhead_of_not_startsName (hword : IsName word) (hstart : startsName c = false) :
    wordAhead word glued (c :: rest) = false := by
  obtain ⟨first, name, rfl, hfirst, -⟩ := hword
  rw [Bool.eq_false_iff]
  intro h
  obtain ⟨-, tail, -, heq⟩ := wordAhead_iff.mp h
  cases heq
  rw [hstart] at hfirst
  cases hfirst

/-- What stops a name starts none. -/
theorem StopsName.startsName (h : StopsName (c :: rest)) : startsName c = false := by
  rw [Bool.eq_false_iff]
  intro hstart
  have hname := inName_of_startsName hstart
  rw [h c rfl] at hname
  cases hname

/-- Behind a character of a name no word is ahead. -/
theorem wordAhead_of_glued (cs : List CodePoint) : wordAhead word true cs = false := rfl

/-- Two names with something behind them that stops a name. -/
theorem name_inj {name name' rest rest' : List CodePoint} (hname : ∀ x ∈ name, inName x = true)
    (hname' : ∀ x ∈ name', inName x = true) (hstops : StopsName rest) (hstops' : StopsName rest')
    (h : name ++ rest = name' ++ rest') : name = name' ∧ rest = rest' := by
  constructor
  · rw [← takeWhile_inName hname hstops, h, takeWhile_inName hname' hstops']
  · rw [← dropWhile_inName hname hstops, h, dropWhile_inName hname' hstops']

theorem IsName.forall_inName (h : IsName word) : ∀ x ∈ word, inName x = true := by
  obtain ⟨c, name, rfl, hstart, hname⟩ := h
  rw [List.forall_mem_cons]
  exact ⟨inName_of_startsName hstart, hname⟩

theorem IsName.ne_nil (h : IsName word) : word ≠ [] := by
  obtain ⟨c, name, rfl, -⟩ := h
  exact List.cons_ne_nil c name

/-- A name that is not glued is an occurrence just if it is the word. -/
theorem wordAhead_name_iff (hword : IsName word) (hname : ∀ x ∈ name, inName x = true)
    (hstops : StopsName rest) :
    wordAhead word glued (name ++ rest) = true ↔ glued = false ∧ name = word := by
  rw [wordAhead_iff]
  refine and_congr_right fun _ => ?_
  constructor
  · rintro ⟨tail, htail, heq⟩
    exact (name_inj hname hword.forall_inName hstops htail heq).1
  · rintro rfl
    exact ⟨rest, hstops, rfl⟩

/-! ## What is put in its place -/

/-- Nothing is replaced in an empty text. -/
theorem replaceFrom_nil (hword : IsName word) : replaceFrom word replacement 0 glued [] = [] := by
  obtain ⟨c, name, rfl, -⟩ := hword
  unfold replaceFrom
  refine if_neg ?_
  rw [wordAhead_iff]
  rintro ⟨-, tail, -, heq⟩
  cases heq

theorem replaceFrom_of_not_ahead (h : wordAhead word glued (c :: rest) = false) :
    replaceFrom word replacement 0 glued (c :: rest)
      = c :: replaceFrom word replacement 0 (inName c) rest := by
  rw [replaceFrom, if_neg (by rw [h]; exact Bool.false_ne_true)]

/-- A character at which no name starts stays. -/
theorem replaceFrom_cons (hword : IsName word) (hstart : startsName c = false) :
    replaceFrom word replacement 0 glued (c :: rest)
      = c :: replaceFrom word replacement 0 (inName c) rest :=
  replaceFrom_of_not_ahead (wordAhead_of_not_startsName hword hstart)

/-- Ahead of what stops a name it does not matter what stands before. -/
theorem replaceFrom_of_stops (hword : IsName word) (hstops : StopsName rest) :
    replaceFrom word replacement 0 glued rest = replaceFrom word replacement 0 false rest := by
  cases rest with
  | nil => rw [replaceFrom_nil hword, replaceFrom_nil hword]
  | cons c rest =>
    have hstart := hstops.startsName
    rw [replaceFrom_cons hword hstart, replaceFrom_cons hword hstart]

/-- The rest of a name stays. -/
theorem replaceFrom_glued (hname : ∀ x ∈ name, inName x = true) :
    replaceFrom word replacement 0 true (name ++ rest)
      = name ++ replaceFrom word replacement 0 true rest := by
  induction name with
  | nil => rfl
  | cons c name ih =>
    rw [List.forall_mem_cons] at hname
    rw [List.cons_append, replaceFrom_of_not_ahead (wordAhead_of_glued _), hname.1, ih hname.2,
      List.cons_append]

/-- The rest of an occurrence is left out. -/
theorem replaceFrom_skip (hname : ∀ x ∈ name, inName x = true) :
    replaceFrom word replacement name.length true (name ++ rest)
      = replaceFrom word replacement 0 true rest := by
  induction name with
  | nil => rfl
  | cons c name ih =>
    rw [List.forall_mem_cons] at hname
    rw [List.length_cons, List.cons_append, replaceFrom, hname.1, ih hname.2]

/-- **A name stays unless it is the word.** -/
theorem replaceFrom_name (hword : IsName word) (hstart : startsName c = true)
    (hname : ∀ x ∈ name, inName x = true) (hstops : StopsName rest) :
    replaceFrom word replacement 0 glued (c :: name ++ rest)
      = (if glued = false ∧ c :: name = word then replacement else c :: name)
        ++ replaceFrom word replacement 0 false rest := by
  have hfirst := inName_of_startsName hstart
  have hall : ∀ x ∈ c :: name, inName x = true := List.forall_mem_cons.mpr ⟨hfirst, hname⟩
  have hahead : wordAhead word glued (c :: name ++ rest) = true ↔
      glued = false ∧ c :: name = word := wordAhead_name_iff hword hall hstops
  split
  · next h =>
    -- past its first character the word is skipped
    have hlength : word.length - 1 = name.length := by
      rw [← h.2, List.length_cons, Nat.add_sub_cancel]
    have hne : word.isEmpty = false := List.isEmpty_eq_false_iff.mpr hword.ne_nil
    rw [List.cons_append] at hahead ⊢
    rw [replaceFrom, if_pos (hahead.mpr h), hne, if_neg Bool.false_ne_true, List.append_nil,
      hlength, hfirst, replaceFrom_skip hname, replaceFrom_of_stops hword hstops]
  · next h =>
    rw [List.cons_append] at hahead ⊢
    rw [replaceFrom_of_not_ahead (Bool.eq_false_iff.mpr fun hword => h (hahead.mp hword)), hfirst,
      replaceFrom_glued hname, replaceFrom_of_stops hword hstops, List.cons_append]

/-- What stops a name still does so. -/
theorem StopsName.replaceFrom (hword : IsName word) (hstops : StopsName rest) :
    StopsName (replaceFrom word replacement 0 false rest) := by
  cases rest with
  | nil =>
    rw [replaceFrom_nil hword]
    exact hstops
  | cons c rest =>
    rw [replaceFrom_cons hword hstops.startsName]
    exact hstops

/-- Digits stay. -/
theorem replaceFrom_digits (hword : IsName word) {digits : List CodePoint}
    (hdigits : ∀ x ∈ digits, Text.isDecimalDigit x = true) (glued : Bool) :
    ∃ glued', replaceFrom word replacement 0 glued (digits ++ rest)
      = digits ++ replaceFrom word replacement 0 glued' rest := by
  induction digits generalizing glued with
  | nil => exact ⟨glued, rfl⟩
  | cons c digits ih =>
    rw [List.forall_mem_cons] at hdigits
    obtain ⟨glued', heq⟩ := ih hdigits.2 (inName c)
    refine ⟨glued', ?_⟩
    rw [List.cons_append, replaceFrom_cons hword (startsName_of_isDecimalDigit hdigits.1), heq,
      List.cons_append]

/-! ## Where the occurrences are -/

/-- The word does not occur in an empty text. -/
theorem not_follows_nil (hword : IsName word) : ¬Follows word glued [] tail := by
  obtain ⟨c, name, rfl, -⟩ := hword
  intro h
  generalize hcs : ([] : List CodePoint) = cs at h
  cases h with
  | here => cases hcs
  | later => cases hcs

/-- An occurrence is right here or behind the first character. -/
theorem follows_cons {cs : List CodePoint} (h : Follows word glued cs tail) :
    (glued = false ∧ StopsName tail ∧ cs = word ++ tail) ∨
      ∃ c rest, cs = c :: rest ∧ Follows word (inName c) rest tail := by
  cases h with
  | here h => exact .inl ⟨rfl, h, rfl⟩
  | later h => exact .inr ⟨_, _, rfl, h⟩

/-- There is no occurrence at a character at which no name starts. -/
theorem follows_cons_iff (hword : IsName word) (hstart : startsName c = false) :
    Follows word glued (c :: rest) tail ↔ Follows word (inName c) rest tail := by
  refine ⟨fun h => ?_, .later⟩
  rcases follows_cons h with ⟨hglued, hstops, heq⟩ | ⟨c', rest', heq, h⟩
  · have hahead : wordAhead word glued (c :: rest) = false :=
      wordAhead_of_not_startsName hword hstart
    rw [wordAhead_iff.mpr ⟨hglued, tail, hstops, heq⟩] at hahead
    cases hahead
  · cases heq
    exact h

/-- Ahead of what stops a name it does not matter what stands behind. -/
theorem follows_of_stops (hword : IsName word) (hstops : StopsName rest) :
    Follows word glued rest tail ↔ Follows word false rest tail := by
  cases rest with
  | nil => exact iff_of_false (not_follows_nil hword) (not_follows_nil hword)
  | cons c rest =>
    have hstart := hstops.startsName
    rw [follows_cons_iff hword hstart, follows_cons_iff hword hstart]

/-- Within a name the word does not occur. -/
theorem follows_glued_iff (hname : ∀ x ∈ name, inName x = true) :
    Follows word true (name ++ rest) tail ↔ Follows word true rest tail := by
  induction name with
  | nil => exact Iff.rfl
  | cons c name ih =>
    rw [List.forall_mem_cons] at hname
    rw [← ih hname.2]
    refine ⟨fun h => ?_, fun h => .later (hname.1 ▸ h)⟩
    rcases follows_cons h with ⟨hglued, -⟩ | ⟨c', rest', heq, h⟩
    · cases hglued
    · cases heq
      exact hname.1 ▸ h

/-- An occurrence is a name by itself, or stands behind it. -/
theorem follows_name_iff (hword : IsName word) (hstart : startsName c = true)
    (hname : ∀ x ∈ name, inName x = true) (hstops : StopsName rest) :
    Follows word glued (c :: name ++ rest) tail ↔
      (glued = false ∧ c :: name = word) ∧ tail = rest ∨ Follows word false rest tail := by
  have hfirst := inName_of_startsName hstart
  have hall : ∀ x ∈ c :: name, inName x = true := List.forall_mem_cons.mpr ⟨hfirst, hname⟩
  have hglued : Follows word true rest tail ↔ Follows word false rest tail :=
    follows_of_stops hword hstops
  rw [← hglued, ← follows_glued_iff hname]
  constructor
  · intro h
    -- Here it is the name itself; one character on, the scan is within the name.
    rcases follows_cons h with ⟨hfree, htail, heq⟩ | ⟨c', rest', heq, h⟩
    · obtain ⟨hsame, hrest⟩ := name_inj hall hword.forall_inName hstops htail heq
      exact .inl ⟨⟨hfree, hsame⟩, hrest.symm⟩
    · cases heq
      exact .inr (hfirst ▸ h)
  · rintro (⟨⟨rfl, hsame⟩, rfl⟩ | h)
    · rw [hsame]
      exact .here hstops
    · exact .later (hfirst.symm ▸ h)

/-- A symbol is one character, or an equality sign comes with it. -/
theorem takeSymbol_rest (c : CodePoint) (cs : List CodePoint) :
    (takeSymbol c cs).2.2 = cs ∨ cs = .char '=' :: (takeSymbol c cs).2.2 := by
  unfold takeSymbol
  split
  · next hjoined =>
    rw [Bool.and_eq_true, beq_iff_eq] at hjoined
    cases cs with
    | nil => cases hjoined.2
    | cons c' rest =>
      rw [Option.some.inj hjoined.2]
      exact .inr rfl
  · repeat' split
    all_goals exact .inl rfl

/-- The word does not occur within a symbol. -/
theorem follows_symbol_iff (hword : IsName word) (hsymbol : IsSymbol c) :
    Follows word glued (c :: rest) tail ↔ Follows word false (takeSymbol c rest).2.2 tail := by
  rw [follows_cons_iff hword hsymbol.name, hsymbol.inName]
  rcases takeSymbol_rest c rest with hrest | hrest
  · rw [hrest]
  · generalize (takeSymbol c rest).2.2 = after at hrest ⊢
    rw [hrest]
    exact follows_cons_iff hword rfl

/-! ## Symbols and digits ahead -/

section Ahead

variable {cs : List CodePoint} (hword : IsName word) (hne : replacement ≠ [])
include hword hne

/-- The front of a text changes only where the word stands there. -/
theorem head?_replaceFrom : (replaceFrom word replacement 0 glued cs).head?
    = if wordAhead word glued cs then replacement.head? else cs.head? := by
  cases cs with
  | nil =>
    have hahead : wordAhead word glued [] = false := by
      rw [Bool.eq_false_iff]
      intro h
      obtain ⟨-, tail, -, heq⟩ := wordAhead_iff.mp h
      exact hword.ne_nil (List.append_eq_nil_iff.mp heq.symm).1
    rw [replaceFrom_nil hword, hahead]
    rfl
  | cons c rest =>
    cases hahead : wordAhead word glued (c :: rest) with
    | false =>
      rw [replaceFrom_of_not_ahead hahead]
      rfl
    | true =>
      obtain ⟨hglued, tail, hstops, heq⟩ := wordAhead_iff.mp hahead
      obtain ⟨first, name, rfl, hstart, hname⟩ := id hword
      -- The replacement is not empty, so the new text opens with its first character.
      obtain ⟨c', replacement', rfl⟩ := List.exists_cons_of_ne_nil hne
      rw [heq, replaceFrom_name hword hstart hname hstops, if_pos ⟨hglued, rfl⟩]
      rfl

/-- Digits are ahead as before, except that the word gives way to what replaces it. -/
theorem digitAhead_replaceFrom : digitAhead (replaceFrom word replacement 0 glued cs)
    = if wordAhead word glued cs then digitAhead replacement else digitAhead cs := by
  unfold digitAhead
  rw [head?_replaceFrom hword hne]
  split <;> rfl

/-- A digit that is ahead stays there. -/
theorem digitAhead_replaceFrom_of_digitAhead (h : digitAhead cs = true) :
    digitAhead (replaceFrom word replacement 0 glued cs) = true := by
  cases cs with
  | nil => cases h
  | cons c rest =>
    have hdigit : Text.isDecimalDigit c = true := h
    rw [digitAhead_replaceFrom hword hne,
      wordAhead_of_not_startsName hword (startsName_of_isDecimalDigit hdigit)]
    exact h

/-- **Symbols are taken as before**, if the word does not give way to an equality sign. -/
theorem takeSymbol_replaceFrom (hequal : replacement.head? ≠ some (.char '=')) :
    takeSymbol c (replaceFrom word replacement 0 false cs)
      = ((takeSymbol c cs).1, (takeSymbol c cs).2.1,
        replaceFrom word replacement 0 false (takeSymbol c cs).2.2) := by
  -- The one character looked ahead for is an equality sign, and no replacement makes or hides one.
  have hhead : ((replaceFrom word replacement 0 false cs).head? == some (.char '='))
      = (cs.head? == some (.char '=')) := by
    rw [head?_replaceFrom hword hne]
    cases hahead : wordAhead word false cs with
    | false => rfl
    | true =>
      obtain ⟨-, tail, -, rfl⟩ := wordAhead_iff.mp hahead
      obtain ⟨first, name, rfl, hstart, -⟩ := id hword
      have hfirst : first ≠ .char '=' := by
        rintro rfl
        cases hstart
      rw [if_pos rfl, beq_false_of_ne hequal, List.cons_append, List.head?_cons,
        beq_false_of_ne (by simpa using hfirst)]
  have hdrop : cs.head? = some (.char '=') → (replaceFrom word replacement 0 false cs).drop 1
      = replaceFrom word replacement 0 false (cs.drop 1) := by
    intro hequal
    cases cs with
    | nil => cases hequal
    | cons c' rest =>
      cases hequal
      rw [replaceFrom_cons hword rfl]
      rfl
  unfold takeSymbol
  rw [hhead]
  split
  · next hjoined =>
    rw [Bool.and_eq_true, beq_iff_eq] at hjoined
    rw [hdrop hjoined.2]
  · repeat' split
    all_goals rfl

end Ahead

end FamilyDesign.Formula
