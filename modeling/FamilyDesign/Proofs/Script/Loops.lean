import FamilyDesign.Proofs.Script.Shortening
import FamilyDesign.Quality.Performance

/-!
# Loops in lines

A script is taken to loop without a bound if a mark of such loops occurs in it, wherever it does. A
mark that begins in one piece of a line and ends in the next would be found in neither, so the
search may look at pieces one by one only where no mark runs across: behind a quotation mark, or
where a piece does not end as a mark begins.

* **`Apart`** — two texts across whose joint no mark runs, and **`loops_append`** — that the search
  looks at each of them.
* **`sounds`** — whether a line of code that is kept holds a mark.
* **`rings`** — the same of a line that may be a comment, and may be broken.

As with the variables of details and voids, a fixed piece is given by its characters, and `simp`
searches a line that is joined from the right.
-/

namespace FamilyDesign.Script

open Quality.Performance (hasUnboundedLoop loopMarks)

/-! ## Marks across a joint -/

variable {s t u : Text}

/-- A word occurs in a text just if it is a stretch of it. -/
theorem occursIn_iff {needle cs : List CodePoint} :
    Text.occursIn needle cs = true ↔ needle <:+: cs := by
  induction cs with
  | nil => simp [Text.occursIn]
  | cons c rest ih =>
    rw [Text.occursIn, Bool.or_eq_true, ih, List.isPrefixOf_iff_prefix, List.infix_cons_iff]

/-- The marks of loops, character by character. -/
def spelledMarks : List (List CodePoint) :=
  [['w', 'h', 'i', 'l', 'e', ' '].map .char,
    ['f', 'o', 'r', ' ', 'i', ' ', 'i', 'n', ' ', 'r', 'a', 'n', 'g', 'e', '(', '1', '0', '0', '0',
      ')'].map .char]

/-- A loop is found just if one of its marks occurs. -/
theorem loops_eq (t : Text) :
    hasUnboundedLoop t = spelledMarks.any (Text.occursIn · t.toList) := by
  have hmarks : loopMarks.map (·.toList) = spelledMarks := by
    rw [loopMarks, spelledMarks, List.map_cons, List.map_singleton, toList_ofString rfl,
      toList_ofString rfl]
  rw [← hmarks, List.any_map]
  rfl

/-- A loop is found just if one of its marks is a stretch of the text. -/
theorem loops_iff : hasUnboundedLoop t = true ↔ ∃ mark ∈ spelledMarks, mark <:+: t.toList := by
  rw [loops_eq, List.any_eq_true]
  exact exists_congr fun mark => and_congr_right fun _ => occursIn_iff

/-- No mark begins in one text and ends in the one behind it. -/
def Apart (s t : Text) : Prop :=
  ∀ mark ∈ spelledMarks, ∀ before after : List CodePoint, mark = before ++ after →
    before ≠ [] → after ≠ [] → before <:+ s.toList → ¬after <+: t.toList

/-- **Where no mark runs across a joint, marks are looked for on both sides.** -/
theorem loops_append (h : Apart s t) :
    hasUnboundedLoop (s ++ t) = (hasUnboundedLoop s || hasUnboundedLoop t) := by
  rw [Bool.eq_iff_iff, Bool.or_eq_true, loops_iff, loops_iff, loops_iff]
  constructor
  · rintro ⟨mark, hmark, hinfix⟩
    rcases List.infix_append_iff.mp hinfix with hleft | hright | ⟨before, after, heq, hs, ht⟩
    · exact .inl ⟨mark, hmark, hleft⟩
    · exact .inr ⟨mark, hmark, hright⟩
    · by_cases hbefore : before = []
      · rw [hbefore, List.nil_append] at heq
        exact .inr ⟨mark, hmark, heq ▸ ht.isInfix⟩
      · by_cases hafter : after = []
        · rw [hafter, List.append_nil] at heq
          exact .inl ⟨mark, hmark, heq ▸ hs.isInfix⟩
        · exact absurd ht (h mark hmark before after heq hbefore hafter hs)
  · rintro (⟨mark, hmark, hinfix⟩ | ⟨mark, hmark, hinfix⟩)
    · exact ⟨mark, hmark, List.infix_append_iff.mpr (.inl hinfix)⟩
    · exact ⟨mark, hmark, List.infix_append_iff.mpr (.inr (.inl hinfix))⟩

/-- The characters with which a mark goes on. -/
def continuesMark (c : CodePoint) : Bool := spelledMarks.any (·.tail.contains c)

/-- The characters behind which a mark goes on. -/
def leadsOn (c : CodePoint) : Bool := spelledMarks.any (·.dropLast.contains c)

/-- Whether a text ends as a mark begins. -/
def endsOpen : List CodePoint → Bool
  | [] => false
  | c :: rest => spelledMarks.any ((c :: rest).isPrefixOf ·.dropLast) || endsOpen rest

/-- No mark goes on with the first character of the second text. -/
theorem apart_of_head (h : t.toList.head?.any continuesMark = false) : Apart s t := by
  intro mark hmark before after heq hbefore hafter _ hprefix
  obtain ⟨c, rest, rfl⟩ := List.exists_cons_of_ne_nil hafter
  obtain ⟨first, before, rfl⟩ := List.exists_cons_of_ne_nil hbefore
  obtain ⟨tail, htail⟩ := hprefix
  have hmem : mark.tail.contains c = true := by
    rw [heq, List.contains_iff_mem, List.cons_append, List.tail_cons]
    exact List.mem_append_right _ List.mem_cons_self
  have hcontinues : continuesMark c = true := List.any_eq_true.mpr ⟨mark, hmark, hmem⟩
  rw [← htail, List.cons_append, List.head?_cons, Option.any_some, hcontinues] at h
  cases h

/-- What stands ahead of the rest of a mark is part of all but its last character. -/
theorem prefix_dropLast {mark before after : List CodePoint} (heq : mark = before ++ after)
    (hafter : after ≠ []) : before <+: mark.dropLast := by
  rw [heq, List.dropLast_append_of_ne_nil hafter]
  exact List.prefix_append before after.dropLast

/-- The first text does not end as a mark begins. Induction on it. -/
theorem apart_of_endsOpen (h : endsOpen s.toList = false) : Apart s t := by
  intro mark hmark before after heq hbefore hafter hsuffix _
  have hopen : ∀ cs : List CodePoint, before <:+ cs → endsOpen cs = true := by
    intro cs hcs
    induction cs with
    | nil => exact absurd (List.suffix_nil.mp hcs) hbefore
    | cons c rest ih =>
      unfold endsOpen
      rw [Bool.or_eq_true, List.any_eq_true]
      rcases List.suffix_cons_iff.mp hcs with rfl | hrest
      · exact .inl ⟨mark, hmark, List.isPrefixOf_iff_prefix.mpr (prefix_dropLast heq hafter)⟩
      · exact .inr (ih hrest)
  rw [hopen _ hsuffix] at h
  cases h

/-- No mark goes on behind the last character of the first text. -/
theorem apart_of_last {c : CodePoint} (hlast : s.toList.getLast? = some c)
    (h : leadsOn c = false) : Apart s t := by
  rintro mark hmark before after heq hbefore hafter ⟨start, hstart⟩ _
  have hc : c ∈ before := by
    rw [← hstart, List.getLast?_append_of_ne_nil _ hbefore] at hlast
    exact List.mem_of_getLast? hlast
  have hmem := (prefix_dropLast heq hafter).subset hc
  exact List.any_eq_false.mp h mark hmark (List.contains_iff_mem.mpr hmem)

/-! ## Pieces of lines -/

section

variable {fixed : String} {cs : List Char} (hs : fixed = String.ofList cs)
include hs

/-- A fixed piece in which no mark stands. -/
@[simp] theorem loops_literal
    (h : spelledMarks.any (Text.occursIn · (cs.map .char)) = false) :
    hasUnboundedLoop (Text.ofString fixed) = false := by
  rwa [loops_eq, toList_ofString hs]

/-- No mark runs from a fixed text into what follows, unless the text ends in part of one. -/
@[simp] theorem loops_literal_append
    (h : endsOpen (cs.map .char) = false) :
    hasUnboundedLoop (Text.ofString fixed ++ t)
      = (hasUnboundedLoop (Text.ofString fixed) || hasUnboundedLoop t) := by
  refine loops_append (apart_of_endsOpen ?_)
  rwa [toList_ofString hs]

theorem head?_literal_append : (Text.ofString fixed ++ t).toList.head?
    = (cs.head?.map CodePoint.char).or t.toList.head? := by
  rw [Text.toList_append, toList_ofString hs, List.head?_append, List.head?_map]

/-- No mark runs into a fixed text, unless the text goes on with part of one. -/
@[simp] theorem loops_append_literal (h : cs.head?.any (continuesMark <| .char ·) = false) :
    hasUnboundedLoop (s ++ Text.ofString fixed)
      = (hasUnboundedLoop s || hasUnboundedLoop (Text.ofString fixed)) := by
  refine loops_append (apart_of_head ?_)
  rwa [toList_ofString hs, List.head?_map, Option.any_map]

@[simp] theorem loops_append_literal_append (hne : cs.isEmpty = false)
    (h : cs.head?.any (continuesMark <| .char ·) = false) :
    hasUnboundedLoop (s ++ (Text.ofString fixed ++ t))
      = (hasUnboundedLoop s || hasUnboundedLoop (Text.ofString fixed ++ t)) := by
  refine loops_append (apart_of_head ?_)
  rw [head?_literal_append hs]
  cases cs with
  | nil => cases hne
  | cons c rest => exact h

end

section

variable (x y z : Numeric.Binary64)

@[simp] theorem loops_quote_append (s : Text) :
    hasUnboundedLoop (quote s ++ t) = (hasUnboundedLoop (quote s) || hasUnboundedLoop t) :=
  loops_append (apart_of_last (getLast?_quote s) (by decide))

@[simp] theorem loops_append_quote (s : Text) :
    hasUnboundedLoop (t ++ quote s) = (hasUnboundedLoop t || hasUnboundedLoop (quote s)) := by
  refine loops_append (apart_of_head ?_)
  rw [head?_quote]
  decide

/-! ### Numbers -/

/-- The notation of a number holds no mark. -/
theorem loops_of_isNotation {s : String} (h : ∀ c ∈ s.toList, Numeric.isNotation c = true) :
    hasUnboundedLoop (Text.ofString s) = false := by
  have hspace : spelledMarks.all (·.contains ' ') = true := by decide
  rw [Bool.eq_false_iff, Ne, loops_iff]
  rintro ⟨mark, hmark, hinfix⟩
  have hmem := hinfix.subset (List.contains_iff_mem.mp (List.all_eq_true.mp hspace mark hmark))
  obtain ⟨c, hc, heq⟩ := List.mem_map.mp hmem
  cases heq
  exact absurd (h ' ' hc) (by decide)

/-- Of a mark at most the first character ends the notation of a number, that of an infinite one,
and the next is an `o`. -/
theorem apart_of_isNotation {s : String} (h : ∀ c ∈ s.toList, Numeric.isNotation c = true)
    (ht : t.toList.head? ≠ some (.char 'o')) : Apart (Text.ofString s) t := by
  -- The marks are few, so all the places to split them at are looked through.
  have hsplit : ∀ mark ∈ spelledMarks, ∀ n ∈ List.range' 1 (mark.length - 1),
      (mark.take n).any (fun c => !c.char?.any Numeric.isNotation) = true ∨
        (mark.drop n).head? = some (.char 'o') := by
    decide
  intro mark hmark before after heq hbefore hafter hsuffix hprefix
  have hlength := congrArg List.length heq
  have hpos := List.length_pos_iff.mpr hbefore
  have hpos' := List.length_pos_iff.mpr hafter
  rw [List.length_append] at hlength
  have hcases := hsplit mark hmark before.length (List.mem_range'_1.mpr (by omega))
  rw [heq, List.take_left, List.drop_left] at hcases
  rcases hcases with hforeign | hhead
  · obtain ⟨c, hc, hnot⟩ := List.any_eq_true.mp hforeign
    obtain ⟨c', hc', rfl⟩ := List.mem_map.mp (hsuffix.subset hc)
    rw [CodePoint.char?, Option.any_some, h c' hc'] at hnot
    cases hnot
  · obtain ⟨rest, hrest⟩ := List.head?_eq_some_iff.mp hhead
    obtain ⟨tail, htail⟩ := hprefix
    rw [← htail, hrest] at ht
    exact ht rfl

@[simp] theorem loops_natural : hasUnboundedLoop (Text.ofString x.natural) = false :=
  loops_of_isNotation fun _ => Numeric.isNotation_of_mem_natural

@[simp] theorem loops_intText (n : Int) :
    hasUnboundedLoop (Text.ofString (Numeric.intText n)) = false :=
  loops_of_isNotation fun _ => Numeric.isNotation_of_mem_intText

section

variable {fixed : String} {cs : List Char} (hs : fixed = String.ofList cs)
include hs

/-- Only an `o` behind the notation of a number could go on with a mark. -/
@[simp] theorem loops_natural_append_literal (h : (cs.head? == some 'o') = false) :
    hasUnboundedLoop (Text.ofString x.natural ++ Text.ofString fixed)
      = hasUnboundedLoop (Text.ofString fixed) := by
  rw [loops_append, loops_natural, Bool.false_or]
  refine apart_of_isNotation (fun _ => Numeric.isNotation_of_mem_natural) fun hhead => ?_
  rw [toList_ofString hs, List.head?_map, Option.map_eq_some_iff] at hhead
  obtain ⟨c, hc, heq⟩ := hhead
  cases heq
  rw [hc] at h
  cases h

end

/-! ### Points, truth values and names of types -/

@[simp] theorem loops_point : hasUnboundedLoop (point x y z) = false := by
  simp (disch := first | exact rfl | decide) [point, pointOf, append_assoc]

@[simp] theorem loops_groundPoint : hasUnboundedLoop (groundPoint x y) = false := by
  simp (disch := first | exact rfl | decide) [groundPoint, pointOf, append_assoc]

/-- A point ends in a bracket, so no mark runs out of it. -/
@[simp] theorem loops_pointOf_append (a b c : Text) : hasUnboundedLoop (pointOf a b c ++ t)
    = (hasUnboundedLoop (pointOf a b c) || hasUnboundedLoop t) := by
  refine loops_append (apart_of_last (c := .char ')') ?_ (by decide))
  show (_ ++ [CodePoint.char ')']).getLast? = _
  exact List.getLast?_concat

@[simp] theorem loops_point_append :
    hasUnboundedLoop (point x y z ++ t) = hasUnboundedLoop t := by
  have hjoint := loops_pointOf_append (t := t) x.natural y.natural z.natural
  rw [← point, loops_point, Bool.false_or] at hjoint
  exact hjoint

@[simp] theorem loops_groundPoint_append :
    hasUnboundedLoop (groundPoint x y ++ t) = hasUnboundedLoop t := by
  have hjoint := loops_pointOf_append (t := t) x.natural y.natural "0"
  rw [← groundPoint, loops_groundPoint, Bool.false_or] at hjoint
  exact hjoint

@[simp] theorem loops_truthLiteral (b : Bool) : hasUnboundedLoop (truthLiteral b) = false := by
  cases b <;> exact loops_literal rfl (by decide)

@[simp] theorem loops_truthLiteral_append (b : Bool) :
    hasUnboundedLoop (truthLiteral b ++ t) = hasUnboundedLoop t := by
  have hjoint : hasUnboundedLoop (truthLiteral b ++ t)
      = (hasUnboundedLoop (truthLiteral b) || hasUnboundedLoop t) := by
    cases b <;> exact loops_literal_append rfl (by decide)
  rw [hjoint, loops_truthLiteral, Bool.false_or]

@[simp] theorem loops_specOf (typeName : Text) : hasUnboundedLoop (specOf typeName) = false := by
  unfold specOf
  split <;> exact loops_literal rfl (by decide)

@[simp] theorem loops_groupOf (name : Text) : hasUnboundedLoop (groupOf name) = false := by
  -- what is looked up is a value of the table
  have htable : ∀ entry ∈ groups, hasUnboundedLoop entry.2 = false := by
    simp (disch := first | exact rfl | decide) [groups]
  unfold groupOf
  cases h : groups.lookup name with
  | none => exact loops_literal rfl (by decide)
  | some value =>
    obtain ⟨before, after, hentries, -⟩ := List.lookup_eq_some_iff.mp h
    exact htable (name, value) (by simp [hentries])

/-- What a value is written as runs on into no mark behind it. -/
theorem loops_formatValue_append {v : Json} {typeName written : Text}
    (h : formatValue v typeName = .ok written) :
    hasUnboundedLoop (written ++ ")") = hasUnboundedLoop written := by
  have hclosing : hasUnboundedLoop ")" = false := loops_literal rfl (by decide)
  refine formatValue_cases
    (motive := fun written => hasUnboundedLoop (written ++ ")") = hasUnboundedLoop written)
    ?_ ?_ ?_ ?_ h
  · intro s
    rw [loops_quote_append, hclosing, Bool.or_false]
  · intro b
    rw [loops_truthLiteral_append, loops_truthLiteral, hclosing]
  · intro x
    rw [loops_natural_append_literal x rfl (by decide), loops_natural, hclosing]
  · intro n
    have hjoint : Apart (Text.ofString (Numeric.intText n)) ")" :=
      apart_of_isNotation (fun _ => Numeric.isNotation_of_mem_intText) (by decide)
    rw [loops_append hjoint, hclosing, Bool.or_false]

@[simp] theorem loops_word (role : Role) : hasUnboundedLoop role.word = false := by
  cases role <;> exact loops_literal rfl (by decide)

@[simp] theorem loops_word_append (role : Role) :
    hasUnboundedLoop (role.word ++ t) = hasUnboundedLoop t := by
  have hjoint : hasUnboundedLoop (role.word ++ t)
      = (hasUnboundedLoop role.word || hasUnboundedLoop t) := by
    cases role <;> exact loops_literal_append rfl (by decide)
  rw [hjoint, loops_word, Bool.false_or]

end

/-! ## Lines -/

/-- The lines into which a line falls that holds newlines. -/
def brokenLines (line : Text) : List Text := (Text.pieces '\n' line.toList).map .ofList

/-- Whether a rule leaves a mark of a line, where the rules apply if the level of detail is low. -/
def rings (low : Bool) (line : Text) : Bool :=
  (brokenLines line).any fun piece => !(low && isDropped piece) && hasUnboundedLoop piece

/-- The same of a line of code that is put together of these pieces, as far as they matter. -/
def sounds (low : Bool) (pieces : List Text) : Bool :=
  !(low && pieces.any mentions) && pieces.any hasUnboundedLoop

variable {low : Bool} {line : Text}

/-- A text without a newline is one line. -/
theorem brokenLines_of_breaks (h : line.breaks = 0) : brokenLines line = [line] := by
  have hpieces : ∀ {cs : List CodePoint}, CodePoint.char '\n' ∉ cs →
      Text.pieces '\n' cs = [cs] := by
    intro cs hcs
    induction cs with
    | nil => rfl
    | cons c cs ih =>
      rw [List.mem_cons, not_or] at hcs
      rw [Text.pieces, if_neg (Ne.symm hcs.1), ih hcs.2]
  unfold brokenLines
  rw [hpieces (Text.breaks_eq_zero_iff.mp h)]
  rfl

/-- A text without a newline rings if it is kept and has a mark. -/
theorem rings_of_breaks (h : line.breaks = 0) :
    rings low line = (!(low && isDropped line) && hasUnboundedLoop line) := by
  unfold rings
  rw [brokenLines_of_breaks h, List.any_cons, List.any_nil, Bool.or_false]

/-- Of a line of code it matters what it mentions and which marks it holds. -/
theorem rings_of_comments? (hcode : comments? s = some false) (hbreaks : (s ++ t).breaks = 0) :
    rings low (s ++ t) = sounds low [s ++ t] := by
  have hcomment : isComment (s ++ t).toList = false := by
    rw [isComment_eq, comments?_append, hcode]
    rfl
  rw [rings_of_breaks hbreaks]
  unfold isDropped sounds
  rw [hcomment, Bool.false_or, List.any_cons, List.any_nil, Bool.or_false, List.any_cons,
    List.any_nil, Bool.or_false]

/-- Broken lines have no newline left in them. -/
theorem unbroken_brokenLines (lines : List Text) : Unbroken (lines.flatMap brokenLines) := by
  have hpieces : ∀ cs : List CodePoint, ∀ piece ∈ Text.pieces '\n' cs,
      CodePoint.char '\n' ∉ piece := by
    -- Induction on the characters: a newline starts a piece, any other goes to the first one.
    intro cs
    induction cs with
    | nil => exact List.forall_mem_singleton.mpr List.not_mem_nil
    | cons c cs ih =>
      unfold Text.pieces
      split
      · exact List.forall_mem_cons.mpr ⟨List.not_mem_nil, ih⟩
      · next hc =>
        split
        · exact List.forall_mem_singleton.mpr fun hmem =>
            hc (List.mem_singleton.mp hmem).symm
        · next piece others heq =>
          rw [heq, List.forall_mem_cons] at ih
          exact List.forall_mem_cons.mpr
            ⟨fun hmem => (List.mem_cons.mp hmem).elim (fun h => hc h.symm) ih.1, ih.2⟩
  intro piece hpiece
  obtain ⟨line, -, hmem⟩ := List.mem_flatMap.mp hpiece
  obtain ⟨cs, hcs, rfl⟩ := List.mem_map.mp hmem
  exact hpieces _ cs hcs

/-- A broken line is its lines. Induction on the line. -/
theorem unlines_brokenLines (lines : List Text) :
    unlines (lines.flatMap brokenLines) = unlines lines := by
  have hline : ∀ cs : List CodePoint, (Text.pieces '\n' cs).flatMap (· ++ [.char '\n'])
      = cs ++ [.char '\n'] := by
    intro cs
    induction cs with
    | nil => rfl
    | cons c cs ih =>
      unfold Text.pieces
      split
      · next hc =>
        rw [List.flatMap_cons, ih, hc]
        rfl
      · split
        · -- There is always a piece.
          next heq =>
          rw [heq] at ih
          cases List.append_ne_nil_of_right_ne_nil cs (List.cons_ne_nil _ _) ih.symm
        · next piece others heq =>
          rw [heq, List.flatMap_cons] at ih
          rw [List.flatMap_cons, List.cons_append, List.cons_append, ih, List.cons_append]
  refine congrArg Text.ofList ?_
  rw [List.flatMap_assoc]
  refine List.flatMap_congr fun line _ => ?_
  unfold brokenLines
  rw [List.flatMap_map]
  exact hline line.toList

/-- No mark runs over the end of a line. -/
theorem loops_unlines (lines : List Text) :
    hasUnboundedLoop (unlines lines) = lines.any hasUnboundedLoop := by
  have hempty : hasUnboundedLoop "" = false := loops_literal rfl (by decide)
  induction lines with
  | nil => exact hempty
  | cons line rest ih =>
    rw [unlines_cons, append_assoc]
    simp (disch := first | exact rfl | decide) [ih]

/-- **What is left of a script holds a mark just if a line of it does that is left.** -/
theorem loops_optimize (d : Design) (lines : List Text) :
    hasUnboundedLoop (optimize Rule.standard d (unlines lines)).1
      = lines.any (rings (isLowDetail d)) := by
  rw [← unlines_brokenLines, optimize_eq_unlines (unbroken_brokenLines lines), loops_unlines,
    List.any_filter, List.any_flatMap]
  rfl

/-- What has no mark in it belongs to the first piece. -/
theorem pieces_append {mark : CodePoint} {before cs first : List CodePoint}
    {rest : List (List CodePoint)} (h : mark ∉ before)
    (hfirst : Text.pieces mark cs = first :: rest) :
    Text.pieces mark (before ++ cs) = (before ++ first) :: rest := by
  induction before with
  | nil => exact hfirst
  | cons c before ih =>
    rw [List.mem_cons, not_or] at h
    rw [List.cons_append, Text.pieces, if_neg (Ne.symm h.1), ih h.2]
    rfl

theorem loops_indented (line : Text) :
    hasUnboundedLoop ("    " ++ line) = hasUnboundedLoop line := by
  simp (disch := first | exact rfl | decide)

/-- Indentation does not matter. -/
theorem rings_indented (line : Text) : rings low ("    " ++ line) = rings low line := by
  have hindentation : CodePoint.char '\n' ∉ ("    " : Text).toList := by decide
  cases hfirst : Text.pieces '\n' line.toList with
  | nil =>
    have hlength := Text.length_pieces '\n' line.toList
    rw [hfirst] at hlength
    cases hlength
  | cons first rest =>
    have hboth := pieces_append hindentation hfirst
    rw [← Text.toList_append] at hboth
    have hdropped : isDropped ("    " ++ .ofList first) = isDropped (.ofList first) := by
      unfold isDropped
      rw [isComment_indented, mentions_indented]
    have hloops := loops_indented (.ofList first)
    have hsame : Text.ofList (("    " : Text).toList ++ first) = "    " ++ .ofList first := rfl
    unfold rings brokenLines
    rw [hboth, hfirst, List.map_cons, List.map_cons, List.any_cons, List.any_cons, hsame, hdropped,
      hloops]

theorem any_rings_indent (low : Bool) (lines : List Text) :
    (indent lines).any (rings low) = lines.any (rings low) := by
  have hany := congrArg (List.any · id) (map_indent (f := rings low) rings_indented lines)
  rwa [List.any_map, List.any_map] at hany

section

variable {fixed : String} {cs : List Char} (hs : fixed = String.ofList cs)
include hs

/-- The characters of a fixed piece are at hand, so its bytes do not matter. -/
@[simp] theorem breaks_fixed (h : cs.contains '\n' = false) : (Text.ofString fixed).breaks = 0 := by
  rw [Text.breaks_eq_zero_iff, toList_ofString hs, List.mem_map]
  rintro ⟨c, hc, heq⟩
  cases heq
  rw [List.contains_iff_mem.mpr hc] at h
  cases h

variable (low : Bool)

/-- A fixed line holds none. -/
@[simp] theorem rings_literal (hnewline : cs.contains '\n' = false)
    (h : spelledMarks.any (Text.occursIn · (cs.map .char)) = false) :
    rings low (Text.ofString fixed) = false := by
  rw [rings_of_breaks (breaks_fixed hs hnewline), loops_literal hs h, Bool.and_false]

/-- A line that opens with a fixed piece of code. -/
@[simp] theorem rings_code (hbreaks : (Text.ofString fixed ++ t).breaks = 0)
    (h : ((cs.map .char).dropWhile isIndentation).head?.map (· == .char '#') = some false) :
    rings low (Text.ofString fixed ++ t) = sounds low [Text.ofString fixed ++ t] :=
  rings_of_comments? ((comments?_literal hs).trans h) hbreaks

end

@[simp] theorem rings_blankLine (low : Bool) : rings low blankLine = false :=
  rings_literal rfl low (by decide) (by decide)

/-- A line of numbers and fixed pieces holds none, be it a comment or not. -/
theorem rings_of_loops (hbreaks : line.breaks = 0) (h : hasUnboundedLoop line = false) :
    rings low line = false := by
  rw [rings_of_breaks hbreaks, h, Bool.and_false]

end FamilyDesign.Script
