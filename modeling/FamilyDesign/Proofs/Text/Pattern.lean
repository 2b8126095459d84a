import FamilyDesign.Text.LetterTable
import FamilyDesign.Text.Search

/-!
# Patterns

A pattern describes characters at a place of a text. The places at which a match may end come in the
order in which a search that steps back tries them, so that the first of them is the match: a run
takes as much as it can, and gives back one character after another.

* **`ends_append`** — a pattern that accepts no newline sees nothing of the next line.
* **`erase_line`** — a pattern of whole lines is erased line by line: it takes a line with its
  newline, joins no two lines, and leaves a line that its body does not match.
-/

namespace FamilyDesign.Text

/-- A pattern. -/
inductive Pattern
  | lineStart
  | wordEdge
  | one (accepts : CodePoint → Bool)
  | optional (accepts : CodePoint → Bool)
  | run (accepts : CodePoint → Bool)
  | empty
  | both (first second : Pattern)
  | either (first second : Pattern)

/-- A place of a text: the character before it, and what stands behind it. A newline stands for the
start of the text, which is the start of a line and not in a word. -/
structure Spot where
  last : CodePoint
  rest : List CodePoint

/-- A place of a line within a text that goes on. -/
def Spot.before (s : Spot) (tail : List CodePoint) : Spot := ⟨s.last, s.rest ++ tail⟩

namespace Pattern

/-- The places within a run of characters, the last of them first. -/
def runEnds (accepts : CodePoint → Bool) : CodePoint → List CodePoint → List Spot
  | last, [] => [⟨last, []⟩]
  | last, c :: cs =>
    if accepts c then runEnds accepts c cs ++ [⟨last, c :: cs⟩] else [⟨last, c :: cs⟩]

theorem runEnds_cons (accepts : CodePoint → Bool) (last c : CodePoint) (cs : List CodePoint) :
    runEnds accepts last (c :: cs)
      = if accepts c then runEnds accepts c cs ++ [⟨last, c :: cs⟩] else [⟨last, c :: cs⟩] := rfl

/-- The place behind one character. -/
def oneEnds (accepts : CodePoint → Bool) : List CodePoint → List Spot
  | [] => []
  | c :: cs => if accepts c then [⟨c, cs⟩] else []

theorem oneEnds_cons (accepts : CodePoint → Bool) (c : CodePoint) (cs : List CodePoint) :
    oneEnds accepts (c :: cs) = if accepts c then [⟨c, cs⟩] else [] := rfl

/-- The places at which a match may end, in the order in which they are tried. -/
def ends : Pattern → CodePoint → List CodePoint → List Spot
  | lineStart, last, cs => if last = '\n' then [⟨last, cs⟩] else []
  | wordEdge, last, cs =>
    if isWordChar last = cs.head?.any isWordChar then [] else [⟨last, cs⟩]
  | one accepts, _, cs => oneEnds accepts cs
  | optional accepts, last, cs => oneEnds accepts cs ++ [⟨last, cs⟩]
  | run accepts, last, cs => runEnds accepts last cs
  | empty, last, cs => [⟨last, cs⟩]
  | both p q, last, cs => (p.ends last cs).flatMap fun s => q.ends s.last s.rest
  | either p q, last, cs => p.ends last cs ++ q.ends last cs

/-- How many characters the match at a place takes. One that takes none leaves the text as it is, so
the first that takes any counts. -/
def taken (p : Pattern) (last : CodePoint) (cs : List CodePoint) : Nat :=
  ((p.ends last cs).find? (·.rest.length < cs.length)).elim 0 (cs.length - ·.rest.length)

/-- A text without the matches of a pattern, from the left, where the first `skip` characters belong
to a match already found. -/
def eraseFrom (p : Pattern) : Nat → CodePoint → List CodePoint → List CodePoint
  | _, _, [] => []
  | skip + 1, _, c :: cs => eraseFrom p skip c cs
  | 0, last, c :: cs =>
    match p.taken last (c :: cs) with
    | 0 => c :: eraseFrom p 0 c cs
    | more + 1 => eraseFrom p more c cs

/-- A text with every match of a pattern replaced by nothing. -/
def erase (p : Pattern) (cs : List CodePoint) : List CodePoint := eraseFrom p 0 '\n' cs

/-- Whether a pattern matches at a place. -/
def matchesAt (p : Pattern) (last : CodePoint) (cs : List CodePoint) : Bool :=
  !(p.ends last cs).isEmpty

/-- Whether a pattern matches at the start of a line. -/
def matchesLine (p : Pattern) (line : List CodePoint) : Bool := p.matchesAt '\n' line

/-! ## Matching by parts -/

section

variable (p q : Pattern) (last : CodePoint) (cs : List CodePoint)

/-- Two patterns match in a row if the second matches at an end of the first. -/
theorem matchesAt_both :
    (both p q).matchesAt last cs = (p.ends last cs).any fun s => q.matchesAt s.last s.rest := by
  rw [Bool.eq_iff_iff]
  simp [matchesAt, ends]

/-- One character matches if the first is accepted. -/
theorem matchesAt_one (accepts : CodePoint → Bool) :
    (one accepts).matchesAt last cs = cs.head?.any accepts := by
  unfold matchesAt
  rw [ends]
  cases cs with
  | nil => rfl
  | cons c cs =>
    rw [oneEnds_cons]
    cases hc : accepts c <;> simp [hc]

/-- An edge of a word matches where only one of its sides is a word. -/
theorem matchesAt_wordEdge :
    wordEdge.matchesAt last cs = (isWordChar last != cs.head?.any isWordChar) := by
  unfold matchesAt
  rw [ends]
  split <;> simp_all

/-- An edge takes nothing, so what follows is matched at the same place. -/
theorem matchesAt_both_wordEdge : (both wordEdge q).matchesAt last cs
    = ((isWordChar last != cs.head?.any isWordChar) && q.matchesAt last cs) := by
  rw [matchesAt_both, ends]
  split <;> simp_all

end

/-- The literal text of some characters. -/
def literal (word : List CodePoint) : Pattern :=
  word.foldr (fun w rest => both (one (· == w)) rest) empty

/-- One of some literal texts, the first that fits. -/
def oneOf : List (List CodePoint) → Pattern
  | [] => one fun _ => false
  | [word] => literal word
  | word :: words => either (literal word) (oneOf words)

/-- A literal ends behind its word, where the word is ahead. -/
theorem ends_literal (word : List CodePoint) (last : CodePoint) (cs : List CodePoint) :
    (literal word).ends last cs
      = if word.isPrefixOf cs then [⟨word.getLast?.getD last, cs.drop word.length⟩] else [] := by
  induction word generalizing last cs with
  | nil => simp [literal, ends]
  | cons w word ih =>
    cases cs with
    | nil => rfl
    | cons c cs =>
      have hrest : (literal (w :: word)).ends last (c :: cs)
          = if c == w then (literal word).ends c cs else [] := by
        show (oneEnds (· == w) (c :: cs)).flatMap (fun s => (literal word).ends s.last s.rest) = _
        rw [oneEnds_cons]
        split <;> simp
      rw [hrest, ih]
      -- The first characters agree, or nothing is matched at all.
      by_cases hc : w = c
      · subst hc
        simp [List.isPrefixOf, List.getLast?_cons]
      · have hc' : c ≠ w := fun h => hc h.symm
        simp [List.isPrefixOf, hc, hc']

/-- Behind a literal the rest is matched where the word ends. -/
theorem matchesAt_both_literal (word : List CodePoint) (q : Pattern) (last : CodePoint)
    (cs : List CodePoint) : (both (literal word) q).matchesAt last cs
      = (word.isPrefixOf cs && q.matchesAt (word.getLast?.getD last) (cs.drop word.length)) := by
  rw [matchesAt_both, ends_literal]
  cases word.isPrefixOf cs <;> simp

/-- Whether one of the literal texts stands ahead, with a match behind it. -/
theorem matchesAt_oneOf (words : List (List CodePoint)) (q : Pattern) (last : CodePoint)
    (cs : List CodePoint) :
    (both (oneOf words) q).matchesAt last cs
      = words.any fun word => (both (literal word) q).matchesAt last cs := by
  induction words with
  | nil =>
    have hnone : oneEnds (fun _ => false) cs = [] := by cases cs <;> rfl
    rw [matchesAt_both, oneOf, ends, hnone]
    rfl
  | cons word words ih =>
    cases words with
    | nil => simp [oneOf]
    | cons next words =>
      rw [List.any_cons, ← ih, matchesAt_both, matchesAt_both, matchesAt_both, ← List.any_append]
      rfl

/-- A run may stop at once, or take a character and go on. -/
theorem matchesAt_run_cons (accepts : CodePoint → Bool) (q : Pattern) (last c : CodePoint)
    (cs : List CodePoint) :
    (both (run accepts) q).matchesAt last (c :: cs)
      = (q.matchesAt last (c :: cs) || (accepts c && (both (run accepts) q).matchesAt c cs)) := by
  rw [matchesAt_both, matchesAt_both, ends, ends, runEnds]
  cases hc : accepts c with
  | false => simp
  | true => simp [Bool.or_comm]

theorem matchesAt_run_nil (accepts : CodePoint → Bool) (q : Pattern) (last : CodePoint) :
    (both (run accepts) q).matchesAt last [] = q.matchesAt last [] := by
  simp [matchesAt_both, ends, runEnds]

/-! ## Patterns of one line -/

/-- Whether no part of a pattern accepts a newline. -/
def StaysOnLine : Pattern → Prop
  | one accepts | optional accepts | run accepts => accepts '\n' = false
  | both p q | either p q => p.StaysOnLine ∧ q.StaysOnLine
  | lineStart | wordEdge | empty => True

/-- What may stand behind the characters of a line: the end of the text, or a newline. -/
def EndsLine (tail : List CodePoint) : Prop := ∀ c ∈ tail.head?, c = '\n'

theorem endsLine_newline (rest : List CodePoint) : EndsLine (.char '\n' :: rest) := by
  intro c hc
  exact (Option.some.inj hc).symm

section

variable {tail : List CodePoint} (htail : EndsLine tail)
include htail

/-- What accepts no newline sees the same first character without the next line. -/
theorem head_append (line : List CodePoint) (accepts : CodePoint → Bool)
    (haccepts : accepts '\n' = false) :
    (line ++ tail).head?.any accepts = line.head?.any accepts := by
  cases line with
  | cons c line => rfl
  | nil =>
    cases tail with
    | nil => rfl
    | cons c tail =>
      rw [List.nil_append, htail c rfl]
      exact haccepts

/-- One character of a line is matched without the next line. -/
theorem oneEnds_append {accepts : CodePoint → Bool} (haccepts : accepts '\n' = false)
    (line : List CodePoint) :
    oneEnds accepts (line ++ tail) = (oneEnds accepts line).map (Spot.before · tail) := by
  cases line with
  | cons c line =>
    rw [List.cons_append, oneEnds_cons, oneEnds_cons]
    split <;> rfl
  | nil =>
    cases tail with
    | nil => rfl
    | cons c tail =>
      rw [List.nil_append, htail c rfl, oneEnds_cons, if_neg (ne_true_of_eq_false haccepts)]
      rfl

/-- A run ends at the newline at the latest. -/
theorem runEnds_append {accepts : CodePoint → Bool} (haccepts : accepts '\n' = false)
    (last : CodePoint) (line : List CodePoint) :
    runEnds accepts last (line ++ tail) = (runEnds accepts last line).map (Spot.before · tail) := by
  induction line generalizing last with
  | nil =>
    cases tail with
    | nil => rfl
    | cons c tail =>
      rw [List.nil_append, htail c rfl, runEnds_cons, if_neg (ne_true_of_eq_false haccepts)]
      rfl
  | cons c line ih =>
    rw [List.cons_append, runEnds_cons, runEnds_cons, ih]
    split
    · rw [List.map_append]
      rfl
    · rfl

/-- **A pattern of one line sees nothing of the next.** Induction on the pattern. -/
theorem ends_append {p : Pattern} (hp : p.StaysOnLine) (last : CodePoint)
    (line : List CodePoint) :
    p.ends last (line ++ tail) = (p.ends last line).map (Spot.before · tail) := by
  induction p generalizing last line with
  | lineStart =>
    unfold ends
    split <;> rfl
  -- A newline is no word character, so it makes an edge as the end of the text does.
  | wordEdge =>
    have hmark : isWordChar '\n' = false := by decide +kernel
    unfold ends
    rw [head_append htail line _ hmark]
    split <;> rfl
  | one accepts => exact oneEnds_append htail hp line
  | optional accepts =>
    unfold ends
    rw [oneEnds_append htail hp, List.map_append]
    rfl
  | run accepts => exact runEnds_append htail hp last line
  | empty => rfl
  | both p q ihp ihq =>
    unfold ends
    rw [ihp hp.1, List.flatMap_map, List.map_flatMap]
    exact congrArg (List.flatMap · _) (funext fun s => ihq hp.2 s.last s.rest)
  | either p q ihp ihq =>
    unfold ends
    rw [ihp hp.1, ihq hp.2, List.map_append]

end

/-- Behind a match of a pattern stands an end of what stood ahead. Induction on the pattern. -/
theorem suffix_of_mem_ends {p : Pattern} {last : CodePoint} {cs : List CodePoint} {s : Spot}
    (h : s ∈ p.ends last cs) : s.rest <:+ cs := by
  have hone : ∀ (accepts : CodePoint → Bool) (cs : List CodePoint) (s : Spot),
      s ∈ oneEnds accepts cs → s.rest <:+ cs := by
    intro accepts cs s h
    cases cs with
    | nil => cases h
    | cons c cs =>
      rw [oneEnds_cons] at h
      split at h
      · cases List.mem_singleton.mp h
        exact List.suffix_cons c cs
      · cases h
  -- Induction on the text, for the longest run first.
  have hrun : ∀ (accepts : CodePoint → Bool) (cs : List CodePoint) (last : CodePoint) (s : Spot),
      s ∈ runEnds accepts last cs → s.rest <:+ cs := by
    intro accepts cs
    induction cs with
    | nil =>
      intro last s h
      cases List.mem_singleton.mp h
      exact List.suffix_refl _
    | cons c cs ih =>
      intro last s h
      rw [runEnds_cons] at h
      split at h
      · cases List.mem_append.mp h with
        | inl h => exact (ih c s h).trans (List.suffix_cons c cs)
        | inr h =>
          cases List.mem_singleton.mp h
          exact List.suffix_refl _
      · cases List.mem_singleton.mp h
        exact List.suffix_refl _
  induction p generalizing last cs s with
  | lineStart | wordEdge =>
    unfold ends at h
    split at h <;> simp_all
  | one accepts => exact hone accepts cs s h
  | optional accepts =>
    cases List.mem_append.mp h with
    | inl h => exact hone accepts cs s h
    | inr h =>
      cases List.mem_singleton.mp h
      exact List.suffix_refl _
  | run accepts => exact hrun accepts cs last s h
  | empty =>
    cases List.mem_singleton.mp h
    exact List.suffix_refl _
  | both p q ihp ihq =>
    obtain ⟨s', hs', hs⟩ := List.mem_flatMap.mp h
    exact (ihq hs).trans (ihp hs')
  | either p q ihp ihq =>
    cases List.mem_append.mp h with
    | inl h => exact ihp h
    | inr h => exact ihq h

/-! ## Patterns of whole lines -/

/-- A character within a line. -/
def isWithinLine (c : CodePoint) : Bool := c != '\n'

/-- The rest of a line, with its newline if there is one. -/
def lineRest : Pattern := both (run isWithinLine) (optional (· == '\n'))

/-- A whole line that begins with a body. -/
def wholeLine (body : Pattern) : Pattern := both lineStart (both body lineRest)

/-- The longest run within a line is the line. -/
theorem head?_runEnds {line tail : List CodePoint} (hline : CodePoint.char '\n' ∉ line)
    (htail : EndsLine tail) (last : CodePoint) :
    (runEnds isWithinLine last (line ++ tail)).head? = some ⟨line.getLast?.getD last, tail⟩ := by
  induction line generalizing last with
  | nil =>
    cases tail with
    | nil => rfl
    | cons c tail =>
      rw [List.nil_append, htail c rfl]
      rfl
  | cons c line ih =>
    rw [List.mem_cons, not_or] at hline
    have hwithin : isWithinLine c = true := bne_iff_ne.mpr (Ne.symm hline.1)
    rw [List.cons_append, runEnds_cons, if_pos hwithin, List.head?_append, ih hline.2,
      List.getLast?_cons]
    rfl

/-- The rest of a line is taken in one piece. -/
theorem head?_lineRest {line tail : List CodePoint} (hline : CodePoint.char '\n' ∉ line)
    (htail : EndsLine tail) (last : CodePoint) :
    ∃ s, (lineRest.ends last (line ++ tail)).head? = some s ∧ s.rest = tail.drop 1 := by
  obtain ⟨others, hothers⟩ := List.head?_eq_some_iff.mp (head?_runEnds hline htail last)
  unfold lineRest
  rw [ends, ends, hothers, List.flatMap_cons, List.head?_append]
  cases tail with
  | nil => exact ⟨_, rfl, rfl⟩
  | cons c tail =>
    rw [htail c rfl]
    exact ⟨_, rfl, rfl⟩

section

variable {body : Pattern} (hbody : body.StaysOnLine) {line tail : List CodePoint}
  (hline : CodePoint.char '\n' ∉ line) (htail : EndsLine tail)

/-- Within a line no match begins. -/
theorem ends_wholeLine_of_ne {last : CodePoint} (h : last ≠ '\n') (cs : List CodePoint) :
    (wholeLine body).ends last cs = [] := by
  unfold wholeLine
  rw [ends, ends, if_neg h]
  rfl

include hbody hline htail

/-- A match is a line with its newline. -/
theorem head?_wholeLine :
    if body.matchesAt '\n' line
    then ∃ s, ((wholeLine body).ends '\n' (line ++ tail)).head? = some s ∧ s.rest = tail.drop 1
    else (wholeLine body).ends '\n' (line ++ tail) = [] := by
  have hends : (wholeLine body).ends '\n' (line ++ tail)
      = (body.ends '\n' line).flatMap fun s => lineRest.ends s.last (s.rest ++ tail) := by
    show [(⟨'\n', line ++ tail⟩ : Spot)].flatMap (fun s => (both body lineRest).ends s.last s.rest)
      = _
    rw [List.flatMap_singleton, ends, ends_append htail hbody, List.flatMap_map]
    rfl
  rw [hends]
  cases hspots : body.ends '\n' line with
  | nil => simp [matchesAt, hspots]
  | cons s others =>
    have hsuffix : s.rest <:+ line := suffix_of_mem_ends (hspots ▸ List.mem_cons_self)
    obtain ⟨s', hs', hrest⟩ := head?_lineRest (fun h => hline (hsuffix.subset h)) htail s.last
    have hmatch : body.matchesAt '\n' line = true := by simp [matchesAt, hspots]
    rw [if_pos hmatch, List.flatMap_cons, List.head?_append, hs']
    exact ⟨s', rfl, hrest⟩

/-- A whole line is matched just if its body is. -/
theorem matchesLine_wholeLine :
    (wholeLine body).matchesLine (line ++ tail) = body.matchesAt '\n' line := by
  have hhead := head?_wholeLine hbody hline htail
  unfold matchesLine matchesAt
  split at hhead
  · next hmatch =>
    obtain ⟨s, hs, -⟩ := hhead
    cases hspots : (wholeLine body).ends '\n' (line ++ tail) with
    | nil => simp [hspots] at hs
    | cons _ _ => exact hmatch.symm
  · next hmatch =>
    rw [hhead]
    exact (Bool.not_eq_true _ ▸ hmatch).symm

/-- What is taken is the line with its newline, or nothing. -/
theorem taken_wholeLine (hne : line ++ tail ≠ []) : (wholeLine body).taken '\n' (line ++ tail)
    = if body.matchesAt '\n' line then (line ++ tail.take 1).length else 0 := by
  -- The first match found is the longest, with the newline; it is taken if it is not empty.
  have hhead := head?_wholeLine hbody hline htail
  have hpos : 0 < (line ++ tail).length := List.length_pos_iff.mpr hne
  have hlength : (line ++ tail).length = (line ++ tail.take 1).length + (tail.drop 1).length := by
    rw [← List.length_append, List.append_assoc, List.take_append_drop]
  unfold taken
  split at hhead
  · next hmatch =>
    obtain ⟨s, hs, hrest⟩ := hhead
    obtain ⟨others, hothers⟩ := List.head?_eq_some_iff.mp hs
    have hshorter : s.rest.length < (line ++ tail).length := by
      rw [hrest, List.length_drop]
      rw [List.length_append] at hpos ⊢
      omega
    rw [if_pos hmatch, hothers, List.find?_cons, decide_eq_true hshorter]
    show (line ++ tail).length - s.rest.length = _
    rw [hrest]
    omega
  · next hmatch =>
    rw [hhead, if_neg hmatch]
    rfl

end

/-! ## Erasing whole lines -/

section

variable (p : Pattern)

/-- What belongs to a match is left out. Induction on the match. -/
theorem eraseFrom_length (last : CodePoint) (matched rest : List CodePoint) :
    p.eraseFrom matched.length last (matched ++ rest)
      = p.eraseFrom 0 (matched.getLast?.getD last) rest := by
  induction matched generalizing last with
  | nil => rfl
  | cons c matched ih =>
    rw [List.getLast?_cons]
    exact ih c

/-- What is matched is left out, and the search goes on behind it. -/
theorem eraseFrom_match {last : CodePoint} {matched rest : List CodePoint}
    (h : p.taken last (matched ++ rest) = matched.length) (hne : matched ≠ []) :
    p.eraseFrom 0 last (matched ++ rest) = p.eraseFrom 0 (matched.getLast?.getD last) rest := by
  rw [← eraseFrom_length]
  cases matched with
  | nil => exact absurd rfl hne
  | cons c matched =>
    rw [List.cons_append] at h ⊢
    rw [eraseFrom, h]
    rfl

theorem eraseFrom_copy {last c : CodePoint} {cs : List CodePoint}
    (h : p.taken last (c :: cs) = 0) :
    p.eraseFrom 0 last (c :: cs) = c :: p.eraseFrom 0 c cs := by
  rw [eraseFrom, h]

end

section

variable {body : Pattern}

/-- Within a line every character is kept. Induction on what is left of the line. -/
theorem eraseFrom_within {line tail : List CodePoint} (hline : CodePoint.char '\n' ∉ line)
    (htail : EndsLine tail) {last : CodePoint}
    (h : (wholeLine body).taken last (line ++ tail) = 0) :
    (wholeLine body).eraseFrom 0 last (line ++ tail)
      = line ++ tail.take 1 ++ (wholeLine body).erase (tail.drop 1) := by
  -- A whole line starts behind a newline, so nothing is matched within one.
  have hwithin : ∀ c : CodePoint, c ≠ '\n' → ∀ cs, (wholeLine body).taken c cs = 0 := by
    intro c hc cs
    unfold taken
    rw [ends_wholeLine_of_ne hc]
    rfl
  induction line generalizing last with
  | nil =>
    cases tail with
    | nil => rfl
    | cons c tail =>
      have hc : c = '\n' := htail c rfl
      subst hc
      exact eraseFrom_copy _ h
  | cons c line ih =>
    rw [List.mem_cons, not_or] at hline
    rw [List.cons_append] at h ⊢
    rw [eraseFrom_copy _ h, ih hline.2 (hwithin c (Ne.symm hline.1) _)]
    rfl

variable (hbody : body.StaysOnLine)
include hbody

/-- **Whole lines are erased line by line.** A line is taken with its newline if the body matches
it, and stays otherwise; what stands behind it is searched as if it stood alone. -/
theorem erase_line {line tail : List CodePoint} (hline : CodePoint.char '\n' ∉ line)
    (htail : EndsLine tail) (hne : line ++ tail ≠ []) :
    (wholeLine body).erase (line ++ tail)
      = (if body.matchesAt '\n' line then [] else line ++ tail.take 1)
        ++ (wholeLine body).erase (tail.drop 1) := by
  have htaken := taken_wholeLine hbody hline htail hne
  split
  · next hmatch =>
    rw [if_pos hmatch] at htaken
    have hsplit : line ++ tail = (line ++ tail.take 1) ++ tail.drop 1 := by
      rw [List.append_assoc, List.take_append_drop]
    -- A line that is taken is not empty: it has at least its newline.
    have hfull : line ++ tail.take 1 ≠ [] := by
      cases tail with
      | nil => exact hne
      | cons c tail => simp
    rw [hsplit] at htaken
    rw [erase, hsplit, eraseFrom_match _ htaken hfull]
    cases tail with
    | nil => rfl
    | cons c tail =>
      rw [htail c rfl, List.take_succ_cons, List.take_zero, List.getLast?_concat]
      rfl
  · next hmatch =>
    rw [if_neg hmatch] at htaken
    exact eraseFrom_within hline htail htaken

end

end Pattern

/-! ## Lines of a text -/

/-- The first line of a text is what stands before the first newline, with that newline. -/
theorem newlineLines_append {line tail : List CodePoint} (hline : CodePoint.char '\n' ∉ line)
    (htail : Pattern.EndsLine tail) (hne : line ++ tail ≠ []) :
    newlineLines (line ++ tail) = (line ++ tail.take 1) :: newlineLines (tail.drop 1) := by
  induction line with
  | nil =>
    cases tail with
    | nil => exact absurd rfl hne
    | cons c tail =>
      rw [htail c rfl]
      rfl
  | cons c line ih =>
    rw [List.mem_cons, not_or] at hline
    rw [List.cons_append, newlineLines, if_neg (Ne.symm hline.1)]
    by_cases hrest : line ++ tail = []
    · rw [List.append_eq_nil_iff] at hrest
      rw [hrest.1, hrest.2]
      rfl
    · rw [ih hline.2 hrest]
      rfl

/-- Every text starts with a line and what ends it. -/
theorem exists_line (cs : List CodePoint) :
    ∃ line tail, line ++ tail = cs ∧ CodePoint.char '\n' ∉ line ∧ Pattern.EndsLine tail := by
  induction cs with
  | nil => exact ⟨[], [], rfl, List.not_mem_nil, nofun⟩
  | cons c cs ih =>
    by_cases hc : c = '\n'
    · refine ⟨[], c :: cs, rfl, List.not_mem_nil, ?_⟩
      intro c' hc'
      cases hc'
      exact hc
    · obtain ⟨line, tail, rfl, hline, htail⟩ := ih
      refine ⟨c :: line, tail, rfl, ?_, htail⟩
      rw [List.mem_cons, not_or]
      exact ⟨Ne.symm hc, hline⟩

/-- What holds of the empty text, and of a line and the text behind it if it holds of that text,
holds of every text. -/
theorem lines_induction {motive : List CodePoint → Prop} (nil : motive [])
    (line : ∀ line tail, CodePoint.char '\n' ∉ line → Pattern.EndsLine tail → line ++ tail ≠ [] →
      motive (tail.drop 1) → motive (line ++ tail)) (cs : List CodePoint) : motive cs := by
  obtain ⟨first, tail, hsplit, hfirst, htail⟩ := exists_line cs
  by_cases hne : cs = []
  · rw [hne]
    exact nil
  · rw [← hsplit] at hne ⊢
    exact line first tail hfirst htail hne (lines_induction nil line (tail.drop 1))
termination_by cs.length
decreasing_by
  have hpos := List.length_pos_iff.mpr hne
  have hlength : cs.length = first.length + tail.length := by
    rw [← hsplit, List.length_append]
  rw [List.length_drop]
  omega

/-- **A pattern of whole lines is a filter of lines.** -/
theorem Pattern.erase_wholeLine {body : Pattern} (hbody : body.StaysOnLine)
    (cs : List CodePoint) :
    (wholeLine body).erase cs
      = ((newlineLines cs).filter (!(wholeLine body).matchesLine ·)).flatten := by
  induction cs using lines_induction with
  | nil => rfl
  | line line tail hline htail hne ih =>
    have hmark : EndsLine (tail.take 1) := by
      cases tail with
      | nil => exact htail
      | cons c tail => exact htail
    rw [erase_line hbody hline htail hne, newlineLines_append hline htail hne, List.filter_cons,
      matchesLine_wholeLine hbody hline hmark, ih]
    cases body.matchesAt '\n' line <;> rfl

/-- A line has no newline but the one at its end. -/
theorem exists_of_mem_newlineLines {cs full : List CodePoint} (h : full ∈ newlineLines cs) :
    ∃ line mark, full = line ++ mark ∧ CodePoint.char '\n' ∉ line ∧
      (mark = [] ∨ mark = [.char '\n']) := by
  induction cs using lines_induction with
  | nil => cases h
  | line line tail hline htail hne ih =>
    rw [newlineLines_append hline htail hne, List.mem_cons] at h
    cases h with
    | inr h => exact ih h
    | inl h =>
      refine ⟨line, tail.take 1, h, hline, ?_⟩
      cases tail with
      | nil => exact .inl rfl
      | cons c tail =>
        rw [htail c rfl]
        exact .inr rfl

/-- Some of the lines of a text are the lines of what they make up. -/
theorem newlineLines_filter (kept : List CodePoint → Bool) (cs : List CodePoint) :
    newlineLines ((newlineLines cs).filter kept).flatten = (newlineLines cs).filter kept := by
  induction cs using lines_induction with
  | nil => rfl
  | line line tail hline htail hne ih =>
    rw [newlineLines_append hline htail hne, List.filter_cons]
    split
    · cases tail with
      | nil =>
        have hlast := newlineLines_append hline htail hne
        rw [List.append_nil] at hlast
        simpa [newlineLines] using hlast
      | cons c tail =>
        have hc : c = '\n' := htail c rfl
        -- The line kept ends at its newline, whatever of the rest is left behind it.
        subst hc
        have hfirst := newlineLines_append hline
          (Pattern.endsLine_newline ((newlineLines tail).filter kept).flatten) (by simp)
        simp only [List.drop_succ_cons, List.drop_zero] at hfirst ih ⊢
        rw [List.flatten_cons, List.append_assoc]
        exact hfirst.trans (congrArg (_ :: ·) ih)
    · exact ih

end FamilyDesign.Text
