import FamilyDesign.Script.Literal
import FamilyDesign.Script.Rule
import FamilyDesign.Proofs.Text.Breaks

/-!
# Variables in lines

A line is taken for one of a detail or a void if a variable of theirs occurs in it as a whole word,
wherever it does. A word does not reach beyond a mark, so where marks stand between the pieces of a
line it is enough to look at each piece; and of these only the literals hold texts of a design.

* **`hasWord_append`** — words are looked for on both sides of a mark.
* **`mentions`** — whether a text mentions a variable of a detail or a void, with one law per way to
  put lines together.
* **`isMistaken`** — whether a line mentions one and is no comment.

A fixed piece is given by its characters, so that they need not be decoded. The laws ask with which
of them it begins or ends, or that no variable starts in it; with `rfl` and `decide` for these
conditions, `simp` searches a line that is joined from the right.
-/

namespace FamilyDesign.Script

open Text (isWordChar)

/-! ## Words and marks -/

theorem hasWord_cons (words : List (List CodePoint)) (glued : Bool) (c : CodePoint)
    (rest : List CodePoint) : hasWord words glued (c :: rest)
      = ((!glued && wholeWordAhead words (c :: rest)) || hasWord words (isWordChar c) rest) := rfl

/-- A mark behind characters is no part of a word ahead. Induction on the word. -/
theorem wordAhead_append {word : List CodePoint} (hword : ∀ c ∈ word, isWordChar c = true)
    {mark : CodePoint} (hmark : isWordChar mark = false) (before after : List CodePoint) :
    (word.isPrefixOf (before ++ mark :: after)
        && !((before ++ mark :: after).drop word.length).head?.any isWordChar)
      = (word.isPrefixOf before && !(before.drop word.length).head?.any isWordChar) := by
  induction word generalizing before with
  | nil =>
    -- Where the characters run out the word would have to go on with the mark.
    cases before with
    | nil => simp [hmark]
    | cons c rest => simp
  | cons w word ih =>
    rw [List.forall_mem_cons] at hword
    cases before with
    | nil =>
      have hne : (w == mark) = false := by
        rw [beq_eq_false_iff_ne]
        rintro rfl
        rw [hmark] at hword
        cases hword.1
      simp [List.isPrefixOf, hne]
    | cons c rest =>
      have hrest := ih hword.2 rest
      simp only [List.cons_append, List.isPrefixOf, List.length_cons, List.drop_succ_cons,
        Bool.and_assoc, hrest]

/-- Words that are looked for: each has characters of words only, and an underscore. -/
structure AreVariables (words : List (List CodePoint)) : Prop where
  letters : ∀ word ∈ words, ∀ c ∈ word, isWordChar c = true
  underscore : ∀ word ∈ words, CodePoint.char '_' ∈ word

section

variable {words : List (List CodePoint)} (h : AreVariables words)
include h

/-- A mark ends the words ahead of it. -/
theorem wholeWordAhead_append {mark : CodePoint} (hmark : isWordChar mark = false)
    (before after : List CodePoint) :
    wholeWordAhead words (before ++ mark :: after) = wholeWordAhead words before := by
  unfold wholeWordAhead
  rw [Bool.eq_iff_iff, List.any_eq_true, List.any_eq_true]
  refine exists_congr fun word => and_congr_right fun hword => ?_
  rw [wordAhead_append (h.letters word hword) hmark]

/-- Where there is no underscore there is no variable. -/
theorem hasWord_of_not_mem {cs : List CodePoint} (hcs : CodePoint.char '_' ∉ cs) (glued : Bool) :
    hasWord words glued cs = false := by
  induction cs generalizing glued with
  | nil => rfl
  | cons c rest ih =>
    have hahead : wholeWordAhead words (c :: rest) = false := by
      unfold wholeWordAhead
      rw [List.any_eq_false]
      intro word hword hfound
      rw [Bool.and_eq_true, List.isPrefixOf_iff_prefix] at hfound
      exact hcs (hfound.1.subset (h.underscore word hword))
    rw [hasWord_cons, hahead, ih fun hmem => hcs (List.mem_cons_of_mem _ hmem), Bool.and_false]
    rfl

/-- **Words are looked for on both sides of a mark.** Induction on what stands before it. -/
theorem hasWord_append {mark : CodePoint} (hmark : isWordChar mark = false) (glued : Bool)
    (before after : List CodePoint) :
    hasWord words glued (before ++ mark :: after)
      = (hasWord words glued before || hasWord words false after) := by
  induction before generalizing glued with
  | nil =>
    have hempty : wholeWordAhead words [] = false := by
      unfold wholeWordAhead
      rw [List.any_eq_false]
      intro word hword hfound
      rw [Bool.and_eq_true, List.isPrefixOf_iff_prefix] at hfound
      cases hfound.1.subset (h.underscore word hword)
    have hahead := wholeWordAhead_append h hmark [] after
    rw [List.nil_append, hempty] at hahead
    rw [List.nil_append, hasWord_cons, hahead, hmark, Bool.and_false]
    rfl
  | cons c rest ih =>
    rw [List.cons_append, hasWord_cons, hasWord_cons, ih, ← List.cons_append,
      wholeWordAhead_append h hmark, Bool.or_assoc]

end

/-- The variables of a role are made of word characters. -/
theorem areVariables_roleVariables (role : Role) : AreVariables (roleVariables role) := by
  have hall : ∀ role ∈ Role.all, (∀ word ∈ roleVariables role, ∀ c ∈ word, isWordChar c = true) ∧
      ∀ word ∈ roleVariables role, CodePoint.char '_' ∈ word := by
    decide +kernel
  have hmem : role ∈ Role.all := by cases role <;> decide
  exact ⟨(hall role hmem).1, (hall role hmem).2⟩

/-! ## Texts that mention a variable -/

/-- Whether a text mentions a variable of a detail or a void. -/
def mentions (t : Text) : Bool :=
  buildsRole .detail t.toList || buildsRole .void t.toList

/-- Whether a text begins with a mark. -/
def opensApart (t : Text) : Bool := t.toList.head?.any (!isWordChar ·)

/-- Whether a text ends with a mark. -/
def closesApart (t : Text) : Bool := t.toList.getLast?.any (!isWordChar ·)

theorem append_assoc (s t u : Text) : s ++ t ++ u = s ++ (t ++ u) :=
  congrArg Text.ofList (List.append_assoc s.toList t.toList u.toList)

/-- A text with a mark between two parts. -/
theorem mentions_mark {mark : CodePoint} (hmark : isWordChar mark = false) {s t u : Text}
    (h : u.toList = s.toList ++ mark :: t.toList) : mentions u = (mentions s || mentions t) := by
  unfold mentions buildsRole
  rw [h, hasWord_append (areVariables_roleVariables .detail) hmark,
    hasWord_append (areVariables_roleVariables .void) hmark]
  simp only [Bool.or_assoc, Bool.or_left_comm]

theorem mentions_empty : mentions (Text.ofList []) = false := rfl

/-- A text that opens with a mark stands apart from what is ahead. -/
theorem mentions_append_of_opens {s t : Text} (h : opensApart t = true) :
    mentions (s ++ t) = (mentions s || mentions t) := by
  obtain ⟨mark, hhead, hmark⟩ := (Option.any_eq_true _ _).mp h
  obtain ⟨rest, hrest⟩ := List.head?_eq_some_iff.mp hhead
  have hmark : isWordChar mark = false := by simpa using hmark
  have ht := mentions_mark hmark (s := .ofList []) (t := .ofList rest) (u := t) hrest
  have hst := mentions_mark hmark (s := s) (t := .ofList rest) (u := s ++ t) (by
    rw [Text.toList_append, hrest])
  rw [hst, ht, mentions_empty, Bool.false_or]

/-- A text that closes with a mark stands apart from what follows. -/
theorem mentions_append_of_closes {s t : Text} (h : closesApart s = true) :
    mentions (s ++ t) = (mentions s || mentions t) := by
  obtain ⟨mark, hlast, hmark⟩ := (Option.any_eq_true _ _).mp h
  obtain ⟨init, hinit⟩ := List.getLast?_eq_some_iff.mp hlast
  have hmark : isWordChar mark = false := by simpa using hmark
  have hs := mentions_mark hmark (s := .ofList init) (t := .ofList []) (u := s) hinit
  have hst := mentions_mark hmark (s := .ofList init) (t := t) (u := s ++ t) (by
    rw [Text.toList_append, hinit, List.append_assoc]
    rfl)
  rw [hst, hs, mentions_empty, Bool.or_false]

/-! ## Pieces of lines -/

/-- The marks next to which a script is put together. -/
def marks : List Char := [' ', '"', '(', ')', ',', ':', '[', ']']

theorem isWordChar_of_mem_marks {c : Char} (h : c ∈ marks) : isWordChar (.char c) = false := by
  have hall : marks.all (fun c => !isWordChar (.char c)) = true := by
    decide +kernel
  simpa using List.all_eq_true.mp hall c h

theorem toList_ofString {s : String} {cs : List Char} (hs : s = String.ofList cs) :
    (Text.ofString s).toList = cs.map .char := by
  show s.toList.map CodePoint.char = _
  rw [hs, String.toList_ofList]

/-- A fixed text opens apart if its first character is a mark. -/
theorem opensApart_literal {s : String} {cs : List Char} (hs : s = String.ofList cs)
    (h : cs.head?.any marks.contains = true) : opensApart s = true := by
  obtain ⟨mark, hhead, hmark⟩ := (Option.any_eq_true _ _).mp h
  have hapart := isWordChar_of_mem_marks (List.contains_iff_mem.mp hmark)
  unfold opensApart
  rw [toList_ofString hs, List.head?_map, hhead, Option.map_some, Option.any_some, hapart]
  rfl

/-- A fixed text closes apart if its last character is a mark. -/
theorem closesApart_literal {s : String} {cs : List Char} (hs : s = String.ofList cs)
    (h : cs.getLast?.any marks.contains = true) : closesApart s = true := by
  obtain ⟨mark, hlast, hmark⟩ := (Option.any_eq_true _ _).mp h
  have hapart := isWordChar_of_mem_marks (List.contains_iff_mem.mp hmark)
  unfold closesApart
  rw [toList_ofString hs, List.getLast?_map, hlast, Option.map_some, Option.any_some, hapart]
  rfl

/-- What the variables of details and voids start with. -/
def stems : List (List CodePoint) :=
  [['d', 'e', 't', 'a', 'i', 'l', '_'].map .char, ['v', 'o', 'i', 'd', '_'].map .char]

/-- Where a variable is found, what it starts with is. Induction on what is searched. -/
theorem occursIn_of_hasWord {words : List (List CodePoint)} {stem : List CodePoint}
    (hstem : ∀ word ∈ words, stem <+: word) {glued : Bool} {cs : List CodePoint}
    (h : hasWord words glued cs = true) : Text.occursIn stem cs = true := by
  induction cs generalizing glued with
  | nil => cases h
  | cons c rest ih =>
    rw [hasWord_cons, Bool.or_eq_true] at h
    unfold Text.occursIn
    rw [Bool.or_eq_true]
    rcases h with hahead | hrest
    · obtain ⟨word, hword, hfound⟩ := List.any_eq_true.mp (Bool.and_eq_true_iff.mp hahead).2
      rw [Bool.and_eq_true, List.isPrefixOf_iff_prefix] at hfound
      exact .inl (List.isPrefixOf_iff_prefix.mpr ((hstem word hword).trans hfound.1))
    · exact .inr (ih hrest)

/-- A fixed piece in which no variable starts mentions none. -/
@[simp] theorem mentions_literal {s : String} {cs : List Char} (hs : s = String.ofList cs)
    (h : stems.any (fun stem => Text.occursIn stem (cs.map .char)) = false) :
    mentions (Text.ofString s) = false := by
  have hdetail : ∀ word ∈ roleVariables .detail, stems[0] <+: word := by
    decide +kernel
  have hvoid : ∀ word ∈ roleVariables .void, stems[1] <+: word := by
    decide +kernel
  have hnone := List.any_eq_false.mp h
  unfold mentions buildsRole
  rw [toList_ofString hs, Bool.or_eq_false_iff]
  exact ⟨Bool.eq_false_iff.mpr fun hfound =>
      hnone stems[0] (List.getElem_mem _) (occursIn_of_hasWord hdetail hfound),
    Bool.eq_false_iff.mpr fun hfound =>
      hnone stems[1] (List.getElem_mem _) (occursIn_of_hasWord hvoid hfound)⟩

/-- Every variable has an underscore in it. -/
theorem mentions_of_not_mem {t : Text} (h : CodePoint.char '_' ∉ t.toList) :
    mentions t = false := by
  unfold mentions buildsRole
  rw [hasWord_of_not_mem (areVariables_roleVariables .detail) h,
    hasWord_of_not_mem (areVariables_roleVariables .void) h]
  rfl

/-- The notation of a number mentions no variable. -/
theorem mentions_of_isNotation {s : String} (h : ∀ c ∈ s.toList, Numeric.isNotation c = true) :
    mentions (Text.ofString s) = false := by
  refine mentions_of_not_mem fun hmem => ?_
  obtain ⟨c, hc, heq⟩ := List.mem_map.mp hmem
  cases heq
  exact absurd (h '_' hc) (by decide)

@[simp] theorem mentions_natural (x : Numeric.Binary64) :
    mentions (Text.ofString x.natural) = false :=
  mentions_of_isNotation fun _ => Numeric.isNotation_of_mem_natural

@[simp] theorem mentions_intText (n : Int) : mentions (Text.ofString (Numeric.intText n)) = false :=
  mentions_of_isNotation fun _ => Numeric.isNotation_of_mem_intText

@[simp] theorem mentions_truthLiteral (b : Bool) : mentions (truthLiteral b) = false := by
  cases b <;> decide +kernel

theorem isWordChar_quotationMark : isWordChar '"' = false := by
  decide +kernel

theorem head?_quote (s : Text) : (quote s).toList.head? = some (.char '"') := rfl

theorem getLast?_quote (s : Text) : (quote s).toList.getLast? = some (.char '"') := by
  show (Text.jsonQuoted s.toList).getLast? = _
  unfold Text.jsonQuoted
  rw [← List.cons_append, List.getLast?_concat]

theorem opensApart_quote (s : Text) : opensApart (quote s) = true := by
  unfold opensApart
  rw [head?_quote, Option.any_some, isWordChar_quotationMark]
  rfl

theorem closesApart_quote (s : Text) : closesApart (quote s) = true := by
  unfold closesApart
  rw [getLast?_quote, Option.any_some, isWordChar_quotationMark]
  rfl

section

variable (s t u : Text)

@[simp] theorem mentions_quote_append :
    mentions (quote s ++ t) = (mentions (quote s) || mentions t) :=
  mentions_append_of_closes (closesApart_quote s)

@[simp] theorem mentions_append_quote :
    mentions (t ++ quote s) = (mentions t || mentions (quote s)) :=
  mentions_append_of_opens (opensApart_quote s)

end

section

variable {s : String} {cs : List Char} (hs : s = String.ofList cs) (t u : Text)
include hs

@[simp] theorem mentions_literal_append (h : cs.getLast?.any marks.contains = true) :
    mentions (Text.ofString s ++ t) = (mentions (Text.ofString s) || mentions t) :=
  mentions_append_of_closes (closesApart_literal hs h)

@[simp] theorem mentions_append_literal (h : cs.head?.any marks.contains = true) :
    mentions (t ++ Text.ofString s) = (mentions t || mentions (Text.ofString s)) :=
  mentions_append_of_opens (opensApart_literal hs h)

@[simp] theorem mentions_append_literal_append (h : cs.head?.any marks.contains = true) :
    mentions (t ++ (Text.ofString s ++ u)) = (mentions t || mentions (Text.ofString s ++ u)) := by
  refine mentions_append_of_opens ?_
  obtain ⟨mark, hhead, hmark⟩ := (Option.any_eq_true _ _).mp (opensApart_literal hs h)
  obtain ⟨rest, hrest⟩ := List.head?_eq_some_iff.mp hhead
  unfold opensApart
  rw [Text.toList_append, hrest]
  exact hmark

end

/-! ## Comments -/

/-- A character of an indentation. -/
def isIndentation (c : CodePoint) : Bool := c == ' ' || c == '\t'

/-- Whether the first character behind an indentation starts a comment, if there is one. -/
def comments? (t : Text) : Option Bool :=
  (t.toList.dropWhile isIndentation).head?.map (· == .char '#')

/-- Whether a line is a comment is told by its first character that shows. -/
theorem isComment_eq (line : Text) : isComment line.toList = (comments? line).getD false := by
  unfold isComment comments?
  show ((line.toList.dropWhile isIndentation).head? == some (.char '#')) = _
  cases (line.toList.dropWhile isIndentation).head? with
  | none => rfl
  | some c => rfl

/-- The first piece of a line that is more than an indentation tells whether it is a comment. -/
theorem comments?_append (s t : Text) : comments? (s ++ t) = (comments? s).or (comments? t) := by
  unfold comments?
  rw [Text.toList_append, List.dropWhile_append]
  cases s.toList.dropWhile isIndentation with
  | nil => rfl
  | cons c rest => rfl

/-- Whether a line is no comment but mentions a variable of a detail or a void. -/
def isMistaken (line : Text) : Bool := !isComment line.toList && mentions line

theorem comments?_literal {s : String} {cs : List Char} (hs : s = String.ofList cs) :
    comments? s = ((cs.map .char).dropWhile isIndentation).head?.map (· == .char '#') := by
  unfold comments?
  rw [toList_ofString hs]

section

variable {s : String} {cs : List Char} (hs : s = String.ofList cs) (t : Text)
include hs

/-- A line that opens with code is mistaken if it mentions such a variable. -/
@[simp] theorem isMistaken_code
    (h : ((cs.map .char).dropWhile isIndentation).head?.map (· == .char '#') = some false) :
    isMistaken (Text.ofString s ++ t) = mentions (Text.ofString s ++ t) := by
  unfold isMistaken
  rw [isComment_eq, comments?_append, comments?_literal hs, h]
  rfl

/-- A comment never is. -/
@[simp] theorem isMistaken_comment
    (h : ((cs.map .char).dropWhile isIndentation).head?.map (· == .char '#') = some true) :
    isMistaken (Text.ofString s ++ t) = false := by
  unfold isMistaken
  rw [isComment_eq, comments?_append, comments?_literal hs, h]
  rfl

end

theorem comments?_quote (s : Text) : comments? (quote s) = some false := by
  unfold comments?
  cases hlist : (quote s).toList with
  | nil => cases (head?_quote s).symm.trans (congrArg List.head? hlist)
  | cons c rest =>
    cases (head?_quote s).symm.trans (congrArg List.head? hlist)
    rfl

/-- A line that begins with a quote is no comment. -/
@[simp] theorem isMistaken_quote_append (s t : Text) :
    isMistaken (quote s ++ t) = mentions (quote s ++ t) := by
  unfold isMistaken
  rw [isComment_eq, comments?_append, comments?_quote]
  rfl

/-- Nor is a line that mentions none. -/
theorem isMistaken_of_mentions {line : Text} (h : mentions line = false) :
    isMistaken line = false := by
  unfold isMistaken
  rw [h, Bool.and_false]

/-- A fixed text without a stem of a variable is not mistaken. -/
@[simp] theorem isMistaken_literal {s : String} {cs : List Char} (hs : s = String.ofList cs)
    (h : stems.any (fun stem => Text.occursIn stem (cs.map .char)) = false) :
    isMistaken (Text.ofString s) = false :=
  isMistaken_of_mentions (mentions_literal hs h)

theorem isComment_indented (line : Text) :
    isComment ("    " ++ line).toList = isComment line.toList := by
  have hcomment : comments? "    " = none := comments?_literal rfl
  rw [isComment_eq, isComment_eq, comments?_append, hcomment, Option.none_or]

theorem mentions_indented (line : Text) : mentions ("    " ++ line) = mentions line := by
  have hblank : mentions "    " = false := mentions_literal rfl (by decide)
  rw [mentions_literal_append rfl _ (by decide), hblank, Bool.false_or]

/-- An indented line is as mistaken as the line. -/
theorem isMistaken_indented (line : Text) : isMistaken ("    " ++ line) = isMistaken line := by
  unfold isMistaken
  rw [isComment_indented, mentions_indented]

end FamilyDesign.Script
