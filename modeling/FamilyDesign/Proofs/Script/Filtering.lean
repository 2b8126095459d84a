import FamilyDesign.Proofs.Script.Shortening
import FamilyDesign.Proofs.Text.Pattern
import Mathlib.Data.List.Induction

/-!
# Rules as filters of lines

A rule is a pattern of whole lines that is replaced by nothing wherever it matches. That comes to
the same as to drop the lines that it matches, so rules can be applied in any order and as often as
one likes.

* **`keep_eq_erase`** — what a rule keeps is the text with its pattern erased.
* **`Rule.foldl_erase`** — what patterns erased one after another leave.
* **`optimize_filters`** — what becomes of any text, and which rules are named as applied.
-/

namespace FamilyDesign.Script

open Text (newlineLines isWordChar Pattern)

/-! ## Patterns of the rules -/

/-- What a comment begins with: `[ \t]*#`. -/
def commentBody : Pattern := .both (.run isIndentation) (.one (· == '#'))

/-- The parts of an extrusion that have a variable. -/
def variableParts : List (List CodePoint) :=
  let parts : List Text := ["sketch", "curves", "profile", "obj", "material"]
  parts.map (·.toList)

/-- What a line with a variable of a role begins with:
`.*\brole_(?:sketch|curves|profile|obj|material)\b`. -/
def roleBody (role : Role) : Pattern :=
  .both (.run Pattern.isWithinLine) (.both .wordEdge
    (.both (.literal (role.word ++ "_").toList) (.both (.oneOf variableParts) .wordEdge)))

namespace Rule

/-- What the lines that a rule drops begin with. -/
def body : Rule → Pattern
  | stripComments => commentBody
  | simplifiedGeometry => roleBody .detail
  | minimizeVoids => roleBody .void

/-- The pattern of a rule: `^` and its body and `.*\n?`. -/
def pattern (rule : Rule) : Pattern := .wholeLine rule.body

end Rule

theorem staysOnLine_commentBody : commentBody.StaysOnLine := ⟨rfl, rfl⟩

/-- A literal without a newline stays on its line. -/
theorem staysOnLine_literal {word : List CodePoint} (h : CodePoint.char '\n' ∉ word) :
    (Pattern.literal word).StaysOnLine := by
  induction word with
  | nil => trivial
  | cons w word ih =>
    rw [List.mem_cons, not_or] at h
    exact ⟨beq_eq_false_iff_ne.mpr h.1, ih h.2⟩

theorem staysOnLine_oneOf {words : List (List CodePoint)}
    (h : ∀ word ∈ words, CodePoint.char '\n' ∉ word) : (Pattern.oneOf words).StaysOnLine := by
  induction words with
  | nil => exact rfl
  | cons word words ih =>
    obtain ⟨hword, hwords⟩ := List.forall_mem_cons.mp h
    cases words with
    | nil => exact staysOnLine_literal hword
    | cons next words => exact ⟨staysOnLine_literal hword, ih hwords⟩

/-- The pattern of a role stays on its line. -/
theorem staysOnLine_roleBody (role : Role) : (roleBody role).StaysOnLine := by
  have hword : CodePoint.char '\n' ∉ (role.word ++ "_").toList := by
    cases role <;> decide
  refine ⟨rfl, trivial, staysOnLine_literal hword, staysOnLine_oneOf ?_, trivial⟩
  decide

/-- **The body of every rule stays on its line.** -/
theorem Rule.staysOnLine_body (rule : Rule) : rule.body.StaysOnLine := by
  cases rule with
  | stripComments => exact staysOnLine_commentBody
  | simplifiedGeometry => exact staysOnLine_roleBody .detail
  | minimizeVoids => exact staysOnLine_roleBody .void

/-! ## Lines that a pattern matches -/

/-- A comment, by its blanks. Induction on the line. -/
theorem matchesAt_commentBody (last : CodePoint) (line : List CodePoint) :
    commentBody.matchesAt last line = isComment line := by
  unfold commentBody
  induction line generalizing last with
  | nil => rfl
  | cons c line ih =>
    rw [Pattern.matchesAt_run_cons, Pattern.matchesAt_one, ih, List.head?_cons, Option.any_some]
    show (_ || isIndentation c && isComment line)
      = (((c :: line).dropWhile isIndentation).head? == some (.char '#'))
    rw [List.dropWhile_cons]
    cases hblank : isIndentation c with
    | false => simp
    | true =>
      have hc : (c == .char '#') = false := by
        rw [beq_eq_false_iff_ne]
        rintro rfl
        exact absurd hblank (by decide)
      rw [hc]
      rfl

/-- A text starts with two words just if it starts with the first, and the rest with the second. -/
theorem isPrefixOf_append (word word' cs : List CodePoint) :
    (word ++ word').isPrefixOf cs
      = (word.isPrefixOf cs && word'.isPrefixOf (cs.drop word.length)) := by
  induction word generalizing cs with
  | nil => rfl
  | cons w word ih =>
    cases cs with
    | nil => rfl
    | cons c cs =>
      simp only [List.cons_append, List.isPrefixOf, List.length_cons, List.drop_succ_cons, ih,
        Bool.and_assoc]

/-- A word stands apart on both sides if it begins and ends at an edge. -/
theorem matchesAt_variable (role : Role) (last : CodePoint) (line : List CodePoint) :
    (Pattern.both .wordEdge (.both (.literal (role.word ++ "_").toList)
      (.both (.oneOf variableParts) .wordEdge))).matchesAt last line
      = (!isWordChar last && wholeWordAhead (roleVariables role) line) := by
  have hfirst : (role.word ++ "_").toList.head?.any isWordChar = true := by
    cases role <;> decide +kernel
  have hends : ∀ part ∈ variableParts, ∀ last, isWordChar (part.getLast?.getD last) = true := by
    have hall : ∀ part ∈ variableParts, part.getLast?.any isWordChar = true := by decide +kernel
    intro part hpart last
    have hpart := hall part hpart
    cases hlast : part.getLast? with
    | none => simp [hlast] at hpart
    | some c => simpa [hlast] using hpart
  have hwords : roleVariables role = variableParts.map ((role.word ++ "_").toList ++ ·) := by
    unfold roleVariables variableParts
    rw [List.map_map]
    rfl
  rw [Pattern.matchesAt_both_wordEdge, Pattern.matchesAt_both_literal, Pattern.matchesAt_oneOf,
    hwords]
  generalize (role.word ++ "_").toList = start at hfirst
  generalize variableParts = parts at hends
  have hpart : ∀ part ∈ parts, ∀ rest,
      (Pattern.both (.literal part) .wordEdge).matchesAt (start.getLast?.getD last) rest
        = (part.isPrefixOf rest && !(rest.drop part.length).head?.any isWordChar) := by
    intro part hmem rest
    rw [Pattern.matchesAt_both_literal, Pattern.matchesAt_wordEdge, hends part hmem, Bool.true_bne]
  unfold wholeWordAhead
  rw [List.any_map]
  cases hstart : start.isPrefixOf line with
  | false => simp [isPrefixOf_append, hstart]
  | true =>
    -- what stands ahead is a letter, so there is an edge just if none stands before
    have hhead : line.head?.any isWordChar = true := by
      obtain ⟨rest, rfl⟩ := List.isPrefixOf_iff_prefix.mp hstart
      cases start with
      | nil => cases hfirst
      | cons c start => exact hfirst
    have hparts : (parts.any fun part => (Pattern.both (.literal part) .wordEdge).matchesAt
        (start.getLast?.getD last) (line.drop start.length))
        = parts.any ((fun word => word.isPrefixOf line
          && !(line.drop word.length).head?.any isWordChar) ∘ (start ++ ·)) := by
      rw [Bool.eq_iff_iff, List.any_eq_true, List.any_eq_true]
      refine exists_congr fun part => and_congr_right fun hmem => ?_
      rw [hpart part hmem, Function.comp_apply, isPrefixOf_append, hstart, List.length_append,
        List.drop_drop, Bool.true_and]
    rw [hhead, hparts, Bool.true_and, Bool.bne_true]

/-- A variable anywhere in a line. Induction on the line. -/
theorem matchesAt_roleBody (role : Role) {line : List CodePoint}
    (hline : CodePoint.char '\n' ∉ line) (last : CodePoint) :
    (roleBody role).matchesAt last line = hasWord (roleVariables role) (isWordChar last) line := by
  unfold roleBody
  induction line generalizing last with
  | nil =>
    have hnone : wholeWordAhead (roleVariables role) [] = false := by
      cases role <;> decide +kernel
    rw [Pattern.matchesAt_run_nil, matchesAt_variable, hnone, Bool.and_false]
    rfl
  | cons c line ih =>
    rw [List.mem_cons, not_or] at hline
    have hwithin : Pattern.isWithinLine c = true := bne_iff_ne.mpr (Ne.symm hline.1)
    rw [Pattern.matchesAt_run_cons, matchesAt_variable, ih hline.2, hwithin, Bool.true_and]
    rfl

/-! ## Rules and their patterns -/

namespace Rule

/-- The body of a rule matches a line just if the rule drops it. -/
theorem matchesAt_body (rule : Rule) {line : List CodePoint} (hline : CodePoint.char '\n' ∉ line) :
    rule.body.matchesAt '\n' line = rule.drops line := by
  have hmark : isWordChar '\n' = false := by decide +kernel
  have hrole := fun role => matchesAt_roleBody role hline '\n'
  rw [hmark] at hrole
  cases rule with
  | stripComments => exact matchesAt_commentBody '\n' line
  | simplifiedGeometry => exact hrole .detail
  | minimizeVoids => exact hrole .void

/-- A rule drops the lines that its pattern matches. -/
theorem matchesLine_pattern (rule : Rule) {cs full : List CodePoint} (h : full ∈ newlineLines cs) :
    rule.pattern.matchesLine full = rule.drops full := by
  obtain ⟨line, mark, rfl, hline, hmark⟩ := Text.exists_of_mem_newlineLines h
  have hends : Pattern.EndsLine mark := by
    rcases hmark with rfl | rfl
    · nofun
    · exact Pattern.endsLine_newline []
  unfold pattern
  rw [Pattern.matchesLine_wholeLine rule.staysOnLine_body hline hends, matchesAt_body rule hline]
  rcases hmark with rfl | rfl
  · rw [List.append_nil]
  · exact (drops_newline rule line).symm

/-- **What a rule keeps is the text with its pattern erased.** -/
theorem keep_eq_erase (rule : Rule) (code : List CodePoint) :
    rule.keep code = rule.pattern.erase code := by
  unfold keep pattern
  rw [Pattern.erase_wholeLine rule.staysOnLine_body]
  refine congrArg List.flatten (List.filter_congr fun full hfull => ?_)
  exact congrArg (!·) (matchesLine_pattern rule hfull).symm

/-- A last line needs no newline, and no two lines are joined. -/
example :
    let code : Text := "a = 1\nvoid_obj.b()\nvoid_objects\n\tx = void_curves"
    minimizeVoids.pattern.erase code.toList = ("a = 1\nvoid_objects\n" : Text).toList := by
  decide +kernel

end Rule

/-! ## Sequences of rules -/

namespace Rule

/-- What is left of a text when the lines that a rule of a sequence drops are taken out. -/
def keepAll (rules : List Rule) (code : List CodePoint) : List CodePoint :=
  ((newlineLines code).filter fun full => !rules.any (·.drops full)).flatten

theorem newlineLines_keepAll (rules : List Rule) (code : List CodePoint) :
    newlineLines (keepAll rules code)
      = (newlineLines code).filter fun full => !rules.any (·.drops full) :=
  Text.newlineLines_filter _ code

/-- Filtering twice is filtering by both lists of rules. -/
theorem keepAll_keepAll (rules rules' : List Rule) (code : List CodePoint) :
    keepAll rules (keepAll rules' code) = keepAll (rules' ++ rules) code := by
  rw [keepAll, newlineLines_keepAll, List.filter_filter, keepAll]
  refine congrArg List.flatten (List.filter_congr fun full _ => ?_)
  rw [List.any_append, Bool.not_or, Bool.and_comm]

/-- Only which rules there are matters. -/
theorem keepAll_congr {rules rules' : List Rule} (h : ∀ rule, rule ∈ rules' ↔ rule ∈ rules)
    (code : List CodePoint) : keepAll rules' code = keepAll rules code := by
  have hany : ∀ full, rules'.any (·.drops full) = rules.any (·.drops full) := by
    intro full
    rw [Bool.eq_iff_iff]
    simp only [List.any_eq_true, h]
  unfold keepAll
  simp only [hany]

theorem keepAll_nil (code : List CodePoint) : keepAll [] code = code := by
  unfold keepAll
  simp [Text.flatten_newlineLines]

/-- Patterns that are erased one after another leave what no rule drops. Induction on the rules. -/
theorem foldl_erase (rules : List Rule) (code : List CodePoint) :
    rules.foldl (fun code rule => rule.pattern.erase code) code = keepAll rules code := by
  induction rules generalizing code with
  | nil => exact (keepAll_nil code).symm
  | cons rule rules ih =>
    have hfirst : rule.pattern.erase code = keepAll [rule] code := by
      rw [← keep_eq_erase, keep, keepAll]
      simp
    rw [List.foldl_cons, ih, hfirst, keepAll_keepAll]
    rfl

/-- Nothing is dropped just if no line is. -/
theorem keepAll_eq_self_iff (rules : List Rule) (code : List CodePoint) :
    keepAll rules code = code
      ↔ ¬(newlineLines (keepAll rules code)).length < (newlineLines code).length := by
  constructor
  · intro h
    rw [h]
    exact Nat.lt_irrefl _
  · intro h
    have hsub := List.filter_sublist (p := fun full => !rules.any (·.drops full))
      (l := newlineLines code)
    rw [newlineLines_keepAll] at h
    unfold keepAll
    rw [hsub.eq_of_length_le (Nat.le_of_not_lt h), Text.flatten_newlineLines]

/-- What is left at a level of detail. -/
def left (low : Bool) (rules : List Rule) (code : List CodePoint) : List CodePoint :=
  if low then keepAll rules code else code

theorem left_nil (low : Bool) (code : List CodePoint) : left low [] code = code := by
  cases low with
  | false => rfl
  | true => exact keepAll_nil code

/-- Rules one after another leave what the last of them leave of what the first left. -/
theorem left_append (low : Bool) (rules rules' : List Rule) (code : List CodePoint) :
    left low (rules ++ rules') code = left low rules' (left low rules code) := by
  cases low with
  | false => rfl
  | true => exact (keepAll_keepAll rules' rules code).symm

theorem left_singleton (low : Bool) (rule : Rule) (code : List CodePoint) :
    left low [rule] code = if low then rule.keep code else code := by
  unfold left keepAll keep
  simp

end Rule

/-- Those rules of a sequence at whose turn `removes` holds, by name. -/
def namesWhere (rules : List Rule) (removes : Nat → Bool) : List Text :=
  (rules.zipIdx.filter fun (_, turn) => removes turn).map fun (rule, _) => rule.name

/-- A rule at the end of a sequence takes the last turn. -/
theorem namesWhere_append (rules : List Rule) (rule : Rule) {removes removes' : Nat → Bool}
    (h : ∀ turn < rules.length, removes' turn = removes turn) :
    namesWhere (rules ++ [rule]) removes'
      = namesWhere rules removes ++ if removes' rules.length then [rule.name] else [] := by
  unfold namesWhere
  rw [List.zipIdx_append, List.filter_append, List.map_append]
  have hbefore : rules.zipIdx.filter (fun x : Rule × Nat => removes' x.2)
      = rules.zipIdx.filter fun x => removes x.2 := by
    refine List.filter_congr fun x hx => h x.2 ?_
    simpa using List.snd_lt_of_mem_zipIdx hx
  rw [hbefore, List.zipIdx_singleton, List.filter_singleton]
  simp only [Nat.zero_add]
  cases removes' rules.length <;> rfl

/-- A rule that changes a text is named. -/
theorem applyRule_eq (low : Bool) (code : List CodePoint) (applied : List Text) (rule : Rule) :
    applyRule low (code, applied) rule = (Rule.left low [rule] code,
      applied ++ if Rule.left low [rule] code ≠ code then [rule.name] else []) := by
  rw [Rule.left_singleton, applyRule]
  generalize (if low = true then rule.keep code else code) = kept
  by_cases hsame : kept = code
  · simp [hsame]
  · simp [hsame]

/-- What a sequence of rules leaves, and which of them count as applied. Induction on the sequence,
from its end. -/
theorem foldl_applyRule_eq (low : Bool) (rules : List Rule) (code : List CodePoint) :
    rules.foldl (applyRule low) (code, [])
      = (Rule.left low rules code, namesWhere rules fun turn =>
          Rule.left low (rules.take (turn + 1)) code ≠ Rule.left low (rules.take turn) code) := by
  induction rules using List.reverseRecOn with
  | nil =>
    rw [Rule.left_nil]
    rfl
  | append_singleton rules rule ih =>
    have htake : (rules ++ [rule]).take (rules.length + 1) = rules ++ [rule] :=
      List.take_of_length_le (by simp)
    have hearlier : ∀ turn ≤ rules.length, (rules ++ [rule]).take turn = rules.take turn :=
      fun turn hturn => List.take_append_of_le_length hturn
    rw [List.foldl_append, ih, namesWhere_append rules rule fun turn hturn => by
      rw [hearlier turn (Nat.le_of_lt hturn), hearlier (turn + 1) hturn]]
    rw [htake, hearlier rules.length (Nat.le_refl _), List.take_length, Rule.left_append,
      List.foldl_cons, List.foldl_nil, applyRule_eq]
    simp only [decide_eq_true_eq]

/-! ## The headline -/

section

variable (rules : List Rule) (d : Design) (code : Text)

/-- How many lines a text has at a turn. -/
def linesAt (turn : Nat) : Nat :=
  (newlineLines (optimize (rules.take turn) d code).1.toList).length

theorem optimize_fst :
    (optimize rules d code).1 = Text.ofList (Rule.left (isLowDetail d) rules code.toList) := by
  unfold optimize
  rw [foldl_applyRule_eq]

/-- A rule changes a text just if it removes a line. -/
theorem left_take_ne_iff (turn : Nat) :
    Rule.left (isLowDetail d) (rules.take (turn + 1)) code.toList
        ≠ Rule.left (isLowDetail d) (rules.take turn) code.toList
      ↔ linesAt rules d code (turn + 1) < linesAt rules d code turn := by
  unfold linesAt
  rw [optimize_fst, optimize_fst, List.take_add_one, Rule.left_append, Ne, not_iff_comm]
  cases isLowDetail d with
  | false => simp [Rule.left]
  | true => exact (Rule.keepAll_eq_self_iff _ _).symm

end

/-- **The rules are filters of lines.** Of any text and for any sequence of rules, at a level of
detail of at most 200 the patterns erased one after another leave the lines, each with its newline,
that none of them matches. So the order and the repetitions do not matter, and a second time nothing
is removed. At any other level the text stays as it is. Those rules are named, in their sequence,
that remove a line at their turn, and behind them a note if there are more than five extrusions. -/
theorem optimize_filters (rules : List Rule) (d : Design) (code : Text) :
    ((∃ lod, d.lod = some lod ∧ lod ≤ 200) →
      (optimize rules d code).1 = Text.ofList
          (rules.foldl (fun code rule => rule.pattern.erase code) code.toList) ∧
      (optimize rules d code).1 = Text.ofList ((newlineLines code.toList).filter fun line =>
          !rules.any fun rule => rule.pattern.matchesLine line).flatten ∧
      (∀ rules', (∀ rule, rule ∈ rules' ↔ rule ∈ rules) →
          (optimize rules' d code).1 = (optimize rules d code).1) ∧
      (optimize rules d (optimize rules d code).1).1 = (optimize rules d code).1) ∧
    ((∀ lod, d.lod = some lod → 200 < lod) → (optimize rules d code).1 = code) ∧
    (optimize rules d code).2
      = namesWhere rules (fun turn => linesAt rules d code (turn + 1) < linesAt rules d code turn)
        ++ if 5 < d.extrusions.length then [("geometry_consolidation" : Text)] else [] := by
  refine ⟨?_, ?_, ?_⟩
  · rintro ⟨lod, hlod, hle⟩
    have hlow : isLowDetail d = true := by simp [isLowDetail, hlod, hle]
    -- A pattern matches a whole line just if its rule drops it.
    have hlines : Rule.keepAll rules code.toList = ((newlineLines code.toList).filter fun line =>
        !rules.any fun rule => rule.pattern.matchesLine line).flatten := by
      refine congrArg List.flatten (List.filter_congr fun full hfull => ?_)
      simp only [Rule.matchesLine_pattern _ hfull]
    rw [optimize_fst, optimize_fst, hlow]
    refine ⟨?_, congrArg Text.ofList hlines, ?_, ?_⟩
    · exact congrArg Text.ofList (Rule.foldl_erase rules code.toList).symm
    · intro rules' h
      rw [optimize_fst, hlow]
      exact congrArg Text.ofList (Rule.keepAll_congr h code.toList)
    · refine congrArg Text.ofList ?_
      show Rule.keepAll rules (Rule.keepAll rules code.toList) = Rule.keepAll rules code.toList
      rw [Rule.keepAll_keepAll]
      exact Rule.keepAll_congr (by simp) code.toList
  · intro hhigh
    have hlow : isLowDetail d = false := by
      unfold isLowDetail
      cases hlod : d.lod with
      | none => rfl
      | some lod =>
        have hlt := hhigh lod hlod
        simp only [Option.any_some, decide_eq_false_iff_not]
        omega
    rw [optimize_fst, hlow]
    rfl
  · -- A rule is named if what is left changes at its turn, and then there are fewer lines.
    have hremoves : (fun turn : Nat => decide (Rule.left (isLowDetail d) (rules.take (turn + 1))
          code.toList ≠ Rule.left (isLowDetail d) (rules.take turn) code.toList))
        = fun turn => decide (linesAt rules d code (turn + 1) < linesAt rules d code turn) := by
      funext turn
      exact decide_eq_decide.mpr (left_take_ne_iff rules d code turn)
    unfold optimize
    rw [foldl_applyRule_eq, hremoves]
    rfl

end FamilyDesign.Script
