import FamilyDesign.Proofs.Formula.Numerals
import FamilyDesign.Proofs.Formula.Replacing

/-!
# Numbers in the place of names

A formula without a problem is scanned beside the formula with a number in the place of a name. The
two scans stand at the same stage all the way, but where the first is between two tokens the second
may still be in the number. The characters that follow then go into that number, which makes a
difference only for a point: a number takes a single one, so a point that ended a number of its own
before may now be left over.

* **`Leads`** — how the two scans stand to each other.
* **`Fits`** — what follows the word does not clash with the number.
* **`accepts_replaceFrom`** — where every occurrence fits, the second scan has no problem either.
* **`exists_accepts_of_follows`** — the second scan reads the number at every occurrence.
-/

namespace FamilyDesign.Formula

variable {known : List Text} {word numeral : List CodePoint} {signed : Bool} {form : Form}

/-! ## Points that are left over -/

/-- A point that ends a number which starts right behind the word: digits, the point, and no digit
behind it. A word behind the point gives way to a digit unless a minus comes first. -/
def Strands (word : List CodePoint) (signed : Bool) (tail : List CodePoint) : Prop :=
  ∃ digits after, tail = digits ++ .char '.' :: after ∧ digits ≠ [] ∧
    (∀ c ∈ digits, Text.isDecimalDigit c = true) ∧ digitAhead after = false ∧
      (signed = true ∨ wordAhead word false after = false)

/-- A minus leaves over no fewer points. -/
theorem Strands.mono {signed' : Bool} (h : signed = true → signed' = true)
    {tail : List CodePoint} (hstrands : Strands word signed tail) : Strands word signed' tail := by
  obtain ⟨digits, after, htail, hne, hdigits, hahead, hword⟩ := hstrands
  exact ⟨digits, after, htail, hne, hdigits, hahead, hword.imp_left h⟩

/-- A point that ends the number of which a part has been read, with no digit behind it once the
word has been replaced. -/
def Stray (word numeral : List CodePoint) (part : Part) (cs : List CodePoint) : Prop :=
  ∃ digits after, cs = digits ++ .char '.' :: after ∧ (part = .idle → digits ≠ []) ∧
    (∀ c ∈ digits, Text.isDecimalDigit c = true) ∧
      digitAhead (replaceFrom word numeral 0 false after) = false

/-- With no part of a number read, a point is stray in the replaced text just if it strands in the
old one. -/
theorem stray_idle_iff (hword : IsName word) (hnumeral : Numeral signed form numeral)
    {tail : List CodePoint} : Stray word numeral .idle tail ↔ Strands word signed tail := by
  have hahead : ∀ after, digitAhead (replaceFrom word numeral 0 false after) = false ↔
      digitAhead after = false ∧ (signed = true ∨ wordAhead word false after = false) := by
    intro after
    rw [digitAhead_replaceFrom hword (numeral_ne_nil hnumeral), digitAhead_numeral hnumeral]
    cases hahead : wordAhead word false after with
    | false => simp
    | true =>
      -- no digit starts the word
      obtain ⟨-, tail, -, rfl⟩ := wordAhead_iff.mp hahead
      obtain ⟨c, name, rfl, hstart, -⟩ := id hword
      have hdigit : digitAhead (c :: (name ++ tail)) = false := isDecimalDigit_of_startsName hstart
      simp [hdigit]
  unfold Stray Strands
  simp only [hahead, true_implies]

/-- What follows an occurrence of the word does not clash with the number. -/
structure Fits (known : List Text) (word : List CodePoint) (signed : Bool) (form : Form)
    (tail : List CodePoint) : Prop where
  mark : form = .scientific → KnownName known [.char 'e']
  point : (∃ part, landing signed form part = .fraction) → ¬Strands word signed tail

/-! ## Two scans side by side -/

/-- How the scan of a formula, with a part of a number read, leads that of the replaced formula,
with another part read: both have read the same, or the second one is in a number that began
earlier. -/
inductive Leads (word numeral : List CodePoint) (st : Stage) :
    Part → Part → List CodePoint → Prop
  | same (part : Part) (cs : List CodePoint) : Leads word numeral st part part cs
  | number (cs : List CodePoint) (hplace : st = st.operand) : Leads word numeral st .idle .whole cs
  | fraction {part : Part} {cs : List CodePoint} (hpart : part ≠ .fraction)
      (hplace : part.settle st = st.operand) (hpoint : ¬Stray word numeral part cs) :
      Leads word numeral st part .fraction cs

section Leads

variable {st : Stage} {part part' : Part} {c : CodePoint} {cs rest : List CodePoint}

/-- Outside of numbers the two scans stand at the same stage. -/
theorem Leads.settle (h : Leads word numeral st part part' cs) :
    part.settle st = part'.settle st := by
  cases h with
  | same => rfl
  | number _ hplace => exact hplace
  | fraction _ hplace => exact hplace

/-- A digit keeps the two scans in step. -/
theorem Leads.digit (hdigit : Text.isDecimalDigit c = true)
    (h : Leads word numeral st part part' (c :: rest)) :
    Leads word numeral st part.digit part'.digit rest := by
  cases h with
  | same => exact .same _ _
  | number => exact .same _ _
  | fraction hpart hplace hpoint =>
    -- the first scan is ahead of a point now, whether or not it was before
    have hwhole : part.digit = .whole := by
      cases part with
      | idle => rfl
      | whole => rfl
      | fraction => exact absurd rfl hpart
    rw [hwhole]
    refine .fraction nofun rfl ?_
    rintro ⟨digits, after, rfl, -, hdigits, hahead⟩
    exact hpoint ⟨c :: digits, after, rfl, fun _ => List.cons_ne_nil c digits,
      List.forall_mem_cons.mpr ⟨hdigit, hdigits⟩, hahead⟩

/-- Both scans may take a point if the first one may. -/
theorem Leads.point (hword : IsName word) (hne : numeral ≠ [])
    (h : Leads word numeral st part part' (.char '.' :: rest))
    (hpoint : part = .whole ∨ digitAhead rest = true) :
    part' = .whole ∨ digitAhead (replaceFrom word numeral 0 false rest) = true := by
  rcases hpoint with rfl | hahead
  · cases h with
    | same => exact .inl rfl
    | fraction hpart hplace hstray =>
      -- the first number ends with this point, and the second one has had its own
      refine .inr (Bool.not_eq_false _ ▸ fun hahead => hstray ?_)
      exact ⟨[], rest, rfl, nofun, List.forall_mem_nil _, hahead⟩
  · exact .inr (digitAhead_replaceFrom_of_digitAhead hword hne hahead)

/-- Behind the number the scan of the replaced formula may still be in it. -/
theorem leads_landing (hword : IsName word) (hnumeral : Numeral signed form numeral)
    (hfits : Fits known word signed form rest) (part : Part) :
    Leads word numeral st.operand .idle (landing signed form part) rest := by
  cases hlanding : landing signed form part with
  | idle => exact absurd hlanding (Form.part_ne_idle _ _)
  | whole => exact .number _ rfl
  | fraction =>
    exact .fraction nofun rfl
      (mt (stray_idle_iff hword hnumeral).mp (hfits.point ⟨part, hlanding⟩))

end Leads

/-! ## The replaced formula -/

section Replaced

variable (hword : IsName word) (hnumeral : Numeral signed form numeral)
include hword hnumeral

/-- **Where every occurrence fits, the replaced text has no problem if the text has none.**
Induction along the pieces of the text; the two scans stay together from piece to piece. -/
theorem accepts_replaceFrom {cs : List CodePoint} {glued : Bool} {st : Stage} {part part' : Part}
    (hleads : Leads word numeral st part part' cs) (h : Accepts known st part cs)
    (hfits : ∀ tail, Follows word glued cs tail → Fits known word signed form tail) :
    Accepts known st part' (replaceFrom word numeral 0 glued cs) := by
  have hne := numeral_ne_nil hnumeral
  induction cs using pieces_induction generalizing glued st part part' with
  | nil =>
    rw [replaceFrom_nil hword, accepts_nil, ← hleads.settle]
    exact accepts_nil.mp h
  | blank c rest hblank ih =>
    have hstart := startsName_of_isBlank hblank
    rw [replaceFrom_cons hword hstart, accepts_blank hblank, ← hleads.settle]
    refine ih (.same _ _) ((accepts_blank hblank).mp h) ?_
    exact fun tail htail => hfits tail (.later htail)
  | digit c rest hdigit ih =>
    have hstart := startsName_of_isDecimalDigit hdigit
    rw [replaceFrom_cons hword hstart, accepts_digit hdigit]
    refine ih (hleads.digit hdigit) ((accepts_digit hdigit).mp h) ?_
    exact fun tail htail => hfits tail (.later htail)
  | point rest ih =>
    obtain ⟨hpoint, hrest⟩ := accepts_point.mp h
    have hstart : startsName (.char '.') = false := rfl
    rw [replaceFrom_cons hword hstart, accepts_point]
    refine ⟨hleads.point hword hne hpoint, ih (.same _ _) hrest ?_⟩
    exact fun tail htail => hfits tail (.later htail)
  | name c name rest hstart hname hstops ih =>
    obtain ⟨hknown, hrest⟩ := (accepts_name hstart hname hstops).mp h
    have hfollows : ∀ {tail}, Follows word glued (c :: name ++ rest) tail ↔
        (glued = false ∧ c :: name = word) ∧ tail = rest ∨ Follows word false rest tail :=
      follows_name_iff hword hstart hname hstops
    have hfits' : ∀ tail, Follows word false rest tail → Fits known word signed form tail :=
      fun tail htail => hfits tail (hfollows.mpr (.inr htail))
    rw [replaceFrom_name hword hstart hname hstops]
    split
    · next hhere =>
      -- the word gives way to the number, which the second scan may go on reading
      have hfit := hfits rest (hfollows.mpr (.inl ⟨hhere, rfl⟩))
      rw [accepts_numeral_iff hnumeral]
      exact ⟨hfit.mark, .behind signed form
        (ih (leads_landing hword hnumeral hfit part') hrest hfits')⟩
    · rw [accepts_name hstart hname (hstops.replaceFrom hword)]
      exact ⟨hknown, ih (.same _ _) hrest hfits'⟩
  | symbol c rest hsymbol ih =>
    -- a symbol ends a number, so the scans are at one stage ahead of it
    rw [replaceFrom_cons hword hsymbol.name, hsymbol.inName, accepts_symbol hsymbol,
      takeSymbol_replaceFrom hword hne (head?_numeral_ne_equal hnumeral), ← hleads.settle]
    obtain ⟨hadmits, hrest⟩ := (accepts_symbol hsymbol).mp h
    refine ⟨hadmits, ih (.same _ _) hrest ?_⟩
    exact fun tail htail => hfits tail ((follows_symbol_iff hword hsymbol).mpr htail)

/-- **At every occurrence the scan of the replaced text reads the number.** Induction along the
pieces of the text. -/
theorem exists_accepts_of_follows {cs tail : List CodePoint} {glued : Bool} {st : Stage}
    {part : Part} (h : Accepts known st part (replaceFrom word numeral 0 glued cs))
    (hfollows : Follows word glued cs tail) : ∃ st' part',
      Accepts known st' part' (numeral ++ replaceFrom word numeral 0 false tail) := by
  induction cs using pieces_induction generalizing glued st part with
  | nil => exact absurd hfollows (not_follows_nil hword)
  | blank c rest hblank ih =>
    have hstart := startsName_of_isBlank hblank
    rw [replaceFrom_cons hword hstart, accepts_blank hblank] at h
    exact ih h ((follows_cons_iff hword hstart).mp hfollows)
  | digit c rest hdigit ih =>
    have hstart := startsName_of_isDecimalDigit hdigit
    rw [replaceFrom_cons hword hstart, accepts_digit hdigit] at h
    exact ih h ((follows_cons_iff hword hstart).mp hfollows)
  | point rest ih =>
    have hstart : startsName (.char '.') = false := rfl
    rw [replaceFrom_cons hword hstart, accepts_point] at h
    exact ih h.2 ((follows_cons_iff hword hstart).mp hfollows)
  | name c name rest hstart hname hstops ih =>
    rw [replaceFrom_name hword hstart hname hstops] at h
    -- The occurrence is this name, or one of those behind it, past which the scan goes on.
    rcases (follows_name_iff hword hstart hname hstops).mp hfollows with ⟨hhere, rfl⟩ | hlater
    · rw [if_pos hhere] at h
      exact ⟨st, part, h⟩
    · split at h
      · rw [accepts_numeral_iff hnumeral] at h
        exact ih h.2 hlater
      · rw [accepts_name hstart hname (hstops.replaceFrom hword)] at h
        exact ih h.2 hlater
  | symbol c rest hsymbol ih =>
    rw [replaceFrom_cons hword hsymbol.name, hsymbol.inName, accepts_symbol hsymbol,
      takeSymbol_replaceFrom hword (numeral_ne_nil hnumeral) (head?_numeral_ne_equal hnumeral)] at h
    exact ih h.2 ((follows_symbol_iff hword hsymbol).mp hfollows)

/-- Behind a number with a point no point may be left over. -/
theorem not_strands_of_accepts {tail : List CodePoint} {st : Stage}
    (h : Accepts known st .fraction (replaceFrom word numeral 0 false tail)) :
    ¬Strands word signed tail := by
  rw [← stray_idle_iff hword hnumeral]
  rintro ⟨digits, after, rfl, hne, hdigits, hahead⟩
  obtain ⟨glued, hreplaced⟩ :
      ∃ glued, replaceFrom word numeral 0 false (digits ++ .char '.' :: after)
        = digits ++ replaceFrom word numeral 0 glued (.char '.' :: after) :=
    replaceFrom_digits hword hdigits false
  rw [hreplaced, accepts_digits hdigits (hne rfl), replaceFrom_cons hword rfl, accepts_point] at h
  -- A second point is accepted only at the start of a fraction of its own.
  rcases h.1 with hwhole | hdigit
  · cases hwhole
  · have hinName : inName (.char '.') = false := rfl
    rw [hinName, hahead] at hdigit
    cases hdigit

/-- **Where every occurrence fits, the replaced formula has no problem.** -/
theorem problems_replaceWord {formula : Text} (h : problems formula known = [])
    (hfits : ∀ tail, Follows word false formula.toList tail → Fits known word signed form tail) :
    problems (.ofList (replaceWord word numeral formula.toList)) known = [] := by
  rw [problems_eq_nil_iff] at h ⊢
  exact accepts_replaceFrom hword hnumeral (.same _ _) h hfits

/-- **What is found at an occurrence if the replaced formula has no problem**: an exponent mark is
known, and behind a number with a point no point is left over. -/
theorem known_of_problems_replaceWord {formula : Text} {tail : List CodePoint}
    (h : problems (.ofList (replaceWord word numeral formula.toList)) known = [])
    (hfollows : Follows word false formula.toList tail) :
    (form = .scientific → KnownName known [.char 'e']) ∧
      (form = .positional → ¬Strands word signed tail) := by
  rw [problems_eq_nil_iff] at h
  obtain ⟨st, part, hnumber⟩ := exists_accepts_of_follows hword hnumeral h hfollows
  obtain ⟨hmark, hrest⟩ := (accepts_numeral_iff hnumeral).mp hnumber
  refine ⟨hmark, ?_⟩
  rintro rfl
  exact not_strands_of_accepts hword hnumeral hrest

end Replaced

end FamilyDesign.Formula
