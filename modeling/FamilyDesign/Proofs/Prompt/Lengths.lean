import FamilyDesign.Brief.Reading
import FamilyDesign.Proofs.Numeric.Gaps
import FamilyDesign.Proofs.Numeric.Numerals
import Mathlib.Data.List.TakeWhile

/-!
# The lengths in a prompt

A number in a prompt is spelled by digits with at most a point among them, so it has no sign and is
never undefined. A length that is bound to a dimension is such a number, or its quotient by what
makes a foot.

* **`unsigned_freeReal`** — the number that digits and points spell.
* **`unsigned_value`** — the value of every quantity.
* **`unsigned_lengthOf`** — the length in feet of whatever is bound.
-/

namespace FamilyDesign

open Numeric (Binary64)
open Numeric.Binary64 (Unsigned)

/-! ## Numerals of digits and points -/

namespace Numeric

/-- A character of an unsigned decimal: a digit of some script or a point. -/
def IsDecimalPart (c : CodePoint) : Prop := Text.isDecimalDigit c = true ∨ c = '.'

/-- In ASCII the characters of a decimal are plain. -/
theorem isPlainPart_asciiDigit {c : CodePoint} (h : IsDecimalPart c) :
    IsPlainPart (Text.asciiDigit c) := by
  rcases h with hdigit | rfl
  · obtain ⟨d, hd⟩ := Option.isSome_iff_exists.mp hdigit
    have hlt := Text.lt_ten_of_digitValue? hd
    refine Or.inl ?_
    rw [Text.toNat_asciiDigit hd]
    omega
  · exact Or.inr (by decide)

/-- A numeral without its blanks and underscores is plain if it was a decimal. -/
theorem isPlainPart_of_mem_plainNumeral {s : Text} (hs : ∀ c ∈ s.toList, IsDecimalPart c)
    {plain : List CodePoint} (h : plainNumeral s = some plain) : ∀ c ∈ plain, IsPlainPart c := by
  intro c hc
  rw [eq_filter_of_dropUnderscores h] at hc
  have hmem := Text.mem_of_mem_stripWhile (List.mem_filter.mp hc).1
  obtain ⟨d, hd, rfl⟩ := List.mem_map.mp hmem
  exact isPlainPart_asciiDigit (hs d hd)

/-- A plain numeral has no sign. -/
theorem splitSign_of_isPlainPart {cs : List CodePoint} (h : ∀ c ∈ cs, IsPlainPart c) :
    splitSign cs = (false, cs) := by
  have hsign : ∀ sign : CodePoint, IsPlainPart sign → sign ≠ '-' ∧ sign ≠ '+' := by
    rintro sign (hdigit | rfl)
    · refine ⟨?_, ?_⟩
      · rintro rfl
        exact absurd hdigit.1 (by decide)
      · rintro rfl
        exact absurd hdigit.1 (by decide)
    · exact ⟨by decide, by decide⟩
  unfold splitSign
  split
  · exact absurd rfl (hsign _ (h _ List.mem_cons_self)).1
  · exact absurd rfl (hsign _ (h _ List.mem_cons_self)).2
  · rfl

/-- What a decimal spells once its digits and its exponent are known. -/
theorem unsigned_of_exponent {missing : Bool} {digits : Nat} {places : Int} {exponent : Option Int}
    {x : Binary64} (h : (if missing then none
      else exponent.map fun e => Binary64.ofDecimal false digits (e - places)) = some x) :
    x.Unsigned := by
  split at h
  · cases h
  · obtain ⟨e, -, rfl⟩ := Option.map_eq_some_iff.mp h
    exact Binary64.unsigned_ofDecimal _ _

/-- What is read without a sign has none. -/
theorem unsigned_readMagnitude {cs : List CodePoint} {x : Binary64}
    (h : readMagnitude false cs = some x) : x.Unsigned := by
  unfold readMagnitude at h
  dsimp only at h
  split at h
  · exact unsigned_of_exponent h
  · exact unsigned_of_exponent h

/-- The number that digits and points spell has no sign and is defined. -/
theorem unsigned_freeReal {s : Text} (hs : ∀ c ∈ s.toList, IsDecimalPart c) {x : Binary64}
    (h : freeReal? s = some x) : x.Unsigned := by
  obtain ⟨plain, hplain, hread⟩ := Option.bind_eq_some_iff.mp h
  have hparts := isPlainPart_of_mem_plainNumeral hs hplain
  rw [readReal_of_isPlainPart (splitSign_of_isPlainPart hparts) hparts] at hread
  exact unsigned_readMagnitude hread

end Numeric

/-! ## Quantities -/

namespace Prompt

/-- A number token is spelled by digits and points. -/
def Token.IsSpelled (token : Token) : Prop :=
  token.kind = .number → ∀ c ∈ token.text.toList, Numeric.IsDecimalPart c

/-- A point and the digits behind it are parts of a decimal. -/
theorem isDecimalPart_splitFraction (cs : List CodePoint) :
    ∀ c ∈ (splitFraction cs).1, Numeric.IsDecimalPart c := by
  unfold splitFraction
  split
  · next rest =>
    dsimp only
    split
    · nofun
    · intro c hc
      rcases List.mem_cons.mp hc with rfl | hmem
      · exact Or.inr rfl
      · exact Or.inl (List.mem_takeWhile_imp hmem)
  · nofun

/-- A token that is a number is made of digits and a point. -/
theorem isDecimalPart_takeToken {c : CodePoint} {rest : List CodePoint}
    (h : (takeToken c rest).1 = .number) :
    ∀ d ∈ (takeToken c rest).2.1, Numeric.IsDecimalPart d := by
  unfold takeToken at h ⊢
  split at h
  · next hdigit =>
    rw [if_pos hdigit]
    intro d hd
    rcases List.mem_cons.mp hd with rfl | hd
    · exact Or.inl hdigit
    · rcases List.mem_append.mp hd with hwhole | hfraction
      · exact Or.inl (List.mem_takeWhile_imp hwhole)
      · exact isDecimalPart_splitFraction _ d hfraction
  · -- Words, marks and the rest are of other kinds.
    split at h
    · cases h
    · split at h
      · cases h
      · cases h

/-- So is every number among the pieces of a text. Induction along the scan. -/
theorem isDecimalPart_scan (cs : List CodePoint) :
    ∀ piece ∈ scan cs, piece.1 = .number → ∀ c ∈ piece.2, Numeric.IsDecimalPart c := by
  induction cs using scan.induct with
  | case1 =>
    rw [scan]
    nofun
  | case2 c rest hblank ih =>
    rw [scan, if_pos hblank]
    exact ih
  | case3 c rest hblank token ih =>
    rw [scan, if_neg hblank]
    intro piece hpiece hnumber
    rcases List.mem_cons.mp hpiece with rfl | hmem
    · exact isDecimalPart_takeToken hnumber
    · exact ih piece hmem hnumber

/-- The tokens of a prompt are spelled as their kinds are. -/
theorem isSpelled_of_mem_tokenize {prompt : Text} {token : Token} (h : token ∈ tokenize prompt) :
    token.IsSpelled := by
  obtain ⟨i, hi, rfl⟩ := List.mem_mapIdx.mp h
  intro hnumber
  exact isDecimalPart_scan _ _ (List.getElem_mem hi) hnumber

/-- The value of a number token. -/
theorem Token.IsSpelled.unsigned_value {token : Token} (h : token.IsSpelled)
    (hnumber : token.kind = .number) : token.value.Unsigned := by
  unfold Token.value
  cases hread : Numeric.freeReal? token.text with
  | none => exact Numeric.Binary64.unsigned_ofNat 0
  | some x => exact Numeric.unsigned_freeReal (h hnumber) hread

/-- The unit ahead and what follows it are among the tokens, in their order. -/
theorem sublist_of_unitAhead? {tokens rest : List Token} {unit : Token}
    (h : unitAhead? tokens = some (unit, rest)) : (unit :: rest).Sublist tokens := by
  have hskip : (skipHyphen tokens).Sublist tokens := by
    unfold skipHyphen
    split
    · split
      · exact List.sublist_cons_self _ _
      · exact List.Sublist.refl _
    · exact List.Sublist.refl _
  unfold unitAhead? at h
  split at h
  · next first more heq =>
    split at h
    · cases h
      rwa [heq] at hskip
    · cases h
  · cases h

/-- A number with a unit ahead is a quantity, and the search goes on behind the unit. -/
theorem quantities_cons_of_unitAhead? {token unit : Token} {rest after : List Token}
    (hnumber : token.kind = .number) (h : unitAhead? rest = some (unit, after)) :
    quantities (token :: rest)
      = ⟨token.value, unit.text, token.index, unit.index⟩ :: quantities after := by
  rw [quantities, if_pos hnumber]
  split
  · next unit' after' hahead =>
    rw [h] at hahead
    cases hahead
    rfl
  · next hnone =>
    rw [h] at hnone
    cases hnone

/-- Any other token is passed over. -/
theorem quantities_cons_of_no_unit {token : Token} {rest : List Token}
    (h : token.kind ≠ .number ∨ unitAhead? rest = none) :
    quantities (token :: rest) = quantities rest := by
  rw [quantities]
  split
  · next hnumber =>
    split
    · next unit after hahead =>
      rw [h.resolve_left (fun hne => hne hnumber)] at hahead
      cases hahead
    · rfl
  · rfl

/-- A quantity is made of a number and a unit behind it. Induction on the search from the left. -/
theorem exists_tokens_of_mem_quantities {tokens : List Token} : ∀ q ∈ quantities tokens,
    ∃ number unit, [number, unit].Sublist tokens ∧ number.kind = .number ∧
      q = ⟨number.value, unit.text, number.index, unit.index⟩ := by
  induction tokens using quantities.induct with
  | case1 =>
    rw [quantities]
    nofun
  | case2 token rest hnumber unit after hahead ih =>
    have hsublist := sublist_of_unitAhead? hahead
    rw [quantities_cons_of_unitAhead? hnumber hahead]
    intro q hq
    rcases List.mem_cons.mp hq with rfl | hmem
    · -- The quantity just found, or one that is found behind its unit.
      have hunit := (List.singleton_sublist.mpr List.mem_cons_self).trans hsublist
      exact ⟨token, unit, hunit.cons_cons _, hnumber, rfl⟩
    · obtain ⟨number, unit', hboth, hkind, heq⟩ := ih q hmem
      exact ⟨number, unit', ((hboth.cons _).trans hsublist).cons _, hkind, heq⟩
  | case3 token rest hnumber hahead ih =>
    rw [quantities_cons_of_no_unit (Or.inr hahead)]
    intro q hq
    obtain ⟨number, unit, hboth, hkind, heq⟩ := ih q hq
    exact ⟨number, unit, hboth.cons _, hkind, heq⟩
  | case4 token rest hnumber ih =>
    rw [quantities_cons_of_no_unit (Or.inl hnumber)]
    intro q hq
    obtain ⟨number, unit, hboth, hkind, heq⟩ := ih q hq
    exact ⟨number, unit, hboth.cons _, hkind, heq⟩

/-- Each quantity has the value of a number token. -/
theorem unsigned_value {tokens : List Token} (h : ∀ token ∈ tokens, token.IsSpelled) :
    ∀ q ∈ quantities tokens, q.value.Unsigned := by
  intro q hq
  obtain ⟨number, unit, hboth, hkind, rfl⟩ := exists_tokens_of_mem_quantities q hq
  exact (h number (hboth.subset List.mem_cons_self)).unsigned_value hkind

/-! ## Bindings -/

/-- The nearest binding is one of them. -/
theorem mem_of_nearest? {bindings : List Binding} {b : Binding} (h : nearest? bindings = some b) :
    b ∈ bindings := by
  -- of two bindings the fold keeps one, so it ends with one of the list
  have hfold : ∀ (rest : List Binding) (first : Binding),
      rest.foldl (fun best b => if b.nearer best then b else best) first ∈ first :: rest := by
    intro rest
    induction rest with
    | nil => exact fun first => List.mem_singleton_self first
    | cons next rest ih =>
      intro first
      rw [List.foldl_cons]
      split
      · exact List.mem_cons_of_mem _ (ih next)
      · rcases List.mem_cons.mp (ih first) with heq | hmem
        · rw [heq]
          exact List.mem_cons_self
        · exact List.mem_cons_of_mem _ (List.mem_cons_of_mem _ hmem)
  cases bindings with
  | nil => cases h
  | cons first rest =>
    cases h
    exact hfold rest first

/-- A keyword binds the quantity it is asked for. -/
theorem quantity_of_bindKeyword? {tokens : List Token} {q : Quantity} {k : Keyword} {b : Binding}
    (h : bindKeyword? tokens q k = some b) : b.quantity = q := by
  unfold bindKeyword? at h
  split at h
  · obtain ⟨gap, -, rfl⟩ := Option.map_eq_some_iff.mp h
    rfl
  · split at h
    · obtain ⟨gap, -, rfl⟩ := Option.map_eq_some_iff.mp h
      rfl
    · cases h

theorem quantity_of_bind? {tokens : List Token} {hits : List Keyword} {d : Dimension}
    {q : Quantity} {b : Binding} (h : bind? tokens hits d q = some b) : b.quantity = q := by
  obtain ⟨k, -, hk⟩ := List.mem_filterMap.mp (mem_of_nearest? h)
  exact quantity_of_bindKeyword? hk

/-- The binding chosen is a candidate. -/
theorem mem_of_choose? {taken : List Nat} {candidates : List Binding} {b : Binding}
    (h : choose? taken candidates = some b) : b ∈ candidates := by
  unfold choose? at h
  split at h
  · next hfind =>
    cases h
    exact List.mem_of_find?_eq_some hfind
  · exact List.mem_of_mem_head? h

/-- Each dimension is bound to one of its candidates. Induction on the dimensions that are left. -/
theorem mem_of_lookup_bindAll {candidates : Dimension → List Binding} {d : Dimension} {b : Binding}
    {dimensions : List Dimension} {taken : List Nat}
    (h : (bindAll candidates taken dimensions).lookup d = some b) : b ∈ candidates d := by
  induction dimensions generalizing taken with
  | nil => cases h
  | cons first rest ih =>
    unfold bindAll at h
    split at h
    · next chosen hchosen =>
      rw [List.lookup_cons] at h
      split at h
      · next heq =>
        cases h
        rw [eq_of_beq heq]
        exact mem_of_choose? hchosen
      · exact ih h
    · exact ih h

/-- **A quantity that is bound has no sign.** -/
theorem unsigned_bindings {prompt : Text} {d : Dimension} {b : Binding}
    (h : (bindings prompt).lookup d = some b) : b.quantity.value.Unsigned := by
  obtain ⟨q, hq, hbind⟩ := List.mem_filterMap.mp (mem_of_lookup_bindAll h)
  rw [quantity_of_bind? hbind]
  exact unsigned_value (fun _ => isSpelled_of_mem_tokenize) q hq

end Prompt

/-! ## Feet -/

namespace Reading

/-- A length without a sign has none in feet. -/
theorem unsigned_inFeet {x : Binary64} (h : x.Unsigned) (u : LengthUnit) :
    (Length.inFeet x u).Unsigned := by
  have hperFoot : u.perFoot.Unsigned ∧ 0 < u.perFoot ∧ u.perFoot.isFinite = true := by
    cases u with
    | foot => exact ⟨Numeric.Binary64.unsigned_ofNat 1, by decide +kernel, by decide +kernel⟩
    | inch => exact ⟨Numeric.Binary64.unsigned_ofNat 12, by decide +kernel, by decide +kernel⟩
    | centimetre =>
      exact ⟨Numeric.Binary64.unsigned_ofScientific 3048 true 2, by decide +kernel,
        by decide +kernel⟩
    | millimetre =>
      exact ⟨Numeric.Binary64.unsigned_ofScientific 3048 true 1, by decide +kernel,
        by decide +kernel⟩
  obtain ⟨hunsigned, hpos, hfin⟩ := hperFoot
  unfold Length.inFeet
  -- Feet are left as they are, all other units are divided by a positive number.
  split
  · exact h
  · exact h.div hunsigned hpos hfin

/-- The length of a binding has no sign. -/
theorem unsigned_lengthOf {prompt : Text} {d : Dimension} {b : Prompt.Binding}
    (h : (Prompt.bindings prompt).lookup d = some b) : (lengthOf b.quantity).1.Unsigned := by
  have hvalue := Prompt.unsigned_bindings h
  unfold lengthOf
  cases hunit : LengthUnit.parse? b.quantity.unit with
  | none =>
    unfold Length.toFeet Length.convert
    rw [hunit]
    exact hvalue
  | some u =>
    rw [Length.toFeet_of_parse hunit]
    exact unsigned_inFeet hvalue u

end Reading

end FamilyDesign
