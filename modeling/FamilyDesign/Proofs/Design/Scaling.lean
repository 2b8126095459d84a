import FamilyDesign.Design.Variation
import FamilyDesign.Proofs.Fallible
import FamilyDesign.Proofs.Json.Same
import FamilyDesign.Proofs.Numeric.Order
import FamilyDesign.Proofs.Numeric.ReadBack

/-!
# What a variation scales

A variation multiplies what lies in plan by the factor of its index: the points of the extrusions,
and the defaults of the parameters that span the plan with the numbers that family types bind to
them. Everything else is kept but for the name, which tells the place of the variation among its
siblings.

* **`Numeric.Binary64.eqv_mul_right`**, **`Json.same_of_scales`** — numbers of one value are scaled
  to numbers of one value, integers among them.
* **`Design.Varies`** — a design and its variation, part by part.
* **`Design.variation_eq_error`**, **`Design.exists_variation`** — there is none if its place has
  more digits than may be written, and there is one if all its numbers have a real number nearest to
  them.
* **`Design.varies_of_variation`** — what a variation is.
-/

namespace FamilyDesign

open Numeric (Binary64)

/-! ## Numbers of one value -/

namespace Numeric.Binary64

/-- Numbers are equal if they stand at one place; one that is undefined stands at none. -/
theorem eqv_iff {x y : Binary64} :
    x.eqv y = true ↔ ∃ a, x.place? = some a ∧ y.place? = some a := by
  unfold eqv
  cases x.place? with
  | none => simp
  | some a =>
    cases y.place? with
    | none => simp
    | some b =>
      show (a == b) = true ↔ _
      rw [beq_iff_eq]
      constructor
      · rintro rfl
        exact ⟨a, rfl, rfl⟩
      · rintro ⟨c, hac, hbc⟩
        rw [Option.some.inj hac, Option.some.inj hbc]

/-- A defined number equals itself. -/
theorem eqv_self {x : Binary64} (h : x.isUndefined = false) : x.eqv x = true := by
  cases x with
  | nan shared => cases h
  | ranked s r bounded => exact eqv_iff.mpr ⟨_, rfl, rfl⟩

theorem eqv_swap {x y : Binary64} (h : x.eqv y = true) : y.eqv x = true := by
  obtain ⟨a, hx, hy⟩ := eqv_iff.mp h
  exact eqv_iff.mpr ⟨a, hy, hx⟩

/-- Finite numbers of one exact value: neither comes before the other. -/
theorem eqv_of_value_eq {x y : Binary64} (hx : x.isFinite = true) (hy : y.isFinite = true)
    (h : x.value = y.value) : x.eqv y = true := by
  cases x with
  | nan shared => cases hx
  | ranked s r hr =>
    cases y with
    | nan shared => cases hy
    | ranked s' r' hr' =>
      refine eqv_iff.mpr ⟨_, rfl, congrArg some ?_⟩
      by_contra hne
      rcases Int.lt_or_gt_of_ne hne with hlt | hlt
      · have hvalue : (ranked s' r' hr').value < (ranked s r hr).value :=
          value_lt_value (lt_iff.mpr ⟨_, _, rfl, rfl, hlt⟩)
        omega
      · have hvalue : (ranked s r hr).value < (ranked s' r' hr').value :=
          value_lt_value (lt_iff.mpr ⟨_, _, rfl, rfl, hlt⟩)
        omega

/-- An integer that is the value of a finite number is not rounded. -/
theorem eqv_ofInt {x : Binary64} (hx : x.isFinite = true) {n : Int}
    (h : x.value = n * unitsPerOne) : (ofInt n).eqv x = true := by
  have habs : x.value.natAbs = n.natAbs * unitsPerOne := by
    rw [h, Int.natAbs_mul, Int.natAbs_natCast]
  obtain ⟨hfinite, hvalue⟩ := nearest_exact (decide (n < 0)) hx habs
  refine eqv_of_value_eq hfinite hx ?_
  show (nearest (decide (n < 0)) (n.natAbs * unitsPerOne) 1).value = x.value
  rw [hvalue, h]
  unfold Numeric.signed
  by_cases hneg : n < 0
  · rw [decide_eq_true hneg, if_pos rfl, Int.natCast_mul, ← Int.neg_mul,
      Int.ofNat_natAbs_of_nonpos (Int.le_of_lt hneg), Int.neg_neg]
  · rw [decide_eq_false hneg, if_neg Bool.false_ne_true, Int.natCast_mul,
      Int.natAbs_of_nonneg (Int.not_lt.mp hneg)]

/-- A zero stays one, whatever its sign. -/
theorem place?_zero_mul {z : Binary64} (hpos : 0 < z) (hfin : z.isFinite = true) (sign : Bool)
    (bounded : 0 ≤ infinityRank) : (ranked sign 0 bounded * z).place? = some 0 := by
  obtain ⟨r, hr, rfl⟩ := unsigned_of_pos hpos
  have hfinite : ¬(0 = infinityRank ∨ r = infinityRank) := by
    rintro (hzero | hinfinite)
    · exact absurd hzero (by decide)
    · exact bne_iff_ne.mp hfin hinfinite
  have hproduct : ranked sign 0 bounded * ranked false r hr
      = nearest (sign != false) 0 unitsPerOne := by
    show Binary64.mul _ _ = _
    unfold Binary64.mul
    dsimp only
    rw [if_neg hfinite, show units 0 = 0 from rfl, Nat.zero_mul]
  rw [hproduct]
  unfold nearest place?
  dsimp only
  rw [nearestRank_zero]
  cases sign <;> rfl

/-- Products of one number with numbers of one value: these are one number, or two zeros. -/
theorem eqv_mul_right {x y z : Binary64} (h : x.eqv y = true) (hpos : 0 < z)
    (hfin : z.isFinite = true) : (x * z).eqv (y * z) = true := by
  obtain ⟨a, hx, hy⟩ := eqv_iff.mp h
  obtain ⟨s, r, hr, rfl⟩ := exists_ranked_of_place? hx
  obtain ⟨s', r', hr', rfl⟩ := exists_ranked_of_place? hy
  have hplace : (if s then -(r : Int) else r) = if s' then -(r' : Int) else r' :=
    Option.some.inj (hx.trans hy.symm)
  have hrank : r = r' := by
    split at hplace <;> split at hplace <;> omega
  subst hrank
  by_cases hsign : s = s'
  · subst hsign
    exact eqv_self (isUndefined_mul rfl hpos hfin)
  · have hzero : r = 0 := by
      cases s <;> cases s' <;> simp_all
    subst hzero
    exact eqv_iff.mpr ⟨0, place?_zero_mul hpos hfin s hr, place?_zero_mul hpos hfin s' hr'⟩

end Numeric.Binary64

/-! ## Values that are scaled -/

namespace Json

/-- Whether a value is a number. -/
inductive IsNumber : Json → Prop
  | integer (n : Int) : IsNumber (.int n)
  | real (x : Binary64) : IsNumber (.real x)

/-- Whether a value that is an integer has a finite real nearest to it. -/
def FitsReal (v : Json) : Prop := ∀ n, v = .int n → (Binary64.ofInt n).isFinite = true

/-- A number and its product with a factor. -/
inductive Scales (factor : Binary64) : Json → Json → Prop
  | integer {n : Int} (inRange : (Binary64.ofInt n).isFinite = true) :
      Scales factor (.int n) (.real (.ofInt n * factor))
  | real (x : Binary64) : Scales factor (.real x) (.real (x * factor))

/-- What becomes of a value: a number is scaled where scaling applies. -/
inductive ScalesIf (applies : Prop) (factor : Binary64) (v : Json) : Json → Prop
  | scaled {w : Json} (at_ : applies) (scales : v.Scales factor w) : ScalesIf applies factor v w
  | kept (unscaled : ¬(applies ∧ v.IsNumber)) : ScalesIf applies factor v v

variable {factor : Binary64} {v w v' w' : Json}

/-- Only numbers are scaled. -/
theorem Scales.isNumber (h : v.Scales factor w) : v.IsNumber := by
  cases h with
  | integer inRange => exact .integer _
  | real x => exact .real x

/-- A scalar is read just where a value counts as a number. -/
theorem isSome_ofJson?_iff : (Scalar.ofJson? v).isSome = true ↔ v.IsNumber := by
  constructor
  · intro h
    cases v with
    | int n => exact .integer n
    | real x => exact .real x
    | null => cases h
    | bool b => cases h
    | text s => cases h
    | array items => cases h
    | object fields => cases h
  · rintro (_ | _) <;> rfl

/-- A number is scaled if a real is nearest to it, and any other value is left alone. -/
theorem scale?_of_isNumber (factor : Binary64) (h : v.IsNumber) :
    (∃ w, v.scale? factor = .ok (some w) ∧ v.Scales factor w) ∨
      (∃ fault, v.scale? factor = .error fault) ∧ ¬v.FitsReal := by
  cases h with
  | integer n =>
    have hreal : realOfInt n = if (Binary64.ofInt n).isFinite then .ok (Binary64.ofInt n)
      else .error .integerTooLarge := rfl
    by_cases hfinite : (Binary64.ofInt n).isFinite = true
    · rw [if_pos hfinite] at hreal
      exact Or.inl ⟨_, bind_eq_ok_iff.mpr ⟨_, hreal, rfl⟩, .integer hfinite⟩
    · rw [if_neg hfinite] at hreal
      exact Or.inr ⟨⟨_, bind_eq_error_iff.mpr (Or.inl hreal)⟩, fun hfits => hfinite (hfits n rfl)⟩
  | real x => exact Or.inl ⟨_, rfl, .real x⟩

/-- What is no number is not scaled. -/
theorem scale?_of_not_isNumber (h : ¬v.IsNumber) : v.scale? factor = .ok none := by
  rw [← isSome_ofJson?_iff, Option.not_isSome_iff_eq_none] at h
  unfold scale?
  rw [h]

/-- What a value is replaced by where scaling applies. -/
theorem scalesIf_of_scale? {applies : Prop} {scaled : Option Json} (happlies : applies)
    (h : v.scale? factor = .ok scaled) : v.ScalesIf applies factor (scaled.getD v) := by
  by_cases hnumber : v.IsNumber
  · rcases scale?_of_isNumber factor hnumber with ⟨w, hw, hscales⟩ | ⟨⟨fault, hw⟩, -⟩
    · rw [hw] at h
      cases h
      exact .scaled happlies hscales
    · rw [hw] at h
      cases h
  · rw [scale?_of_not_isNumber hnumber] at h
    cases h
    exact .kept fun happlies => hnumber happlies.2

/-- A value that a real number can hold is scaled. -/
theorem exists_scale? (factor : Binary64) (h : v.FitsReal) :
    ∃ scaled, v.scale? factor = .ok scaled := by
  by_cases hnumber : v.IsNumber
  · rcases scale?_of_isNumber factor hnumber with ⟨w, hw, -⟩ | ⟨-, hunfit⟩
    · exact ⟨_, hw⟩
    · exact absurd h hunfit
  · exact ⟨_, scale?_of_not_isNumber hnumber⟩

/-- **Numbers of one value are scaled to numbers of one value**, an integer and a real among
them. -/
theorem same_of_scales (hpos : 0 < factor) (hfin : factor.isFinite = true)
    (hv : v.Scales factor v') (hw : w.Scales factor w') (h : v.same w = true) :
    v'.same w' = true := by
  have hreal : ∀ {x y : Binary64}, x.eqv y = true →
      (Json.real (x * factor)).same (.real (y * factor)) = true := by
    intro x y heqv
    exact Bool.or_eq_true_iff.mpr (Or.inr (Binary64.eqv_mul_right heqv hpos hfin))
  -- each of the two is an integer or a real, so there are four cases to compare
  cases hv with
  | @integer n _ =>
    cases hw with
    | @integer m _ =>
      cases (beq_iff_eq.mp h : n = m)
      exact Scalar.same_self (.real _)
    | real y =>
      obtain ⟨hy, hvalue⟩ := Bool.and_eq_true_iff.mp h
      exact hreal (Binary64.eqv_ofInt hy (beq_iff_eq.mp hvalue))
  | real x =>
    cases hw with
    | @integer m _ =>
      obtain ⟨hx, hvalue⟩ := Bool.and_eq_true_iff.mp h
      exact hreal (Binary64.eqv_swap (Binary64.eqv_ofInt hx (beq_iff_eq.mp hvalue)))
    | real y =>
      rcases Bool.or_eq_true_iff.mp h with hself | heqv
      · cases (beq_iff_eq.mp hself : x = y)
        exact Scalar.same_self (.real _)
      · exact hreal heqv

/-- The text of an integer of as many digits as one may have. -/
theorem textOfInt_of_lt {n : Int} (h : n.natAbs < 10 ^ Numeric.longestInteger) :
    textOfInt n = .ok (Numeric.intText n) := by
  have hdigits : Numeric.digitCount n.natAbs ≤ Numeric.longestInteger :=
    (Nat.length_toDigits_le_iff (by omega) (by decide)).mpr h
  unfold textOfInt
  rw [if_neg (Nat.not_lt.mpr hdigits)]

/-- One of more digits has none. -/
theorem textOfInt_of_le {n : Int} (h : 10 ^ Numeric.longestInteger ≤ n.natAbs) :
    textOfInt n = .error .integerTooLong := by
  have hdigits : ¬Numeric.digitCount n.natAbs ≤ Numeric.longestInteger := fun hle =>
    Nat.not_lt.mpr h ((Nat.length_toDigits_le_iff (by omega) (by decide)).mp hle)
  unfold textOfInt
  rw [if_pos (Nat.not_le.mp hdigits)]

end Json

/-! ## Parameters and family types -/

/-- Whether a parameter is a length that spans the plan: one for a width or a height, and not one of
a sill. -/
structure Parameter.SpansPlan (p : Parameter) : Prop where
  measured : p.type = "Length"
  spans : Text.contains (Text.lower p.name) "width" = true ∨
    Text.contains (Text.lower p.name) "height" = true
  noSill : Text.contains (Text.lower p.name) "sill" = false

/-- The test for a length in the plan, in terms of the names. -/
theorem Parameter.isPlanLength_iff {p : Parameter} : p.isPlanLength = true ↔ p.SpansPlan := by
  unfold isPlanLength
  dsimp only
  rw [Bool.and_eq_true, Bool.and_eq_true, Bool.or_eq_true, beq_iff_eq, Bool.not_eq_true']
  exact ⟨fun h => ⟨h.1.1, h.2, h.1.2⟩, fun h => ⟨⟨h.measured, h.noSill⟩, h.spans⟩⟩

/-- A parameter is scaled if it spans the plan and its default is a number. -/
theorem Parameter.isScaled_iff {p : Parameter} :
    p.isScaled = true ↔ p.SpansPlan ∧ p.default.IsNumber := by
  unfold isScaled
  rw [Bool.and_eq_true, isPlanLength_iff, Json.isSome_ofJson?_iff]

/-- Whether a name is that of a parameter of which the default is scaled. -/
def Design.Rescales (d : Design) (name : Text) : Prop :=
  ∃ p ∈ d.parameters, p.SpansPlan ∧ p.default.IsNumber ∧ p.name = name

/-- Whether each integer among the defaults and the bindings has a finite real nearest to it. -/
structure Design.FitsReals (d : Design) : Prop where
  defaults : ∀ p ∈ d.parameters, p.default.FitsReal
  bindings : ∀ t ∈ d.types, ∀ b ∈ t.bindings, b.2.FitsReal

section Scaled

variable {factor : Binary64}

/-- A parameter and its scaled one. -/
def Parameter.ScalesTo (factor : Binary64) (p q : Parameter) : Prop :=
  q = { p with default := q.default } ∧ p.default.ScalesIf p.SpansPlan factor q.default

/-- A family type and its scaled one, in a design. -/
def FamilyType.ScalesTo (d : Design) (factor : Binary64) (t u : FamilyType) : Prop :=
  u = { t with bindings := u.bindings } ∧
    List.Forall₂ (fun b c => c.1 = b.1 ∧ b.2.ScalesIf (d.Rescales b.1) factor c.2)
      t.bindings u.bindings

/-- What a parameter is scaled to. -/
theorem Parameter.scalesTo_of_scale {p q : Parameter} (h : p.scale factor = .ok q) :
    p.ScalesTo factor q := by
  unfold scale at h
  split at h
  · next hplan =>
    obtain ⟨scaled, hscaled, h⟩ := bind_eq_ok_iff.mp h
    have hscales := Json.scalesIf_of_scale? (isPlanLength_iff.mp hplan) hscaled
    cases scaled with
    | none =>
      cases h
      exact ⟨rfl, hscales⟩
    | some v =>
      cases h
      exact ⟨rfl, hscales⟩
  · next hplan =>
    cases h
    exact ⟨rfl, .kept fun happlies => hplan (isPlanLength_iff.mpr happlies.1)⟩

theorem Parameter.exists_scale (factor : Binary64) {p : Parameter} (h : p.default.FitsReal) :
    ∃ q, p.scale factor = .ok q := by
  unfold scale
  split
  · obtain ⟨scaled, hscaled⟩ := Json.exists_scale? factor h
    cases scaled with
    | none => exact ⟨_, bind_eq_ok_iff.mpr ⟨_, hscaled, rfl⟩⟩
    | some v => exact ⟨_, bind_eq_ok_iff.mpr ⟨_, hscaled, rfl⟩⟩
  · exact ⟨p, rfl⟩

variable {d : Design} {names : List Text}

/-- What a type is scaled to: the bindings of scaled names that are numbers change, and no others.
-/
theorem FamilyType.scalesTo_of_scale (hnames : ∀ name, names.contains name = true ↔ d.Rescales name)
    {t u : FamilyType} (h : t.scale factor names = .ok u) : t.ScalesTo d factor u := by
  obtain ⟨bindings, hbindings, hu⟩ := bind_eq_ok_iff.mp h
  cases hu
  refine ⟨rfl, (mapM_eq_ok_iff.mp hbindings).imp ?_⟩
  rintro ⟨name, v⟩ c hc
  dsimp only at hc
  split at hc
  · next hmem =>
    obtain ⟨scaled, hscaled, hc⟩ := bind_eq_ok_iff.mp hc
    cases hc
    exact ⟨rfl, Json.scalesIf_of_scale? ((hnames name).mp hmem) hscaled⟩
  · next hmem =>
    cases hc
    exact ⟨rfl, .kept fun happlies => hmem ((hnames name).mpr happlies.1)⟩

theorem FamilyType.exists_scale (factor : Binary64) (names : List Text) {t : FamilyType}
    (h : ∀ b ∈ t.bindings, b.2.FitsReal) : ∃ u, t.scale factor names = .ok u := by
  suffices hbindings : ∃ bindings, t.bindings.mapM (fun b => do
      if names.contains b.1 then .ok (b.1, (← b.2.scale? factor).getD b.2) else .ok (b.1, b.2))
        = .ok bindings by
    obtain ⟨bindings, hbindings⟩ := hbindings
    exact ⟨_, bind_eq_ok_iff.mpr ⟨bindings, hbindings, rfl⟩⟩
  rw [exists_mapM_ok_iff]
  intro b hb
  split
  · obtain ⟨scaled, hscaled⟩ := Json.exists_scale? factor (h b hb)
    exact ⟨_, bind_eq_ok_iff.mpr ⟨scaled, hscaled, rfl⟩⟩
  · exact ⟨_, rfl⟩

end Scaled

/-! ## Designs -/

/-- The factors are positive and finite. -/
theorem variationFactor_pos (index : Int) :
    0 < variationFactor index ∧ (variationFactor index).isFinite = true := by
  have hall : ∀ factor ∈ variationFactors, 0 < factor ∧ factor.isFinite = true := by
    decide +kernel
  unfold variationFactor
  cases hget : variationFactors[(index % 6).toNat]? with
  | none => exact ⟨by decide +kernel, by decide +kernel⟩
  | some factor => exact hall factor (List.mem_of_getElem? hget)

namespace Design

/-- Whether a design is the variation of another one at an index: it has its name with its place
behind it, what lies in plan is multiplied by the factor of the index, and the rest is the same. -/
structure Varies (d : Design) (index : Int) (d' : Design) : Prop where
  others : d' = { d with
    metadata := d'.metadata, geometry := d'.geometry, parameterSet := d'.parameterSet }
  metadata : d'.metadata = d.metadata.map fun m =>
    { m with familyName := m.familyName ++ " Variation " ++ Numeric.intText (index + 1) }
  geometry : d'.geometry = d.geometry.map fun g => { g with extrusions := d'.extrusions }
  extrusions : d'.extrusions = d.extrusions.map fun e => { e with
    profile := e.profile.map fun p =>
      { p with x := p.x * variationFactor index, y := p.y * variationFactor index }
    start := { e.start with
      x := e.start.x * variationFactor index, y := e.start.y * variationFactor index }
    stop := { e.stop with
      x := e.stop.x * variationFactor index, y := e.stop.y * variationFactor index } }
  parameterSet : d'.parameterSet
    = d.parameterSet.map fun s => { s with family := d'.parameters, types := d'.types }
  parameters : List.Forall₂ (Parameter.ScalesTo (variationFactor index)) d.parameters d'.parameters
  types : List.Forall₂ (FamilyType.ScalesTo d (variationFactor index)) d.types d'.types

variable {d d' : Design} {index : Int}

/-- The name of a variation tells its place, if the place can be written. -/
theorem variationMetadata_of_lt (h : (index + 1).natAbs < 10 ^ Numeric.longestInteger)
    (m : Metadata) :
    variationMetadata index m
      = .ok { m with familyName := m.familyName ++ " Variation " ++ Numeric.intText (index + 1) } :=
  bind_eq_ok_iff.mpr ⟨_, Json.textOfInt_of_lt h, rfl⟩

/-- A design with metadata has no variation at an index of which the place cannot be written. -/
theorem variation_eq_error (hmetadata : d.metadata.isSome = true)
    (h : 10 ^ Numeric.longestInteger ≤ (index + 1).natAbs) :
    d.variation index = .error .integerTooLong := by
  obtain ⟨m, hm⟩ := Option.isSome_iff_exists.mp hmetadata
  have hplace : variationMetadata index m = .error .integerTooLong :=
    bind_eq_error_iff.mpr (Or.inl (Json.textOfInt_of_le h))
  refine bind_eq_error_iff.mpr (Or.inl ?_)
  rw [hm]
  show some <$> variationMetadata index m = _
  rw [hplace]
  rfl

theorem mapM_variationMetadata (h : (index + 1).natAbs < 10 ^ Numeric.longestInteger)
    (metadata : Option Metadata) :
    metadata.mapM (variationMetadata index) = .ok (metadata.map fun m =>
      { m with familyName := m.familyName ++ " Variation " ++ Numeric.intText (index + 1) }) := by
  cases metadata with
  | none => rfl
  | some m =>
    show some <$> variationMetadata index m = _
    rw [variationMetadata_of_lt h]
    rfl

/-- The names under which numbers are scaled. -/
theorem contains_scaledNames_iff {d : Design} {name : Text} :
    ((d.parameters.filter (·.isScaled)).map (·.name)).contains name = true ↔ d.Rescales name := by
  rw [List.contains_iff_mem, List.mem_map]
  unfold Rescales
  simp only [List.mem_filter, Parameter.isScaled_iff, and_assoc]

/-- A design of which the numbers have a real nearest to them has a variation at any other index. -/
theorem exists_variation (hfits : d.FitsReals)
    (h : (index + 1).natAbs < 10 ^ Numeric.longestInteger) :
    ∃ d', d.variation index = .ok d' := by
  have hset : ∃ set, d.parameterSet.mapM (·.scale (variationFactor index)) = .ok set := by
    obtain ⟨hdefaults, hbindings⟩ := hfits
    unfold parameters at hdefaults
    unfold types at hbindings
    cases hset : d.parameterSet with
    | none => exact ⟨none, rfl⟩
    -- each default and each binding can be scaled, so the set can
    | some s =>
      rw [hset] at hdefaults hbindings
      obtain ⟨family, hfamily⟩ := exists_mapM_ok_iff.mpr fun p hp =>
        Parameter.exists_scale (variationFactor index) (hdefaults p hp)
      obtain ⟨types, htypes⟩ := exists_mapM_ok_iff.mpr fun t ht =>
        FamilyType.exists_scale (variationFactor index)
          ((s.family.filter (·.isScaled)).map (·.name)) (hbindings t ht)
      have hscale : s.scale (variationFactor index) = .ok { s with family, types } :=
        bind_eq_ok_iff.mpr ⟨family, hfamily, bind_eq_ok_iff.mpr ⟨types, htypes, rfl⟩⟩
      refine ⟨some { s with family, types }, ?_⟩
      show some <$> s.scale (variationFactor index) = _
      rw [hscale]
      rfl
  obtain ⟨set, hset⟩ := hset
  exact ⟨_, bind_eq_ok_iff.mpr ⟨_, mapM_variationMetadata h _, bind_eq_ok_iff.mpr ⟨set, hset, rfl⟩⟩⟩

/-- The parameters and types of a design, scaled. -/
theorem scalesTo_of_scale {s s' : ParameterSet} {factor : Binary64} (hd : d.parameterSet = some s)
    (h : s.scale factor = .ok s') :
    s' = { s with family := s'.family, types := s'.types } ∧
      List.Forall₂ (Parameter.ScalesTo factor) d.parameters s'.family ∧
      List.Forall₂ (FamilyType.ScalesTo d factor) d.types s'.types := by
  have hparameters : d.parameters = s.family := by
    unfold parameters
    rw [hd]
    rfl
  have htypes : d.types = s.types := by
    unfold types
    rw [hd]
    rfl
  obtain ⟨family, hfamily, hrest⟩ := bind_eq_ok_iff.mp h
  obtain ⟨types, hscaled, hs'⟩ := bind_eq_ok_iff.mp hrest
  cases hs'
  rw [← hparameters] at hfamily hscaled
  rw [← htypes] at hscaled
  refine ⟨rfl, (mapM_eq_ok_iff.mp hfamily).imp fun _ _ => Parameter.scalesTo_of_scale,
    (mapM_eq_ok_iff.mp hscaled).imp fun _ _ => FamilyType.scalesTo_of_scale ?_⟩
  exact fun name => contains_scaledNames_iff

/-- **What a variation is.** -/
theorem varies_of_variation (h : (index + 1).natAbs < 10 ^ Numeric.longestInteger)
    (hvariation : d.variation index = .ok d') : d.Varies index d' := by
  obtain ⟨metadata, hmetadata, hrest⟩ := bind_eq_ok_iff.mp hvariation
  obtain ⟨set, hset, hd'⟩ := bind_eq_ok_iff.mp hrest
  cases hd'
  rw [mapM_variationMetadata h] at hmetadata
  cases hmetadata
  obtain ⟨metadata, geometry, parameterSet, materials, nestedFamilies, visibility, extras⟩ := d
  cases parameterSet with
  | none =>
    cases hset
    refine ⟨rfl, rfl, ?_, ?_, rfl, .nil, .nil⟩
    · cases geometry <;> rfl
    · cases geometry <;> rfl
  -- only the set of parameters has changed otherwise than by the plan
  | some s =>
    obtain ⟨s', hs', hsome⟩ : ∃ s', s.scale (variationFactor index) = .ok s' ∧ some s' = set :=
      map_eq_ok_iff.mp hset
    subst hsome
    obtain ⟨hshared, hparameters, htypes⟩ := scalesTo_of_scale
      (d := ⟨metadata, geometry, some s, materials, nestedFamilies, visibility, extras⟩) rfl hs'
    refine ⟨rfl, rfl, ?_, ?_, congrArg some hshared, hparameters, htypes⟩
    · cases geometry <;> rfl
    · cases geometry <;> rfl

end Design

end FamilyDesign
