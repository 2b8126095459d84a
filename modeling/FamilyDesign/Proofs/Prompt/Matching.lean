import FamilyDesign.Proofs.Prompt.Lengths
import FamilyDesign.Proofs.Prompt.Phrases

/-!
# What a dimension is bound to

Which quantity a dimension takes, and by which keyword, said without the search for it: a quantity
is within reach of a keyword beside it with few words and nothing else between them; a dimension
takes the leftmost quantity within reach that none before has taken, or the leftmost one if all are
taken, by the keyword with the fewest words between, the one behind on a tie.

* **`Beside`** — a keyword beside a quantity, and **`bindKeyword?_eq_some_iff`** for its binding.
* **`isNearest_of_bind?`** — the binding of a quantity is by the nearest keyword.
* **`chosen_of_choose?`** — the choice of a dimension.
* **`Rule`** — the rule as a whole, and **`bindings_eq_iff`** — the bindings of a prompt are the
  only ones that follow it.
-/

namespace FamilyDesign.Prompt

/-! ## Keywords beside quantities -/

/-- Whether there are only words between two places. -/
def OnlyWords (tokens : List Token) (low high : Nat) : Prop :=
  ∀ token ∈ tokens, low < token.index → token.index < high → token.kind = .word

/-- A keyword beside a quantity with `gap` tokens between them, `after` the quantity or before. -/
inductive Beside (tokens : List Token) (q : Quantity) (k : Keyword) : Nat → Bool → Prop
  | behind (gap : Nat) (hgap : gap ≤ 3) (hstart : k.start = q.stop + gap + 1)
      (hwords : OnlyWords tokens q.stop k.start) : Beside tokens q k gap true
  | ahead (gap : Nat) (hgap : gap ≤ 3) (hstart : q.start = k.stop + gap + 1)
      (hwords : OnlyWords tokens k.stop q.start) : Beside tokens q k gap false

variable {tokens : List Token} {hits : List Keyword} {d : Dimension}

/-- Tokens count their places, so a stretch of them is told by the places. -/
theorem mem_take_drop_iff (hindex : IsIndexed tokens) {token : Token} {first count : Nat} :
    token ∈ (tokens.drop first).take count ↔
      token ∈ tokens ∧ first ≤ token.index ∧ token.index < first + count := by
  constructor
  · intro hmem
    obtain ⟨j, hj⟩ := List.mem_iff_getElem?.mp hmem
    rw [List.getElem?_take] at hj
    split at hj
    · next hlt =>
      rw [List.getElem?_drop] at hj
      have hplace := hindex _ _ hj
      exact ⟨List.mem_of_getElem? hj, by omega, by omega⟩
    · cases hj
  · rintro ⟨hmem, hle, hlt⟩
    obtain ⟨j, hj⟩ := List.mem_iff_getElem?.mp hmem
    have hplace := hindex _ _ hj
    refine List.mem_iff_getElem?.mpr ⟨j - first, ?_⟩
    rw [List.getElem?_take_of_lt (by omega), List.getElem?_drop,
      show first + (j - first) = j from by omega]
    exact hj

/-- Two places are apart by a few words just if there are at most three, and nothing else between.
-/
theorem wordsBetween?_eq_some_iff (hindex : IsIndexed tokens) {low high gap : Nat}
    (hlt : low < high) : wordsBetween? tokens low high = some gap ↔
      gap ≤ 3 ∧ high = low + gap + 1 ∧ OnlyWords tokens low high := by
  -- The stretch between the two places, told by its tokens.
  have hwords : ((tokens.drop (low + 1)).take (high - (low + 1))).all (·.kind == .word) = true ↔
      OnlyWords tokens low high := by
    rw [List.all_eq_true]
    simp only [mem_take_drop_iff hindex, beq_iff_eq]
    constructor
    · intro h token hmem hlow hhigh
      exact h token ⟨hmem, hlow, by omega⟩
    · rintro h token ⟨hmem, hlow, hhigh⟩
      exact h token hmem hlow (by omega)
  unfold wordsBetween? reach
  dsimp only
  constructor
  · intro h
    split at h
    · next hreach =>
      cases h
      exact ⟨hreach.1, by omega, hwords.mp hreach.2⟩
    · cases h
  · rintro ⟨hgap, hhigh, hbetween⟩
    rw [if_pos ⟨by omega, hwords.mpr hbetween⟩]
    congr 1
    omega

/-- What a keyword binds a quantity to. -/
theorem bindKeyword?_eq_some_iff (hindex : IsIndexed tokens) {q : Quantity} {k : Keyword}
    {b : Binding} (hq : q.start ≤ q.stop) (hk : k.start ≤ k.stop) :
    bindKeyword? tokens q k = some b ↔
      b.quantity = q ∧ b.keyword = k ∧ Beside tokens q k b.gap b.after := by
  unfold bindKeyword?
  constructor
  · intro h
    split at h
    · next hbehind =>
      obtain ⟨gap, hgap, rfl⟩ := Option.map_eq_some_iff.mp h
      obtain ⟨hle, hstart, hwords⟩ := (wordsBetween?_eq_some_iff hindex hbehind).mp hgap
      exact ⟨rfl, rfl, .behind gap hle hstart hwords⟩
    · split at h
      · next hahead =>
        obtain ⟨gap, hgap, rfl⟩ := Option.map_eq_some_iff.mp h
        obtain ⟨hle, hstart, hwords⟩ := (wordsBetween?_eq_some_iff hindex hahead).mp hgap
        exact ⟨rfl, rfl, .ahead gap hle hstart hwords⟩
      · cases h
  · obtain ⟨quantity, keyword, gap, after⟩ := b
    rintro ⟨rfl, rfl, hbeside⟩
    dsimp only at *
    -- The places alone tell on which side the keyword stands.
    cases hbeside with
    | behind hgap hstart hwords =>
      have hlt : quantity.stop < keyword.start := by omega
      rw [if_pos hlt, (wordsBetween?_eq_some_iff hindex hlt).mpr ⟨hgap, hstart, hwords⟩]
      rfl
    | ahead hgap hstart hwords =>
      have hlt : keyword.stop < quantity.start := by omega
      rw [if_neg (by omega), if_pos hlt,
        (wordsBetween?_eq_some_iff hindex hlt).mpr ⟨hgap, hstart, hwords⟩]
      rfl

/-! ## The nearest keyword -/

/-- The distance of a binding, a keyword before the quantity standing half a word further off. -/
def Binding.distance (b : Binding) : Nat := 2 * b.gap + if b.after then 0 else 1

theorem Binding.nearer_iff {a b : Binding} : a.nearer b = true ↔ a.distance < b.distance := by
  unfold Binding.nearer Binding.distance
  cases a.after <;> cases b.after <;> simp <;> omega

/-- No binding is nearer than the nearest. -/
theorem distance_le_of_nearest? {bindings : List Binding} {b : Binding}
    (h : nearest? bindings = some b) : ∀ other ∈ bindings, b.distance ≤ other.distance := by
  -- the one that the fold keeps is no further off than those that it has passed
  have hfold : ∀ (rest : List Binding) (first : Binding), ∀ other ∈ first :: rest,
      (rest.foldl (fun best b => if b.nearer best then b else best) first).distance
        ≤ other.distance := by
    intro rest
    induction rest with
    | nil =>
      intro first other hother
      rw [List.mem_singleton.mp hother]
      exact Nat.le_refl _
    | cons next rest ih =>
      intro first other hother
      rw [List.foldl_cons]
      have hkept := ih (if next.nearer first then next else first) _ List.mem_cons_self
      have hstep : (if next.nearer first then next else first).distance ≤ first.distance ∧
          (if next.nearer first then next else first).distance ≤ next.distance := by
        split
        · next hnearer => exact ⟨Nat.le_of_lt (Binding.nearer_iff.mp hnearer), Nat.le_refl _⟩
        · next hnot => exact ⟨Nat.le_refl _, Nat.not_lt.mp (Binding.nearer_iff.not.mp hnot)⟩
      rcases List.mem_cons.mp hother with rfl | hother
      · exact Nat.le_trans hkept hstep.1
      · rcases List.mem_cons.mp hother with rfl | hother
        · exact Nat.le_trans hkept hstep.2
        · exact ih _ _ (List.mem_cons_of_mem _ hother)
  cases bindings with
  | nil => cases h
  | cons first rest =>
    cases h
    exact hfold rest first

/-- Whether a quantity is within reach of a keyword of a dimension. -/
def Reached (tokens : List Token) (hits : List Keyword) (d : Dimension) (q : Quantity) : Prop :=
  ∃ k ∈ hits, k.dimension = d ∧ ∃ gap after, Beside tokens q k gap after

/-- The binding of a quantity to a dimension by its nearest keyword: every other one has more words
between, or as many and stands before the quantity where the nearest stands behind. -/
structure IsNearest (tokens : List Token) (hits : List Keyword) (d : Dimension) (b : Binding) :
    Prop where
  mem : b.keyword ∈ hits
  dimension : b.keyword.dimension = d
  beside : Beside tokens b.quantity b.keyword b.gap b.after
  nearest : ∀ k ∈ hits, k.dimension = d → ∀ gap after, Beside tokens b.quantity k gap after →
    k ≠ b.keyword → b.gap < gap ∨ b.gap = gap ∧ b.after = true ∧ after = false

/-- Keywords as near as each other on the same side are the same. -/
theorem eq_of_beside (hordered : Leftmost tokens hits) {q : Quantity} {k k' : Keyword}
    (hk : k ∈ hits) (hk' : k' ∈ hits) {gap : Nat} {after : Bool}
    (h : Beside tokens q k gap after) (h' : Beside tokens q k' gap after) : k = k' := by
  have hle := ((hordered.mem_iff k).mp hk).1.start_le_stop.1
  have hle' := ((hordered.mem_iff k').mp hk').1.start_le_stop.1
  rcases eq_or_lt_of_ordered hordered.ordered hk hk' with heq | hlt | hlt
  · exact heq
  · cases h <;> cases h' <;> omega
  · cases h <;> cases h' <;> omega

/-- The candidates are what the keywords of the dimension bind the quantity to. -/
theorem mem_candidates_iff {q : Quantity} {b : Binding} :
    b ∈ (hits.filter (·.dimension == d)).filterMap (bindKeyword? tokens q) ↔
      ∃ k ∈ hits, k.dimension = d ∧ bindKeyword? tokens q k = some b := by
  rw [List.mem_filterMap]
  simp only [List.mem_filter, beq_iff_eq, and_assoc]

/-- A quantity is bound by its nearest keyword. -/
theorem isNearest_of_bind? (hindex : IsIndexed tokens) (hleft : Leftmost tokens hits)
    {q : Quantity} (hq : q.start ≤ q.stop) {b : Binding} (h : bind? tokens hits d q = some b) :
    b.quantity = q ∧ IsNearest tokens hits d b := by
  have hspan : ∀ k ∈ hits, k.start ≤ k.stop := fun k hk =>
    ((hleft.mem_iff k).mp hk).1.start_le_stop.1
  obtain ⟨k, hk, hd, hbind⟩ := mem_candidates_iff.mp (mem_of_nearest? h)
  obtain ⟨rfl, rfl, hbeside⟩ := (bindKeyword?_eq_some_iff hindex hq (hspan k hk)).mp hbind
  refine ⟨rfl, hk, hd, hbeside, fun k' hk' hd' gap after hbeside' hne => ?_⟩
  have hcandidate : bindKeyword? tokens b.quantity k' = some ⟨b.quantity, k', gap, after⟩ :=
    (bindKeyword?_eq_some_iff hindex hq (hspan k' hk')).mpr ⟨rfl, rfl, hbeside'⟩
  have hle := distance_le_of_nearest? h _ (mem_candidates_iff.mpr ⟨k', hk', hd', hcandidate⟩)
  -- as near and on the same side it would be the same keyword
  have hdistinct : b.gap = gap → b.after ≠ after := by
    rintro rfl rfl
    exact hne (eq_of_beside hleft hk' hk hbeside' hbeside)
  unfold Binding.distance at hle
  dsimp only at hle
  cases hside : b.after <;> cases after <;> simp [hside] at hle hdistinct ⊢ <;> omega

/-- A quantity is bound to a dimension just if one of its keywords reaches it. -/
theorem isSome_bind?_iff (hindex : IsIndexed tokens) (hleft : Leftmost tokens hits)
    {q : Quantity} (hq : q.start ≤ q.stop) :
    (bind? tokens hits d q).isSome = true ↔ Reached tokens hits d q := by
  have hspan : ∀ k ∈ hits, k.start ≤ k.stop := fun k hk =>
    ((hleft.mem_iff k).mp hk).1.start_le_stop.1
  constructor
  · intro h
    obtain ⟨b, hb⟩ := Option.isSome_iff_exists.mp h
    obtain ⟨rfl, hnearest⟩ := isNearest_of_bind? hindex hleft hq hb
    exact ⟨b.keyword, hnearest.mem, hnearest.dimension, b.gap, b.after, hnearest.beside⟩
  · rintro ⟨k, hk, hd, gap, after, hbeside⟩
    have hcandidate := (bindKeyword?_eq_some_iff (b := ⟨q, k, gap, after⟩) hindex hq
      (hspan k hk)).mpr ⟨rfl, rfl, hbeside⟩
    have hmem := mem_candidates_iff.mpr ⟨k, hk, hd, hcandidate⟩
    unfold bind?
    -- The nearest of a list that is not empty is there.
    cases hcandidates : (hits.filter (·.dimension == d)).filterMap (bindKeyword? tokens q) with
    | nil =>
      rw [hcandidates] at hmem
      cases hmem
    | cons first rest => rfl

/-! ## Quantities from the left -/

/-- Tokens that count their places come in the order of their places. -/
theorem IsIndexed.sorted (hindex : IsIndexed tokens) :
    tokens.Pairwise fun a b => a.index < b.index := by
  rw [List.pairwise_iff_getElem]
  intro i j hi hj hlt
  rw [hindex i _ (List.getElem?_eq_getElem hi), hindex j _ (List.getElem?_eq_getElem hj)]
  exact hlt

/-- A quantity stops no earlier than it starts. -/
theorem start_le_stop_of_mem_quantities {tokens : List Token}
    (hsorted : tokens.Pairwise fun a b => a.index < b.index) {q : Quantity}
    (hq : q ∈ quantities tokens) : q.start ≤ q.stop := by
  obtain ⟨number, unit, hboth, -, rfl⟩ := exists_tokens_of_mem_quantities q hq
  have hlt := (List.pairwise_cons.mp (hsorted.sublist hboth)).1 unit (List.mem_singleton_self unit)
  exact Nat.le_of_lt hlt

/-- Quantities come from the left without overlap. Induction on the search from the left. -/
theorem ordered_quantities {tokens : List Token}
    (hsorted : tokens.Pairwise fun a b => a.index < b.index) :
    (quantities tokens).Pairwise fun a b => a.stop < b.start := by
  induction tokens using quantities.induct with
  | case1 =>
    rw [quantities]
    exact List.Pairwise.nil
  | case2 token rest hnumber unit after hahead ih =>
    have hrest := (List.pairwise_cons.mp hsorted).2.sublist (sublist_of_unitAhead? hahead)
    obtain ⟨hbehind, hafter⟩ := List.pairwise_cons.mp hrest
    rw [quantities_cons_of_unitAhead? hnumber hahead]
    refine List.pairwise_cons.mpr ⟨fun q hq => ?_, ih hafter⟩
    -- Whatever is found behind the unit starts behind it.
    obtain ⟨number, unit', hboth, -, rfl⟩ := exists_tokens_of_mem_quantities q hq
    exact hbehind number (hboth.subset List.mem_cons_self)
  | case3 token rest hnumber hahead ih =>
    rw [quantities_cons_of_no_unit (Or.inr hahead)]
    exact ih (List.pairwise_cons.mp hsorted).2
  | case4 token rest hnumber ih =>
    rw [quantities_cons_of_no_unit (Or.inl hnumber)]
    exact ih (List.pairwise_cons.mp hsorted).2

/-! ## The choice of a dimension -/

/-- The bindings of the quantities to a dimension, from the left. -/
def candidates (tokens : List Token) (hits : List Keyword) (d : Dimension) : List Binding :=
  (quantities tokens).filterMap (bind? tokens hits d)

/-- Of bindings from the left one is chosen that is not taken, the leftmost one, or the leftmost of
all if all are taken. -/
theorem choose?_spec {taken : List Nat} {bindings : List Binding} {b : Binding}
    (hsorted : bindings.Pairwise fun a b => a.quantity.start < b.quantity.start)
    (h : choose? taken bindings = some b) :
    b ∈ bindings ∧
      ((b.quantity.start ∉ taken ∧ ∀ other ∈ bindings, other.quantity.start ∉ taken →
          other ≠ b → b.quantity.start < other.quantity.start) ∨
        ((∀ other ∈ bindings, other.quantity.start ∈ taken) ∧
          ∀ other ∈ bindings, other ≠ b → b.quantity.start < other.quantity.start)) := by
  refine ⟨mem_of_choose? h, ?_⟩
  unfold choose? at h
  split at h
  · -- The first that is not taken: those ahead of it are, those behind start later.
    next free hfind =>
    cases h
    obtain ⟨hfree, before, after, rfl, hbefore⟩ := List.find?_eq_some_iff_append.mp hfind
    refine Or.inl ⟨by simpa using hfree, fun other hother hnot hne => ?_⟩
    rcases List.mem_append.mp hother with hmem | hmem
    · have htaken := hbefore other hmem
      simp only [Bool.not_not, List.contains_iff_mem] at htaken
      exact absurd htaken hnot
    · rcases List.mem_cons.mp hmem with rfl | hmem
      · exact absurd rfl hne
      · exact (List.pairwise_cons.mp (List.pairwise_append.mp hsorted).2.1).1 other hmem
  · next hfind =>
    have hall := List.find?_eq_none.mp hfind
    refine Or.inr ⟨fun other hother => by simpa using hall other hother, fun other hother hne => ?_⟩
    cases bindings with
    | nil => cases hother
    | cons first rest =>
      cases h
      rcases List.mem_cons.mp hother with rfl | hmem
      · exact absurd rfl hne
      · exact (List.pairwise_cons.mp hsorted).1 other hmem

/-- One is chosen wherever there is one. -/
theorem isSome_choose?_iff {taken : List Nat} {bindings : List Binding} :
    (choose? taken bindings).isSome = true ↔ bindings ≠ [] := by
  constructor
  · intro h
    obtain ⟨b, hb⟩ := Option.isSome_iff_exists.mp h
    exact List.ne_nil_of_mem (mem_of_choose? hb)
  · intro h
    unfold choose?
    split
    · rfl
    · exact List.isSome_head?.mpr h

/-! ## The dimensions in order -/

section Order

variable {candidates : Dimension → List Binding} {taken : List Nat} {dimensions : List Dimension}

/-- A dimension with a choice is bound to it, and what it is bound to is taken from there on. -/
theorem bindAll_cons_of_some {b : Binding} (h : choose? taken (candidates d) = some b) :
    bindAll candidates taken (d :: dimensions)
      = (d, b) :: bindAll candidates (b.quantity.start :: taken) dimensions := by
  rw [bindAll, h]

theorem bindAll_cons_of_none (h : choose? taken (candidates d) = none) :
    bindAll candidates taken (d :: dimensions) = bindAll candidates taken dimensions := by
  rw [bindAll, h]

/-- The dimensions that are bound are those with candidates, in their order. -/
theorem map_fst_bindAll (candidates : Dimension → List Binding) (taken : List Nat)
    (dimensions : List Dimension) :
    (bindAll candidates taken dimensions).map (·.1)
      = dimensions.filter fun d => !(candidates d).isEmpty := by
  induction dimensions generalizing taken with
  | nil => rfl
  | cons first rest ih =>
    cases hchoice : choose? taken (candidates first) with
    | none =>
      -- Only a dimension without candidates gets no choice.
      have hempty : candidates first = [] := by
        by_contra hne
        have hsome : (choose? taken (candidates first)).isSome = true := isSome_choose?_iff.mpr hne
        rw [hchoice] at hsome
        cases hsome
      rw [bindAll_cons_of_none hchoice, ih, List.filter_cons_of_neg (by simp [hempty])]
    | some b =>
      have hne : candidates first ≠ [] := isSome_choose?_iff.mp (by rw [hchoice]; rfl)
      rw [bindAll_cons_of_some hchoice, List.map_cons, ih, List.filter_cons_of_pos (by simp [hne])]

/-- Each binding is chosen with the quantities taken that are bound before it. Induction on the
dimensions that are left. -/
theorem choose?_of_bindAll_eq {before after : List (Dimension × Binding)} {b : Binding}
    (h : bindAll candidates taken dimensions = before ++ (d, b) :: after) :
    choose? ((before.map (·.2.quantity.start)).reverse ++ taken) (candidates d) = some b := by
  induction dimensions generalizing taken before with
  | nil => exact absurd h (by simp [bindAll])
  | cons first rest ih =>
    cases hchoice : choose? taken (candidates first) with
    | none =>
      rw [bindAll_cons_of_none hchoice] at h
      exact ih h
    | some chosen =>
      rw [bindAll_cons_of_some hchoice] at h
      -- Here the split is at the dimension bound first, else further on with it taken.
      cases before with
      | nil =>
        cases (List.cons.inj h).1
        exact hchoice
      | cons entry before =>
        obtain ⟨rfl, hrest⟩ := List.cons.inj h
        rw [List.map_cons, List.reverse_cons, List.append_assoc]
        exact ih hrest

end Order

/-! ## The rule -/

/-- Whether a quantity is bound already. -/
def Taken (before : List (Dimension × Binding)) (q : Quantity) : Prop :=
  ∃ entry ∈ before, entry.2.quantity = q

/-- What a dimension is bound to after others: the leftmost quantity within reach that is not taken,
or the leftmost one within reach if all are taken, by its nearest keyword. -/
structure Chosen (tokens : List Token) (hits : List Keyword) (before : List (Dimension × Binding))
    (d : Dimension) (b : Binding) : Prop where
  mem : b.quantity ∈ quantities tokens
  nearest : IsNearest tokens hits d b
  leftmost :
    (¬Taken before b.quantity ∧ ∀ q ∈ quantities tokens, Reached tokens hits d q →
        ¬Taken before q → q ≠ b.quantity → b.quantity.start < q.start) ∨
      ((∀ q ∈ quantities tokens, Reached tokens hits d q → Taken before q) ∧
        ∀ q ∈ quantities tokens, Reached tokens hits d q → q ≠ b.quantity →
          b.quantity.start < q.start)

/-- The rule for what the dimensions are bound to: they come in order, those are bound for which
some quantity is within reach, and each to what is chosen after those before it. -/
structure Rule (tokens : List Token) (hits : List Keyword) (bound : List (Dimension × Binding)) :
    Prop where
  ordered : (bound.map (·.1)).Sublist Dimension.all
  mem_iff : ∀ d, d ∈ bound.map (·.1) ↔ ∃ q ∈ quantities tokens, Reached tokens hits d q
  chosen : ∀ before d b after, bound = before ++ (d, b) :: after → Chosen tokens hits before d b

theorem IsNearest.reached {b : Binding} (h : IsNearest tokens hits d b) :
    Reached tokens hits d b.quantity :=
  ⟨b.keyword, h.mem, h.dimension, b.gap, b.after, h.beside⟩

/-! ## One list of bindings -/

/-- A keyword is beside a quantity in one way. -/
theorem Beside.unique {q : Quantity} {k : Keyword} {gap gap' : Nat} {after after' : Bool}
    (hq : q.start ≤ q.stop) (hk : k.start ≤ k.stop) (h : Beside tokens q k gap after)
    (h' : Beside tokens q k gap' after') : gap = gap' ∧ after = after' := by
  cases h <;> cases h' <;> first | exact ⟨by omega, rfl⟩ | omega

/-- **There is one nearest keyword.** Two at one distance stand on two sides of the quantity, and
only one of these is preferred. -/
theorem IsNearest.unique {b b' : Binding} (hleft : Leftmost tokens hits)
    (hspan : b.quantity.start ≤ b.quantity.stop) (h : IsNearest tokens hits d b)
    (h' : IsNearest tokens hits d b') (hquantity : b.quantity = b'.quantity) : b = b' := by
  have hkeyword : b.keyword = b'.keyword := by
    by_contra hne
    have hb := h.nearest _ h'.mem h'.dimension _ _ (hquantity ▸ h'.beside) (Ne.symm hne)
    have hb' := h'.nearest _ h.mem h.dimension _ _ (hquantity ▸ h.beside) hne
    -- Each would be nearer than the other, or on the preferred side of it.
    rcases hb with hlt | ⟨heq, hafter, hbefore⟩
    · rcases hb' with hlt' | ⟨heq', -, -⟩
      · omega
      · omega
    · rcases hb' with hlt' | ⟨-, hafter', -⟩
      · omega
      · rw [hbefore] at hafter'
        cases hafter'
  have hside := h'.beside
  rw [← hquantity, ← hkeyword] at hside
  obtain ⟨hgap, hafter⟩ := h.beside.unique hspan
    ((hleft.mem_iff _).mp h.mem).1.start_le_stop.1 hside
  cases b
  cases b'
  dsimp only at *
  subst hquantity hkeyword hgap hafter
  rfl

/-- There is one quantity to choose. -/
theorem Chosen.unique {before : List (Dimension × Binding)} {b b' : Binding}
    (hleft : Leftmost tokens hits) (hsorted : tokens.Pairwise fun a b => a.index < b.index)
    (h : Chosen tokens hits before d b) (h' : Chosen tokens hits before d b') : b = b' := by
  have hreached := h.nearest.reached
  have hreached' := h'.nearest.reached
  refine h.nearest.unique hleft (start_le_stop_of_mem_quantities hsorted h.mem) h'.nearest ?_
  by_contra hne
  -- each would stand left of the other
  rcases h.leftmost with ⟨hfree, hfirst⟩ | ⟨hall, hfirst⟩
  · rcases h'.leftmost with ⟨hfree', hfirst'⟩ | ⟨hall', -⟩
    · have hlt := hfirst _ h'.mem hreached' hfree' (Ne.symm hne)
      have hlt' := hfirst' _ h.mem hreached hfree hne
      omega
    · exact hfree (hall' _ h.mem hreached)
  · rcases h'.leftmost with ⟨hfree', -⟩ | ⟨-, hfirst'⟩
    · exact hfree' (hall _ h'.mem hreached')
    · have hlt := hfirst _ h'.mem hreached' (Ne.symm hne)
      have hlt' := hfirst' _ h.mem hreached hne
      omega

/-- Dimensions in order are told by which they are. -/
theorem eq_of_sublist_all {dimensions dimensions' : List Dimension}
    (h : dimensions.Sublist Dimension.all) (h' : dimensions'.Sublist Dimension.all)
    (hmem : ∀ d, d ∈ dimensions ↔ d ∈ dimensions') : dimensions = dimensions' := by
  have hsorted : Dimension.all.Pairwise
      fun a b => Dimension.all.idxOf a < Dimension.all.idxOf b := by
    decide
  have hirrefl : Std.Irrefl fun a b : Dimension =>
      Dimension.all.idxOf a < Dimension.all.idxOf b := ⟨fun _ => Nat.lt_irrefl _⟩
  have hantisymm : Std.Antisymm fun a b : Dimension =>
      Dimension.all.idxOf a < Dimension.all.idxOf b :=
    ⟨fun _ _ hab hba => absurd hab (Nat.lt_asymm hba)⟩
  exact (hsorted.sublist h).eq_of_mem_iff (hsorted.sublist h') hmem

/-- Induction on what is left of the bindings, those before being the same. -/
theorem Rule.eq_of_keys {bound bound' : List (Dimension × Binding)} (hleft : Leftmost tokens hits)
    (hsorted : tokens.Pairwise fun a b => a.index < b.index) (h : Rule tokens hits bound)
    (h' : Rule tokens hits bound') (before rest rest' : List (Dimension × Binding))
    (hsplit : bound = before ++ rest) (hsplit' : bound' = before ++ rest')
    (hkeys : rest.map (·.1) = rest'.map (·.1)) : rest = rest' := by
  induction rest generalizing before rest' with
  | nil => exact (List.map_eq_nil_iff.mp hkeys.symm).symm
  | cons entry rest ih =>
    cases rest' with
    | nil => cases hkeys
    | cons entry' rest' =>
      obtain ⟨d, b⟩ := entry
      obtain ⟨d', b'⟩ := entry'
      obtain ⟨hd, hrest⟩ := List.cons.inj hkeys
      obtain rfl : d = d' := hd
      obtain rfl := (h.chosen before d b rest hsplit).unique hleft hsorted
        (h'.chosen before d b' rest' hsplit')
      -- The choices so far are the same, so the next one is, and it goes with those before.
      have hsame := ih (before ++ [(d, b)]) rest' (by rw [hsplit, List.append_assoc]; rfl)
        (by rw [hsplit', List.append_assoc]; rfl) hrest
      rw [hsame]

/-- **Only one list of bindings follows the rule.** -/
theorem Rule.unique {bound bound' : List (Dimension × Binding)} (hleft : Leftmost tokens hits)
    (hsorted : tokens.Pairwise fun a b => a.index < b.index) (h : Rule tokens hits bound)
    (h' : Rule tokens hits bound') : bound = bound' := by
  have hkeys := eq_of_sublist_all h.ordered h'.ordered fun d =>
    (h.mem_iff d).trans (h'.mem_iff d).symm
  exact h.eq_of_keys hleft hsorted h' [] bound bound' rfl rfl hkeys

/-! ## The bindings of a prompt -/

theorem mem_candidates {b : Binding} : b ∈ candidates tokens hits d ↔
    ∃ q ∈ quantities tokens, bind? tokens hits d q = some b :=
  List.mem_filterMap

/-- The candidates come from the left, as the quantities do. -/
theorem candidates_sorted (hindex : IsIndexed tokens) :
    (candidates tokens hits d).Pairwise fun a b => a.quantity.start < b.quantity.start := by
  refine List.pairwise_filterMap.mpr ((ordered_quantities hindex.sorted).imp_of_mem ?_)
  intro q q' hq _ hlt b hb b' hb'
  rw [quantity_of_bind? hb, quantity_of_bind? hb']
  exact Nat.lt_of_le_of_lt (start_le_stop_of_mem_quantities hindex.sorted hq) hlt

/-- Quantities at one place are the same. -/
theorem eq_of_start_eq (hindex : IsIndexed tokens) {q q' : Quantity} (hq : q ∈ quantities tokens)
    (hq' : q' ∈ quantities tokens) (hstart : q.start = q'.start) : q = q' := by
  by_contra hne
  have hsymm : Std.Symm fun a b : Quantity => a.stop < b.start ∨ b.stop < a.start :=
    ⟨fun _ _ => Or.symm⟩
  have hboth : (quantities tokens).Pairwise fun a b => a.stop < b.start ∨ b.stop < a.start :=
    (ordered_quantities hindex.sorted).imp Or.inl
  have hspan := start_le_stop_of_mem_quantities hindex.sorted hq
  have hspan' := start_le_stop_of_mem_quantities hindex.sorted hq'
  rcases hboth.forall hq hq' hne with hlt | hlt <;> omega

/-- What is bound is a quantity of the prompt. -/
theorem quantity_mem_of_mem_bindAll {taken : List Nat} {dimensions : List Dimension}
    {entry : Dimension × Binding}
    (h : entry ∈ bindAll (candidates tokens hits) taken dimensions) :
    entry.2.quantity ∈ quantities tokens := by
  obtain ⟨before, after, hsplit⟩ := List.append_of_mem h
  obtain ⟨q, hq, hbind⟩ := mem_candidates.mp (mem_of_choose? (choose?_of_bindAll_eq hsplit))
  rwa [quantity_of_bind? hbind]

/-- The choices that are made follow the rule. -/
theorem chosen_of_choose? (hindex : IsIndexed tokens) (hleft : Leftmost tokens hits)
    {before : List (Dimension × Binding)}
    (hbefore : ∀ entry ∈ before, entry.2.quantity ∈ quantities tokens) {b : Binding}
    (h : choose? ((before.map (·.2.quantity.start)).reverse ++ []) (candidates tokens hits d)
      = some b) : Chosen tokens hits before d b := by
  have htaken : ∀ q ∈ quantities tokens,
      q.start ∈ (before.map (·.2.quantity.start)).reverse ++ [] ↔ Taken before q := by
    intro q hq
    rw [List.append_nil, List.mem_reverse, List.mem_map]
    constructor
    · rintro ⟨entry, hentry, hstart⟩
      exact ⟨entry, hentry, eq_of_start_eq hindex (hbefore entry hentry) hq hstart⟩
    · rintro ⟨entry, hentry, rfl⟩
      exact ⟨entry, hentry, rfl⟩
  -- Quantities that are reached and candidates are the same, by their starts.
  have hcandidate : ∀ q ∈ quantities tokens, Reached tokens hits d q →
      ∃ other ∈ candidates tokens hits d, other.quantity = q := by
    intro q hq hreached
    have hspan := start_le_stop_of_mem_quantities hindex.sorted hq
    obtain ⟨other, hother⟩ := Option.isSome_iff_exists.mp
      ((isSome_bind?_iff hindex hleft hspan).mpr hreached)
    exact ⟨other, mem_candidates.mpr ⟨q, hq, hother⟩, quantity_of_bind? hother⟩
  obtain ⟨hmem, hchoice⟩ := choose?_spec (candidates_sorted hindex) h
  obtain ⟨q, hq, hbind⟩ := mem_candidates.mp hmem
  have hspan := start_le_stop_of_mem_quantities hindex.sorted hq
  obtain ⟨rfl, hnearest⟩ := isNearest_of_bind? hindex hleft hspan hbind
  refine ⟨hq, hnearest, ?_⟩
  rcases hchoice with ⟨hfree, hfirst⟩ | ⟨hall, hfirst⟩
  · refine Or.inl ⟨(htaken _ hq).not.mp hfree, fun q hq' hreached hnot hne => ?_⟩
    obtain ⟨other, hother, rfl⟩ := hcandidate q hq' hreached
    exact hfirst other hother ((htaken _ hq').not.mpr hnot) (fun heq => hne (heq ▸ rfl))
  · refine Or.inr ⟨fun q hq' hreached => ?_, fun q hq' hreached hne => ?_⟩
    · obtain ⟨other, hother, rfl⟩ := hcandidate q hq' hreached
      exact (htaken _ hq').mp (hall other hother)
    · obtain ⟨other, hother, rfl⟩ := hcandidate q hq' hreached
      exact hfirst other hother (fun heq => hne (heq ▸ rfl))

/-- **The bindings that are made follow the rule.** -/
theorem rule_bindAll (hindex : IsIndexed tokens) (hleft : Leftmost tokens hits) :
    Rule tokens hits (bindAll (candidates tokens hits) [] Dimension.all) where
  ordered := by
    rw [map_fst_bindAll]
    exact List.filter_sublist
  mem_iff d := by
    have hall : d ∈ Dimension.all := by
      cases d <;> decide
    rw [map_fst_bindAll, List.mem_filter, and_iff_right hall, Bool.not_eq_true',
      List.isEmpty_eq_false_iff_exists_mem]
    -- A dimension has candidates just if one of its keywords reaches a quantity.
    constructor
    · rintro ⟨b, hb⟩
      obtain ⟨q, hq, hbind⟩ := mem_candidates.mp hb
      have hspan := start_le_stop_of_mem_quantities hindex.sorted hq
      exact ⟨q, hq, (isSome_bind?_iff hindex hleft hspan).mp (by rw [hbind]; rfl)⟩
    · rintro ⟨q, hq, hreached⟩
      have hspan := start_le_stop_of_mem_quantities hindex.sorted hq
      obtain ⟨b, hb⟩ := Option.isSome_iff_exists.mp
        ((isSome_bind?_iff hindex hleft hspan).mpr hreached)
      exact ⟨b, mem_candidates.mpr ⟨q, hq, hb⟩⟩
  chosen before d b after hsplit := by
    refine chosen_of_choose? hindex hleft (fun entry hentry => ?_) (choose?_of_bindAll_eq hsplit)
    have hmem : entry ∈ bindAll (candidates tokens hits) [] Dimension.all := by
      rw [hsplit]
      exact List.mem_append_left _ hentry
    exact quantity_mem_of_mem_bindAll hmem

/-- **The bindings of a prompt follow the rule, and nothing else does.** Its keywords are the only
list of phrases from the left, the longest first, without overlap; no height is among them that
stands right behind a sill. For these keywords the bindings are the only ones that follow the
rule. -/
theorem bindings_eq_iff (prompt : Text) :
    (∀ hits, Leftmost (tokenize prompt) hits ↔ keywords (tokenize prompt) = hits) ∧
    (∀ i, Occurs (tokenize prompt) i ["sill", "height"] →
      ∀ k ∈ keywords (tokenize prompt), k.start ≠ i + 1) ∧
    ∀ bound,
      Rule (tokenize prompt) (keywords (tokenize prompt)) bound ↔ bindings prompt = bound := by
  have hindex := isIndexed_tokenize prompt
  have hleft := leftmost_keywords hindex
  have hrule := rule_bindAll hindex hleft
  refine ⟨fun hits => ⟨hleft.unique, ?_⟩, fun i => hleft.start_ne_of_sill,
    fun bound => ⟨hrule.unique hleft hindex.sorted, ?_⟩⟩
  · rintro rfl
    exact hleft
  · rintro rfl
    exact hrule

end FamilyDesign.Prompt
