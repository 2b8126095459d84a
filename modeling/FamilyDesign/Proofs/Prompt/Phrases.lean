import FamilyDesign.Prompt.Keyword
import Mathlib.Data.List.Pairwise
import Mathlib.Data.List.Sort

/-!
# The phrases in a prompt

Phrases are looked for from the left, at each place the longest first, and what belongs to a phrase
already found is passed over. Without a search the keywords are told by this: a keyword is the
longest phrase at its place, unless another keyword that starts before it reaches over that place.

* **`phraseAhead?_eq_some_iff`** — the phrase at the front of tokens is the longest one there.
* **`Leftmost`** — what keywords from the left without overlap are, and
  **`Leftmost.unique`** — that there is only one list of them.
* **`leftmost_keywords`** — the keywords among tokens are.
* **`Leftmost.start_ne_of_sill`** — a height behind a sill is no keyword.
-/

namespace FamilyDesign.Prompt

/-! ## The phrase at a place -/

/-- A phrase at a place among tokens. -/
def Occurs (tokens : List Token) (i : Nat) (phrase : List Text) : Prop :=
  ((tokens.drop i).take phrase.length).map (·.text) = phrase

/-- The words of a phrase are those of the tokens it stands at. -/
theorem Occurs.getElem? {tokens : List Token} {i j : Nat} {phrase : List Text}
    (h : Occurs tokens i phrase) (hj : j < phrase.length) :
    phrase[j]? = tokens[i + j]?.map (·.text) := by
  have hword : (((tokens.drop i).take phrase.length).map (·.text))[j]? = phrase[j]? :=
    congrArg (fun words => words[j]?) h
  rw [← hword, List.getElem?_map, List.getElem?_take_of_lt hj, List.getElem?_drop]

/-- Phrases of one length at one place are the same. -/
theorem Occurs.eq_of_length {tokens : List Token} {i : Nat} {phrase phrase' : List Text}
    (h : Occurs tokens i phrase) (h' : Occurs tokens i phrase')
    (hlength : phrase.length = phrase'.length) : phrase = phrase' := by
  unfold Occurs at h h'
  rw [← h, ← h', hlength]

/-- The longer phrases come first in the table. -/
theorem keywordPhrases_sorted :
    keywordPhrases.Pairwise fun first second => second.1.length ≤ first.1.length := by
  decide +kernel

/-- A phrase names one dimension. -/
theorem eq_of_mem_keywordPhrases : ∀ entry ∈ keywordPhrases, ∀ other ∈ keywordPhrases,
    entry.1 = other.1 → entry = other := by
  decide +kernel

theorem length_of_mem_keywordPhrases :
    ∀ entry ∈ keywordPhrases, entry.1.length = 1 ∨ entry.1.length = 2 := by
  decide +kernel

/-- No phrase goes on with a sill. -/
theorem getElem?_ne_sill : ∀ entry ∈ keywordPhrases, entry.1[1]? ≠ some ("sill" : Text) := by
  decide +kernel

/-- The entry of the table for the longest phrase at a place. -/
structure IsLongest (tokens : List Token) (i : Nat) (entry : List Text × Dimension) : Prop where
  mem : entry ∈ keywordPhrases
  occurs : Occurs tokens i entry.1
  longest : ∀ other ∈ keywordPhrases, Occurs tokens i other.1 → other.1.length ≤ entry.1.length

/-- There is one longest phrase at a place. -/
theorem IsLongest.unique {tokens : List Token} {i : Nat} {entry entry' : List Text × Dimension}
    (h : IsLongest tokens i entry) (h' : IsLongest tokens i entry') : entry = entry' := by
  have hlength : entry.1.length = entry'.1.length :=
    Nat.le_antisymm (h'.longest _ h.mem h.occurs) (h.longest _ h'.mem h'.occurs)
  exact eq_of_mem_keywordPhrases _ h.mem _ h'.mem (h.occurs.eq_of_length h'.occurs hlength)

/-- What comes before the first match in the table does not match, and what comes behind is no
longer. -/
theorem isLongest_of_phraseAhead? {tokens : List Token} {i : Nat} {entry : List Text × Dimension}
    (h : phraseAhead? (tokens.drop i) = some entry) : IsLongest tokens i entry := by
  obtain ⟨hmatch, before, after, htable, hbefore⟩ := List.find?_eq_some_iff_append.mp h
  refine ⟨htable ▸ List.mem_append_right _ List.mem_cons_self, eq_of_beq hmatch, ?_⟩
  intro other hother hoccurs
  have hsorted := keywordPhrases_sorted
  rw [htable] at hother hsorted
  rcases List.mem_append.mp hother with hmem | hmem
  · have hnot : (!(((tokens.drop i).take other.1.length).map (·.text) == other.1)) = true :=
      hbefore other hmem
    rw [Bool.not_eq_true', beq_eq_false_iff_ne] at hnot
    exact absurd hoccurs hnot
  · rcases List.mem_cons.mp hmem with rfl | hmem
    · exact Nat.le_refl _
    · exact (List.pairwise_cons.mp (List.pairwise_append.mp hsorted).2.1).1 other hmem

/-- The phrase found ahead is the longest one there. -/
theorem phraseAhead?_eq_some_iff {tokens : List Token} {i : Nat} {entry : List Text × Dimension} :
    phraseAhead? (tokens.drop i) = some entry ↔ IsLongest tokens i entry := by
  refine ⟨isLongest_of_phraseAhead?, fun h => ?_⟩
  cases hfound : phraseAhead? (tokens.drop i) with
  | some found => rw [(isLongest_of_phraseAhead? hfound).unique h]
  | none =>
    have hnot := List.find?_eq_none.mp hfound entry h.mem
    exact absurd (beq_iff_eq.mpr h.occurs) hnot

/-! ## Keywords from the left -/

/-- A keyword that is the longest phrase at its place. -/
def Names (tokens : List Token) (k : Keyword) : Prop :=
  ∃ phrase, IsLongest tokens k.start (phrase, k.dimension) ∧
    k.phrase = Text.joinWith " " phrase ∧ k.stop + 1 = k.start + phrase.length

/-- Keywords from the left: in their order and without overlap, and of the phrases that are longest
at their places just those that no keyword before reaches over. -/
structure Leftmost (tokens : List Token) (hits : List Keyword) : Prop where
  ordered : hits.Pairwise fun a b => a.stop < b.start
  mem_iff : ∀ k, k ∈ hits ↔ Names tokens k ∧ ∀ h ∈ hits, h.start < k.start → h.stop < k.start

/-- A keyword spans one token or two. -/
theorem Names.start_le_stop {tokens : List Token} {k : Keyword} (h : Names tokens k) :
    k.start ≤ k.stop ∧ k.stop ≤ k.start + 1 := by
  obtain ⟨phrase, hlongest, -, hstop⟩ := h
  rcases length_of_mem_keywordPhrases _ hlongest.mem with hlength | hlength <;>
    dsimp only at hlength <;> omega

/-- Keywords at one place are the same. -/
theorem Names.eq_of_start {tokens : List Token} {k k' : Keyword} (h : Names tokens k)
    (h' : Names tokens k') (hstart : k.start = k'.start) : k = k' := by
  obtain ⟨phrase, hlongest, htext, hstop⟩ := h
  obtain ⟨phrase', hlongest', htext', hstop'⟩ := h'
  rw [hstart] at hlongest hstop
  have hentry := hlongest.unique hlongest'
  cases k
  cases k'
  cases hentry
  dsimp only at *
  subst hstart htext htext'
  congr 1
  omega

/-- A keyword is made of tokens. -/
theorem Names.stop_lt {tokens : List Token} {k : Keyword} (h : Names tokens k) :
    k.stop < tokens.length := by
  obtain ⟨phrase, hlongest, -, hstop⟩ := h
  have hlength := congrArg List.length hlongest.occurs
  have hpos := length_of_mem_keywordPhrases _ hlongest.mem
  rw [List.length_map, List.length_take, List.length_drop] at hlength
  dsimp only at *
  omega

/-- What a search from the place `first` finds. -/
structure Search (tokens : List Token) (first : Nat) (hits : List Keyword) : Prop where
  found : ∀ k ∈ hits, Names tokens k ∧ first ≤ k.start
  ordered : hits.Pairwise fun a b => a.stop < b.start
  complete : ∀ k, Names tokens k → first ≤ k.start →
    k ∈ hits ∨ ∃ h ∈ hits, h.start < k.start ∧ k.start ≤ h.stop

variable {tokens : List Token}

/-- A place without a phrase is passed over. -/
theorem Search.skip {first : Nat} {hits : List Keyword} (h : Search tokens (first + 1) hits)
    (hnone : ∀ k, Names tokens k → k.start ≠ first) : Search tokens first hits where
  found k hk := ⟨(h.found k hk).1, Nat.le_of_succ_le (h.found k hk).2⟩
  ordered := h.ordered
  complete k hk hle := h.complete k hk (Nat.lt_of_le_of_ne hle (hnone k hk).symm)

/-- A phrase that is found comes ahead of what is found behind it. -/
theorem Search.cons {k : Keyword} {hits : List Keyword} (h : Search tokens (k.stop + 1) hits)
    (hk : Names tokens k) : Search tokens k.start (k :: hits) where
  found k' hk' := by
    have hle := hk.start_le_stop.1
    rcases List.mem_cons.mp hk' with rfl | hmem
    · exact ⟨hk, Nat.le_refl _⟩
    · exact ⟨(h.found k' hmem).1, by have := (h.found k' hmem).2; omega⟩
  ordered := List.pairwise_cons.mpr ⟨fun k' hk' => (h.found k' hk').2, h.ordered⟩
  complete k' hk' hle := by
    rcases Nat.eq_or_lt_of_le hle with heq | hlt
    · rw [hk'.eq_of_start hk heq.symm]
      exact Or.inl List.mem_cons_self
    · rcases Nat.lt_or_ge k.stop k'.start with hbehind | hover
      · rcases h.complete k' hk' hbehind with hmem | ⟨other, hother, hreach⟩
        · exact Or.inl (List.mem_cons_of_mem _ hmem)
        · exact Or.inr ⟨other, List.mem_cons_of_mem _ hother, hreach⟩
      · exact Or.inr ⟨k, List.mem_cons_self, hlt, hover⟩

/-- The tokens of a prompt carry their places. -/
def IsIndexed (tokens : List Token) : Prop :=
  ∀ (i : Nat) (token : Token), tokens[i]? = some token → token.index = i

/-- The tokens of a prompt count their places. -/
theorem isIndexed_tokenize (prompt : Text) : IsIndexed (tokenize prompt) := by
  intro i token htoken
  unfold tokenize at htoken
  rw [List.getElem?_mapIdx] at htoken
  obtain ⟨piece, -, rfl⟩ := Option.map_eq_some_iff.mp htoken
  rfl

/-- Induction on the tokens that are left. Those of the phrase found last are passed over. -/
theorem search_keywordsFrom (hindex : IsIndexed tokens) (rest : List Token) (n skip : Nat)
    (hrest : tokens.drop n = rest) : Search tokens (n + skip) (keywordsFrom skip rest) := by
  induction rest generalizing n skip with
  | nil =>
    have hlength : tokens.length ≤ n := List.drop_eq_nil_iff.mp hrest
    rw [keywordsFrom]
    refine ⟨nofun, List.Pairwise.nil, fun k hk hle => ?_⟩
    have hstop := hk.stop_lt
    have hstart := hk.start_le_stop.1
    omega
  | cons token rest ih =>
    have htoken : token.index = n := by
      refine hindex n token ?_
      rw [← List.head?_drop, hrest, List.head?_cons]
    have hnext : tokens.drop (n + 1) = rest := by
      rw [← List.tail_drop, hrest, List.tail_cons]
    -- Within the phrase found last nothing is looked for.
    cases skip with
    | succ skip =>
      rw [keywordsFrom, show n + (skip + 1) = n + 1 + skip from by omega]
      exact ih (n + 1) skip hnext
    | zero =>
      rw [keywordsFrom, ← hrest, Nat.add_zero]
      split
      · next phrase dimension hahead =>
        have hlongest := phraseAhead?_eq_some_iff.mp hahead
        have hlength := length_of_mem_keywordPhrases _ hlongest.mem
        dsimp only at hlength
        have hsearch := ih (n + 1) (phrase.length - 1) hnext
        rw [htoken]
        refine Search.cons (k := ⟨dimension, Text.joinWith " " phrase, n, n + (phrase.length - 1)⟩)
          ?_ ⟨phrase, hlongest, rfl, ?_⟩
        · rwa [show n + (phrase.length - 1) + 1 = n + 1 + (phrase.length - 1) from by omega]
        · dsimp only
          omega
      · -- No phrase is ahead, so no keyword starts here.
        next hnone =>
        refine Search.skip (ih (n + 1) 0 hnext) fun k hk hstart => ?_
        obtain ⟨phrase, hlongest, -, -⟩ := hk
        rw [hstart] at hlongest
        rw [phraseAhead?_eq_some_iff.mpr hlongest] at hnone
        cases hnone

/-- Of two keywords that are ordered without overlap one comes first. -/
theorem eq_or_lt_of_ordered {hits : List Keyword} (h : hits.Pairwise fun a b => a.stop < b.start)
    {a b : Keyword} (ha : a ∈ hits) (hb : b ∈ hits) :
    a = b ∨ a.stop < b.start ∨ b.stop < a.start := by
  by_cases heq : a = b
  · exact Or.inl heq
  · have hboth : hits.Pairwise fun a b => a.stop < b.start ∨ b.stop < a.start :=
      h.imp Or.inl
    have hsymm : Std.Symm fun a b : Keyword => a.stop < b.start ∨ b.stop < a.start :=
      ⟨fun _ _ => Or.symm⟩
    exact Or.inr (hboth.forall ha hb heq)

/-- What overlaps nothing before it is found, and nothing else. -/
theorem Search.leftmost {hits : List Keyword} (h : Search tokens 0 hits) :
    Leftmost tokens hits where
  ordered := h.ordered
  mem_iff k := by
    constructor
    · intro hk
      refine ⟨(h.found k hk).1, fun other hother hlt => ?_⟩
      have hle := (h.found k hk).1.start_le_stop.1
      rcases eq_or_lt_of_ordered h.ordered hother hk with rfl | hbefore | hbehind
      · exact absurd hlt (Nat.lt_irrefl _)
      · exact hbefore
      · omega
    · rintro ⟨hk, hclear⟩
      rcases h.complete k hk (Nat.zero_le _) with hmem | ⟨other, hother, hlt, hover⟩
      · exact hmem
      · exact absurd (hclear other hother hlt) (Nat.not_lt.mpr hover)

/-- **The keywords among tokens** are the longest phrases from the left, without overlap. -/
theorem leftmost_keywords (hindex : IsIndexed tokens) : Leftmost tokens (keywords tokens) :=
  (search_keywordsFrom hindex tokens 0 0 rfl).leftmost

/-! ## One list of keywords -/

/-- Induction on the place: whether a phrase counts depends on the keywords that start before it. -/
theorem Leftmost.mem_of_mem {hits hits' : List Keyword} (h : Leftmost tokens hits)
    (h' : Leftmost tokens hits') (n : Nat) : ∀ k, k.start = n → (k ∈ hits ↔ k ∈ hits') := by
  induction n using Nat.strongRecOn with
  | ind n ih =>
    intro k hk
    rw [h.mem_iff, h'.mem_iff]
    refine and_congr_right fun _ => ?_
    constructor
    · intro hclear other hother hlt
      exact hclear other ((ih other.start (hk ▸ hlt) other rfl).mpr hother) hlt
    · intro hclear other hother hlt
      exact hclear other ((ih other.start (hk ▸ hlt) other rfl).mp hother) hlt

theorem Leftmost.sorted {hits : List Keyword} (h : Leftmost tokens hits) :
    hits.Pairwise fun a b => a.start < b.start := by
  refine h.ordered.imp_of_mem fun ha _ hlt => ?_
  exact Nat.lt_of_le_of_lt ((h.mem_iff _).mp ha).1.start_le_stop.1 hlt

/-- There is only one list of keywords from the left. -/
theorem Leftmost.unique {hits hits' : List Keyword} (h : Leftmost tokens hits)
    (h' : Leftmost tokens hits') : hits = hits' := by
  have hirrefl : Std.Irrefl fun a b : Keyword => a.start < b.start :=
    ⟨fun _ => Nat.lt_irrefl _⟩
  have hantisymm : Std.Antisymm fun a b : Keyword => a.start < b.start :=
    ⟨fun _ _ hab hba => absurd hab (Nat.lt_asymm hba)⟩
  exact h.sorted.eq_of_mem_iff h'.sorted fun k => h.mem_of_mem h' k.start k rfl

/-! ## Heights and sills -/

/-- A height behind a sill names no height: it belongs to the keyword of the sill. -/
theorem Leftmost.start_ne_of_sill {hits : List Keyword} (h : Leftmost tokens hits) {i : Nat}
    (hsill : Occurs tokens i ["sill", "height"]) : ∀ k ∈ hits, k.start ≠ i + 1 := by
  intro k hk hstart
  have hmem : ((["sill", "height"], .sillHeight) : List Text × Dimension) ∈ keywordPhrases :=
    List.mem_cons_self
  have hlongest : IsLongest tokens i (["sill", "height"], .sillHeight) := by
    refine ⟨hmem, hsill, fun other hother _ => ?_⟩
    rcases length_of_mem_keywordPhrases other hother with hlength | hlength <;> rw [hlength] <;>
      decide
  obtain ⟨-, hclear⟩ := (h.mem_iff k).mp hk
  let sill : Keyword := ⟨.sillHeight, Text.joinWith " " ["sill", "height"], i, i + 1⟩
  have hnames : Names tokens sill := ⟨_, hlongest, rfl, rfl⟩
  by_cases hfound : sill ∈ hits
  · -- the keyword of the sill reaches over the place
    have hover := hclear sill hfound (by show i < k.start; omega)
    have : i + 1 < k.start := hover
    omega
  · -- no phrase goes on with a sill, so no keyword reaches over the place of the sill
    refine hfound ((h.mem_iff sill).mpr ⟨hnames, fun other hother hlt => ?_⟩)
    obtain ⟨⟨phrase, hlongest', -, hstop⟩, -⟩ := (h.mem_iff other).mp hother
    by_contra hover
    have hlength := length_of_mem_keywordPhrases _ hlongest'.mem
    dsimp only [sill] at hlt hover hlength
    have hlast := hlongest'.occurs.getElem? (j := 1) (by dsimp only; omega)
    have hfirst := hsill.getElem? (j := 0) (by decide)
    rw [show other.start + 1 = i + 0 from by omega, ← hfirst] at hlast
    exact getElem?_ne_sill _ hlongest'.mem hlast

end FamilyDesign.Prompt
