import BebaSacco.Lib.EditDistance
import BebaSacco.StageNames

/-! # How a stage name is matched

The table of `levenshtein` is filled row by row; an entry is the least number of edits between the two
prefixes that end there. The loop over the candidates keeps the first best score above zero, so that a
name with nothing in common is no match even for a threshold of zero.

Results:
1. `levenshtein_least`: the last entry is the least number of edits that turn one text into the other.
2. `fuzzy_stage_matching`: which candidate is matched, for every input, list and threshold.
3. `nothing_in_common`: a threshold of zero that no candidate meets.
-/

namespace BebaSacco

open EditDistance

/-! ## 1. The table -/

section

variable {α : Type} {c : α} {p q : List α} {row : List Nat} {n left : Nat}

/-- The entries of a row from a column on: the least numbers of edits between the prefix of the row and
the prefixes that end in the columns. Prefixes are read from the right. -/
def RowOk (p : List α) : List α → List α → List Nat → Prop
  | q, [], row => ∃ n, row = [n] ∧ Least p q n
  | q, d :: ds, row => ∃ n rest, row = n :: rest ∧ Least p q n ∧ RowOk p (d :: q) ds rest

namespace LevenshteinLemmas

theorem rowOk_head {ds : List α} (h : RowOk p q ds row) :
    ∃ n rest, row = n :: rest ∧ Least p q n := by
  cases ds with
  | nil =>
    obtain ⟨n, hrow, hn⟩ := h
    exact ⟨n, [], hrow, hn⟩
  | cons d ds =>
    obtain ⟨n, rest, hrow, hn, _⟩ := h
    exact ⟨n, rest, hrow, hn⟩

theorem rowOk_first (q ds : List α) :
    RowOk [] q ds (List.range' q.length (ds.length + 1)) := by
  induction ds generalizing q with
  | nil => exact ⟨q.length, rfl, least_nil_left q⟩
  | cons d ds ih => exact ⟨q.length, _, rfl, least_nil_left q, ih (d :: q)⟩

theorem rowOk_next [DecidableEq α] {ds : List α} (h : RowOk p q ds row) (hleft : Least (c :: p) q left) :
    RowOk (c :: p) q ds (left :: levenshteinRow c ds row left) := by
  induction ds generalizing q row left with
  | nil => exact ⟨left, by simp [levenshteinRow], hleft⟩
  | cons d ds ih =>
    obtain ⟨diagonal, rest, rfl, hdiagonal, hrest⟩ := h
    obtain ⟨above, row, rfl, habove⟩ := rowOk_head hrest
    refine ⟨left, _, rfl, hleft, ?_⟩
    rw [levenshteinRow]
    refine ih hrest ?_
    split
    · next heq =>
      subst heq
      exact least_keep hdiagonal
    · next hne => exact least_differ hne habove hleft hdiagonal

theorem rowOk_last {ds : List α} (h : RowOk p q ds row) :
    Least p (ds.reverse ++ q) (row.getLastD 0) := by
  induction ds generalizing q row with
  | nil =>
    obtain ⟨n, rfl, hn⟩ := h
    exact hn
  | cons d ds ih =>
    obtain ⟨n, rest, rfl, _, hrest⟩ := h
    obtain ⟨m, rest', rfl, _⟩ := rowOk_head hrest
    have hlast := ih hrest
    rw [List.reverse_cons, List.append_assoc, List.singleton_append]
    simpa using hlast

/-- The loop over the letters, from a filled row on. -/
theorem rowOk_rows [DecidableEq α] (a b : List α) (h : RowOk p [] b row) :
    RowOk (a.reverse ++ p) [] b (a.foldl (fun row c =>
      let first := row.headD 0 + 1
      first :: levenshteinRow c b row first) row) := by
  induction a generalizing p row with
  | nil => exact h
  | cons c a ih =>
    rw [List.foldl_cons, List.reverse_cons, List.append_assoc, List.singleton_append]
    refine ih (rowOk_next h ?_)
    obtain ⟨n, rest, rfl, hn⟩ := rowOk_head h
    have hlen : n = p.length := hn.unique (least_nil_right p)
    rw [List.headD_cons, hlen]
    exact least_nil_right (c :: p)

end LevenshteinLemmas

open LevenshteinLemmas

theorem levenshtein_least [DecidableEq α] (a b : List α) : Least a b (levenshtein a b) := by
  have hfirst := rowOk_first [] b
  rw [List.length_nil, ← List.range_eq_range'] at hfirst
  have hlast := rowOk_last (rowOk_rows a b hfirst)
  rw [List.append_nil, List.append_nil] at hlast
  exact least_reverse hlast

end

/-! ## 2. The similarity -/

theorem levenshtein_self (a : List Char) : levenshtein a a = 0 :=
  (levenshtein_least a a).unique (least_self a)

theorem levenshtein_nil_left (b : List Char) : levenshtein [] b = b.length :=
  (levenshtein_least [] b).unique (least_nil_left b)

theorem levenshtein_nil_right (a : List Char) : levenshtein a [] = a.length :=
  (levenshtein_least a []).unique (least_nil_right a)

/-- The cases for equal and for empty texts are cases of the quotient. -/
theorem similarity_eq {a b : String} (h : a ≠ "" ∨ b ≠ "") :
    similarity a b = 1 - (levenshtein a.toList b.toList : ℚ) / max a.toList.length b.toList.length := by
  have hlen : ∀ s : String, s ≠ "" → (s.toList.length : ℚ) ≠ 0 := by
    intro s hs hzero
    exact hs (String.toList_eq_nil_iff.mp (List.eq_nil_of_length_eq_zero (by exact_mod_cast hzero)))
  unfold similarity
  split
  · next heq =>
    rw [heq, levenshtein_self, Nat.cast_zero, zero_div, sub_zero]
  · split
    · next hempty =>
      rcases hempty with rfl | rfl
      · have hb : b ≠ "" := h.resolve_left fun hne => hne rfl
        have hcast := hlen b hb
        rw [String.toList_empty, levenshtein_nil_left, List.length_nil, Nat.zero_max,
          div_self hcast, sub_self]
      · have ha : a ≠ "" := h.resolve_right fun hne => hne rfl
        have hcast := hlen a ha
        rw [String.toList_empty, levenshtein_nil_right, List.length_nil, Nat.max_zero,
          div_self hcast, sub_self]
    · rfl

/-! ## 3. The match -/

variable (upper : String → String) (input : String) (candidates : List String)

/-- The similarity of the normal forms. -/
def stageScore (candidate : String) : ℚ :=
  similarity (normalize upper input) (normalize upper candidate)

/-- The first candidate with the normal form of the input. -/
def FirstAlike (c : String) : Prop :=
  ∃ before after, candidates = before ++ c :: after ∧ normalize upper c = normalize upper input ∧
    ∀ d ∈ before, normalize upper d ≠ normalize upper input

/-- The first candidate of maximal similarity. -/
def FirstBest (c : String) : Prop :=
  ∃ before after, candidates = before ++ c :: after ∧
    (∀ d ∈ before, stageScore upper input d < stageScore upper input c) ∧
    ∀ d ∈ after, stageScore upper input d ≤ stageScore upper input c

namespace StageMatchLemmas

variable {upper input candidates}

theorem firstBest_snoc {c d : String} (h : FirstBest upper input candidates c)
    (hd : stageScore upper input d ≤ stageScore upper input c) :
    FirstBest upper input (candidates ++ [d]) c := by
  obtain ⟨before, after, rfl, hbefore, hafter⟩ := h
  refine ⟨before, after ++ [d], by simp, hbefore, fun e he => ?_⟩
  rcases List.mem_append.mp he with he | he
  · exact hafter e he
  · rw [List.mem_singleton.mp he]
    exact hd

theorem le_firstBest {c d : String} (h : FirstBest upper input candidates c) (hd : d ∈ candidates) :
    stageScore upper input d ≤ stageScore upper input c := by
  obtain ⟨before, after, rfl, hbefore, hafter⟩ := h
  rcases List.mem_append.mp hd with hd | hd
  · exact (hbefore d hd).le
  · rcases List.mem_cons.mp hd with rfl | hd
    · exact le_refl _
    · exact hafter d hd

theorem firstBest_last {d : String}
    (h : ∀ e ∈ candidates, stageScore upper input e < stageScore upper input d) :
    FirstBest upper input (candidates ++ [d]) d :=
  ⟨candidates, [], rfl, h, fun e he => by cases he⟩

theorem firstBest_unique {c c' : String} (h : FirstBest upper input candidates c)
    (h' : FirstBest upper input candidates c') : c = c' := by
  have hmem : c ∈ candidates := by
    obtain ⟨before, after, rfl, _⟩ := h
    simp
  have hmem' : c' ∈ candidates := by
    obtain ⟨before, after, rfl, _⟩ := h'
    simp
  have hle := le_firstBest h' hmem
  have hle' := le_firstBest h hmem'
  obtain ⟨before, after, hsplit, hbefore, _⟩ := h
  obtain ⟨before', after', hsplit', hbefore', _⟩ := h'
  -- the one that comes first in the list is not worse than the other one
  rcases List.append_eq_append_iff.mp (hsplit.symm.trans hsplit') with
    ⟨between, hbetween, htail⟩ | ⟨between, hbetween, htail⟩
  · cases between with
    | nil => exact (List.cons.inj htail).1
    | cons d between =>
      obtain ⟨rfl, _⟩ := List.cons.inj htail
      exact absurd (hbefore' c (by rw [hbetween]; simp)) (not_lt.mpr hle')
  · cases between with
    | nil => exact (List.cons.inj htail).1.symm
    | cons d between =>
      obtain ⟨rfl, _⟩ := List.cons.inj htail
      exact absurd (hbefore c' (by rw [hbetween]; simp)) (not_lt.mpr hle)

/-- The loop over the candidates. -/
theorem bestMatch_spec (candidates : List String) :
    (bestMatch upper (normalize upper input) candidates = (none, 0) ∧
      ∀ d ∈ candidates, stageScore upper input d ≤ 0) ∨
    ∃ c, bestMatch upper (normalize upper input) candidates = (some c, stageScore upper input c) ∧
      0 < stageScore upper input c ∧ FirstBest upper input candidates c := by
  induction candidates using List.reverseRecOn with
  | nil => exact Or.inl ⟨rfl, fun d hd => by cases hd⟩
  | append_singleton l d ih =>
    have hstep : bestMatch upper (normalize upper input) (l ++ [d]) =
        if (bestMatch upper (normalize upper input) l).2 < stageScore upper input d then
          (some d, stageScore upper input d)
        else bestMatch upper (normalize upper input) l := by
      rw [bestMatch, List.foldl_append]
      rfl
    rw [hstep]
    rcases ih with ⟨hnone, hzero⟩ | ⟨c, hsome, hpos, hbest⟩
    · rw [hnone]
      by_cases hd : 0 < stageScore upper input d
      · rw [if_pos hd]
        exact Or.inr ⟨d, rfl, hd, firstBest_last fun e he => (hzero e he).trans_lt hd⟩
      · rw [if_neg hd]
        refine Or.inl ⟨rfl, fun e he => ?_⟩
        rcases List.mem_append.mp he with he | he
        · exact hzero e he
        · rw [List.mem_singleton.mp he]
          exact not_lt.mp hd
    · rw [hsome]
      by_cases hd : stageScore upper input c < stageScore upper input d
      · rw [if_pos hd]
        exact Or.inr ⟨d, rfl, hpos.trans hd,
          firstBest_last fun e he => (le_firstBest hbest he).trans_lt hd⟩
      · rw [if_neg hd]
        exact Or.inr ⟨c, rfl, hpos, firstBest_snoc hbest (not_lt.mp hd)⟩

theorem firstAlike_find {c : String} :
    (candidates.find? fun c => normalize upper c == normalize upper input) = some c ↔
      FirstAlike upper input candidates c := by
  rw [List.find?_eq_some_iff_append, FirstAlike]
  simp only [beq_iff_eq, Bool.not_eq_true', beq_eq_false_iff_ne]
  constructor
  · rintro ⟨heq, before, after, hsplit, hbefore⟩
    exact ⟨before, after, hsplit, heq, hbefore⟩
  · rintro ⟨before, after, hsplit, heq, hbefore⟩
    exact ⟨heq, before, after, hsplit, hbefore⟩

/-- What becomes of the best candidate. -/
theorem graded_iff (best : Option String) (confidence : Int) (minConfidence : ℚ) (c : String) :
    (if (confidence : ℚ) < minConfidence then (⟨none, confidence, false⟩ : FuzzyMatchResult)
      else ⟨best, confidence, false⟩).matched = some c ↔
      best = some c ∧ minConfidence ≤ confidence := by
  split
  · next hlow => exact ⟨fun h => (by cases h), fun h => absurd h.2 (not_le.mpr hlow)⟩
  · next hhigh => exact ⟨fun h => ⟨h, not_lt.mp hhigh⟩, fun h => h.1⟩

end StageMatchLemmas

open StageMatchLemmas

theorem matched_iff (hinput : input ≠ "") (minConfidence : ℚ) (c : String) :
    (fuzzyMatchStageName upper input candidates minConfidence).matched = some c ↔
      (FirstAlike upper input candidates c ∧ c ≠ "") ∨
      ((∀ d, FirstAlike upper input candidates d → d = "") ∧ FirstBest upper input candidates c ∧
        0 < stageScore upper input c ∧
        minConfidence ≤ Rounding.roundHalfUp (stageScore upper input c * 100)) := by
  have halike := @firstAlike_find upper input candidates
  by_cases hnil : candidates = []
  · rw [fuzzyMatchStageName, if_pos (Or.inr hnil)]
    constructor
    · intro h
      cases h
    · rintro (⟨⟨before, after, hsplit, _⟩, _⟩ | ⟨_, ⟨before, after, hsplit, _⟩, _⟩)
      · simp [hnil] at hsplit
      · simp [hnil] at hsplit
  · rw [fuzzyMatchStageName, if_neg (by simp [hinput, hnil])]
    cases hexact : (candidates.find? fun c => normalize upper c == normalize upper input).filter
        (· ≠ "") with
    | some m =>
      -- a stage of the same name is taken before any score is
      obtain ⟨hfind, hm⟩ := Option.filter_eq_some_iff.mp hexact
      have hne : m ≠ "" := of_decide_eq_true hm
      have hfirst := halike.mp hfind
      dsimp only
      constructor
      · intro h
        obtain rfl := Option.some.inj h
        exact Or.inl ⟨hfirst, hne⟩
      · rintro (⟨hc, _⟩ | ⟨hall, _⟩)
        · rw [← hfind, halike.mpr hc]
        · exact absurd (hall m hfirst) hne
    | none =>
      -- an exact match on an empty name counts as none, so the score decides
      have hempty : ∀ d, FirstAlike upper input candidates d → d = "" := by
        intro d hd
        by_contra hne
        have hsome : (candidates.find? fun c => normalize upper c == normalize upper input).filter
            (· ≠ "") = some d := Option.filter_eq_some_iff.mpr ⟨halike.mpr hd, decide_eq_true hne⟩
        rw [hexact] at hsome
        cases hsome
      dsimp only
      rw [graded_iff]
      rcases @bestMatch_spec upper input candidates with ⟨hbest, hzero⟩ | ⟨b, hbest, hpos, hfirst⟩
      · rw [hbest]
        constructor
        · rintro ⟨h, _⟩
          cases h
        · rintro (⟨hc, hne⟩ | ⟨_, ⟨before, after, hsplit, _⟩, hpos, _⟩)
          · exact absurd (hempty c hc) hne
          · exact absurd hpos (not_lt.mpr (hzero c (by rw [hsplit]; simp)))
      · rw [hbest]
        dsimp only
        constructor
        · rintro ⟨h, hconf⟩
          rw [← Option.some.inj h]
          exact Or.inr ⟨hempty, hfirst, hpos, hconf⟩
        · rintro (⟨hc, hne⟩ | ⟨_, hc, _, hconf⟩)
          · exact absurd (hempty c hc) hne
          · have hsame := firstBest_unique hfirst hc
            rw [hsame]
            exact ⟨rfl, hconf⟩

/-- `levenshtein` is the least number of edits, the similarity is one minus its quotient by the length,
and the match is the first candidate with the same normal form, but for an empty one, or else the first
of maximal similarity when that is positive and its rounded percentage reaches the threshold. -/
theorem fuzzy_stage_matching :
    (∀ (α : Type) [DecidableEq α] (a b : List α), IsLeast { n | Edits n a b } (levenshtein a b)) ∧
    (∀ a b : String, a ≠ "" ∨ b ≠ "" →
      similarity a b =
        1 - (levenshtein a.toList b.toList : ℚ) / max a.toList.length b.toList.length) ∧
    ∀ (upper : String → String) (input : String) (candidates : List String) (minConfidence : ℚ)
      (c : String), input ≠ "" →
      ((fuzzyMatchStageName upper input candidates minConfidence).matched = some c ↔
        (FirstAlike upper input candidates c ∧ c ≠ "") ∨
        ((∀ d, FirstAlike upper input candidates d → d = "") ∧ FirstBest upper input candidates c ∧
          0 < stageScore upper input c ∧
          minConfidence ≤ Rounding.roundHalfUp (stageScore upper input c * 100))) :=
  ⟨fun _ _ a b => levenshtein_least a b, fun _ _ h => similarity_eq h,
    fun upper input candidates minConfidence c hinput =>
      matched_iff upper input candidates hinput minConfidence c⟩

/-- A candidate of similarity zero is the first of maximal similarity and reaches a threshold of zero,
but is not matched. -/
theorem nothing_in_common :
    (fuzzyMatchStageName String.toUpper "A" ["B"] 0).matched = none ∧
      FirstBest String.toUpper "A" ["B"] "B" ∧
      Rounding.roundHalfUp (stageScore String.toUpper "A" "B" * 100) = 0 := by
  have hscore : stageScore String.toUpper "A" "B" = 0 := by
    unfold stageScore
    decide +kernel
  refine ⟨by decide +kernel, ⟨[], [], rfl, fun d hd => ?_, fun d hd => ?_⟩, ?_⟩
  · cases hd
  · cases hd
  · rw [hscore]
    decide +kernel

end BebaSacco
