import Mathlib.Data.List.Dedup

/-! # Lookups in rows that were read at once

`get entries` reads a list of entries as a map that was built from it, where the last entry of a key
wins. `groupCount key rows` counts the rows of each key.

Results:
 1. `get_some`, `get_none`: the value of a key that has one value, and of a key that has none.
 2. `get_groupCount`: a key without a group has no rows.
 3. `mem_groupRows`: the groups that a loop collects.
 4. `find_map`: the first refusal among all verdicts is the one that a loop stops at.
-/

namespace Grouped

variable {α β κ : Type} [DecidableEq κ]

def get (entries : List (κ × β)) (key : κ) : Option β := entries.reverse.lookup key

def groupCount (key : α → κ) (rows : List α) : List (κ × Nat) :=
  (rows.map key).dedup.map fun k => (k, rows.countP (key · == k))

variable {entries : List (κ × β)} {key : κ} {value : β}

theorem lookup_mem (h : entries.lookup key = some value) : (key, value) ∈ entries := by
  induction entries with
  | nil => cases h
  | cons entry entries ih =>
    obtain ⟨key', value'⟩ := entry
    rw [List.lookup_cons] at h
    split at h
    · next heq =>
      cases h
      rw [beq_iff_eq.mp heq]
      exact List.mem_cons_self ..
    · exact List.mem_cons_of_mem _ (ih h)

theorem lookup_isSome (h : (key, value) ∈ entries) : (entries.lookup key).isSome = true := by
  induction entries with
  | nil => cases h
  | cons entry entries ih =>
    obtain ⟨key', value'⟩ := entry
    rw [List.lookup_cons]
    split
    · rfl
    · next hne =>
      rcases List.mem_cons.mp h with heq | hmem
      · cases heq
        rw [beq_self_eq_true] at hne
        cases hne
      · exact ih hmem

theorem get_none (h : ∀ value, (key, value) ∉ entries) : get entries key = none := by
  unfold get
  cases hget : entries.reverse.lookup key with
  | none => rfl
  | some value => exact absurd (List.mem_reverse.mp (lookup_mem hget)) (h value)

theorem get_some (hmem : (key, value) ∈ entries)
    (hone : ∀ value', (key, value') ∈ entries → value' = value) :
    get entries key = some value := by
  unfold get
  obtain ⟨value', hget⟩ :=
    Option.isSome_iff_exists.mp (lookup_isSome (List.mem_reverse.mpr hmem))
  rw [hget, hone value' (List.mem_reverse.mp (lookup_mem hget))]

theorem get_groupCount (f : α → κ) (rows : List α) (key : κ) :
    (get (groupCount f rows) key).getD 0 = rows.countP (f · == key) := by
  by_cases hkey : key ∈ rows.map f
  · have hmem : (key, rows.countP (f · == key)) ∈ groupCount f rows :=
      List.mem_map.mpr ⟨key, List.mem_dedup.mpr hkey, rfl⟩
    rw [get_some hmem fun value hvalue => ?_]
    · rfl
    · obtain ⟨key', -, heq⟩ := List.mem_map.mp hvalue
      cases heq
      rfl
  · rw [get_none fun value hvalue => ?_]
    · refine (List.countP_eq_zero.mpr fun row hrow heq => hkey ?_).symm
      exact List.mem_map.mpr ⟨row, hrow, beq_iff_eq.mp heq⟩
    · obtain ⟨key', hkey', heq⟩ := List.mem_map.mp hvalue
      cases heq
      exact hkey (List.mem_dedup.mp hkey')

/-- The groups that a loop collects in a map: a key for each, in the order of their first rows, with
the rows of the key. -/
def groupRows (key : α → κ) (rows : List α) : List (κ × List α) :=
  (rows.map key).eraseDups.map fun k => (k, rows.filter (key · == k))

theorem nodup_eraseDups (l : List κ) : l.eraseDups.Nodup := by
  match l with
  | [] => exact List.nodup_nil
  | k :: l =>
    rw [List.eraseDups_cons]
    refine List.nodup_cons.mpr ⟨fun h => ?_, nodup_eraseDups _⟩
    simpa using (List.mem_filter.mp (List.mem_eraseDups.mp h)).2
termination_by l.length
decreasing_by exact Nat.lt_succ_of_le (List.length_filter_le _ _)

/-- A group has the rows of its key, in their order. -/
theorem mem_groupRows {key : α → κ} {rows : List α} {g : κ × List α} :
    g ∈ groupRows key rows ↔ g.1 ∈ rows.map key ∧ g.2 = rows.filter (key · == g.1) := by
  unfold groupRows
  rw [List.mem_map]
  constructor
  · rintro ⟨k, hk, rfl⟩
    exact ⟨List.mem_eraseDups.mp hk, rfl⟩
  · rintro ⟨hk, hrows⟩
    exact ⟨g.1, List.mem_eraseDups.mpr hk, Prod.ext rfl hrows.symm⟩

/-- The groups of one key: that of its rows, or none. -/
theorem filter_groupRows (key : α → κ) (rows : List α) (k : κ) :
    (groupRows key rows).filter (fun g => g.1 == k) =
      if k ∈ rows.map key then [(k, rows.filter (key · == k))] else [] := by
  unfold groupRows
  rw [List.filter_map]
  have hkeys : (rows.map key).eraseDups.filter (fun k' => k' == k) =
      if k ∈ rows.map key then [k] else [] := by
    rw [List.filter_beq, (nodup_eraseDups (rows.map key)).count]
    simp only [List.mem_eraseDups]
    split <;> rfl
  have hcomp : ((fun g : κ × List α => g.1 == k) ∘ fun k' => (k', rows.filter (key · == k'))) =
      fun k' => k' == k := rfl
  rw [hcomp, hkeys]
  split <;> rfl

/-- The first item of a list that is refused, with the reason. -/
def firstRefused {ρ : Type} (verdict : α → Option ρ) : List α → Option (α × ρ)
  | [] => none
  | item :: items =>
    match verdict item with
    | some reason => some (item, reason)
    | none => firstRefused verdict items

theorem find_map {ρ γ : Type} (name : α → γ) (verdict : α → Option ρ) (items : List α) :
    (items.map fun item => (name item, verdict item)).find? (·.2.isSome) =
      (firstRefused verdict items).map fun r => (name r.1, some r.2) := by
  induction items with
  | nil => rfl
  | cons item items ih =>
    unfold firstRefused
    rw [List.map_cons]
    cases hverdict : verdict item with
    | none => rw [List.find?_cons_of_neg (by simp), ih]
    | some reason => rw [List.find?_cons_of_pos (by simp)]; rfl

theorem firstRefused_none {ρ : Type} {verdict : α → Option ρ} {items : List α} :
    firstRefused verdict items = none ↔ ∀ item ∈ items, verdict item = none := by
  induction items with
  | nil => simp [firstRefused]
  | cons item items ih =>
    unfold firstRefused
    cases hverdict : verdict item <;> simp [hverdict, ih]

end Grouped
