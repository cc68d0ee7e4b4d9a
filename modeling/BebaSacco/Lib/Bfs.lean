import Mathlib.Data.List.Chain
import Mathlib.Data.List.Nodup
import Mathlib.Data.List.Perm.Subperm
import Mathlib.Tactic.Common

/-! # Breadth-first search for a way back

The search goes through a queue of vertices with their depths. It reports a way back when a vertex of
depth `lo` or more has an edge to the start, and follows no edges from a depth above `hi`. The start is
not marked as visited, so it may be queued once more.

Results:
 1. `cycle_iff`: a way back from a vertex of level 2 or more is a simple cycle.
 2. `visit_eq`: what a list of successors does to the vertices seen and to the queue.
 3. `loop_some`: the search ends, with fuel for each vertex.
 4. `loop_level`: it goes through the vertices level by level, by the least length of a walk.
 5. `search_iff`: it finds a way back exactly from a vertex whose level is between the bounds.
-/

namespace Bfs

variable {V : Type} {succ : V → List V} {start : V} {n k : Nat} {u v w : V}

/-! ## 1. Walks and levels -/

/-- A walk of `n` edges. -/
def Walk (succ : V → List V) : Nat → V → V → Prop
  | 0, u, v => u = v
  | n + 1, u, v => ∃ w, Walk succ n u w ∧ v ∈ succ w

/-- A walk of `n` edges from the start leads to `v`, and no shorter one with an edge. -/
def At (succ : V → List V) (start : V) (n : Nat) (v : V) : Prop :=
  Walk succ n start v ∧ ∀ k, 1 ≤ k → k < n → ¬ Walk succ k start v

theorem at_pred (h : At succ start (n + 1) v) : ∃ u, At succ start n u ∧ v ∈ succ u := by
  obtain ⟨⟨u, hwalk, hv⟩, hleast⟩ := h
  refine ⟨u, ⟨hwalk, fun k hk hkn hshort => ?_⟩, hv⟩
  exact hleast (k + 1) (Nat.le_add_left 1 k) (Nat.succ_lt_succ hkn) ⟨u, hshort, hv⟩

theorem at_of_walk (hn : 1 ≤ n) (h : Walk succ n start v) :
    ∃ k, 1 ≤ k ∧ k ≤ n ∧ At succ start k v := by
  induction n using Nat.strongRecOn with
  | ind n ih =>
    by_cases hleast : ∀ k, 1 ≤ k → k < n → ¬ Walk succ k start v
    · exact ⟨n, hn, Nat.le_refl n, h, hleast⟩
    · push Not at hleast
      obtain ⟨k, hk, hkn, hwalk⟩ := hleast
      obtain ⟨j, hj, hjk, hat⟩ := ih k hkn hk hwalk
      exact ⟨j, hj, Nat.le_trans hjk (Nat.le_of_lt hkn), hat⟩

/-- The vertices seen and the queue when the vertices of level `n` are up. -/
structure Level (succ : V → List V) (start : V) (n : Nat) (visited level : List V) : Prop where
  seen : ∀ v, v ∈ visited ↔ ∃ k, 1 ≤ k ∧ k ≤ n ∧ Walk succ k start v
  here : ∀ v, v ∈ level ↔ At succ start n v

theorem level_next {visited visited' level : List V}
    (hlevel : Level succ start n visited level)
    (hseen : ∀ v, v ∈ visited' ↔ v ∈ visited ∨ ∃ u ∈ level, v ∈ succ u) {next : List V}
    (hnext : ∀ v, v ∈ next ↔ v ∉ visited ∧ ∃ u ∈ level, v ∈ succ u) :
    Level succ start (n + 1) visited' next := by
  have hstep : ∀ v, (∃ k, 1 ≤ k ∧ k ≤ n ∧ Walk succ k start v) ∨ (∃ u ∈ level, v ∈ succ u) ↔
      ∃ k, 1 ≤ k ∧ k ≤ n + 1 ∧ Walk succ k start v := by
    intro v
    constructor
    · rintro (⟨k, hk, hkn, hwalk⟩ | ⟨u, hu, hv⟩)
      · exact ⟨k, hk, Nat.le_succ_of_le hkn, hwalk⟩
      · exact ⟨n + 1, Nat.le_add_left 1 n, Nat.le_refl _, u, ((hlevel.here u).mp hu).1, hv⟩
    · rintro ⟨k, hk, hkn, hwalk⟩
      obtain ⟨j, hj, hjk, hat⟩ := at_of_walk hk hwalk
      rcases Nat.lt_or_ge n j with hlt | hge
      · obtain rfl : j = n + 1 := by omega
        obtain ⟨u, hu, hv⟩ := at_pred hat
        exact .inr ⟨u, (hlevel.here u).mpr hu, hv⟩
      · exact .inl ⟨j, hj, hge, hat.1⟩
  refine ⟨fun v => ?_, fun v => ?_⟩
  · rw [hseen, hlevel.seen, hstep]
  · rw [hnext, hlevel.seen]
    constructor
    · rintro ⟨hnew, u, hu, hv⟩
      refine ⟨⟨u, ((hlevel.here u).mp hu).1, hv⟩, fun k hk hkn hwalk => hnew ?_⟩
      exact ⟨k, hk, Nat.le_of_lt_succ hkn, hwalk⟩
    · intro hat
      obtain ⟨u, hu, hv⟩ := at_pred hat
      refine ⟨?_, u, (hlevel.here u).mpr hu, hv⟩
      rintro ⟨k, hk, hkn, hwalk⟩
      exact hat.2 k hk (Nat.lt_succ_of_le hkn) hwalk

/-! ## 2. Cycles -/

/-- A simple cycle through `start`, whose other vertices are `rest`. -/
structure Cycle (succ : V → List V) (start : V) (rest : List V) : Prop where
  nodup : (start :: rest).Nodup
  edges : (start :: rest).IsChain fun u v => v ∈ succ u
  closes : start ∈ succ ((start :: rest).getLast (List.cons_ne_nil start rest))

theorem walk_cons (h : v ∈ succ u) (hwalk : Walk succ n v w) : Walk succ (n + 1) u w := by
  induction n generalizing w with
  | zero =>
    cases hwalk
    exact ⟨u, rfl, h⟩
  | succ n ih =>
    obtain ⟨x, hx, hw⟩ := hwalk
    exact ⟨x, ih hx, hw⟩

theorem walk_of_chain {l : List V} (h : (u :: l).IsChain fun u v => v ∈ succ u) :
    Walk succ l.length u ((u :: l).getLast (List.cons_ne_nil u l)) := by
  induction l generalizing u with
  | nil => rfl
  | cons v l ih =>
    obtain ⟨huv, hl⟩ := List.isChain_cons_cons.mp h
    rw [List.getLast_cons_cons]
    exact walk_cons huv (ih hl)

/-- A least walk as the list of its vertices, each of which is at its level. -/
theorem path_of_at (h : At succ start n v) : ∃ rest : List V, rest.length = n ∧
    (start :: rest).IsChain (fun u v => v ∈ succ u) ∧
      (start :: rest).getLast (List.cons_ne_nil start rest) = v ∧
        ∀ (i : Nat) (w : V), (start :: rest)[i]? = some w → At succ start i w := by
  induction n generalizing v with
  | zero =>
    cases h.1
    refine ⟨[], rfl, List.isChain_singleton _, rfl, fun i w hw => ?_⟩
    cases i with
    | zero =>
      cases hw
      exact h
    | succ i => cases hw
  | succ n ih =>
    obtain ⟨u, hu, hv⟩ := at_pred h
    obtain ⟨rest, hlength, hchain, hlast, hlevels⟩ := ih hu
    refine ⟨rest ++ [v], by rw [List.length_append, hlength]; rfl, ?_, ?_, fun i w hw => ?_⟩
    · rw [← List.cons_append]
      refine hchain.append (List.isChain_singleton v) ?_
      intro x hx y hy
      rw [List.getLast?_eq_some_getLast (List.cons_ne_nil start rest), hlast] at hx
      cases hx
      cases hy
      exact hv
    · exact List.getLast_append_singleton (start :: rest)
    · rw [← List.cons_append] at hw
      rcases Nat.lt_or_ge i (start :: rest).length with hlt | hge
      · rw [List.getElem?_append_left hlt] at hw
        exact hlevels i w hw
      · rw [List.getElem?_append_right hge, List.getElem?_singleton] at hw
        split at hw
        · next hzero =>
          cases hw
          rw [List.length_cons, hlength] at hge hzero
          obtain rfl : i = n + 1 := by omega
          exact h
        · cases hw

/-- A least walk that does not lead back to the start passes each vertex once. -/
theorem nodup_of_levels {rest : List V} (hlength : rest.length = n) (hne : v ≠ start)
    (hat : At succ start n v) (hchain : (start :: rest).IsChain fun u v => v ∈ succ u)
    (hlast : (start :: rest).getLast (List.cons_ne_nil start rest) = v)
    (hlevels : ∀ (i : Nat) (w : V), (start :: rest)[i]? = some w → At succ start i w) :
    (start :: rest).Nodup := by
  have hstart : ∀ w ∈ rest, w ≠ start := by
    rintro w hw rfl
    obtain ⟨l₁, l₂, rfl⟩ := List.append_of_mem hw
    have hsuffix : (w :: l₂).IsChain fun u v => v ∈ succ u :=
      hchain.suffix (List.suffix_append (w :: l₁) (w :: l₂))
    have hwalk := walk_of_chain hsuffix
    have hend : (w :: l₂).getLast (List.cons_ne_nil w l₂) = v :=
      (List.getLast_append_of_ne_nil (List.cons_ne_nil w (l₁ ++ w :: l₂))
        (List.cons_ne_nil w l₂) : ((w :: l₁) ++ (w :: l₂)).getLast _ = _).symm.trans hlast
    rw [hend] at hwalk
    rw [List.length_append, List.length_cons] at hlength
    cases l₂ with
    | nil => exact hne hwalk.symm
    | cons x l₂ =>
      refine hat.2 (x :: l₂).length (Nat.succ_le_of_lt (Nat.succ_pos _)) ?_ hwalk
      rw [← hlength]
      omega
  refine List.nodup_cons.mpr ⟨fun h => hstart start h rfl, ?_⟩
  rw [List.nodup_iff_getElem?_ne_getElem?]
  intro i j hij hj heq
  have hi : rest[i]? = some rest[i] := List.getElem?_eq_getElem (Nat.lt_trans hij hj)
  have hi' := hlevels (i + 1) _ (by rw [List.getElem?_cons_succ]; exact hi)
  have hj' := hlevels (j + 1) rest[i] (by rw [List.getElem?_cons_succ, ← heq]; exact hi)
  exact hj'.2 (i + 1) (Nat.le_add_left 1 i) (Nat.succ_lt_succ hij) hi'.1

/-- A way back from a level of 2 or more is a simple cycle whose last vertex is no successor of the
start. -/
theorem cycle_iff (hi : Nat) :
    (∃ k, 2 ≤ k ∧ k ≤ hi ∧ ∃ v, At succ start k v ∧ start ∈ succ v) ↔
      ∃ rest, Cycle succ start rest ∧ 2 ≤ rest.length ∧ rest.length ≤ hi ∧
        (start :: rest).getLast (List.cons_ne_nil start rest) ∉ succ start := by
  constructor
  · rintro ⟨k, hk, hhi, v, hat, hback⟩
    have hnot : v ∉ succ start := fun hv => hat.2 1 (Nat.le_refl 1) hk ⟨start, rfl, hv⟩
    have hne : v ≠ start := by
      rintro rfl
      exact hnot hback
    obtain ⟨rest, hlength, hchain, hlast, hlevels⟩ := path_of_at hat
    refine ⟨rest, ⟨nodup_of_levels hlength hne hat hchain hlast hlevels, hchain, ?_⟩, ?_, ?_, ?_⟩
    · rw [hlast]
      exact hback
    · rw [hlength]
      exact hk
    · rw [hlength]
      exact hhi
    · rw [hlast]
      exact hnot
  · rintro ⟨rest, hcycle, hlo, hhi, hnot⟩
    have hwalk := walk_of_chain hcycle.edges
    obtain ⟨k, hk, hkn, hat⟩ := at_of_walk (Nat.le_of_succ_le hlo) hwalk
    refine ⟨k, ?_, Nat.le_trans hkn hhi, _, hat, hcycle.closes⟩
    rcases Nat.lt_or_ge k 2 with hlt | hge
    · obtain rfl : k = 1 := by omega
      obtain ⟨x, hx, hlast⟩ := hat.1
      cases hx
      exact absurd hlast hnot
    · exact hge

/-! ## 3. The search -/

variable [DecidableEq V] (succ start) (lo hi : Nat)

/-- The successors of a vertex of some depth; `none` when one of them is the start. -/
def visit (depth : Nat) : List V → List V × List (V × Nat) → Option (List V × List (V × Nat))
  | [], state => some state
  | v :: vs, (visited, queue) =>
    if v = start ∧ lo ≤ depth then none
    else if v ∈ visited then visit depth vs (visited, queue)
    else visit depth vs (v :: visited, queue ++ [(v, depth + 1)])

/-- `none` when the fuel is used up. -/
def loop : (fuel : Nat) → List V → List (V × Nat) → Option Bool
  | 0, _, _ => none
  | _ + 1, _, [] => some false
  | fuel + 1, visited, (v, depth) :: queue =>
    if hi < depth then loop fuel visited queue
    else
      match visit start lo depth (succ v) (visited, queue) with
      | none => some true
      | some (visited', queue') => loop fuel visited' queue'

def search (fuel : Nat) : Option Bool := loop succ start lo hi fuel [] [(start, 0)]

variable {succ start lo hi} {vs visited visited' level : List V} {queue : List (V × Nat)}

/-! ## 4. One vertex -/

/-- The successors that are new, in the order in which they are found. -/
def fresh : List V → List V → List V
  | _, [] => []
  | visited, v :: vs => if v ∈ visited then fresh visited vs else v :: fresh (v :: visited) vs

theorem mem_fresh : v ∈ fresh visited vs ↔ v ∈ vs ∧ v ∉ visited := by
  induction vs generalizing visited with
  | nil => simp [fresh]
  | cons w vs ih =>
    unfold fresh
    split
    · next hw =>
      rw [ih, List.mem_cons]
      constructor
      · exact fun h => ⟨.inr h.1, h.2⟩
      · rintro ⟨rfl | h, hv⟩
        · exact absurd hw hv
        · exact ⟨h, hv⟩
    · next hw =>
      rw [List.mem_cons, ih, List.mem_cons, List.mem_cons]
      constructor
      · rintro (rfl | ⟨h, hv⟩)
        · exact ⟨.inl rfl, hw⟩
        · exact ⟨.inr h, fun hin => hv (.inr hin)⟩
      · rintro ⟨rfl | h, hv⟩
        · exact .inl rfl
        · by_cases hvw : v = w
          · exact .inl hvw
          · exact .inr ⟨h, fun hin => hin.elim hvw hv⟩

theorem nodup_fresh : (fresh visited vs).Nodup := by
  induction vs generalizing visited with
  | nil => exact List.nodup_nil
  | cons w vs ih =>
    unfold fresh
    split
    · exact ih
    · refine List.nodup_cons.mpr ⟨fun h => ?_, ih⟩
      exact (mem_fresh.mp h).2 List.mem_cons_self

/-- The successors are seen and queued unless one of them closes the way back. -/
theorem visit_eq (depth : Nat) (vs visited : List V) (queue : List (V × Nat)) :
    visit start lo depth vs (visited, queue) =
      if start ∈ vs ∧ lo ≤ depth then none
      else some ((fresh visited vs).reverse ++ visited,
        queue ++ (fresh visited vs).map fun v => (v, depth + 1)) := by
  induction vs generalizing visited queue with
  | nil => simp [visit, fresh]
  | cons v vs ih =>
    unfold visit fresh
    by_cases hback : v = start ∧ lo ≤ depth
    · rw [if_pos hback, if_pos ⟨List.mem_cons.mpr (.inl hback.1.symm), hback.2⟩]
    · have hiff : (start ∈ v :: vs ∧ lo ≤ depth) ↔ (start ∈ vs ∧ lo ≤ depth) := by
        rw [List.mem_cons]
        constructor
        · rintro ⟨rfl | h, hlo⟩
          · exact absurd ⟨rfl, hlo⟩ hback
          · exact ⟨h, hlo⟩
        · exact fun h => ⟨.inr h.1, h.2⟩
      rw [if_neg hback]
      simp only [hiff]
      by_cases hv : v ∈ visited
      · rw [if_pos hv, if_pos hv, ih]
      · rw [if_neg hv, if_neg hv, ih]
        simp only [List.reverse_cons, List.map_cons, List.append_assoc, List.cons_append,
          List.nil_append]

/-! ## 5. The search ends -/

/-- Fuel for what is queued and what is not seen yet is enough. -/
theorem loop_some (vertices : List V) (hvertices : ∀ v, ∀ w ∈ succ v, w ∈ vertices) (fuel : Nat)
    (hvisited : visited.Nodup) (hsub : visited ⊆ vertices)
    (hfuel : queue.length + vertices.length < fuel + visited.length) :
    ∃ b, loop succ start lo hi fuel visited queue = some b := by
  have hle : ∀ {l : List V}, l.Nodup → l ⊆ vertices → l.length ≤ vertices.length := by
    intro l hl hs
    exact (List.subperm_of_subset hl hs).length_le
  induction fuel generalizing visited queue with
  | zero =>
    have := hle hvisited hsub
    omega
  | succ fuel ih =>
    cases queue with
    | nil => exact ⟨false, rfl⟩
    | cons row queue =>
      obtain ⟨v, depth⟩ := row
      rw [List.length_cons] at hfuel
      unfold loop
      split
      · exact ih hvisited hsub (by omega)
      · rw [visit_eq]
        by_cases hback : start ∈ succ v ∧ lo ≤ depth
        · rw [if_pos hback]
          exact ⟨true, rfl⟩
        · rw [if_neg hback]
          dsimp only
          refine ih ?_ ?_ ?_
          · refine List.nodup_append.mpr ⟨List.nodup_reverse.mpr nodup_fresh, hvisited, ?_⟩
            rintro a ha _ hb rfl
            exact (mem_fresh.mp (List.mem_reverse.mp ha)).2 hb
          · intro a ha
            rcases List.mem_append.mp ha with ha | ha
            · exact hvertices v a (mem_fresh.mp (List.mem_reverse.mp ha)).1
            · exact hsub ha
          · simp only [List.length_append, List.length_map, List.length_reverse]
            omega

/-! ## 6. Level by level -/

/-- The vertices of a level find the way back, or leave the next level in the queue. -/
theorem loop_part {us next : List V} {b : Bool} {fuel : Nat} (hn : n ≤ hi)
    (h : loop succ start lo hi fuel visited
      (us.map (fun u => (u, n)) ++ next.map fun v => (v, n + 1)) = some b) :
    (b = true ∧ lo ≤ n ∧ ∃ u ∈ us, start ∈ succ u) ∨
      (∀ u ∈ us, ¬ (start ∈ succ u ∧ lo ≤ n)) ∧
        ∃ (fuel' : Nat) (visited' next' : List V),
        loop succ start lo hi fuel' visited' (next'.map fun v => (v, n + 1)) = some b ∧
          (∀ v, v ∈ visited' ↔ v ∈ visited ∨ ∃ u ∈ us, v ∈ succ u) ∧
            ∀ v, v ∈ next' ↔ v ∈ next ∨ v ∉ visited ∧ ∃ u ∈ us, v ∈ succ u := by
  induction us generalizing fuel visited next with
  | nil =>
    refine .inr ⟨fun u hu => (List.not_mem_nil hu).elim, fuel, visited, next, h, ?_, ?_⟩
    · simp
    · simp
  | cons u us ih =>
    cases fuel with
    | zero => cases h
    | succ fuel =>
      rw [List.map_cons, List.cons_append, loop, if_neg (Nat.not_lt.mpr hn), visit_eq] at h
      by_cases hback : start ∈ succ u ∧ lo ≤ n
      · rw [if_pos hback] at h
        cases h
        exact .inl ⟨rfl, hback.2, u, List.mem_cons_self, hback.1⟩
      · rw [if_neg hback] at h
        dsimp only at h
        rw [List.append_assoc, ← List.map_append] at h
        rcases ih h with ⟨hb, hlo, w, hw, hsw⟩ | ⟨hnone, fuel', visited', next', hloop, hseen, hnext⟩
        · exact .inl ⟨hb, hlo, w, List.mem_cons_of_mem u hw, hsw⟩
        · refine .inr ⟨List.forall_mem_cons.mpr ⟨hback, hnone⟩, fuel', visited', next', hloop, ?_, ?_⟩
          · intro v
            rw [hseen v, List.mem_append, List.mem_reverse, mem_fresh, List.exists_mem_cons_iff]
            tauto
          · intro v
            rw [hnext v, List.mem_append, List.mem_append, List.mem_reverse, mem_fresh,
              List.exists_mem_cons_iff]
            tauto

theorem loop_deep {level : List V} {b : Bool} {fuel : Nat} (hn : hi < n)
    (h : loop succ start lo hi fuel visited (level.map fun u => (u, n)) = some b) : b = false := by
  induction level generalizing fuel with
  | nil =>
    cases fuel with
    | zero => cases h
    | succ fuel => exact (Option.some.inj h).symm
  | cons u level ih =>
    cases fuel with
    | zero => cases h
    | succ fuel =>
      rw [List.map_cons, loop, if_pos hn] at h
      exact ih h

/-- From level `n` on the search finds the way back at the levels between the bounds. -/
theorem loop_level {b : Bool} {fuel m : Nat} (hm : n + m = hi + 1)
    (hlevel : Level succ start n visited level)
    (h : loop succ start lo hi fuel visited (level.map fun u => (u, n)) = some b) :
    b = true ↔ ∃ k, n ≤ k ∧ lo ≤ k ∧ k ≤ hi ∧ ∃ v, At succ start k v ∧ start ∈ succ v := by
  induction m generalizing n fuel visited level with
  | zero =>
    refine iff_of_false ?_ ?_
    · rw [loop_deep (by omega) h]
      exact Bool.false_ne_true
    · rintro ⟨k, hk, _, hhi, _⟩
      omega
  | succ m ih =>
    have h' : loop succ start lo hi fuel visited
        (level.map (fun u => (u, n)) ++ [].map fun v => (v, n + 1)) = some b := by
      rw [List.map_nil, List.append_nil]
      exact h
    rcases loop_part (by omega) h' with ⟨hb, hlo, u, hu, hback⟩ |
      ⟨hnone, fuel', visited', next', hloop, hseen, hnext⟩
    · refine iff_of_true hb ⟨n, Nat.le_refl n, hlo, by omega, u, (hlevel.here u).mp hu, hback⟩
    · have hnext' : ∀ v, v ∈ next' ↔ v ∉ visited ∧ ∃ u ∈ level, v ∈ succ u := fun v =>
        (hnext v).trans (or_iff_right List.not_mem_nil)
      rw [ih (by omega) (level_next hlevel hseen hnext') hloop]
      constructor
      · rintro ⟨k, hk, hrest⟩
        exact ⟨k, Nat.le_of_succ_le hk, hrest⟩
      · rintro ⟨k, hk, hlo, hhi, v, hat, hback⟩
        refine ⟨k, Nat.lt_of_le_of_ne hk ?_, hlo, hhi, v, hat, hback⟩
        rintro rfl
        exact hnone v ((hlevel.here v).mpr hat) ⟨hback, hlo⟩

theorem search_iff {b : Bool} {fuel : Nat} (h : search succ start lo hi fuel = some b) :
    b = true ↔ ∃ k, lo ≤ k ∧ k ≤ hi ∧ ∃ v, At succ start k v ∧ start ∈ succ v := by
  have hstart : Level succ start 0 [] [start] := by
    refine ⟨fun v => ?_, fun v => ?_⟩
    · refine iff_of_false List.not_mem_nil ?_
      rintro ⟨k, hk, hk0, _⟩
      omega
    · rw [List.mem_singleton]
      constructor
      · rintro rfl
        exact ⟨rfl, fun k hk hk0 => absurd hk0 (Nat.not_lt_zero k)⟩
      · exact fun hat => hat.1.symm
  rw [loop_level (Nat.zero_add (hi + 1)) hstart h]
  constructor
  · rintro ⟨k, _, hrest⟩
    exact ⟨k, hrest⟩
  · rintro ⟨k, hrest⟩
    exact ⟨k, Nat.zero_le k, hrest⟩

end Bfs
