import Mathlib.Algebra.GroupWithZero.Nat
import Mathlib.Data.List.Basic
import Mathlib.Tactic.Common

/-! # Tables as lists of rows

A table is a list of rows and the id of a row is its position, so a row keeps
its id for ever: rows are appended and modified, never removed. The column sums
below say how a total over a table changes when one row does.

Results:
 1. `getElem?_modify_self` and its companions: looking up a row after an update.
 2. `sumOver_modify`: a total after one row is modified.
 3. `sumOver_append_one`: a total after one row is appended.
 4. `find?_append_one`: the first matching row after an insert.
-/

namespace Table

variable {α β : Type} {l : List α} {i j : Nat} {f : α → α} {a b : α}

/-- The sum of the column `g` over the rows of `l`. -/
def sumOver (g : α → Int) : List α → Int
  | [] => 0
  | a :: l => g a + sumOver g l

/-! ## 1. Looking up a row -/

theorem getElem?_modify_self (h : l[i]? = some a) : (l.modify i f)[i]? = some (f a) := by
  rw [List.getElem?_modify_eq, h]
  rfl

theorem getElem?_modify_other (h : i ≠ j) : (l.modify i f)[j]? = l[j]? :=
  List.getElem?_modify_ne f l h

/-- A row of a modified table is the old row, passed through `f` when it is the
modified one. -/
theorem getElem?_modify_some (h : (l.modify i f)[j]? = some b) :
    ∃ a, l[j]? = some a ∧ b = if i = j then f a else a := by
  by_cases hij : i = j
  · subst hij
    rw [List.getElem?_modify_eq] at h
    cases hl : l[i]? with
    | none => rw [hl] at h; cases h
    | some a =>
      rw [hl] at h
      exact ⟨a, rfl, by rw [if_pos rfl]; exact (Option.some.inj h).symm⟩
  · rw [List.getElem?_modify_ne f l hij] at h
    exact ⟨b, h, by rw [if_neg hij]⟩

theorem getElem?_append_one_self : (l ++ [a])[l.length]? = some a := by
  rw [List.getElem?_append_right (Nat.le_refl _), Nat.sub_self]
  rfl

theorem getElem?_append_one_old (h : l[i]? = some b) : (l ++ [a])[i]? = some b := by
  rw [List.getElem?_append_left (List.getElem?_eq_some_iff.mp h).1]
  exact h

/-- A row of a table with one row appended is an old row or the new one. -/
theorem getElem?_append_one_some (h : (l ++ [a])[i]? = some b) :
    l[i]? = some b ∨ (i = l.length ∧ b = a) := by
  by_cases hi : i < l.length
  · rw [List.getElem?_append_left hi] at h
    exact .inl h
  · rw [List.getElem?_append_right (Nat.le_of_not_lt hi), List.getElem?_singleton] at h
    split at h
    · next h0 => exact .inr ⟨by omega, (Option.some.inj h).symm⟩
    · cases h

theorem getElem?_of_prefix {l' : List α} (hp : l <+: l') (h : l[i]? = some a) :
    l'[i]? = some a := by
  obtain ⟨t, rfl⟩ := hp
  rw [List.getElem?_append_left (List.getElem?_eq_some_iff.mp h).1]
  exact h

/-- A column that the modification keeps is read from every row as before. -/
theorem bind_modify_same {c : α → Option β} (h : ∀ a, c (f a) = c a) :
    (l.modify i f)[j]?.bind c = l[j]?.bind c := by
  rw [List.getElem?_modify]
  cases l[j]? with
  | none => rfl
  | some a =>
    show c (if i = j then f a else a) = c a
    split
    · exact h a
    · rfl

theorem lt_length_of_getElem? (h : l[i]? = some a) : i < l.length :=
  (List.getElem?_eq_some_iff.mp h).1

theorem forall_modify {p : α → Prop} (h : ∀ a ∈ l, p a) (hf : ∀ a, p a → p (f a)) :
    ∀ a ∈ l.modify i f, p a := by
  intro b hb
  obtain ⟨j, hj⟩ := List.mem_iff_getElem?.mp hb
  obtain ⟨a, ha, rfl⟩ := getElem?_modify_some hj
  have hpa := h a (List.mem_of_getElem? ha)
  split
  · exact hf a hpa
  · exact hpa

theorem forall_modify_at {p : α → Prop} (h : ∀ a ∈ l, p a) (hf : ∀ a, l[i]? = some a → p (f a)) :
    ∀ a ∈ l.modify i f, p a := by
  intro b hb
  obtain ⟨j, hj⟩ := List.mem_iff_getElem?.mp hb
  obtain ⟨a, ha, rfl⟩ := getElem?_modify_some hj
  split
  · next hij =>
    subst hij
    exact hf a ha
  · exact h a (List.mem_of_getElem? ha)

theorem forall_append_one {p : α → Prop} (h : ∀ a ∈ l, p a) (hb : p b) : ∀ a ∈ l ++ [b], p a := by
  intro a ha
  rcases List.mem_append.mp ha with ha | ha
  · exact h a ha
  · rw [List.mem_singleton.mp ha]
    exact hb

/-- A column that the modification keeps is the same after it. -/
theorem map_modify_same {g : α → β} (h : ∀ a, g (f a) = g a) : (l.modify i f).map g = l.map g := by
  induction l generalizing i with
  | nil => rw [List.modify_nil]
  | cons x l ih =>
    cases i with
    | zero => rw [List.modify_zero_cons, List.map_cons, List.map_cons, h]
    | succ i => rw [List.modify_succ_cons, List.map_cons, List.map_cons, ih]

/-- It is enough that the modification keeps the column of the row it is applied to. -/
theorem countP_modify_same {p : α → Bool} (h : ∀ a, p (f a) = p a) :
    (l.modify i f).countP p = l.countP p := by
  rw [← Function.id_comp p, ← List.countP_map, ← List.countP_map, map_modify_same h]

theorem map_modify_at {g : α → β} (h : l[i]? = some a) (hg : g (f a) = g a) :
    (l.modify i f).map g = l.map g := by
  induction l generalizing i with
  | nil => cases h
  | cons x l ih =>
    cases i with
    | zero =>
      cases h
      rw [List.modify_zero_cons, List.map_cons, List.map_cons, hg]
    | succ i =>
      rw [List.modify_succ_cons, List.map_cons, List.map_cons, ih (by simpa using h)]

/-! ## 2. Column sums -/

variable {g g' : α → Int}

@[simp] theorem sumOver_nil : sumOver g [] = 0 := rfl

@[simp] theorem sumOver_cons : sumOver g (a :: l) = g a + sumOver g l := rfl

@[simp] theorem sumOver_append {l' : List α} : sumOver g (l ++ l') = sumOver g l + sumOver g l' := by
  induction l with
  | nil => rw [List.nil_append, sumOver_nil, Int.zero_add]
  | cons x l ih => rw [List.cons_append, sumOver_cons, sumOver_cons, ih, Int.add_assoc]

theorem sumOver_append_one : sumOver g (l ++ [a]) = sumOver g l + g a := by
  rw [sumOver_append, sumOver_cons, sumOver_nil, Int.add_zero]

/-- Modifying the row `a` changes the total by what the column of `a` changes. -/
theorem sumOver_modify (h : l[i]? = some a) :
    sumOver g (l.modify i f) = sumOver g l - g a + g (f a) := by
  induction l generalizing i with
  | nil => cases h
  | cons x l ih =>
    cases i with
    | zero =>
      cases h
      rw [List.modify_zero_cons, sumOver_cons, sumOver_cons]
      omega
    | succ i =>
      rw [List.modify_succ_cons, sumOver_cons, sumOver_cons, ih (by simpa using h)]
      omega

/-- Tables with the same `p` column have the same total of a column that `p` determines. -/
theorem sumOver_map_same (p : α → β) (c : β → Int) {l l' : List α} (hg : ∀ a, c (p a) = g a)
    (h : l'.map p = l.map p) : sumOver g l' = sumOver g l := by
  have hcomp : ∀ l : List α, sumOver g l = sumOver c (l.map p) := by
    intro l
    induction l with
    | nil => rfl
    | cons x l ih => rw [List.map_cons, sumOver_cons, sumOver_cons, ih, hg]
  rw [hcomp l', hcomp l, h]

theorem sumOver_map {c : β → α} {l : List β} : sumOver g (l.map c) = sumOver (fun b => g (c b)) l := by
  induction l with
  | nil => rfl
  | cons b l ih => rw [List.map_cons, sumOver_cons, sumOver_cons, ih]

theorem sumOver_perm {l' : List α} (h : l.Perm l') : sumOver g l = sumOver g l' := by
  induction h with
  | nil => rfl
  | cons a _ ih => rw [sumOver_cons, sumOver_cons, ih]
  | swap a b l =>
    simp only [sumOver_cons]
    omega
  | trans _ _ ih ih' => exact ih.trans ih'

theorem sumOver_filter (p : α → Bool) (l : List α) :
    sumOver g (l.filter p) = sumOver (fun a => if p a then g a else 0) l := by
  induction l with
  | nil => rfl
  | cons a l ih =>
    rw [List.filter_cons, sumOver_cons, ← ih]
    split
    · rfl
    · rw [Int.zero_add]

/-- A total is that of the rows that satisfy `p` and that of the others. -/
theorem sumOver_filter_split (p : α → Bool) (l : List α) :
    sumOver g l = sumOver g (l.filter p) + sumOver g (l.filter fun a => !p a) := by
  induction l with
  | nil => rfl
  | cons a l ih =>
    cases hp : p a
    · rw [List.filter_cons_of_neg (by simp [hp]), List.filter_cons_of_pos (by simp [hp]), sumOver_cons,
        sumOver_cons, ih]
      omega
    · rw [List.filter_cons_of_pos hp, List.filter_cons_of_neg (by simp [hp]), sumOver_cons,
        sumOver_cons, ih]
      omega

theorem sumOver_sub (l : List α) : sumOver (fun a => g a - g' a) l = sumOver g l - sumOver g' l := by
  induction l with
  | nil => rfl
  | cons a l ih =>
    simp only [sumOver_cons, ih]
    omega

theorem sumOver_congr (h : ∀ a ∈ l, g a = g' a) : sumOver g l = sumOver g' l := by
  induction l with
  | nil => rfl
  | cons x l ih =>
    rw [sumOver_cons, sumOver_cons, h x List.mem_cons_self,
      ih fun a ha => h a (List.mem_cons_of_mem x ha)]

theorem sumOver_zero (h : ∀ a ∈ l, g a = 0) : sumOver g l = 0 := by
  induction l with
  | nil => rfl
  | cons x l ih =>
    rw [sumOver_cons, h x List.mem_cons_self, ih fun a ha => h a (List.mem_cons_of_mem x ha)]
    rfl

theorem sumOver_nonneg (h : ∀ a ∈ l, 0 ≤ g a) : 0 ≤ sumOver g l := by
  induction l with
  | nil => exact Int.le_refl 0
  | cons x l ih =>
    have hx := h x List.mem_cons_self
    have hl := ih fun a ha => h a (List.mem_cons_of_mem x ha)
    rw [sumOver_cons]
    omega

/-- A row of a column without negative entries is at most the total. -/
theorem le_sumOver (hi : l[i]? = some a) (h : ∀ a ∈ l, 0 ≤ g a) : g a ≤ sumOver g l := by
  induction l generalizing i with
  | nil => cases hi
  | cons x l ih =>
    have hrest : ∀ a ∈ l, 0 ≤ g a := fun a ha => h a (List.mem_cons_of_mem x ha)
    rw [sumOver_cons]
    cases i with
    | zero =>
      cases hi
      have hl := sumOver_nonneg hrest
      omega
    | succ i =>
      have hx := h x List.mem_cons_self
      have hl := ih (by simpa using hi) hrest
      omega

/-- Two rows of such a column are together at most the total. -/
theorem add_le_sumOver (hi : l[i]? = some a) (hj : l[j]? = some b) (hne : i ≠ j)
    (h : ∀ a ∈ l, 0 ≤ g a) : g a + g b ≤ sumOver g l := by
  induction l generalizing i j with
  | nil => cases hi
  | cons x l ih =>
    have hrest : ∀ a ∈ l, 0 ≤ g a := fun a ha => h a (List.mem_cons_of_mem x ha)
    rw [sumOver_cons]
    cases i with
    | zero =>
      cases hi
      cases j with
      | zero => exact absurd rfl hne
      | succ j =>
        have hl := le_sumOver (by simpa using hj) hrest
        omega
    | succ i =>
      cases j with
      | zero =>
        cases hj
        have hl := le_sumOver (by simpa using hi) hrest
        omega
      | succ j =>
        have hx := h x List.mem_cons_self
        have hl := ih (by simpa using hi) (by simpa using hj) (fun he => hne (by omega)) hrest
        omega

theorem sumOver_le (h : ∀ a ∈ l, g a ≤ g' a) : sumOver g l ≤ sumOver g' l := by
  induction l with
  | nil => exact Int.le_refl 0
  | cons x l ih =>
    exact Int.add_le_add (h x List.mem_cons_self) (ih fun a ha => h a (List.mem_cons_of_mem x ha))

/-- A total whose every row grows, and one of them by `d`. -/
theorem sumOver_add_le {d : Int} (hi : l[i]? = some a) (h : ∀ a ∈ l, g a ≤ g' a)
    (ha : g a + d ≤ g' a) : sumOver g l + d ≤ sumOver g' l := by
  induction l generalizing i with
  | nil => cases hi
  | cons x l ih =>
    have hrest : ∀ a ∈ l, g a ≤ g' a := fun b hb => h b (List.mem_cons_of_mem x hb)
    rw [sumOver_cons, sumOver_cons]
    cases i with
    | zero =>
      cases hi
      have hl := sumOver_le hrest
      omega
    | succ i =>
      have hx := h x List.mem_cons_self
      have hl := ih (by simpa using hi) hrest
      omega

/-- A total to which one row alone contributes. -/
theorem sumOver_single (h : l[i]? = some a) (hz : ∀ (j : Nat) (b : α), l[j]? = some b → j ≠ i → g b = 0) :
    sumOver g l = g a := by
  induction l generalizing i with
  | nil => cases h
  | cons x l ih =>
    cases i with
    | zero =>
      cases h
      have hrest : sumOver g l = 0 := by
        refine sumOver_zero fun b hb => ?_
        obtain ⟨j, hj⟩ := List.mem_iff_getElem?.mp hb
        exact hz (j + 1) b hj (Nat.succ_ne_zero j)
      rw [sumOver_cons, hrest, Int.add_zero]
    | succ i =>
      have hx : g x = 0 := hz 0 x rfl (Nat.succ_ne_zero i).symm
      have hl : sumOver g l = g a := ih h fun j b hj hne => hz (j + 1) b hj fun he => hne (by omega)
      rw [sumOver_cons, hx, hl, Int.zero_add]

/-! ## 3. The first matching row -/

/-- The first row of `l` that satisfies `p`, with its id. -/
def findRow (p : α → Bool) (l : List α) : Option (Nat × α) :=
  match l with
  | [] => none
  | x :: l => if p x then some (0, x) else (findRow p l).map fun r => (r.1 + 1, r.2)

theorem findRow_nil {p : α → Bool} : findRow p ([] : List α) = none := rfl

theorem findRow_cons {p : α → Bool} : findRow p (a :: l) =
    if p a then some (0, a) else (findRow p l).map fun r => (r.1 + 1, r.2) := rfl

theorem findRow_some {p : α → Bool} (h : findRow p l = some (i, a)) :
    l[i]? = some a ∧ p a = true := by
  induction l generalizing i with
  | nil => cases h
  | cons x l ih =>
    rw [findRow_cons] at h
    split at h
    · next hp => cases h; exact ⟨rfl, hp⟩
    · next hp =>
      cases hl : findRow p l with
      | none => rw [hl] at h; cases h
      | some r =>
        rw [hl] at h
        cases h
        exact ih hl

theorem findRow_none {p : α → Bool} : findRow p l = none ↔ ∀ a ∈ l, p a = false := by
  induction l with
  | nil => simp [findRow_nil]
  | cons x l ih =>
    rw [findRow_cons]
    cases hp : p x
    · simp only [Bool.false_eq_true, if_false, Option.map_eq_none_iff, ih, List.mem_cons,
        forall_eq_or_imp, hp, true_and]
    · simp [hp]

theorem findRow_append_one {p : α → Bool} :
    findRow p (l ++ [a]) =
      (findRow p l).or (if p a then some (l.length, a) else none) := by
  induction l with
  | nil =>
    simp only [List.nil_append, findRow_cons, findRow_nil, List.length_nil, Option.map_none,
      Option.none_or]
  | cons x l ih =>
    simp only [List.cons_append, findRow_cons, ih, List.length_cons]
    cases hp : p x
    · cases findRow p l with
      | none => cases p a <;> rfl
      | some r => rfl
    · rfl

/-- Rows that come later do not change the first match. -/
theorem findRow_of_prefix {p : α → Bool} {l' : List α} (hp : l <+: l')
    (h : findRow p l = some r) : findRow p l' = some r := by
  obtain ⟨rest, rfl⟩ := hp
  induction l generalizing r with
  | nil => cases h
  | cons x l ih =>
    rw [List.cons_append]
    rw [findRow_cons] at h ⊢
    split
    · next hx => rwa [if_pos hx] at h
    · next hx =>
      rw [if_neg hx] at h
      obtain ⟨r', hr', rfl⟩ := Option.map_eq_some_iff.mp h
      rw [ih hr']
      rfl

theorem find_findRow (p : α → Bool) (l : List α) :
    l.find? p = (findRow p l).map (·.2) := by
  induction l with
  | nil => rfl
  | cons a l ih =>
    rw [findRow_cons]
    cases hp : p a
    · rw [List.find?_cons_of_neg (by rw [hp]; exact Bool.false_ne_true), ih]
      cases findRow p l <;> rfl
    · rw [List.find?_cons_of_pos hp]
      rfl

/-- The first match is found in its place when it is changed and still matches. -/
theorem findRow_modify_same {p : α → Bool} (h : findRow p l = some (i, a)) (hf : p (f a) = true) :
    findRow p (l.modify i f) = some (i, f a) := by
  induction l generalizing i with
  | nil => cases h
  | cons x l ih =>
    rw [findRow_cons] at h
    split at h
    · cases h
      rw [List.modify_zero_cons, findRow_cons, if_pos hf]
    · next hx =>
      obtain ⟨⟨j, b⟩, hj, heq⟩ := Option.map_eq_some_iff.mp h
      cases heq
      rw [List.modify_succ_cons, findRow_cons, if_neg hx, ih hj]
      rfl

/-- The first match stays when neither the old nor the new row matches. -/
theorem findRow_modify_other {p : α → Bool} (h : l[i]? = some a) (ha : p a = false)
    (hf : p (f a) = false) : findRow p (l.modify i f) = findRow p l := by
  induction l generalizing i with
  | nil => cases h
  | cons x l ih =>
    cases i with
    | zero =>
      cases h
      rw [List.modify_zero_cons, findRow_cons, findRow_cons, ha, hf]
      rfl
    | succ i =>
      rw [List.modify_succ_cons, findRow_cons, findRow_cons, ih (by simpa using h)]

/-- The first match of a condition on the column `c`, found in the column itself. -/
theorem findRow_map {q : β → Bool} (c : α → β) :
    findRow q (l.map c) = (findRow (fun a => q (c a)) l).map fun r => (r.1, c r.2) := by
  induction l with
  | nil => rfl
  | cons x l ih =>
    rw [List.map_cons, findRow_cons, findRow_cons]
    cases q (c x) with
    | true => rfl
    | false =>
      rw [if_neg Bool.false_ne_true, if_neg Bool.false_ne_true, ih, Option.map_map, Option.map_map]
      rfl

/-- Tables with the same `c` column have their first match of a condition on `c` in the
same place. -/
theorem findRow_map_same {p : α → Bool} (q : β → Bool) (c : α → β) (hp : ∀ a, p a = q (c a))
    {l l' : List α} (h : l'.map c = l.map c) :
    (findRow p l').map Prod.fst = (findRow p l).map Prod.fst := by
  have hmap : ∀ l : List α, (findRow p l).map Prod.fst = (findRow q (l.map c)).map Prod.fst := by
    intro l
    rw [findRow_map, Option.map_map, funext hp]
    rfl
  rw [hmap l', hmap l, h]

/-- So the first match in the one is that in the other, up to what is not in the column. -/
theorem findRow_same {p : α → Bool} (q : β → Bool) (c : α → β) (hp : ∀ a, p a = q (c a))
    {l l' : List α} (h : l'.map c = l.map c) (hfind : findRow p l = some (i, a)) :
    ∃ a', findRow p l' = some (i, a') ∧ c a' = c a := by
  have hmap : (findRow p l').map (fun r => (r.1, c r.2)) = some (i, c a) := by
    rw [funext hp, ← findRow_map, h, findRow_map, ← funext hp, hfind]
    rfl
  obtain ⟨r, hr, he⟩ := Option.map_eq_some_iff.mp hmap
  obtain ⟨rfl, hc⟩ := Prod.mk.inj he
  exact ⟨r.2, hr, hc⟩

/-! ## 4. All matching rows -/

/-- The rows of `l` that satisfy `p`, with their ids, in the order of the table. -/
def selectRows (p : α → Bool) (l : List α) : List (Nat × α) :=
  (l.zipIdx.filter fun r => p r.1).map Prod.swap

theorem mem_selectRows {p : α → Bool} : (i, a) ∈ selectRows p l ↔ l[i]? = some a ∧ p a = true := by
  unfold selectRows
  rw [List.mem_map]
  constructor
  · rintro ⟨⟨b, j⟩, hmem, heq⟩
    cases heq
    obtain ⟨hz, hp⟩ := List.mem_filter.mp hmem
    exact ⟨List.mem_zipIdx_iff_getElem?.mp hz, hp⟩
  · rintro ⟨h, hp⟩
    exact ⟨(a, i), List.mem_filter.mpr ⟨List.mem_zipIdx_iff_getElem?.mpr h, hp⟩, rfl⟩

theorem map_snd_selectRows {p : α → Bool} : (selectRows p l).map Prod.snd = l.filter p := by
  have hfst : (l.zipIdx.filter fun r => p r.1).map Prod.fst = (l.zipIdx.map Prod.fst).filter p := by
    rw [List.filter_map]
    rfl
  rw [selectRows, List.map_map]
  rw [List.zipIdx_map_fst] at hfst
  exact hfst

theorem filter_selectRows {p q : α → Bool} :
    (selectRows p l).filter (fun r => q r.2) = selectRows (fun a => p a && q a) l := by
  unfold selectRows
  rw [List.filter_map, List.filter_filter]
  refine congrArg (List.map Prod.swap) (List.filter_congr fun r _ => ?_)
  exact Bool.and_comm _ _

/-- The sum of a column over the rows that satisfy `p`, when the column stays below `g` on them. -/
theorem sum_filter_le {p : α → Bool} {c : α → Nat} (hp : ∀ a ∈ l, p a = true → (c a : Int) ≤ g a)
    (hn : ∀ a ∈ l, 0 ≤ g a) : ((((l.filter p).map c).sum : Nat) : Int) ≤ sumOver g l := by
  induction l with
  | nil => exact Int.le_refl 0
  | cons x l ih =>
    have hl := ih (fun a ha => hp a (List.mem_cons_of_mem x ha))
      (fun a ha => hn a (List.mem_cons_of_mem x ha))
    have hx := hn x List.mem_cons_self
    rw [List.filter_cons, sumOver_cons]
    split
    · next hpx =>
      have hc := hp x List.mem_cons_self hpx
      rw [List.map_cons, List.sum_cons]
      omega
    · omega

/-- Two tables of the same length with the same columns `c` on the rows that satisfy `p`. -/
theorem map_selectRows_congr {l' : List α} {p : α → Bool} {c : α → β} (hlength : l.length = l'.length)
    (h : ∀ (i : Nat) (a a' : α), l[i]? = some a → l'[i]? = some a' →
      p a = p a' ∧ (p a = true → c a = c a')) :
    (selectRows p l).map (fun r => (r.1, c r.2)) = (selectRows p l').map (fun r => (r.1, c r.2)) := by
  have hview : ∀ l : List α, (selectRows p l).map (fun r => (r.1, c r.2)) =
      ((l.map fun a => if p a then some (c a) else none).zipIdx).filterMap
        fun r => r.1.map fun b => (r.2, b) := by
    intro l
    rw [selectRows, List.map_map, List.zipIdx_map, List.filterMap_map, ← List.filterMap_eq_map,
      List.filterMap_filter]
    refine List.filterMap_congr fun r _ => ?_
    simp only [Function.comp_apply, Prod.map_fst, Prod.map_snd]
    split <;> rfl
  rw [hview, hview]
  refine congrArg (fun bs => (List.zipIdx bs).filterMap _) (List.ext_getElem? fun i => ?_)
  rw [List.getElem?_map, List.getElem?_map]
  cases hi : l[i]? with
  | none =>
    rw [List.getElem?_eq_none (hlength ▸ List.getElem?_eq_none_iff.mp hi)]
  | some a =>
    obtain ⟨a', hi'⟩ : ∃ a', l'[i]? = some a' :=
      ⟨_, List.getElem?_eq_getElem (hlength ▸ lt_length_of_getElem? hi)⟩
    obtain ⟨hp, hc⟩ := h i a a' hi hi'
    rw [hi', Option.map_some, Option.map_some, ← hp]
    by_cases hpa : p a = true
    · rw [if_pos hpa, if_pos hpa, hc hpa]
    · rw [if_neg hpa, if_neg hpa]
/-- The ids of the selected rows are distinct. -/
theorem nodup_selectRows {p : α → Bool} : ((selectRows p l).map Prod.fst).Nodup := by
  have hsub : ((selectRows p l).map Prod.fst).Sublist (l.zipIdx.map Prod.snd) := by
    rw [selectRows, List.map_map]
    exact List.filter_sublist.map Prod.snd
  refine hsub.nodup ?_
  rw [List.zipIdx_map_snd]
  exact List.nodup_range'

/-- The least row of `rows` under the strict order `lt`, the first one of equals. -/
def leastRow (lt : α → α → Bool) : List (Nat × α) → Option (Nat × α)
  | [] => none
  | r :: rows =>
    match leastRow lt rows with
    | none => some r
    | some s => if lt s.2 r.2 then some s else some r

theorem leastRow_mem {lt : α → α → Bool} {rows : List (Nat × α)} {r : Nat × α}
    (h : leastRow lt rows = some r) : r ∈ rows := by
  induction rows with
  | nil => cases h
  | cons x rows ih =>
    unfold leastRow at h
    split at h
    · cases h; exact List.mem_cons_self
    · next s hs =>
      split at h
      · cases h; exact List.mem_cons_of_mem x (ih hs)
      · cases h; exact List.mem_cons_self

end Table
