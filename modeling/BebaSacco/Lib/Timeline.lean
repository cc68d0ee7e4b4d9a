import BebaSacco.Lib.Sharing
import BebaSacco.Lib.Table

/-! # Timelines

Items that have a time are put in order, those of one time as they came. A statement lists the items
of a period with the balance after each of them, and is cut into pages.

Results:
 1. `inOrder_split`, `inOrder_parts`: the items up to an instant come first, then the others, each in
    order.
 2. `insertionSort_ties`: breaking ties by the position in the list changes nothing.
 3. `balances_append`: a list of balances goes on from the balance that its first part closes with.
 4. `mem_page`, `flatMap_pages`: which page an item is on, and that the pages make up the list.
-/

namespace Timeline

variable {α β : Type} {key : α → Int} {amount : α → Int}

/-! ## 1. The order -/

def Earlier (key : α → Int) (a b : α) : Prop := key a ≤ key b

instance : DecidableRel (Earlier key) := fun _ _ => inferInstanceAs (Decidable (_ ≤ _))

instance : IsTrans α (Earlier key) := ⟨fun _ _ _ hab hbc => Int.le_trans hab hbc⟩

instance : Std.Total (Earlier key) := ⟨fun a b => Int.le_total (key a) (key b)⟩

/-- `orderBy` one column; rows with one value of it keep their order. -/
def inOrder (key : α → Int) (l : List α) : List α := l.insertionSort (Earlier key)

theorem mem_inOrder {a : α} {l : List α} : a ∈ inOrder key l ↔ a ∈ l :=
  List.mem_insertionSort _

theorem inOrder_perm (l : List α) : (inOrder key l).Perm l := List.perm_insertionSort _ l

theorem inOrder_filter {p : α → Bool} (l : List α) :
    (inOrder key l).filter p = inOrder key (l.filter p) := Sharing.filter_insertionSort l

theorem inOrder_map (f : β → α) (l : List β) :
    inOrder key (l.map f) = (inOrder (fun b => key (f b)) l).map f :=
  (List.map_insertionSort (Earlier fun b => key (f b)) (Earlier key) f l fun _ _ _ _ => Iff.rfl).symm

/-- A list in order is its items up to an instant and then the others. -/
theorem filter_append_filter (t : Int) {l : List α} (h : l.Pairwise (Earlier key)) :
    l.filter (fun a => decide (key a ≤ t)) ++ l.filter (fun a => decide (t < key a)) = l := by
  induction l with
  | nil => rfl
  | cons a l ih =>
    obtain ⟨ha, hl⟩ := List.pairwise_cons.mp h
    by_cases hat : key a ≤ t
    · rw [List.filter_cons_of_pos (by simpa using hat), List.filter_cons_of_neg (by simpa using hat),
        List.cons_append, ih hl]
    · have hlate : ∀ b ∈ l, t < key b := fun b hb => Int.lt_of_lt_of_le (Int.not_le.mp hat) (ha b hb)
      have hnone : l.filter (fun b => decide (key b ≤ t)) = [] := by
        refine List.filter_eq_nil_iff.mpr fun b hb => ?_
        simpa using hlate b hb
      have hall : l.filter (fun b => decide (t < key b)) = l := by
        refine List.filter_eq_self.mpr fun b hb => ?_
        simpa using hlate b hb
      rw [List.filter_cons_of_neg (by simpa using hat), List.filter_cons_of_pos (by simpa using hat),
        hnone, hall, List.nil_append]

theorem inOrder_split (t : Int) (l : List α) :
    inOrder key l = inOrder key (l.filter fun a => decide (key a ≤ t)) ++
      inOrder key (l.filter fun a => decide (t < key a)) := by
  rw [← inOrder_filter, ← inOrder_filter]
  exact (filter_append_filter t (List.pairwise_insertionSort _ l)).symm

/-- Two lists that are each split at an instant are put in order part by part. -/
theorem inOrder_parts {t : Int} {early late early' late' : List α}
    (he : ∀ a ∈ early, key a ≤ t) (hl : ∀ a ∈ late, t < key a)
    (he' : ∀ a ∈ early', key a ≤ t) (hl' : ∀ a ∈ late', t < key a) :
    inOrder key ((early ++ late) ++ (early' ++ late')) =
      inOrder key (early ++ early') ++ inOrder key (late ++ late') := by
  have hfirst : ∀ {l l' : List α}, (∀ a ∈ l, key a ≤ t) → (∀ a ∈ l', t < key a) →
      (l ++ l').filter (fun a => decide (key a ≤ t)) = l ∧
        (l ++ l').filter (fun a => decide (t < key a)) = l' := by
    intro l l' h h'
    rw [List.filter_append, List.filter_append]
    constructor
    · rw [List.filter_eq_self.mpr fun a ha => decide_eq_true (h a ha),
        List.filter_eq_nil_iff.mpr fun a ha => by simpa using h' a ha, List.append_nil]
    · rw [List.filter_eq_nil_iff.mpr fun a ha => by simpa using h a ha,
        List.filter_eq_self.mpr fun a ha => decide_eq_true (h' a ha), List.nil_append]
  rw [inOrder_split t, List.filter_append (early ++ late), List.filter_append (early ++ late),
    (hfirst he hl).1, (hfirst he hl).2, (hfirst he' hl').1, (hfirst he' hl').2]

theorem orderedInsert_congr {r s : α → α → Prop} [DecidableRel r] [DecidableRel s] {a : α}
    {l : List α} (h : ∀ b ∈ l, r a b ↔ s a b) : l.orderedInsert r a = l.orderedInsert s a := by
  induction l with
  | nil => rfl
  | cons b l ih =>
    have hb := h b List.mem_cons_self
    rw [List.orderedInsert_cons, List.orderedInsert_cons,
      ih fun c hc => h c (List.mem_cons_of_mem b hc)]
    by_cases hab : r a b
    · rw [if_pos hab, if_pos (hb.mp hab)]
    · rw [if_neg hab, if_neg fun h => hab (hb.mpr h)]

/-- An order that compares an item with a later one of the list by the time alone sorts as the time
does. -/
theorem insertionSort_ties {r : α → α → Prop} [DecidableRel r] {l : List α}
    (h : l.Pairwise fun a b => (r a b ↔ Earlier key a b)) :
    l.insertionSort r = inOrder key l := by
  induction l with
  | nil => rfl
  | cons a l ih =>
    obtain ⟨ha, hl⟩ := List.pairwise_cons.mp h
    unfold inOrder at ih ⊢
    rw [List.insertionSort_cons, List.insertionSort_cons, ih hl]
    exact orderedInsert_congr fun b hb => ha b ((List.mem_insertionSort _).mp hb)

/-! ## 2. The balances -/

/-- The items with the balance after each. -/
def balances (amount : α → Int) : (balance : Int) → List α → List (α × Int)
  | _, [] => []
  | balance, a :: l => (a, balance + amount a) :: balances amount (balance + amount a) l

/-- The balance after all items. -/
def closing (amount : α → Int) (balance : Int) (l : List α) : Int :=
  l.foldl (fun b a => b + amount a) balance

theorem closing_eq (balance : Int) (l : List α) :
    closing amount balance l = balance + Table.sumOver amount l := by
  unfold closing
  induction l generalizing balance with
  | nil => rw [Table.sumOver_nil, Int.add_zero]; rfl
  | cons a l ih => rw [List.foldl_cons, ih, Table.sumOver_cons, Int.add_assoc]

@[simp] theorem balances_length (balance : Int) (l : List α) :
    (balances amount balance l).length = l.length := by
  induction l generalizing balance with
  | nil => rfl
  | cons a l ih => rw [balances, List.length_cons, List.length_cons, ih]

theorem balances_append (balance : Int) (l l' : List α) :
    balances amount balance (l ++ l') =
      balances amount balance l ++ balances amount (balance + Table.sumOver amount l) l' := by
  induction l generalizing balance with
  | nil => rw [List.nil_append, Table.sumOver_nil, Int.add_zero]; rfl
  | cons a l ih =>
    rw [List.cons_append, balances, balances, ih, Table.sumOver_cons, Int.add_assoc, List.cons_append]

/-! ## 3. The pages -/

/-- Page `p` of `n` items each, the first page being 0. -/
def page (n : Nat) (l : List α) (p : Nat) : List α := (l.drop (p * n)).take n

/-- Item `i` is on page `i / n`. -/
theorem mem_page {n p : Nat} (hn : 0 < n) {l : List α} {a : α} :
    a ∈ page n l p ↔ ∃ i, l[i]? = some a ∧ i / n = p := by
  unfold page
  rw [List.mem_iff_getElem?]
  constructor
  · rintro ⟨i, hi⟩
    rw [List.getElem?_take] at hi
    split at hi
    · next hlt =>
      rw [List.getElem?_drop] at hi
      refine ⟨p * n + i, hi, ?_⟩
      rw [Nat.mul_comm, Nat.mul_add_div hn, Nat.div_eq_of_lt hlt, Nat.add_zero]
    · cases hi
  · rintro ⟨i, hi, rfl⟩
    refine ⟨i % n, ?_⟩
    rw [List.getElem?_take_of_lt (Nat.mod_lt i hn), List.getElem?_drop, Nat.mul_comm, Nat.div_add_mod]
    exact hi

theorem flatMap_page (n k : Nat) (l : List α) :
    (List.range k).flatMap (page n l) = l.take (k * n) := by
  induction k with
  | zero => rw [Nat.zero_mul]; rfl
  | succ k ih =>
    rw [List.range_succ, List.flatMap_append, ih, List.flatMap_singleton, Nat.succ_mul, List.take_add]
    rfl

/-- With as many pages as the list fills. -/
theorem flatMap_pages {n : Nat} (hn : 0 < n) (l : List α) :
    (List.range ((l.length + n - 1) / n)).flatMap (page n l) = l := by
  rw [flatMap_page]
  refine List.take_of_length_le ?_
  have hdiv := Nat.lt_div_mul_add hn (a := l.length + n - 1)
  omega

/-- When one page only has items of a kind, its items are all of that kind. -/
theorem flatMap_of_unique {f : β → List α} {b : β} {l : List β} (hb : b ∈ l) (hl : l.Nodup)
    (h : ∀ c ∈ l, c ≠ b → f c = []) : l.flatMap f = f b := by
  obtain ⟨l₁, l₂, rfl⟩ := List.append_of_mem hb
  have hne : ∀ c ∈ l₁ ++ l₂, f c = [] := by
    intro c hc
    refine h c ?_ ?_
    · rcases List.mem_append.mp hc with hc | hc
      · exact List.mem_append_left _ hc
      · exact List.mem_append_right _ (List.mem_cons_of_mem b hc)
    · rintro rfl
      exact (List.nodup_cons.mp (List.nodup_middle.mp hl)).1 hc
  have hleft : l₁.flatMap f = [] :=
    List.flatMap_eq_nil_iff.mpr fun c hc => hne c (List.mem_append_left _ hc)
  have hright : l₂.flatMap f = [] :=
    List.flatMap_eq_nil_iff.mpr fun c hc => hne c (List.mem_append_right _ hc)
  rw [List.flatMap_append, List.flatMap_cons, hleft, hright, List.nil_append, List.append_nil]

/-- An item that is alone comes from one page. -/
theorem unique_of_flatMap {f : β → List α} {a : α} {b c : β} {l : List β} (h : l.flatMap f = [a])
    (hb : b ∈ l) (hc : c ∈ l) (hfb : f b ≠ []) (hfc : f c ≠ []) : b = c := by
  induction l with
  | nil => cases hb
  | cons x l ih =>
    rw [List.flatMap_cons] at h
    rcases List.append_eq_singleton_iff.mp h with ⟨hx, hl⟩ | ⟨hx, hl⟩
    · refine ih hl ?_ ?_
      · exact (List.mem_cons.mp hb).resolve_left fun he => hfb (he ▸ hx)
      · exact (List.mem_cons.mp hc).resolve_left fun he => hfc (he ▸ hx)
    · have hnil := List.flatMap_eq_nil_iff.mp hl
      have hbx := (List.mem_cons.mp hb).resolve_right fun hm => hfb (hnil b hm)
      have hcx := (List.mem_cons.mp hc).resolve_right fun hm => hfc (hnil c hm)
      exact hbx.trans hcx.symm

/-- There is a page for each item. -/
theorem page_lt {n i len : Nat} (hn : 0 < n) (hi : i < len) : i / n < (len + n - 1) / n := by
  rw [Nat.div_lt_iff_lt_mul hn]
  have hdiv := Nat.lt_div_mul_add hn (a := len + n - 1)
  omega

end Timeline
