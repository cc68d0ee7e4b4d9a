import Mathlib.Algebra.Group.Nat.Defs
import Mathlib.Algebra.GroupWithZero.Nat
import Mathlib.Data.List.Sort

/-! # Sharing an amount out in order

An amount goes to a list of caps in turn, each of which takes what the ones before it have left, as
far as it goes. The rows that have the caps are sorted, and a filter does not disturb their order.

Results:
 1. `sum_shares`: the shares sum to the amount, or to all caps when that is less.
 2. `filter_insertionSort`: a sorted list that is filtered is the filtered list, sorted.
-/

namespace Sharing

variable {amount before cap : Nat} {caps : List Nat}

/-- What a cap takes when those before it have taken up to `before`. -/
def share (amount before cap : Nat) : Nat := min (amount - before) cap

/-- The shares of `caps`, after caps of `before` together. -/
def shares (amount : Nat) : Nat → List Nat → List Nat
  | _, [] => []
  | before, cap :: caps => share amount before cap :: shares amount (before + cap) caps

theorem share_left : amount - before - share amount before cap = amount - (before + cap) := by
  unfold share
  omega

theorem sum_shares (amount before : Nat) (caps : List Nat) :
    (shares amount before caps).sum = min (amount - before) caps.sum := by
  induction caps generalizing before with
  | nil => simp [shares]
  | cons cap caps ih =>
    rw [shares, List.sum_cons, List.sum_cons, ih]
    unfold share
    omega

/-! ## Filters and sorting -/

section

variable {α : Type} {r : α → α → Prop} [DecidableRel r] {p : α → Bool} {a : α} {l : List α}

theorem orderedInsert_of_forall (h : ∀ b ∈ l, r a b) : l.orderedInsert r a = a :: l := by
  cases l with
  | nil => rfl
  | cons b l => exact List.orderedInsert_cons_of_le r l (h b List.mem_cons_self)

theorem filter_orderedInsert [IsTrans α r] (h : l.Pairwise r) :
    (l.orderedInsert r a).filter p =
      if p a then (l.filter p).orderedInsert r a else l.filter p := by
  induction l with
  | nil => cases hp : p a <;> simp [hp]
  | cons b l ih =>
    obtain ⟨hb, hl⟩ := List.pairwise_cons.mp h
    by_cases hab : r a b
    · rw [List.orderedInsert_cons_of_le r l hab, List.filter_cons]
      split
      · refine (orderedInsert_of_forall fun c hc => ?_).symm
        rcases List.mem_cons.mp (List.mem_filter.mp hc).1 with rfl | hc
        · exact hab
        · exact trans_of r hab (hb c hc)
      · rfl
    · rw [List.orderedInsert_of_not_le r l hab, List.filter_cons, List.filter_cons, ih hl]
      cases p b with
      | false => rfl
      | true =>
        cases p a with
        | false => rfl
        | true => exact (List.orderedInsert_of_not_le r _ hab).symm

theorem filter_insertionSort [IsTrans α r] [Std.Total r] (l : List α) :
    (l.insertionSort r).filter p = (l.filter p).insertionSort r := by
  induction l with
  | nil => rfl
  | cons a l ih =>
    rw [List.insertionSort_cons, filter_orderedInsert (List.pairwise_insertionSort r l), ih,
      List.filter_cons]
    split <;> rfl

end

end Sharing
