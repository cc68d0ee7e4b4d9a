import BebaSacco.ChannelAgreement
import BebaSacco.Lib.Sharing

/-! # Payments and the order of the instalments

A payment goes to the instalments of its loan in the order they fall due. The loop of
`applyInstallmentAllocation` sees the open ones only, reads a due of principal that is missing out of
`amountPaid`, compares totals, and keeps the sum of what was paid to the cent.

Results:
 1. `filter_schedule`: the open instalments are those of the schedule, in its order.
 2. `settles_iff`: when the loop does to one instalment what it should.
 3. `allocation_in_order_iff`: when a payment raises the instalments in order by exactly its parts.
 4. `allocation_out_of_order`: a payment that passes over an overdue instalment, and sums that are
    not what was paid.
-/

namespace BebaSacco

open Txn InstallmentLemmas AgreementLemmas Sharing

/-! ## 1. What an allocation should do -/

/-- The instalments of a loan in the order they fall due. -/
def Db.schedule (db : Db) (loanId : Nat) : List (Nat × LoanRepayment) :=
  (Table.selectRows (fun r => r.loanId == loanId) db.loanRepayments).insertionSort
    LoanRepayment.dueBefore

def LoanRepayment.isOpen (row : LoanRepayment) : Bool :=
  row.status == .pending || row.status == .partlyPaid

def LoanRepayment.paidTotal (row : LoanRepayment) : Nat :=
  row.penaltyPaid + row.interestPaid + row.principalPaid

/-- The principal that an instalment asks for. One of the old schedule, whose `amountPaid` is no
running total, has it there. -/
def LoanRepayment.duePrincipal (row : LoanRepayment) : Nat :=
  if 0 < row.principalDue then row.principalDue
  else if row.amountPaid = toCents row.paidTotal then 0
  else row.amountPaid

/-- What an instalment is still to get. -/
def LoanRepayment.unpaidDues (row : LoanRepayment) : Allocation where
  penalty := row.penaltyDue - row.penaltyPaid
  interest := row.interestDue - row.interestPaid
  principal := row.duePrincipal - row.principalPaid

def Allocation.plus (a b : Allocation) : Allocation where
  penalty := a.penalty + b.penalty
  interest := a.interest + b.interest
  principal := a.principal + b.principal

/-- The part of the allocation that is the instalment's, after instalments with dues of `before`. -/
def LoanRepayment.share (row : LoanRepayment) (a before : Allocation) : Allocation where
  penalty := Sharing.share a.penalty before.penalty row.unpaidDues.penalty
  interest := Sharing.share a.interest before.interest row.unpaidDues.interest
  principal := Sharing.share a.principal before.principal row.unpaidDues.principal

/-- The instalments, each with the unpaid dues of those before it. -/
def withDues : Allocation → List (Nat × LoanRepayment) → List (Allocation × Nat × LoanRepayment)
  | _, [] => []
  | before, r :: rows => (before, r) :: withDues (before.plus r.2.unpaidDues) rows

def totalShare (a : Allocation) (rows : List (Allocation × Nat × LoanRepayment)) : Allocation where
  penalty := (rows.map fun x => (x.2.2.share a x.1).penalty).sum
  interest := (rows.map fun x => (x.2.2.share a x.1).interest).sum
  principal := (rows.map fun x => (x.2.2.share a x.1).principal).sum

/-- Every due of the row is covered by what `paid` has paid. -/
def LoanRepayment.Covered (row paid : LoanRepayment) : Prop :=
  row.penaltyDue ≤ paid.penaltyPaid ∧ row.interestDue ≤ paid.interestPaid ∧
    row.duePrincipal ≤ paid.principalPaid

instance (row paid : LoanRepayment) : Decidable (row.Covered paid) :=
  inferInstanceAs (Decidable (_ ∧ _ ∧ _))

/-- The instalment `row` got `share` and is `paid` now. -/
structure Settles (row paid : LoanRepayment) (share : Allocation) : Prop where
  penalty : paid.penaltyPaid = row.penaltyPaid + share.penalty
  interest : paid.interestPaid = row.interestPaid + share.interest
  principal : paid.principalPaid = row.principalPaid + share.principal
  untouched : share.total = 0 → paid = row
  status : 0 < share.total → (paid.status = .paid ↔ row.Covered paid)
  amountPaid : 0 < share.total → paid.amountPaid = paid.paidTotal

/-- The instalments of the loan are raised in order by the allocation, and no other. -/
structure RaisedInOrder (loanId : Nat) (a : Allocation) (db db' : Db) : Prop where
  shares : totalShare a (withDues ⟨0, 0, 0⟩ (db.schedule loanId)) = a
  others : ∀ (id : Nat) (row : LoanRepayment), db.loanRepayments[id]? = some row →
    row.loanId ≠ loanId → db'.loanRepayments[id]? = some row
  rows : ∀ x ∈ withDues ⟨0, 0, 0⟩ (db.schedule loanId), ∃ paid,
    db'.loanRepayments[x.2.1]? = some paid ∧ Settles x.2.2 paid (x.2.2.share a x.1)

/-- The unpaid dues of the instalments of a loan. -/
def Db.allDues (db : Db) (loanId : Nat) : Allocation where
  penalty := ((db.schedule loanId).map (·.2.unpaidDues.penalty)).sum
  interest := ((db.schedule loanId).map (·.2.unpaidDues.interest)).sum
  principal := ((db.schedule loanId).map (·.2.unpaidDues.principal)).sum

/-- The totals show whether the dues of a row are covered with the share, and what was paid is a sum
of whole cents. -/
def LoanRepayment.wellMarked (row : LoanRepayment) (share : Allocation) : Bool :=
  let paidTotal := row.paidTotal + share.total
  let dueTotal := row.penaltyDue + row.interestDue + row.principalOwed
  (decide (dueTotal ≤ paidTotal) == decide (row.unpaidDues = share)) && paidTotal % 100 == 0

/-- The condition on an instalment: it has no share, or it is open and well marked with it; and an
open one asks for no more principal than it is due, or gets the rest of it. -/
def LoanRepayment.allocatable (row : LoanRepayment) (a before : Allocation) : Bool :=
  let share := row.share a before
  (share.total == 0 || (row.isOpen && row.wellMarked share)) &&
    (!row.isOpen || row.principalOwed - row.principalPaid ≤ row.unpaidDues.principal ||
      a.principal - before.principal ≤ row.unpaidDues.principal)

def Db.allocatable (db : Db) (loanId : Nat) (a : Allocation) : Bool :=
  (withDues ⟨0, 0, 0⟩ (db.schedule loanId)).all fun x => x.2.2.allocatable a x.1

namespace OrderLemmas

variable {a before left : Allocation} {row : LoanRepayment} {loanId : Nat} {db db' : Db}

/-! ## 2. The schedule -/

instance : IsTrans (Nat × LoanRepayment) LoanRepayment.dueBefore := by
  refine ⟨fun x y z hxy hyz => ?_⟩
  unfold LoanRepayment.dueBefore at *
  omega

instance : Std.Total (α := Nat × LoanRepayment) LoanRepayment.dueBefore := by
  refine ⟨fun x y => ?_⟩
  unfold LoanRepayment.dueBefore
  omega

/-- The open instalments are those of the schedule, in its order. -/
theorem filter_schedule (db : Db) (loanId : Nat) :
    db.unpaidInstallments loanId = (db.schedule loanId).filter fun r => r.2.isOpen := by
  unfold Db.schedule Db.unpaidInstallments
  rw [filter_insertionSort]
  refine congrArg (List.insertionSort LoanRepayment.dueBefore) ?_
  unfold Table.selectRows
  rw [List.filter_map, List.filter_filter]
  refine congrArg (List.map Prod.swap) (List.filter_congr fun r _ => ?_)
  exact Bool.and_comm _ _

theorem mem_schedule {r : Nat × LoanRepayment} : r ∈ db.schedule loanId ↔
    db.loanRepayments[r.1]? = some r.2 ∧ r.2.loanId = loanId := by
  rw [Db.schedule, List.mem_insertionSort, Table.mem_selectRows, beq_iff_eq]

theorem current_schedule (db : Db) (loanId : Nat) : Current (db.schedule loanId) db := by
  refine ⟨?_, fun r hr => (mem_schedule.mp hr).1⟩
  have hperm := (List.perm_insertionSort LoanRepayment.dueBefore (Table.selectRows
    (fun r => r.loanId == loanId) db.loanRepayments)).map Prod.fst
  exact hperm.nodup_iff.mpr Table.nodup_selectRows

/-- On one leg of the allocation, the shares are those of the library. -/
theorem map_withDues (leg : Allocation → Nat)
    (hshare : ∀ row before, leg (LoanRepayment.share row a before) =
      Sharing.share (leg a) (leg before) (leg row.unpaidDues))
    (hplus : ∀ b c : Allocation, leg (b.plus c) = leg b + leg c) (before : Allocation)
    (rows : List (Nat × LoanRepayment)) :
    (withDues before rows).map (fun x => leg (x.2.2.share a x.1)) =
      shares (leg a) (leg before) (rows.map fun r => leg r.2.unpaidDues) := by
  induction rows generalizing before with
  | nil => rfl
  | cons r rows ih =>
    rw [withDues, List.map_cons, List.map_cons, shares, ih, hplus]
    exact congrArg (· :: _) (hshare _ _)

/-- A payment of no more than the dues is shared out whole. -/
theorem totalShare_eq {rows : List (Nat × LoanRepayment)}
    (hpenalty : a.penalty ≤ (rows.map (·.2.unpaidDues.penalty)).sum)
    (hinterest : a.interest ≤ (rows.map (·.2.unpaidDues.interest)).sum)
    (hprincipal : a.principal ≤ (rows.map (·.2.unpaidDues.principal)).sum) :
    totalShare a (withDues ⟨0, 0, 0⟩ rows) = a := by
  have hp := map_withDues (a := a) (·.penalty) (fun _ _ => rfl) (fun _ _ => rfl) ⟨0, 0, 0⟩ rows
  have hi := map_withDues (a := a) (·.interest) (fun _ _ => rfl) (fun _ _ => rfl) ⟨0, 0, 0⟩ rows
  have hr := map_withDues (a := a) (·.principal) (fun _ _ => rfl) (fun _ _ => rfl) ⟨0, 0, 0⟩ rows
  unfold totalShare
  rw [hp, hi, hr, sum_shares, sum_shares, sum_shares, Nat.sub_zero, Nat.sub_zero, Nat.sub_zero,
    Nat.min_eq_left hpenalty, Nat.min_eq_left hinterest, Nat.min_eq_left hprincipal]

/-! ## 3. One instalment -/

theorem duePrincipal_le (row : LoanRepayment) : row.duePrincipal ≤ row.principalOwed := by
  unfold LoanRepayment.duePrincipal LoanRepayment.principalOwed
  split
  · exact Nat.le_refl _
  · split
    · exact Nat.zero_le _
    · exact Nat.le_refl _

/-- The loop takes the share of the instalment exactly when it asks for no more principal than is
due, or when the rest is no more than that. -/
theorem take_share_iff : row.take (a.minus before) = row.share a before ↔
    (row.principalOwed - row.principalPaid ≤ row.unpaidDues.principal ∨
      a.principal - before.principal ≤ row.unpaidDues.principal) := by
  have hle := duePrincipal_le row
  unfold LoanRepayment.take LoanRepayment.share LoanRepayment.unpaidDues Allocation.minus
  simp only [Allocation.mk.injEq, Sharing.share, true_and]
  omega

theorem toCents_eq {n : Nat} : toCents n = n ↔ n % 100 = 0 := by
  unfold toCents
  omega

theorem covered_iff {share : Allocation} (h : share = row.share a before) (paidAt : Int) :
    row.Covered (row.pay share paidAt) ↔ row.unpaidDues = share := by
  subst h
  unfold LoanRepayment.Covered LoanRepayment.share LoanRepayment.unpaidDues
  simp only [LoanRepayment.pay, Allocation.mk.injEq, Sharing.share]
  omega

theorem pay_status (add : Allocation) (paidAt : Int) : (row.pay add paidAt).status = .paid ↔
    row.penaltyDue + row.interestDue + row.principalOwed ≤ (row.pay add paidAt).paidTotal := by
  have hstatus : (row.pay add paidAt).status =
      if row.penaltyDue + row.interestDue + row.principalOwed ≤ (row.pay add paidAt).paidTotal
      then .paid else .partlyPaid := rfl
  rw [hstatus]
  split
  · next hle => exact ⟨fun _ => hle, fun _ => rfl⟩
  · next hle => exact ⟨fun h => (by cases h), fun h => absurd h hle⟩

theorem settles_pay {share : Allocation} (hshare : share = row.share a before)
    (hpos : 0 < share.total) (paidAt : Int) :
    Settles row (row.pay share paidAt) share ↔ row.wellMarked share = true := by
  have hcovered := covered_iff hshare paidAt
  have htotal : (row.pay share paidAt).paidTotal = row.paidTotal + share.total := by
    unfold LoanRepayment.paidTotal Allocation.total
    simp only [LoanRepayment.pay]
    omega
  have hamount : (row.pay share paidAt).amountPaid = toCents (row.pay share paidAt).paidTotal := rfl
  have hstatus : (row.pay share paidAt).status = .paid ↔
      row.penaltyDue + row.interestDue + row.principalOwed ≤ row.paidTotal + share.total := by
    rw [← htotal, pay_status]
  have hmarked : row.wellMarked share = true ↔
      ((row.pay share paidAt).status = .paid ↔ row.Covered (row.pay share paidAt)) ∧
        (row.pay share paidAt).amountPaid = (row.pay share paidAt).paidTotal := by
    unfold LoanRepayment.wellMarked
    rw [hcovered, hstatus, hamount, toCents_eq, htotal, Bool.and_eq_true, beq_iff_eq, beq_iff_eq,
      decide_eq_decide]
  rw [hmarked]
  refine ⟨fun h => ⟨h.status hpos, h.amountPaid hpos⟩, fun h => ⟨rfl, rfl, rfl, fun hzero => ?_,
    fun _ => h.1, fun _ => h.2⟩⟩
  rw [hzero] at hpos
  cases hpos

theorem settles_untouched : Settles row row (row.share a before) ↔ (row.share a before).total = 0 := by
  unfold Allocation.total
  constructor
  · intro h
    have hp := h.penalty
    have hi := h.interest
    have hr := h.principal
    omega
  · intro h
    refine ⟨?_, ?_, ?_, fun _ => rfl, fun hpos => ?_, fun hpos => ?_⟩
    · omega
    · omega
    · omega
    · unfold Allocation.total at hpos
      omega
    · unfold Allocation.total at hpos
      omega

/-- What the loop does to an instalment: a closed one and one that takes nothing stay. -/
def processed (row : LoanRepayment) (left : Allocation) (paidAt : Int) : LoanRepayment :=
  if row.isOpen = true ∧ 0 < (row.take left).total then row.pay (row.take left) paidAt else row

theorem allocation_ext {x y : Allocation} (hpenalty : x.penalty = y.penalty)
    (hinterest : x.interest = y.interest) (hprincipal : x.principal = y.principal) : x = y := by
  cases x
  cases y
  simp_all

theorem take_unshared (paidAt : Int) (hopen : row.isOpen = true)
    (hne : row.take (a.minus before) ≠ row.share a before) :
    ¬ Settles row (processed row (a.minus before) paidAt) (row.share a before) := by
  intro h
  refine hne ?_
  unfold processed at h
  split at h
  · have hprincipal : row.principalPaid + (row.take (a.minus before)).principal =
        row.principalPaid + (row.share a before).principal := h.principal
    exact allocation_ext rfl rfl (Nat.add_left_cancel hprincipal)
  · next hnone =>
    have hzero := settles_untouched.mp h
    have htake : (row.take (a.minus before)).total = 0 := by
      by_contra hpos
      exact hnone ⟨hopen, Nat.pos_of_ne_zero hpos⟩
    unfold Allocation.total at hzero htake
    exact allocation_ext (by omega) (by omega) (by omega)

theorem settles_iff (paidAt : Int) :
    Settles row (processed row (a.minus before) paidAt) (row.share a before) ↔
      row.allocatable a before = true := by
  unfold LoanRepayment.allocatable
  dsimp only
  cases hopen : row.isOpen with
  | false =>
    have hclosed : processed row (a.minus before) paidAt = row :=
      if_neg fun h => absurd (hopen.symm.trans h.1) Bool.false_ne_true
    rw [hclosed, settles_untouched]
    simp
  | true =>
    simp only [Bool.true_and, Bool.not_true, Bool.false_or, Bool.and_eq_true, Bool.or_eq_true,
      decide_eq_true_eq, beq_iff_eq]
    by_cases hshare : row.take (a.minus before) = row.share a before
    · rw [and_iff_left (take_share_iff.mp hshare)]
      by_cases hpos : 0 < (row.share a before).total
      · have hpaid : processed row (a.minus before) paidAt = row.pay (row.share a before) paidAt := by
          unfold processed
          rw [hshare, if_pos ⟨hopen, hpos⟩]
        rw [hpaid, settles_pay rfl hpos, or_iff_right (Nat.ne_of_gt hpos)]
      · have hnone : processed row (a.minus before) paidAt = row := by
          unfold processed
          rw [hshare, if_neg fun h => hpos h.2]
        have hzero : (row.share a before).total = 0 := Nat.eq_zero_of_not_pos hpos
        rw [hnone, settles_untouched]
        exact ⟨fun h => .inl h, fun _ => hzero⟩
    · refine iff_of_false (take_unshared paidAt hopen hshare) fun h => hshare ?_
      exact take_share_iff.mpr h.2

/-! ## 4. The loop -/

/-- The rest of the loop starts from what the dues up to the instalment leave. -/
theorem minus_share (h : row.take (a.minus before) = row.share a before) :
    (a.minus before).minus (row.take (a.minus before)) = a.minus (before.plus row.unpaidDues) := by
  rw [h]
  unfold Allocation.minus Allocation.plus LoanRepayment.share
  simp only [Sharing.share_left]

/-- What is left after an instalment that has no share. -/
theorem minus_none (h : (row.share a before).total = 0) :
    a.minus before = a.minus (before.plus row.unpaidDues) := by
  have hsame : (a.minus before).minus (row.share a before) =
      a.minus (before.plus row.unpaidDues) := by
    unfold Allocation.minus Allocation.plus LoanRepayment.share
    simp only [Sharing.share_left]
  rw [← hsame]
  unfold Allocation.total at h
  unfold Allocation.minus
  simp only [Allocation.mk.injEq]
  omega

theorem allocate_nothing {paidAt : Int} (rows : List (Nat × LoanRepayment)) (db : Db)
    (hzero : left.total = 0) : Yields (allocateInstallments paidAt rows left) db () db := by
  cases rows with
  | nil => exact yields_pure.mpr ⟨rfl, rfl⟩
  | cons r rows =>
    unfold allocateInstallments
    exact yields_ite.mpr (.inl ⟨hzero, yields_pure.mpr ⟨rfl, rfl⟩⟩)

/-- The first instalment of the schedule is processed, and the rest of the loop leaves it. -/
theorem loop_head {paidAt : Int} {r : Nat × LoanRepayment} {rows : List (Nat × LoanRepayment)}
    {u : Unit} (hrows : Current (r :: rows) db)
    (h : Yields (allocateInstallments paidAt ((r :: rows).filter fun r => r.2.isOpen) left) db u
      db') :
    db'.loanRepayments[r.1]? = some (processed r.2 left paidAt) ∧
      ∃ mid left', Current rows mid ∧
        Yields (allocateInstallments paidAt (rows.filter fun r => r.2.isOpen) left') mid u db' ∧
        left' = if r.2.isOpen then left.minus (r.2.take left) else left := by
  have hcurrent := hrows.2 r List.mem_cons_self
  have hnew : r.1 ∉ (rows.filter fun r => r.2.isOpen).map Prod.fst := fun hmem =>
    (List.nodup_cons.mp hrows.1).1 ((List.filter_sublist.map Prod.fst).subset hmem)
  unfold processed
  cases hopen : r.2.isOpen with
  | false =>
    rw [List.filter_cons_of_neg (by simp [hopen])] at h
    refine ⟨?_, db, left, current_tail hrows, h, rfl⟩
    rw [allocate_row hnew h, hcurrent, if_neg fun h => Bool.false_ne_true h.1]
  | true =>
    have hfilter : (r :: rows).filter (fun r => r.2.isOpen) =
      r :: rows.filter fun r => r.2.isOpen := List.filter_cons_of_pos hopen
    rw [hfilter] at h
    have hkept : (r.2.take left).total = 0 → left.minus (r.2.take left) = left := by
      intro hzero
      unfold Allocation.total at hzero
      exact allocation_ext (show left.penalty - _ = _ by omega) (show left.interest - _ = _ by omega)
        (show left.principal - _ = _ by omega)
    rcases allocateInstallments_cons h with ⟨hzero, rfl⟩ | ⟨hzero, h⟩ | ⟨hpos, h⟩
    · have htake : (r.2.take left).total = 0 := by
        unfold Allocation.total at hzero ⊢
        show min left.penalty _ + min left.interest _ + min left.principal _ = 0
        omega
      refine ⟨?_, db', left, current_tail hrows, allocate_nothing _ _ hzero, (hkept htake).symm⟩
      rw [hcurrent, if_neg fun h => Nat.ne_of_gt h.2 htake]
    · refine ⟨?_, db, left, current_tail hrows, h, (hkept hzero).symm⟩
      rw [allocate_row hnew h, hcurrent, if_neg fun h => Nat.ne_of_gt h.2 hzero]
    · refine ⟨?_, _, _, current_update _ hrows, h, rfl⟩
      rw [allocate_row hnew h, Db.updateRepayment, Table.getElem?_modify_self hcurrent,
        if_pos ⟨rfl, hpos⟩]

theorem loop_iff (a before : Allocation) {paidAt : Int} {rows : List (Nat × LoanRepayment)} {u : Unit}
    (hrows : Current rows db)
    (h : Yields (allocateInstallments paidAt (rows.filter fun r => r.2.isOpen) (a.minus before)) db u
      db') :
    (∀ x ∈ withDues before rows, ∃ paid, db'.loanRepayments[x.2.1]? = some paid ∧
        Settles x.2.2 paid (x.2.2.share a x.1)) ↔
      ((withDues before rows).all fun x => x.2.2.allocatable a x.1) = true := by
  induction rows generalizing before db with
  | nil => simp [withDues]
  | cons r rows ih =>
    obtain ⟨hhead, mid, left', hmid, hrest, hleft⟩ := loop_head hrows h
    rw [withDues, List.forall_mem_cons, List.all_cons, Bool.and_eq_true, hhead]
    have hsettles : (∃ paid, some (processed r.2 (a.minus before) paidAt) = some paid ∧
        Settles r.2 paid (r.2.share a before)) ↔ r.2.allocatable a before = true := by
      rw [← settles_iff paidAt]
      refine ⟨fun hpaid => ?_, fun hpaid => ⟨_, rfl, hpaid⟩⟩
      obtain ⟨paid, hsame, hpaid⟩ := hpaid
      cases hsame
      exact hpaid
    rw [hsettles]
    refine and_congr_right fun hallocatable => ih (before.plus r.2.unpaidDues) hmid ?_
    have hnext : left' = a.minus (before.plus r.2.unpaidDues) := by
      rw [hleft]
      unfold LoanRepayment.allocatable at hallocatable
      dsimp only at hallocatable
      cases hopen : r.2.isOpen with
      | false =>
        rw [hopen] at hallocatable
        exact minus_none (by simpa using hallocatable)
      | true =>
        simp only [hopen, Bool.true_and, Bool.not_true, Bool.false_or, Bool.and_eq_true,
          Bool.or_eq_true, decide_eq_true_eq] at hallocatable
        exact minus_share (take_share_iff.mpr hallocatable.2)
    rw [← hnext]
    exact hrest

end OrderLemmas

open OrderLemmas

/-! ## 5. Payments -/

/-- When the unpaid dues of the instalments are what the loan owes, a payment raises them in order
by exactly its parts, marks them and sums them up, if and only if they are allocatable. -/
theorem allocation_in_order_iff {paidAt : Int} {loanId amount : Nat} {loan : Loan} {u : Unit}
    {db db' : Db} (hdues : db.allDues loanId =
      ⟨loan.arrearsAmount, loan.accruedInterest, loan.outstandingBalance⟩)
    (h : Yields (applyInstallmentAllocation paidAt loanId (loan.waterfall amount).1) db u db') :
    RaisedInOrder loanId (loan.waterfall amount).1 db db' ↔
      db.allocatable loanId (loan.waterfall amount).1 = true := by
  obtain ⟨hpenalty, hinterest, hprincipal⟩ := waterfall_fits loan amount
  unfold Db.allDues at hdues
  obtain ⟨hp, hi, hr⟩ := Allocation.mk.inj hdues
  simp only [applyInstallmentAllocation, yields_bind, yields_get] at h
  obtain ⟨_, _, ⟨rfl, rfl⟩, h⟩ := h
  have hothers : ∀ (id : Nat) (row : LoanRepayment), db.loanRepayments[id]? = some row →
      row.loanId ≠ loanId → db'.loanRepayments[id]? = some row := by
    intro id row hrow hne
    rw [allocate_row (fun hmem => ?_) h, hrow]
    obtain ⟨r, hr, rfl⟩ := List.mem_map.mp hmem
    obtain ⟨hrow', hloan, -⟩ := mem_unpaidInstallments.mp hr
    cases hrow.symm.trans hrow'
    exact hne hloan
  rw [filter_schedule] at h
  have hloop := loop_iff (loan.waterfall amount).1 ⟨0, 0, 0⟩ (current_schedule db loanId) h
  unfold Db.allocatable
  rw [← hloop]
  exact ⟨fun h => h.rows, fun h => ⟨totalShare_eq (hp ▸ hpenalty) (hi ▸ hinterest)
    (hr ▸ hprincipal), hothers, h⟩⟩

/-- An instalment of the example loan on which nothing is paid. -/
def exDue (day principalDue interestDue : Nat) (status : InstallmentStatus) : LoanRepayment where
  loanId := 0
  dayNumber := day
  amountPaid := 0
  status := status
  method := "SCHEDULED"
  dueDate := day
  principalDue := principalDue
  interestDue := interestDue
  penaltyDue := 0
  principalPaid := 0
  interestPaid := 0
  penaltyPaid := 0
  paidAt := none
  lastPenaltyAccrualDate := none

/-- The example loan, which owes KES 10 of interest too, with these instalments. -/
def exDues (rows : List LoanRepayment) : Db :=
  { exSacco with
    loans := [{ exLoan with accruedInterest := 100000 }]
    loanRepayments := rows }

/-- KES 55 pay the first instalment and part of the second. -/
theorem allocation_in_order_open :
    let db := exDues [exDue 1 400000 50000 .pending, exDue 2 600000 50000 .pending]
    RaisedInOrder 0 ⟨0, 100000, 450000⟩ db
      (commit (applyInstallmentAllocation 5 0 ⟨0, 100000, 450000⟩) db) := by
  intro db
  have h : Yields (applyInstallmentAllocation 5 0
      (Loan.waterfall { exLoan with accruedInterest := 100000 } 550000).1) db ()
      (commit (applyInstallmentAllocation 5 0 ⟨0, 100000, 450000⟩) db) := by
    decide +kernel
  exact (allocation_in_order_iff (by decide +kernel) h).mpr (by decide +kernel)

/-- KES 55 pass over an instalment that is overdue, and when all are, they are on none. Half a cent
is a whole one in `amountPaid`. An instalment without principal whose interest is paid by halves
never counts as paid. -/
theorem allocation_out_of_order :
    let rows (amount : Nat) (rows : List LoanRepayment) :=
      (commit (applyInstallmentAllocation 5 0
        (Loan.waterfall { exLoan with accruedInterest := 100000 } amount).1)
        (exDues rows)).loanRepayments.map fun r =>
          (r.interestPaid, r.principalPaid, r.amountPaid, r.status)
    let half : LoanRepayment :=
      { exDue 1 0 100000 .partlyPaid with interestPaid := 50000, amountPaid := 50000 }
    rows 550000 [exDue 1 400000 50000 .overdue, exDue 2 600000 50000 .pending] =
        [(0, 0, 0, .overdue), (50000, 450000, 500000, .partlyPaid)] ∧
      rows 550000 [exDue 1 400000 50000 .overdue, exDue 2 600000 50000 .overdue] =
        [(0, 0, 0, .overdue), (0, 0, 0, .overdue)] ∧
      rows 50 [exDue 1 400000 50000 .pending, exDue 2 600000 50000 .pending] =
        [(50, 0, 100, .partlyPaid), (0, 0, 0, .pending)] ∧
      rows 50000 [half, exDue 2 1000000 50000 .pending] =
        [(100000, 0, 100000, .partlyPaid), (0, 0, 0, .pending)] := by
  decide +kernel

end BebaSacco
