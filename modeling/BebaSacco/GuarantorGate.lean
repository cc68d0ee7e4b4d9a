import BebaSacco.Pledges
import BebaSacco.System

/-! # The guarantor workflow and the disbursement gate

A response moves a loan on when nobody is left to respond and enough guarantors accepted to cover
it. The gate counts the same rows again, with criteria of its own: it asks that every row be
accepted, and it asks nothing at all when the product sets no minimum.

Results:
 1. `gatePassed_iff`: what the gate asks for.
 2. `gate_after_move_iff`: after a move the gate passes exactly when no row was declined, expired or
    released, or the product sets no minimum.
 3. `gate_covers_iff`: the gate ensures the cover exactly when the product sets a minimum, or there
    is nothing to cover.
-/

namespace BebaSacco

open Txn

/-- Enough guarantors have accepted, and what they guarantee covers the loan. -/
def Db.Covered (db : Db) (loanId : Nat) (loan : Loan) (product : LoanProduct) : Prop :=
  product.minGuarantors ≤ (db.coverageTally loanId).accepted.length ∧
    loan.principalAmount * product.guarantorCoverageRatio ≤
      (db.coverageTally loanId).totalAccepted * 10000

/-- The loan and its product, as a service reads them. -/
structure Db.HasLoan (db : Db) (loanId : Nat) (loan : Loan) (product : LoanProduct) : Prop where
  found : db.loans[loanId]? = some loan
  offered : db.loanProducts[loan.loanProductId]? = some product

/-- The rows of a loan that neither wait nor are accepted. -/
def Db.settledOtherwise (db : Db) (loanId : Nat) : List (Nat × LoanGuarantor) :=
  db.guarantorsOf loanId [.rejected, .expired, .released]

namespace GuarantorGateLemmas

variable {db db' : Db} {loanId : Nat} {loan : Loan} {product : LoanProduct} {now : Int}
  {next : GuarantorStatus}

/-! ## 1. The rows that both look at -/

def rowsOf (db : Db) (loanId : Nat) : List LoanGuarantor :=
  db.loanGuarantors.filter fun g => g.loanId == loanId

theorem guarantorsOf_rows (db : Db) (loanId : Nat) (statuses : List GuarantorStatus) :
    (db.guarantorsOf loanId statuses).map Prod.snd =
      (rowsOf db loanId).filter fun g => statuses.contains g.status := by
  rw [Db.guarantorsOf, Table.map_snd_selectRows, rowsOf, List.filter_filter]
  congr 1
  funext g
  exact Bool.and_comm _ _

theorem accepted_rows (db : Db) (loanId : Nat) :
    (db.coverageTally loanId).accepted.map Prod.snd =
      (rowsOf db loanId).filter (·.status = .accepted) := by
  refine (guarantorsOf_rows db loanId [.accepted]).trans (congrArg (List.filter · _) ?_)
  funext g
  simp

theorem acceptedCount_eq (db : Db) (loanId : Nat) :
    (db.coverageTally loanId).accepted.length =
      ((rowsOf db loanId).filter (·.status = .accepted)).length := by
  rw [← accepted_rows, List.length_map]

theorem totalAccepted_eq (db : Db) (loanId : Nat) :
    (db.coverageTally loanId).totalAccepted =
      (((rowsOf db loanId).filter (·.status = .accepted)).map (·.guaranteedAmount)).sum := by
  rw [← accepted_rows, List.map_map]
  rfl

theorem guarantorsOf_nil_iff {statuses : List GuarantorStatus} :
    db.guarantorsOf loanId statuses = [] ↔
      ∀ g ∈ rowsOf db loanId, statuses.contains g.status = false := by
  rw [← List.map_eq_nil_iff (f := Prod.snd), guarantorsOf_rows, List.filter_eq_nil_iff]
  simp only [Bool.not_eq_true]

/-! ## 2. The gate -/

theorem ite_nil_iff {c : Prop} [Decidable c] {reason : String} :
    (if c then [reason] else []) = [] ↔ ¬ c := by
  by_cases h : c <;> simp [h]

/-- The gate asks for nothing, or for enough rows, all accepted, that cover the loan. -/
theorem blockingReasons_nil_iff :
    db.blockingReasons loanId loan product = [] ↔
      product.minGuarantors = 0 ∨
        ((∀ g ∈ rowsOf db loanId, g.status = .accepted) ∧ db.Covered loanId loan product) := by
  unfold Db.blockingReasons Db.Covered
  simp only [Table.map_snd_selectRows, List.append_eq_nil_iff, ite_nil_iff]
  rw [acceptedCount_eq, totalAccepted_eq]
  show _ ↔ _ ∨ (∀ g ∈ rowsOf db loanId, _) ∧ _
  rcases Nat.eq_zero_or_pos product.minGuarantors with hzero | hpos
  · refine iff_of_true ⟨⟨⟨?_, ?_⟩, ?_⟩, ?_⟩ (.inl hzero) <;>
      exact fun h => absurd h.1 (by rw [hzero]; exact Nat.lt_irrefl 0)
  · have hne : product.minGuarantors ≠ 0 := Nat.ne_of_gt hpos
    simp only [hpos, hne, true_and, false_or, Nat.not_lt]
    have hall : ¬ ((rowsOf db loanId).any fun g => decide (g.status ≠ .accepted)) = true ↔
        ∀ g ∈ rowsOf db loanId, g.status = .accepted := by
      simp [List.any_eq_true]
    rw [← hall]
    constructor
    · rintro ⟨⟨⟨-, hrows⟩, hcount⟩, hcover⟩
      exact ⟨hrows, hcount, hcover⟩
    · rintro ⟨hrows, hcount, hcover⟩
      -- the accepted rows are rows, so there are enough of those as well
      exact ⟨⟨⟨Nat.le_trans hcount (List.length_filter_le _ _), hrows⟩, hcount⟩, hcover⟩

theorem gatePassed_iff (h : db.HasLoan loanId loan product) :
    db.assertGatePassed loanId = .ok () ↔
      product.minGuarantors = 0 ∨
        ((∀ g ∈ rowsOf db loanId, g.status = .accepted) ∧ db.Covered loanId loan product) := by
  rw [← blockingReasons_nil_iff, Db.assertGatePassed, h.found]
  simp only [h.offered]
  cases db.blockingReasons loanId loan product with
  | nil => exact iff_of_true rfl rfl
  | cons reason reasons => exact iff_of_false (fun heq => by cases heq) (List.cons_ne_nil _ _)

/-! ## 3. After a move -/

/-- What a response that moves the loan on has found. -/
theorem moved_criteria (hstatus : loan.status = .pendingGuarantors)
    (h : Yields (applyLoanState now loanId loan product next) db .pendingApproval db') :
    (db.coverageTally loanId).criteriaMet loan product = true ∧
      db' = db.updateLoan loanId fun l =>
        if l.status = .pendingGuarantors then { l with status := .pendingApproval } else l := by
  unfold applyLoanState at h
  rcases yields_ite.mp h with ⟨hother, -⟩ | ⟨-, h⟩
  · exact absurd hstatus hother
  simp only [yields_bind, yields_get] at h
  obtain ⟨_, _, ⟨rfl, rfl⟩, h⟩ := h
  rcases yields_ite.mp h with ⟨hmet, h⟩ | ⟨-, h⟩
  · simp only [yields_bind, yields_modify, yields_pure] at h
    obtain ⟨_, _, rfl, -, rfl⟩ := h
    exact ⟨hmet, rfl⟩
  · -- every other branch answers with another status
    rcases yields_ite.mp h with ⟨-, h⟩ | ⟨-, h⟩
    · simp only [yields_bind, yields_pure] at h
      obtain ⟨_, _, _, _, _, _, hs, _⟩ := h
      cases hs
    · rw [yields_pure, hstatus] at h
      cases h.1

theorem covered_of_criteria (h : (db.coverageTally loanId).criteriaMet loan product = true) :
    db.guarantorsOf loanId [.pending] = [] ∧ db.Covered loanId loan product := by
  simp only [CoverageTally.criteriaMet, Bool.and_eq_true, beq_iff_eq, decide_eq_true_eq] at h
  exact ⟨List.length_eq_zero_iff.mp h.1.1, h.1.2, h.2⟩

/-- With nobody left to respond, every row is accepted or settled otherwise. -/
theorem all_accepted_iff (hpending : db.guarantorsOf loanId [.pending] = []) :
    (∀ g ∈ rowsOf db loanId, g.status = .accepted) ↔ db.settledOtherwise loanId = [] := by
  rw [Db.settledOtherwise, guarantorsOf_nil_iff]
  have hnone := guarantorsOf_nil_iff.mp hpending
  refine forall_congr' fun g => forall_congr' fun hg => ?_
  have hg := hnone g hg
  cases hstatus : g.status <;> simp_all

end GuarantorGateLemmas

open GuarantorGateLemmas

/-- After a move to PENDING_APPROVAL the gate passes exactly when the product sets no minimum or
every row of the loan is accepted. -/
theorem gate_after_move_iff {db db' : Db} {loanId : Nat} {loan : Loan} {product : LoanProduct}
    {now : Int} {next : GuarantorStatus} (hloan : db.HasLoan loanId loan product)
    (hstatus : loan.status = .pendingGuarantors)
    (h : Yields (applyLoanState now loanId loan product next) db .pendingApproval db') :
    db'.assertGatePassed loanId = .ok () ↔
      product.minGuarantors = 0 ∨ db.settledOtherwise loanId = [] := by
  obtain ⟨hmet, rfl⟩ := moved_criteria hstatus h
  obtain ⟨hpending, hcovered⟩ := covered_of_criteria hmet
  -- the move changes the status of the loan only, so the gate finds the same rows
  have hmoved : (db.updateLoan loanId fun l => if l.status = .pendingGuarantors then
      { l with status := .pendingApproval } else l).HasLoan loanId
        { loan with status := .pendingApproval } product := by
    refine ⟨?_, hloan.offered⟩
    rw [Db.updateLoan, Table.getElem?_modify_self hloan.found, if_pos hstatus]
  rw [gatePassed_iff hmoved, ← all_accepted_iff hpending]
  exact or_congr_right ⟨fun hrows => hrows.1, fun hrows => ⟨hrows, hcovered⟩⟩

/-- The tables with one loan and its product, and nobody who guarantees it. -/
def Db.unguaranteed (db : Db) (loanId : Nat) (loan : Loan) (product : LoanProduct) : Db :=
  { db with
    loans := List.replicate (loanId + 1) loan
    loanProducts := List.replicate (loan.loanProductId + 1) product
    loanGuarantors := [] }

/-- The gate ensures that a loan is covered, whatever its guarantors did, exactly when its product
sets a minimum or there is nothing to cover. -/
theorem gate_covers_iff (loanId : Nat) (loan : Loan) (product : LoanProduct) :
    (∀ db : Db, db.HasLoan loanId loan product → db.assertGatePassed loanId = .ok () →
      db.Covered loanId loan product) ↔
      0 < product.minGuarantors ∨ loan.principalAmount * product.guarantorCoverageRatio = 0 := by
  constructor
  · intro h
    rcases Nat.eq_zero_or_pos product.minGuarantors with hzero | hpos
    · -- without a minimum the gate passes with no guarantor at all
      have hloan : (exSacco.unguaranteed loanId loan product).HasLoan loanId loan product := by
        constructor <;> simp [Db.unguaranteed]
      have htotal : ((exSacco.unguaranteed loanId loan product).coverageTally loanId).totalAccepted =
          0 := by
        rw [totalAccepted_eq]
        rfl
      have hcovered := (h _ hloan ((gatePassed_iff hloan).mpr (.inl hzero))).2
      rw [htotal, Nat.zero_mul] at hcovered
      exact .inr (Nat.le_zero.mp hcovered)
    · exact .inl hpos
  · rintro hor db hloan hpassed
    rcases (gatePassed_iff hloan).mp hpassed with hzero | ⟨-, hcovered⟩
    · refine ⟨hzero ▸ Nat.zero_le _, ?_⟩
      rw [hor.resolve_left (by rw [hzero]; exact Nat.lt_irrefl 0)]
      exact Nat.zero_le _
    · exact hcovered

/-- The workflow and the gate agree: after a move the gate passes, and a passed gate means a covered
loan, exactly under the two conditions. -/
theorem guarantor_gate_agrees_iff (loanId : Nat) (loan : Loan) (product : LoanProduct) :
    (∀ db db' now next, db.HasLoan loanId loan product → loan.status = .pendingGuarantors →
      Yields (applyLoanState now loanId loan product next) db .pendingApproval db' →
      (db'.assertGatePassed loanId = .ok () ↔
        product.minGuarantors = 0 ∨ db.settledOtherwise loanId = [])) ∧
    ((∀ db : Db, db.HasLoan loanId loan product → db.assertGatePassed loanId = .ok () →
      db.Covered loanId loan product) ↔
      0 < product.minGuarantors ∨ loan.principalAmount * product.guarantorCoverageRatio = 0) :=
  ⟨fun _ _ _ _ hloan hstatus h => gate_after_move_iff hloan hstatus h,
    gate_covers_iff loanId loan product⟩

/-! ### A replacement -/

/-- The loan of KES 100 waits for guarantors of half of it; members 1 and 2 have KES 100 each. -/
def exReplaceable : Db :=
  { exSacco with
    accounts := (exSacco.accounts.modify 2 (·.move 1000000)).modify 4 (·.move 1000000)
    loans := [{ exLoan with status := .pendingGuarantors }] }

def exReply (guarantorId : Nat) (action : GuarantorWorkflowAction) : Op :=
  .respond 0
    { loanId := 0
      guarantorId := guarantorId
      action := action
      digitalAcknowledgment := true
      source := .member }

/-- Member 1 is asked and declines, member 2 takes the place. -/
def exReplaced : List Op :=
  [.inviteGuarantor exReplaceable 0 0 1 ⟨1, 500000⟩, exReply 0 .decline,
    .inviteGuarantor exReplaceable 0 0 1 ⟨2, 500000⟩]

def exProduct : LoanProduct where
  requiredAccountType := none
  minGuarantors := 1
  maxGuarantors := 2
  guarantorCoverageRatio := 5000

/-- Member 2 alone was asked and has accepted. -/
def exAccepted : Db :=
  { exReplaceable with
    loanGuarantors :=
      [{ (⟨2, 500000⟩ : Nomination).invited 0 0 with status := .accepted }] }

theorem guarantor_gate_agrees_alone :
    (exAccepted.updateLoan 0 fun l => { l with status := .pendingApproval }).assertGatePassed 0 =
      .ok () :=
  ((guarantor_gate_agrees_iff 0 { exLoan with status := .pendingGuarantors } exProduct).1 exAccepted
    _ 0 .accepted ⟨rfl, rfl⟩ rfl (by decide +kernel)).mpr (.inr (by decide))

/-- A product without a minimum. -/
def exNoMinimum : Db :=
  { exReplaceable with loanProducts := [{ exProduct with minGuarantors := 0 }] }

/-- The replacement completes the guarantors and the gate refuses the loan for the one who
declined; without a minimum the gate passes a loan that nobody guarantees. -/
theorem replaced_guarantor_blocks :
    ((exReplaceable.after (exReplaced ++ [exReply 1 .accept])).loans.map (·.status) =
      [.pendingApproval]) ∧
    ((exReplaceable.after (exReplaced ++ [exReply 1 .accept])).assertGatePassed 0 =
      .error (.badRequest "DISBURSEMENT_BLOCKED_GUARANTORS_PENDING")) ∧
    exNoMinimum.assertGatePassed 0 = .ok () ∧
    ¬ exNoMinimum.Covered 0 { exLoan with status := .pendingGuarantors }
      { exProduct with minGuarantors := 0 } := by
  refine ⟨by decide +kernel, by decide +kernel, by decide +kernel, fun h => ?_⟩
  exact absurd h.2 (by decide)

end BebaSacco
