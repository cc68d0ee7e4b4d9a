import BebaSacco.LoanStatuses
import BebaSacco.ChannelAgreement
import BebaSacco.ReferenceRows
import BebaSacco.Invitations

/-! # The holds of closed loans

Several services close a loan, and each lets go of the savings that are frozen for it in a way of
its own, or not at all. Nobody looks at a closed loan again, so a hold that is left on it stays.

Results:
 1. `forM_clears`: a loop over guarantees lets go of each of them.
 2. `repay_settles`, `reject_settles`, `offset_settles`, `respond_settles`, `expiries_settle`: the
    services that close a loan and let go of its holds.
 3. `no_hold_on_dead_loan`: no closed loan has a hold, in every run in which a service that closes
    a loan can let go of each of its holds and none is placed on a closed loan.
 4. `closed_loans_hold`: a loan is paid off over M-Pesa and the savings of its guarantor stay frozen;
    a guarantor accepts after the loan was rejected.
-/

namespace BebaSacco

open Txn FootprintLemmas InstallmentLemmas AccrualLemmas GuarantorLemmas PledgeLemmas StatusLemmas
  AgreementLemmas ReplayLemmas ReferenceLemmas InvitationLemmas

/-! ## 1. Holds -/

/-- The guarantee has an active hold. The frozen savings of an account are one number; which
guarantee they are frozen for is known from its own columns alone. -/
def LoanGuarantor.held (guarantor : LoanGuarantor) : Bool :=
  guarantor.holdPlacedAt.isSome && guarantor.holdReleasedAt.isNone

def Db.heldRows (db : Db) (loanId : Nat) : List (Nat × LoanGuarantor) :=
  Table.selectRows (fun g => g.loanId == loanId && g.held) db.loanGuarantors

/-- No guarantee of the loan has an active hold. -/
def Db.HoldFree (db : Db) (loanId : Nat) : Prop :=
  ∀ (id : Nat) (g : LoanGuarantor), db.loanGuarantors[id]? = some g → g.loanId = loanId →
    g.held = false

/-- The loan is rejected, paid off or written off. -/
def Db.Dead (db : Db) (loanId : Nat) : Prop :=
  ∃ loan, db.loans[loanId]? = some loan ∧ loan.status.terminal = true

/-! ### What a service that closes a loan can let go of -/

/-- The release after a repayment and that of a rejection skip a guarantor without frozen
savings. -/
def Db.unfreezes (db : Db) (guarantor : LoanGuarantor) : Bool :=
  guarantor.status == .accepted &&
    (db.activeAccount guarantor.memberId (db.collateralTypeOf guarantor.loanId)).any fun r =>
      0 < min r.2.frozenSavings (guarantor.guaranteedAmount : Int)

def Db.offsetAttempt (db : Db) (jobId : Option String) : String :=
  (jobId.map fun jobId => s!"{jobId}-{db.uuid}").getD (toString db.uuid)

/-- The offset skips a guarantor without frozen savings in the BOSA account. -/
def Db.forfeits (db : Db) (attempt : String) (guarantor : LoanGuarantor) : Bool :=
  guarantor.status == .accepted && guarantor.holdReleasedAt.isNone &&
    (db.activeAccount guarantor.memberId .bosa).any fun r =>
      0 < guarantor.forfeitable r.2 && (db.transactionByReference
        (guarantorForfeitureReference db.tenantId guarantor.loanId r.1 attempt)).isNone

/-- When the loan is one that `closes`, each of its holds is one that `clears`. -/
def Db.letsGo (db : Db) (loanId : Nat) (closes : Loan → Bool)
    (clears : Nat × LoanGuarantor → Bool) : Bool :=
  db.loans[loanId]?.all fun loan => !closes loan || (db.heldRows loanId).all clears

/-- The repayment leaves nothing of the principal. -/
def Loan.paidOffBy (loan : Loan) (amount : Nat) : Bool :=
  loan.outstandingBalance == 0 || loan.totalOwed ≤ amount

/-- The guarantors of the loan have refused it, once one of them has answered `latestStatus`. -/
def Db.refuses (db : Db) (loanId : Nat) (latestStatus : GuarantorStatus) (loan : Loan) : Bool :=
  loan.status == .pendingGuarantors && db.loanProducts[loan.loanProductId]?.any fun product =>
    !(db.coverageTally loanId).criteriaMet loan product &&
      (db.coverageTally loanId).shouldTerminallyReject product latestStatus

/-- The answer of `guarantor` is not given to a closed loan, unless the hold that it places counts
as released already; and when it closes the loan, every hold is one of an accepted guarantee. -/
def Db.answerClears (db : Db) (now : Int) (args : DecisionArgs) (guarantor : LoanGuarantor) : Bool :=
  let nextStatus := args.nextStatus now guarantor.invitedAt
  let answered := db.updateGuarantor args.guarantorId (·.answered now nextStatus)
  answered.letsGo args.loanId (·.status.terminal) (fun _ => false) &&
    answered.letsGo args.loanId (answered.refuses args.loanId nextStatus)
      (fun row => row.2.status == .accepted)

/-- The guarantees `rows` expire, and the loans that wait for them are closed: every other hold of
these loans is one of an accepted guarantee. -/
def Db.lapseClears (db : Db) (rows : List (Nat × LoanGuarantor)) : Bool :=
  rows.all fun row => db.letsGo row.2.loanId (·.status == .pendingGuarantors) fun held =>
    held.2.status == .accepted || rows.any (·.1 == held.1)

/-- An operation that closes a loan can let go of each of its holds, and none is placed on a closed
loan. -/
def Db.clearsHolds (db : Db) : Op → Bool
  | .repay params =>
    (db.transactionByReference (params.reference db.tenantId)).isSome ||
      db.letsGo params.loanId
        (fun loan => loan.status == .active && loan.paidOffBy params.amountKes.toNat)
        (fun row => db.unfreezes row.2)
  | .processRepayment _ input =>
    (db.duplicateRepayment input.reference).isSome ||
      input.received.all fun amount => (db.targetLoan input).all fun target =>
        db.letsGo target.1 (fun loan => loan.status.repayable && loan.paidOffBy amount)
          (fun _ => false)
  | .respond now args =>
    db.loanGuarantors[args.guarantorId]?.all fun g =>
      g.loanId != args.loanId || g.status != .pending || db.answerClears now args g
  | .expireGuarantor _ guarantorId =>
    db.loanGuarantors[guarantorId]?.all fun g =>
      g.status != .pending || db.lapseClears [(guarantorId, g)]
  | .expirySweep _ cutoff =>
    db.lapseClears
      (Table.selectRows (fun g => g.status == .pending && g.invitedAt < cutoff) db.loanGuarantors)
  | .reject _ loanId => db.letsGo loanId (·.status.rejectable) (fun row => db.unfreezes row.2)
  | .updateStatus _ _ loanId .rejected _ =>
    db.letsGo loanId (·.status.rejectable) (fun row => db.unfreezes row.2)
  | .updateStatus seen _ loanId .rejectedGuarantorDecline _ =>
    db.letsGo loanId
      (fun _ => seen.loans[loanId]?.any (·.status == .pendingGuarantors)) (fun _ => false)
  | .signOff loanId _ _ approved =>
    db.letsGo loanId (fun loan => loan.status == .approved &&
      (!approved || (db.chainOf loanId).any (·.2.status == .rejected))) (fun _ => false)
  | .offset _ loanId jobId =>
    let attempt := db.offsetAttempt jobId
    db.letsGo loanId
      (fun loan => loan.offsettable &&
        (db.unreleasedGuarantors loanId).any fun row => db.forfeits attempt row.2)
      (fun row => db.forfeits attempt row.2)
  | _ => true

/-- The holds of `db'` are holds of `db`, on the same terms. -/
def Db.OnlyFrees (db db' : Db) : Prop :=
  ∀ (id : Nat) (g' : LoanGuarantor), db'.loanGuarantors[id]? = some g' → g'.held = true →
    ∃ g, db.loanGuarantors[id]? = some g ∧ g.held = true ∧ g.loanId = g'.loanId ∧
      g.status = g'.status

/-- A closed loan that has a hold in `db'` was closed and had one in `db`. -/
def Db.Settles (db db' : Db) : Prop :=
  ∀ loanId, db'.Dead loanId → ¬ db'.HoldFree loanId → db.Dead loanId ∧ ¬ db.HoldFree loanId

namespace HoldLemmas

variable {db db' mid : Db} {loanId : Nat}

/-! ## 2. Holds that are let go -/

theorem onlyFrees_same (h : db'.loanGuarantors = db.loanGuarantors) : db.OnlyFrees db' := by
  intro id g' hg' hheld
  rw [h] at hg'
  exact ⟨g', hg', hheld, rfl, rfl⟩

instance : History Db.OnlyFrees where
  refl _ := onlyFrees_same rfl
  trans h k := by
    intro id g' hg' hheld
    obtain ⟨m, hm, hheld, hloan, hst⟩ := k id g' hg' hheld
    obtain ⟨g, hg, hheld, hloan', hst'⟩ := h id m hm hheld
    exact ⟨g, hg, hheld, hloan'.trans hloan, hst'.trans hst⟩

instance : AdmitsBalance Db.OnlyFrees :=
  ⟨fun _ _ _ => onlyFrees_same rfl, fun _ _ _ => onlyFrees_same rfl⟩

instance : AdmitsTransaction Db.OnlyFrees where
  insert _ _ := onlyFrees_same rfl
  link _ _ _ := onlyFrees_same rfl
  markReversed _ _ := onlyFrees_same rfl
  uuid _ _ := onlyFrees_same rfl

instance : AdmitsEntry Db.OnlyFrees := ⟨fun _ _ => onlyFrees_same rfl⟩

instance : AdmitsLoan Db.OnlyFrees := ⟨fun _ _ _ _ => onlyFrees_same rfl⟩

instance : AdmitsRepayment Db.OnlyFrees :=
  ⟨fun _ _ _ => onlyFrees_same rfl, fun _ _ => onlyFrees_same rfl⟩

instance : AdmitsMpesa Db.OnlyFrees := ⟨fun _ _ _ => onlyFrees_same rfl⟩

theorem onlyFrees_update {id : Nat} {f : LoanGuarantor → LoanGuarantor}
    (hf : ∀ g, db.loanGuarantors[id]? = some g → (f g).held = true →
      g.held = true ∧ g.loanId = (f g).loanId ∧ g.status = (f g).status) :
    db.OnlyFrees (db.updateGuarantor id f) := by
  intro j g' hg' hheld
  obtain ⟨g, hg, rfl⟩ := Table.getElem?_modify_some hg'
  by_cases hj : id = j
  · subst hj
    rw [if_pos rfl] at hheld ⊢
    exact ⟨g, hg, hf g hg hheld⟩
  · rw [if_neg hj] at hheld ⊢
    exact ⟨g, hg, hheld, rfl, rfl⟩

theorem released_not_held (guarantor : LoanGuarantor) (now : Int) :
    (guarantor.released now).held = false :=
  Bool.and_false _

theorem released_frees (db : Db) (id : Nat) (now : Int) :
    db.OnlyFrees (db.updateGuarantor id (·.released now)) := by
  refine onlyFrees_update fun g _ hheld => ?_
  rw [released_not_held] at hheld
  cases hheld

theorem recover_held {guarantor : LoanGuarantor} {amount : Int} {releasedAt : Option Int}
    (h : (guarantor.recover amount releasedAt).held = true) :
    guarantor.held = true ∧ releasedAt = none := by
  unfold LoanGuarantor.held LoanGuarantor.recover at h
  obtain ⟨hplaced, hnone⟩ := Bool.and_eq_true_iff.mp h
  obtain ⟨hnone, hkept⟩ := Option.or_eq_none_iff.mp (Option.isNone_iff_eq_none.mp hnone)
  refine ⟨?_, hnone⟩
  unfold LoanGuarantor.held
  rw [Bool.and_eq_true, hkept]
  exact ⟨hplaced, rfl⟩

theorem recover_frees (db : Db) (id : Nat) (amount : Int) (releasedAt : Option Int) :
    db.OnlyFrees (db.updateGuarantor id (·.recover amount releasedAt)) :=
  onlyFrees_update fun _ _ hheld => ⟨(recover_held hheld).1, rfl, rfl⟩

/-! ### The services that let go of one hold -/

theorem unfrozen_rows {memberId amount : Nat} {ty : AccountType}
    (h : db.Unfrozen memberId amount ty db') :
    db'.loanGuarantors = db.loanGuarantors ∧ db'.loans = db.loans := by
  rcases h with ⟨rfl, -⟩ | ⟨id, a, -, rfl⟩
  · exact ⟨rfl, rfl⟩
  · exact ⟨rfl, rfl⟩

theorem releaseAcceptedHold_frees (now : Int) (ty : AccountType) (row : Nat × LoanGuarantor) :
    Moves Db.OnlyFrees (releaseAcceptedHold now ty row) := by
  intro db u db' h
  rcases releaseAcceptedHold_cases h with ⟨-, rfl⟩ | ⟨-, -, mid, hun, rfl⟩
  · exact History.refl db'
  · exact History.trans (onlyFrees_same (unfrozen_rows hun).1) (released_frees mid row.1 now)

theorem releaseRejected_frees (now : Int) (ty : AccountType) (row : Nat × LoanGuarantor) :
    Moves Db.OnlyFrees (releaseRejected now ty row) := by
  intro db u db' h
  rcases releaseRejected_cases h with ⟨rfl, -⟩ | ⟨id, a, -, -, rfl⟩
  · exact History.refl db'
  · exact History.trans (onlyFrees_same rfl) (released_frees _ row.1 now)

theorem recoverFromGuarantor_frees (now : Int) (loanId : Nat) (loanNumber : String)
    (ty : AccountType) (attempt actorId : String) (allocation : RecoveryAllocation) :
    Moves Db.OnlyFrees
      (recoverFromGuarantor now loanId loanNumber ty attempt actorId allocation) := by
  intro db n db' h
  rcases recoverFromGuarantor_cases h with rfl | ⟨id, r, a, taken, t, -, -, -, -, -, hbooked⟩
  · exact History.refl db'
  · exact History.trans (History.trans (onlyFrees_same rfl) (recover_frees _ _ _ _))
      (onlyFrees_same hbooked.holds.loanGuarantors)

theorem forfeitGuarantor_frees (now : Int) (loanId : Nat) (loanNumber attempt : String)
    (row : Nat × LoanGuarantor) :
    Moves Db.OnlyFrees (forfeitGuarantor now loanId loanNumber attempt row) := by
  intro db n db' h
  rcases forfeitGuarantor_cases h with ⟨rfl, -, -⟩ | ⟨id, a, t, -, -, -, -, -, -, hbooked⟩
  · exact History.refl db'
  · exact History.trans (History.trans (onlyFrees_same rfl) (recover_frees _ _ _ _))
      (onlyFrees_same hbooked.holds.loanGuarantors)

/-! ### Loops over guarantees -/

/-- The guarantee `id` has no active hold. -/
def NotHeld (db : Db) (id : Nat) : Prop :=
  ∀ g, db.loanGuarantors[id]? = some g → g.held = false

theorem notHeld_kept {id : Nat} (hf : db.OnlyFrees db') (h : NotHeld db id) : NotHeld db' id := by
  intro g' hg'
  by_contra hheld
  rw [Bool.not_eq_false] at hheld
  obtain ⟨g, hg, hheld, -⟩ := hf id g' hg' hheld
  rw [h g hg] at hheld
  cases hheld

/-- A loop lets go of each of its rows, when `P` is what a turn needs and the turns leave it to
those after them. -/
theorem forM_clears {f : Nat × LoanGuarantor → Tx Unit} {P : Db → Nat × LoanGuarantor → Prop}
    {rows : List (Nat × LoanGuarantor)} (hmoves : ∀ row, Moves Db.OnlyFrees (f row))
    (hclears : ∀ row ∈ rows, ∀ db db', P db row → Yields (f row) db () db' → NotHeld db' row.1)
    (hkeeps : rows.Pairwise fun row later => ∀ db db', P db row → P db later →
      Yields (f row) db () db' → P db' later)
    (hP : ∀ row ∈ rows, P db row) (h : Yields (rows.forM f) db () db') :
    ∀ row ∈ rows, NotHeld db' row.1 := by
  induction rows generalizing db with
  | nil => exact fun _ hrow => absurd hrow List.not_mem_nil
  | cons first rows ih =>
    obtain ⟨hlater, hpairs⟩ := List.pairwise_cons.mp hkeeps
    obtain ⟨_, mid, hfirst, hrest⟩ := yields_bind.mp h
    have hclear : NotHeld mid first.1 :=
      hclears first List.mem_cons_self db mid (hP first List.mem_cons_self) hfirst
    have hothers := ih (fun row hrow => hclears row (List.mem_cons_of_mem _ hrow)) hpairs
      (fun row hrow => hlater row hrow db mid (hP first List.mem_cons_self)
        (hP row (List.mem_cons_of_mem _ hrow)) hfirst) hrest
    intro row hrow
    rcases List.mem_cons.mp hrow with rfl | hrow
    · exact notHeld_kept (Moves.forM' hmoves rows hrest) hclear
    · exact hothers row hrow

theorem mem_guarantorsOf {statuses : List GuarantorStatus} {row : Nat × LoanGuarantor} :
    row ∈ db.guarantorsOf loanId statuses ↔ db.loanGuarantors[row.1]? = some row.2 ∧
      row.2.loanId = loanId ∧ statuses.contains row.2.status = true := by
  rw [Db.guarantorsOf, Table.mem_selectRows, Bool.and_eq_true, beq_iff_eq]

/-- The loop of a refused application lets go of the accepted guarantees. -/
theorem accepted_released {now : Int} {ty : AccountType}
    (h : Yields ((db.guarantorsOf loanId [.accepted]).forM (releaseAcceptedHold now ty)) db () db') :
    ∀ row ∈ db.guarantorsOf loanId [.accepted], NotHeld db' row.1 := by
  refine forM_clears (P := fun db row => row.2.holdReleasedAt.isSome = true → NotHeld db row.1)
    (releaseAcceptedHold_frees now ty) (fun row _ db db' hP h => ?_) ?_ (fun row hrow hrel => ?_) h
  · rcases releaseAcceptedHold_cases h with ⟨hrel, rfl⟩ | ⟨-, -, mid, -, rfl⟩
    · exact hP hrel
    · intro g hg
      obtain ⟨g, -, rfl⟩ := Table.getElem?_modify_some hg
      rw [if_pos rfl]
      exact released_not_held g now
  · exact List.pairwise_of_forall fun row later db db' _ hP h hrel =>
      notHeld_kept (releaseAcceptedHold_frees now ty row h) (hP hrel)
  · intro g hg
    rw [(mem_guarantorsOf.mp hrow).1] at hg
    cases hg
    unfold LoanGuarantor.held
    rw [Option.isNone_eq_false_iff.mpr hrel, Bool.and_false]

/-- The loop of a repayment or a rejection lets go of the guarantees that have savings to
unfreeze. -/
theorem rejected_released {now : Int} {ty : AccountType} (hk : Keyed db)
    (hclears : ∀ row ∈ db.unreleasedGuarantors loanId, NotHeld db row.1 ∨ ∃ id a,
      db.activeAccount row.2.memberId ty = some (id, a) ∧
        0 < min a.frozenSavings (row.2.guaranteedAmount : Int))
    (h : Yields ((db.unreleasedGuarantors loanId).forM (releaseRejected now ty)) db () db') :
    ∀ row ∈ db.unreleasedGuarantors loanId, NotHeld db' row.1 := by
  refine forM_clears (P := fun db row => NotHeld db row.1 ∨ ∃ id a,
    db.activeAccount row.2.memberId ty = some (id, a) ∧
      0 < min a.frozenSavings (row.2.guaranteedAmount : Int))
    (releaseRejected_frees now ty) (fun row _ db db' hP h => ?_) ?_ hclears h
  · rcases releaseRejected_cases h with ⟨rfl, hzero⟩ | ⟨id, a, -, -, rfl⟩
    · rcases hP with hnot | ⟨id, a, hacc, hpos⟩
      · exact hnot
      · exact absurd (hzero (id, a) hacc) (Int.not_le.mpr hpos)
    · intro g hg
      obtain ⟨g, -, rfl⟩ := Table.getElem?_modify_some hg
      rw [if_pos rfl]
      exact released_not_held g now
  · refine (List.pairwise_map.mp (unreleased_members hk loanId)).imp ?_
    intro row later hne db db' _ hP h
    rcases hP with hnot | ⟨id, a, hacc, hpos⟩
    · exact .inl (notHeld_kept (releaseRejected_frees now ty row h) hnot)
    · refine .inr ⟨id, a, ?_, hpos⟩
      rcases releaseRejected_cases h with ⟨rfl, -⟩ | ⟨id', a', hacc', -, rfl⟩
      · exact hacc
      · have hother : (db.updateAccount id' (·.hold (-(min a'.frozenSavings
            row.2.guaranteedAmount)))).activeAccount later.2.memberId ty =
              db.activeAccount later.2.memberId ty := activeAccount_other hacc' hne rfl
        rw [← hacc, ← hother]
        rfl

/-! ## 3. Loans that are closed -/

theorem settles_refl (db : Db) : db.Settles db := fun _ hdead hheld => ⟨hdead, hheld⟩

theorem settles_same (hrows : db'.loanGuarantors = db.loanGuarantors) (hloans : db'.loans = db.loans) :
    db.Settles db' := by
  intro loanId hdead hheld
  unfold Db.Dead Db.HoldFree at *
  rw [hrows] at hheld
  rw [hloans] at hdead
  exact ⟨hdead, hheld⟩

instance : History Db.Settles where
  refl := settles_refl
  trans h k := fun loanId hdead hheld =>
    have hmid := k loanId hdead hheld
    h loanId hmid.1 hmid.2

instance : AdmitsBalance Db.Settles :=
  ⟨fun _ _ _ => settles_same rfl rfl, fun _ _ _ => settles_same rfl rfl⟩

instance : AdmitsTransaction Db.Settles where
  insert _ _ := settles_same rfl rfl
  link _ _ _ := settles_same rfl rfl
  markReversed _ _ := settles_same rfl rfl
  uuid _ _ := settles_same rfl rfl

instance : AdmitsEntry Db.Settles := ⟨fun _ _ => settles_same rfl rfl⟩

/-- A loan is cleared when each of its holds was let go. -/
theorem holdFree_of (hf : db.OnlyFrees db') (h : ∀ (id : Nat) (g : LoanGuarantor),
    db.loanGuarantors[id]? = some g → g.loanId = loanId → g.held = true → NotHeld db' id) :
    db'.HoldFree loanId := by
  intro id g' hg' hloan
  by_contra hheld
  rw [Bool.not_eq_false] at hheld
  obtain ⟨g, hg, hold, hsame, -⟩ := hf id g' hg' hheld
  rw [h id g hg (hsame.trans hloan) hold g' hg'] at hheld
  cases hheld

theorem holdFree_kept (hf : db.OnlyFrees db') (h : db.HoldFree loanId) : db'.HoldFree loanId :=
  holdFree_of hf fun id g hg hloan hheld => by
    rw [h id g hg hloan] at hheld
    cases hheld

theorem settles_frees (hf : db.OnlyFrees db') (hloans : db'.loans = db.loans) : db.Settles db' := by
  intro loanId hdead hheld
  refine ⟨?_, fun hclear => hheld (holdFree_kept hf hclear)⟩
  unfold Db.Dead at hdead ⊢
  rwa [hloans] at hdead

/-- A loan is written; it must have been closed before, or stay open, or be left without holds. -/
theorem settles_write {f : Loan → Loan} (hf : db.OnlyFrees db')
    (hloans : db'.loans = db.loans.modify loanId f)
    (h : ∀ loan, db.loans[loanId]? = some loan → (f loan).status.terminal = true →
      loan.status.terminal = true ∨ db'.HoldFree loanId) : db.Settles db' := by
  intro id hdead hheld
  have hbefore : ¬ db.HoldFree id := fun hclear => hheld (holdFree_kept hf hclear)
  refine ⟨?_, hbefore⟩
  obtain ⟨loan', hrow', hterminal⟩ := hdead
  rw [hloans] at hrow'
  obtain ⟨loan, hrow, rfl⟩ := Table.getElem?_modify_some hrow'
  by_cases hid : loanId = id
  · subst hid
    rw [if_pos rfl] at hterminal
    rcases h loan hrow hterminal with hold | hclear
    · exact ⟨loan, hrow, hold⟩
    · exact absurd hclear hheld
  · rw [if_neg hid] at hterminal
    exact ⟨loan, hrow, hterminal⟩

/-! ## 4. Repayments and rejections -/

variable {loan : Loan} {closes : Loan → Bool} {clears : Nat × LoanGuarantor → Bool}

/-- What the condition says of the holds of a loan that is closed. -/
theorem letsGo_row (h : db.letsGo loanId closes clears = true)
    (hrow : db.loans[loanId]? = some loan) (hcloses : closes loan = true) {id : Nat}
    {g : LoanGuarantor} (hg : db.loanGuarantors[id]? = some g) (hloan : g.loanId = loanId)
    (hheld : g.held = true) : clears (id, g) = true := by
  unfold Db.letsGo at h
  rw [hrow, Option.all_some, hcloses, Bool.not_true, Bool.false_or, List.all_eq_true] at h
  refine h (id, g) (Table.mem_selectRows.mpr ⟨hg, ?_⟩)
  rw [hloan, beq_self_eq_true, hheld, Bool.and_true]

theorem letsGo_holdFree (h : db.letsGo loanId closes (fun _ => false) = true)
    (hrow : db.loans[loanId]? = some loan) (hcloses : closes loan = true) : db.HoldFree loanId := by
  intro id g hg hloan
  by_contra hheld
  rw [Bool.not_eq_false] at hheld
  cases letsGo_row h hrow hcloses hg hloan hheld

theorem unfreezes_row {g : LoanGuarantor} (h : db.unfreezes g = true) :
    g.status = .accepted ∧ ∃ id a,
      db.activeAccount g.memberId (db.collateralTypeOf g.loanId) = some (id, a) ∧
        0 < min a.frozenSavings (g.guaranteedAmount : Int) := by
  unfold Db.unfreezes at h
  obtain ⟨hst, hany⟩ := Bool.and_eq_true_iff.mp h
  obtain ⟨⟨id, a⟩, hacc, hpos⟩ := (Option.any_eq_true _ _).mp hany
  exact ⟨beq_iff_eq.mp hst, id, a, hacc, of_decide_eq_true hpos⟩

theorem frozen_kept {memberId : Nat} {ty : AccountType} {id : Nat} {a : Account}
    (h : db.SameFrozen db') (hacc : db.activeAccount memberId ty = some (id, a)) :
    ∃ a', db'.activeAccount memberId ty = some (id, a') ∧ a'.frozenSavings = a.frozenSavings := by
  obtain ⟨a', hacc', heq⟩ := Table.findRow_same
    (fun a : Account => a.memberId == memberId && a.accountType == ty && a.isActive)
    Account.unbalanced (fun _ => rfl) h.accounts hacc
  have hsame : a'.unbalanced.frozenSavings = a.unbalanced.frozenSavings := by rw [heq]
  exact ⟨a', hacc', hsame⟩

/-- The loop of a repayment or a rejection clears the loan, when each of its holds has savings to
unfreeze. -/
theorem unfrozen_holdFree {now : Int} {ty : AccountType} (hk : Keyed db)
    (hclears : ∀ (id : Nat) (g : LoanGuarantor), db.loanGuarantors[id]? = some g →
      g.loanId = loanId → g.held = true → g.status = .accepted ∧ ∃ i a,
        db.activeAccount g.memberId ty = some (i, a) ∧
          0 < min a.frozenSavings (g.guaranteedAmount : Int))
    (h : Yields ((db.unreleasedGuarantors loanId).forM (releaseRejected now ty)) db () db') :
    db'.HoldFree loanId := by
  refine holdFree_of (Moves.forM' (releaseRejected_frees now ty) _ h) fun id g hg hloan hheld => ?_
  have hst := (hclears id g hg hloan hheld).1
  have hnone : g.holdReleasedAt = none :=
    Option.isNone_iff_eq_none.mp (Bool.and_eq_true_iff.mp hheld).2
  refine rejected_released hk (fun row hrow => ?_) h (id, g)
    (mem_unreleasedGuarantors.mpr ⟨hg, hloan, hst, hnone⟩)
  obtain ⟨hrow, hrowLoan, -, -⟩ := mem_unreleasedGuarantors.mp hrow
  cases hheldRow : row.2.held with
  | true => exact .inr (hclears row.1 row.2 hrow hrowLoan hheldRow).2
  | false =>
    refine .inl fun g' hg' => ?_
    cases hrow.symm.trans hg'
    exact hheldRow

theorem newStatus_closes {p : RepayParams} (h : p.newStatus loan = .fullyPaid) :
    loan.paidOffBy p.amountKes.toNat = true := by
  unfold RepayParams.newStatus at h
  split at h
  · next hzero =>
    unfold Loan.repayAllocation RepayParams.actualRepayment at hzero
    dsimp only at hzero
    unfold Loan.paidOffBy
    rw [Bool.or_eq_true, beq_iff_eq, decide_eq_true_eq]
    unfold Loan.totalOwed at hzero ⊢
    omega
  · cases h

theorem repay_settles {p : RepayParams} {r : RepayResult} (hk : Keyed db)
    (hguard : db.clearsHolds (.repay p) = true) (h : Yields (repay p) db r db') :
    db.Settles db' := by
  rcases repay_cases h with rfl | ⟨i, account, loan, mid, hposted, hrest⟩
  · exact settles_refl db'
  have hmoved : db.OnlyFrees mid := repayPosted_moves hposted
  have hfrozen : db.SameFrozen mid := repayPosted_moves hposted
  have hloans := repayPosted_loans hposted
  rcases hrest with ⟨hclosed, hrelease⟩ | ⟨hactive, rfl⟩
  · have hterms : db.SameTerms mid := repayPosted_moves hposted
    have hkept : db.KeepsKeys mid := repayPosted_moves hposted
    have hnew : ¬ (db.transactionByReference (p.reference db.tenantId)).isSome = true := by
      rw [hposted.fresh]
      exact Bool.false_ne_true
    have hguard := (Bool.or_eq_true_iff.mp hguard).resolve_left hnew
    have hcloses : (loan.status == .active && loan.paidOffBy p.amountKes.toNat) = true := by
      rw [hposted.active, newStatus_closes hclosed]
      rfl
    have hdebts : mid.SameDebts db' := releaseOnFullRepayment_moves _ _ hrelease
    rcases releaseOnFullRepayment_cases (hkept hk) hrelease with ⟨hnone, -⟩ | hloop
    · rw [hloans, Table.getElem?_modify_self hposted.loan_eq] at hnone
      cases hnone
    have hfree : db'.HoldFree p.loanId := by
      refine unfrozen_holdFree (hkept hk) (fun id g hg hloan hheld => ?_) hloop
      rw [hfrozen.loanGuarantors] at hg
      obtain ⟨hst, i, a, hacc, hpos⟩ :=
        unfreezes_row (letsGo_row hguard hposted.loan_eq hcloses hg hloan hheld)
      obtain ⟨a', hacc', hsame⟩ := frozen_kept hfrozen hacc
      rw [hterms.collateralTypeOf (Table.lt_length_of_getElem? hposted.loan_eq), ← hloan]
      exact ⟨hst, i, a', hacc', hsame.symm ▸ hpos⟩
    exact settles_write (History.trans hmoved (Moves.forM' (releaseRejected_frees _ _) _ hloop))
      (hdebts.loans.trans hloans) fun _ _ _ => .inr hfree
  · refine settles_write hmoved hloans fun row _ hterminal => ?_
    have hstatus : (row.pay (loan.repayAllocation (p.actualRepayment loan))
        (p.newStatus loan)).status = .active := hactive
    rw [hstatus] at hterminal
    cases hterminal

theorem reject_settles {now : Int} {u : Unit} (hk : Keyed db)
    (hguard : db.letsGo loanId (·.status.rejectable) (fun row => db.unfreezes row.2) = true)
    (h : Yields (reject now loanId) db u db') : db.Settles db' := by
  obtain ⟨loan, mid, hloan, hrejectable, hloop, rfl⟩ := reject_cases h
  have hmoved := Moves.forM' (releaseRejected_frees now (db.collateralTypeOf loanId)) _ hloop
  have hfree : mid.HoldFree loanId := by
    refine unfrozen_holdFree hk (fun id g hg hsame hheld => ?_) hloop
    have hrow := unfreezes_row (letsGo_row hguard hloan hrejectable hg hsame hheld)
    rwa [hsame] at hrow
  have hsame : db.SameDebts mid :=
    Moves.forM' (fun _ => Moves.bind' Moves.get' fun _ => releaseFullyRepaid_moves _ _ _) _ hloop
  exact settles_write (History.trans hmoved (onlyFrees_same rfl))
    (by rw [Db.updateLoan, hsame.loans]) fun _ _ _ => .inr hfree

theorem repaidStatus_closes {amount : Nat} (h : (repaidStatus loan
    (loan.pay (loan.waterfall amount).1 loan.status)).terminal = true) :
    loan.paidOffBy amount = true := by
  unfold repaidStatus at h
  split at h
  · next hzero =>
    have hleft : loan.outstandingBalance - (loan.waterfall amount).1.principal = 0 := hzero
    unfold Loan.waterfall at hleft
    dsimp only at hleft
    unfold Loan.paidOffBy Loan.totalOwed
    rw [Bool.or_eq_true, beq_iff_eq, decide_eq_true_eq]
    omega
  · split at h
    · cases h
    · cases h

theorem processRepayment_settles {now : Int} {input : ProcessRepaymentInput}
    {r : RepaymentAllocationSummary} (hguard : db.clearsHolds (.processRepayment now input) = true)
    (h : Yields (processRepayment now input) db r db') : db.Settles db' := by
  have hmoved : db.OnlyFrees db' := processRepayment_moves now input h
  rcases processRepayment_cases h with ⟨rfl, -⟩ | ⟨amount, loanId, loan, hreceived, hnew, htarget,
    hrepayable, happly⟩
  · exact settles_refl db'
  have hfresh : ¬ (db.duplicateRepayment input.reference).isSome = true := by
    rw [hnew]
    exact Bool.false_ne_true
  have hguard := (Bool.or_eq_true_iff.mp hguard).resolve_left hfresh
  rw [hreceived, Option.all_some, htarget, Option.all_some] at hguard
  refine settles_write hmoved (applied_loans happly) fun row hrow hterminal => .inr ?_
  have hcloses : (loan.status.repayable && loan.paidOffBy amount) = true := by
    rw [hrepayable, repaidStatus_closes hterminal]
    rfl
  exact holdFree_kept hmoved (letsGo_holdFree hguard (targetLoan_some htarget) hcloses)

theorem settles_open {f : Loan → Loan} (hf : db.OnlyFrees db')
    (hloans : db'.loans = db.loans.modify loanId f)
    (h : ∀ loan : Loan, (f loan).status.terminal = true → loan.status.terminal = true) :
    db.Settles db' :=
  settles_write hf hloans fun loan _ hterminal => .inl (h loan hterminal)

theorem approve_settles {seen : Db} {u : Unit} (h : Yields (approve seen loanId) db u db') :
    db.Settles db' := by
  simp only [approve, yields_bind, yields_required, yields_ensure, yields_fromExcept, yields_get,
    yields_modify] at h
  obtain ⟨_, _, ⟨-, rfl⟩, _, _, ⟨-, rfl⟩, _, _, ⟨-, rfl⟩, _, _, ⟨rfl, rfl⟩, _, _, ⟨-, rfl⟩, rfl⟩ := h
  exact settles_open (onlyFrees_same rfl) rfl fun _ hterminal => by cases hterminal

theorem updateStatus_settles {seen : Db} {now : Int} {target : LoanStatus} {reason : Option String}
    {u : Unit} (hk : Keyed db)
    (hguard : db.clearsHolds (.updateStatus seen now loanId target reason) = true)
    (h : Yields (updateStatus seen now loanId target reason) db u db') : db.Settles db' := by
  simp only [updateStatus, yields_bind, yields_required, yields_ensure] at h
  obtain ⟨found, _, ⟨hfound, rfl⟩, _, _, ⟨-, rfl⟩, _, _, ⟨-, rfl⟩, h⟩ := h
  rcases yields_ite.mp h with ⟨-, h⟩ | ⟨-, h⟩
  · exact approve_settles h
  rcases yields_ite.mp h with ⟨htarget, hreject⟩ | ⟨-, h⟩
  · simp only [yields_bind, yields_ensure] at hreject
    obtain ⟨_, _, ⟨-, rfl⟩, hreject⟩ := hreject
    rw [htarget] at hguard
    exact reject_settles hk hguard hreject
  · simp only [yields_bind, yields_ensure, yields_get, yields_required, yields_modify] at h
    obtain ⟨_, _, ⟨hvalid, rfl⟩, _, _, ⟨rfl, rfl⟩, _, _, ⟨hrow, rfl⟩, rfl⟩ := h
    refine settles_write (onlyFrees_same rfl) rfl fun row hrow hterminal => .inr ?_
    have hterminal : target.terminal = true := hterminal
    -- of the closed statuses only the refusal by the guarantors is written here
    have hrefused : target = .rejectedGuarantorDecline ∧ found.status = .pendingGuarantors := by
      cases hst : found.status with
      | draft =>
        rw [hst] at hvalid
        rw [List.mem_singleton.mp (List.contains_iff_mem.mp hvalid)] at hterminal
        cases hterminal
      | pendingGuarantors =>
        rw [hst] at hvalid
        refine ⟨?_, rfl⟩
        cases target with
        | rejectedGuarantorDecline => rfl
        | rejected | fullyPaid | writtenOff => cases hvalid
        | _ => cases hterminal
      | _ =>
        rw [hst] at hvalid
        cases hvalid
    obtain ⟨rfl, hwaits⟩ := hrefused
    have hfree : db.HoldFree loanId := by
      refine letsGo_holdFree hguard hrow ?_
      rw [hfound, Option.any_some, hwaits]
      rfl
    exact holdFree_kept (onlyFrees_same rfl) hfree

/-- An approver refuses, or has refused before and another one signs off. -/
theorem signOff_settles {approverId role : String} {approved : Bool} {u : Unit}
    (hguard : db.clearsHolds (.signOff loanId approverId role approved) = true)
    (h : Yields (signOff loanId approverId role approved) db u db') : db.Settles db' := by
  simp only [signOff, signOffRead, signOffWrite, yields_bind, yields_get, yields_ensure,
    yields_required, yields_modify, yields_pure] at h
  obtain ⟨⟨slot, _⟩, _, ⟨_, _, ⟨rfl, rfl⟩, _, _, ⟨-, rfl⟩, _, _, ⟨-, rfl⟩, _, _, ⟨-, rfl⟩, -, rfl⟩,
    _, _, rfl, _, _, ⟨rfl, rfl⟩, h⟩ := h
  rcases yields_ite.mp h with ⟨hrefused, h⟩ | ⟨-, h⟩
  · rw [yields_modify] at h
    subst h
    refine settles_write (onlyFrees_same rfl) rfl fun row hrow hterminal => ?_
    split at hterminal
    · next hst =>
      have hfree : db.HoldFree loanId := by
        refine letsGo_holdFree hguard hrow ?_
        rw [hst, beq_self_eq_true, Bool.true_and, Bool.or_eq_true, Bool.not_eq_true']
        cases approved with
        | false => exact .inl rfl
        | true =>
          -- the refusal is another slot's, and was there before
          obtain ⟨⟨id, c⟩, hmem, hrejected⟩ := List.any_eq_true.mp hrefused
          refine .inr (List.any_eq_true.mpr ?_)
          obtain ⟨hc, hloan⟩ := Table.mem_selectRows.mp hmem
          obtain ⟨c', hc', rfl⟩ := Table.getElem?_modify_some hc
          by_cases hid : slot.1 = id
          · rw [if_pos hid] at hrejected
            cases hrejected
          · rw [if_neg hid] at hrejected hloan
            exact ⟨(id, c'), Table.mem_selectRows.mpr ⟨hc', hloan⟩, hrejected⟩
      exact .inr (holdFree_kept (onlyFrees_same rfl) hfree)
    · exact .inl hterminal
  · rw [← (yields_pure.mp h).2]
    exact settles_same rfl rfl

theorem accrue_settles {seen : Db} {accrualDate : Int} {u : Unit}
    (h : Yields (accrueInterestForLoan seen loanId accrualDate) db u db') : db.Settles db' := by
  have hmoved : db.OnlyFrees db' := accrueInterestForLoan_moves seen loanId accrualDate h
  rcases accrue_cases h with rfl | ⟨_, _, _, _, _, -, -, -, -, -, -, -, haccrued⟩
  · exact settles_refl db'
  · refine settles_open hmoved haccrued.loans fun row hterminal => ?_
    unfold Loan.accrue at hterminal
    dsimp only at hterminal
    split at hterminal
    · cases hterminal
    · exact hterminal

theorem finishInvite_settles {seen : Db} {nominated : Nat} {u : Unit}
    (h : Yields (finishInvite seen loanId nominated) db u db') : db.Settles db' := by
  simp only [finishInvite, yields_bind, yields_fromExcept, yields_get, yields_required,
    yields_modify] at h
  obtain ⟨_, _, ⟨-, rfl⟩, _, _, ⟨rfl, rfl⟩, _, _, ⟨-, rfl⟩, rfl⟩ := h
  exact settles_open (onlyFrees_same rfl) rfl fun _ hterminal => by cases hterminal

theorem disburse_settles {seen : Db} {params : DisburseParams} {u : Unit}
    (h : Yields (disburse seen params) db u db') : db.Settles db' := by
  have hmoved : db.OnlyFrees db' := disburse_moves seen params h
  rcases disburse_loans h with hsame | ⟨_, -, -, hloans⟩
  · exact settles_frees hmoved hsame
  · exact settles_open hmoved hloans fun _ hterminal => by cases hterminal

theorem b2cTimeout_settles {mpesaTxId : Nat} {u : Unit}
    (h : Yields (b2cTimeout mpesaTxId) db u db') : db.Settles db' := by
  simp only [b2cTimeout, yields_bind, yields_get] at h
  obtain ⟨_, _, ⟨rfl, rfl⟩, h⟩ := h
  split at h
  · rw [← (yields_pure.mp h).2]
    exact settles_refl db
  rcases yields_ite.mp h with ⟨-, h⟩ | ⟨-, h⟩
  · split at h
    · rw [← (yields_pure.mp h).2]
      exact settles_refl db
    rcases yields_ite.mp h with ⟨-, h⟩ | ⟨-, h⟩
    · simp only [yields_bind, yields_modify] at h
      obtain ⟨_, _, rfl, rfl⟩ := h
      exact settles_open (onlyFrees_same rfl) rfl fun _ hterminal => by cases hterminal
    · rw [← (yields_pure.mp h).2]
      exact settles_refl db
  · rw [← yields_modify.mp h]
    exact settles_same rfl rfl

theorem recover_settles {now : Int} {amount : ℚ} {actorId : String} {n : Nat}
    (h : Yields (recoverFromGuarantors now loanId amount actorId) db n db') : db.Settles db' := by
  simp only [recoverFromGuarantors, yields_bind, yields_ensure, yields_get, yields_required] at h
  obtain ⟨_, _, ⟨-, rfl⟩, _, drawn, huuid, _, _, ⟨rfl, rfl⟩, loan, _, ⟨-, rfl⟩, _, _, ⟨-, rfl⟩, total,
    mid, hsum, h⟩ := h
  have hdrawn : db.OnlyFrees drawn := uuidv4_moves huuid
  have hmid : drawn.OnlyFrees mid :=
    sumM_moves (fun _ => recoverFromGuarantor_frees _ _ _ _ _ _ _) _ hsum
  have hdebts : db.SameDebts mid := History.trans (uuidv4_moves huuid)
    (sumM_moves (fun _ => recoverFromGuarantor_moves _ _ _ _ _ _ _) _ hsum)
  rcases yields_ite.mp h with ⟨-, h⟩ | ⟨-, h⟩
  · simp only [yields_bind, yields_modify, yields_pure] at h
    obtain ⟨_, _, rfl, -, rfl⟩ := h
    have hloans : ∀ f : Loan → Loan, (mid.updateLoan loanId f).loans = db.loans.modify loanId f :=
      fun f => by rw [Db.updateLoan, hdebts.loans]
    exact settles_open (History.trans (History.trans hdrawn hmid) (onlyFrees_same rfl)) (hloans _)
      fun _ hterminal => hterminal
  · rw [← (yields_pure.mp h).2]
    exact settles_frees (History.trans hdrawn hmid) hdebts.loans

/-! ## 5. Invitations -/

theorem settles_of (hloans : ∀ loanId, db'.Dead loanId → db.Dead loanId)
    (hrows : ∀ loanId, db.HoldFree loanId → db'.HoldFree loanId) : db.Settles db' :=
  fun loanId hdead hheld => ⟨hloans loanId hdead, fun hfree => hheld (hrows loanId hfree)⟩

theorem holdFree_append {rows : List LoanGuarantor}
    (hrows : db'.loanGuarantors = db.loanGuarantors ++ rows) (hnew : ∀ g ∈ rows, g.held = false)
    (h : db.HoldFree loanId) : db'.HoldFree loanId := by
  intro id g hg hloan
  rw [hrows] at hg
  rcases Nat.lt_or_ge id db.loanGuarantors.length with hlt | hge
  · rw [List.getElem?_append_left hlt] at hg
    exact h id g hg hloan
  · rw [List.getElem?_append_right hge] at hg
    exact hnew g (List.mem_of_getElem? hg)

/-- Asking a guarantor again leaves the hold as it was. -/
theorem inviteGuarantor_settles {seen : Db} {now : Int} {nominated : Nat} {item : Nomination}
    {u : Unit} (h : Yields (inviteGuarantor seen now loanId nominated item) db u db') :
    db.Settles db' := by
  simp only [inviteGuarantor, yields_bind, yields_fromExcept] at h
  obtain ⟨loan, _, ⟨-, rfl⟩, h⟩ := h
  split at h
  · rw [← (yields_pure.mp h).2]
    exact settles_refl db
  simp only [upsertGuarantor, yields_bind, yields_get] at h
  obtain ⟨_, _, ⟨rfl, rfl⟩, h⟩ := h
  split at h
  · next id g hfound =>
    rw [← yields_modify.mp h]
    refine settles_of (fun _ hdead => hdead) fun l hfree k g' hg' hloan => ?_
    obtain ⟨g, hg, rfl⟩ := Table.getElem?_modify_some hg'
    by_cases hk : id = k
    · rw [if_pos hk] at hloan ⊢
      exact hfree k g hg hloan
    · rw [if_neg hk] at hloan ⊢
      exact hfree k g hg hloan
  · simp only [yields_bind, yields_ensure, yields_modify] at h
    obtain ⟨_, _, ⟨-, rfl⟩, rfl⟩ := h
    refine settles_of (fun _ hdead => hdead) fun l hfree => holdFree_append rfl (fun g hg => ?_) hfree
    rw [List.mem_singleton.mp hg]
    rfl

theorem createApplication_settles {now : Int} {loan : Loan} {requiresGuarantors : Bool}
    {guarantors : List Nomination} {id : Nat}
    (h : Yields (createApplication now loan requiresGuarantors guarantors) db id db') :
    db.Settles db' := by
  simp only [createApplication, yields_bind, yields_fromExcept, yields_get, yields_modify,
    yields_pure] at h
  obtain ⟨_, _, ⟨-, rfl⟩, _, _, ⟨rfl, rfl⟩, _, _, rfl, -, rfl⟩ := h
  refine settles_of (fun l hdead => ?_) fun l hfree => holdFree_append rfl (fun g hg => ?_) hfree
  · obtain ⟨row, hrow, hterminal⟩ := hdead
    rcases Table.getElem?_append_one_some hrow with hold | ⟨-, rfl⟩
    · exact ⟨row, hold, hterminal⟩
    · unfold Loan.application at hterminal
      cases requiresGuarantors with
      | true => cases hterminal
      | false => cases hterminal
  · cases requiresGuarantors with
    | false => exact absurd hg List.not_mem_nil
    | true =>
      obtain ⟨item, -, rfl⟩ := List.mem_map.mp hg
      rfl

/-! ## 6. The offset -/

theorem sumM_forM {α : Type} {f : α → Tx Nat} {items : List α} {n : Nat}
    (h : Yields (sumM f items) db n db') :
    Yields (items.forM fun a => do let _ ← f a) db () db' := by
  induction items generalizing db n with
  | nil => exact yields_pure.mpr ⟨rfl, (yields_pure.mp h).2⟩
  | cons a items ih =>
    simp only [sumM, yields_bind, yields_pure] at h
    obtain ⟨_, mid, hfirst, _, _, hrest, -, rfl⟩ := h
    exact yields_bind.mpr ⟨(), mid, yields_bind.mpr ⟨_, _, hfirst, yields_pure.mpr ⟨rfl, rfl⟩⟩,
      ih hrest⟩

theorem forfeitureReference_inj {tenantId attempt : String} {accountId accountId' : Nat}
    (h : guarantorForfeitureReference tenantId loanId accountId attempt =
      guarantorForfeitureReference tenantId loanId accountId' attempt) : accountId = accountId' := by
  have htext : ∀ id, guarantorForfeitureReference tenantId loanId id attempt =
      "GUAR_FORFEIT-" ++ tenantId ++ "-" ++ toString loanId ++ "-" ++ toString id ++ "-" ++ attempt :=
    fun _ => rfl
  rw [htext, htext, String.append_left_inj, String.append_left_inj, String.append_right_inj] at h
  exact toString_inj h

/-- The offset takes something from the guarantor of the row. -/
def Forfeits (attempt : String) (db : Db) (row : Nat × LoanGuarantor) : Prop :=
  ∃ id a, db.activeAccount row.2.memberId .bosa = some (id, a) ∧ 0 < row.2.forfeitable a ∧
    db.transactionByReference
      (guarantorForfeitureReference db.tenantId row.2.loanId id attempt) = none

theorem forfeits_row {attempt : String} {row : Nat × LoanGuarantor} :
    db.forfeits attempt row.2 = true ↔ row.2.status = .accepted ∧ row.2.holdReleasedAt = none ∧
      Forfeits attempt db row := by
  unfold Db.forfeits Forfeits
  rw [Bool.and_eq_true, Bool.and_eq_true, beq_iff_eq, Option.isNone_iff_eq_none, Option.any_eq_true,
    and_assoc]
  refine and_congr_right fun _ => and_congr_right fun _ => ?_
  constructor
  · rintro ⟨⟨id, a⟩, hacc, htakes⟩
    obtain ⟨hpos, hnew⟩ := Bool.and_eq_true_iff.mp htakes
    exact ⟨id, a, hacc, of_decide_eq_true hpos, Option.isNone_iff_eq_none.mp hnew⟩
  · rintro ⟨id, a, hacc, hpos, hnew⟩
    refine ⟨(id, a), hacc, Bool.and_eq_true_iff.mpr ⟨decide_eq_true hpos, ?_⟩⟩
    rw [hnew]
    rfl

theorem forfeits_kept {now : Int} {loanNumber attempt : String} {row later : Nat × LoanGuarantor}
    {n : Nat} (hsame : later.2.loanId = loanId)
    (hne : row.2.memberId ≠ later.2.memberId) (hP : Forfeits attempt db later)
    (h : Yields (forfeitGuarantor now loanId loanNumber attempt row) db n db') :
    Forfeits attempt db' later := by
  rcases forfeitGuarantor_cases h with ⟨rfl, -, -⟩ | ⟨id, a, t, hacc, -, -, -, -, href, hbooked⟩
  · exact hP
  obtain ⟨id', a', hacc', hpos, hnew⟩ := hP
  refine ⟨id', a', ?_, hpos, ?_⟩
  · have hother : (db.updateAccount id (·.forfeit (row.2.forfeitable a))).activeAccount
        later.2.memberId .bosa = db.activeAccount later.2.memberId .bosa :=
      activeAccount_other hacc hne rfl
    rw [← hacc', ← hother]
    unfold Db.activeAccount
    rw [hbooked.holds.accounts]
    rfl
  · have hdiffers : (t.reference == guarantorForfeitureReference db.tenantId later.2.loanId id'
        attempt) = false := by
      rw [href, hsame]
      refine beq_false_of_ne fun heq => hne ?_
      obtain ⟨hrow, hmember, -⟩ := activeAccount_some hacc
      obtain ⟨hrow', hmember', -⟩ := activeAccount_some hacc'
      rw [forfeitureReference_inj heq] at hrow
      cases hrow.symm.trans hrow'
      exact hmember.symm.trans hmember'
    have htenant : db'.tenantId = db.tenantId := hbooked.tenantId
    have htransactions : db'.transactions = db.transactions ++ [t] := hbooked.transactions
    rw [htenant]
    unfold Db.transactionByReference at hnew ⊢
    rw [htransactions, Table.findRow_append_one, hnew, hdiffers]
    rfl

theorem forfeit_released {now : Int} {loanNumber attempt : String} {row : Nat × LoanGuarantor}
    {n : Nat} (hloan : row.2.loanId = loanId) (hP : NotHeld db row.1 ∨ Forfeits attempt db row)
    (h : Yields (forfeitGuarantor now loanId loanNumber attempt row) db n db') :
    NotHeld db' row.1 := by
  rcases forfeitGuarantor_cases h with ⟨rfl, -, hidle⟩ | ⟨id, a, t, -, -, -, -, -, -, hbooked⟩
  · rcases hP with hnot | ⟨id, a, hacc, hpos, hnew⟩
    · exact hnot
    · obtain ⟨t, ht⟩ := hidle id a hacc hpos
      rw [hloan, ht] at hnew
      cases hnew
  · intro g hg
    rw [hbooked.holds.loanGuarantors] at hg
    obtain ⟨g, -, rfl⟩ := Table.getElem?_modify_some hg
    rw [if_pos rfl]
    by_contra hheld
    rw [Bool.not_eq_false] at hheld
    cases (recover_held hheld).2

/-- The loop of an offset clears the loan, when it takes something from each guarantor with a
hold. -/
theorem forfeited_holdFree {now : Int} {loanNumber attempt : String} {total : Nat} (hk : Keyed db)
    (hclears : ∀ (id : Nat) (g : LoanGuarantor), db.loanGuarantors[id]? = some g →
      g.loanId = loanId → g.held = true → db.forfeits attempt g = true)
    (h : Yields (sumM (forfeitGuarantor now loanId loanNumber attempt)
      (db.unreleasedGuarantors loanId)) db total db') : db'.HoldFree loanId := by
  have hmoved : db.OnlyFrees db' := sumM_moves (fun _ => forfeitGuarantor_frees _ _ _ _ _) _ h
  have hrows : ∀ row ∈ db.unreleasedGuarantors loanId, NotHeld db' row.1 := by
    refine forM_clears (P := fun db row => row.2.loanId = loanId ∧
        (NotHeld db row.1 ∨ Forfeits attempt db row))
      (fun row => Moves.bind' (forfeitGuarantor_frees _ _ _ _ row) fun _ => Moves.pure' ())
      (fun row _ db db' hP h => ?_) ?_ (fun row hrow => ?_) (sumM_forM h)
    · obtain ⟨_, _, hturn, hend⟩ := yields_bind.mp h
      rw [← (yields_pure.mp hend).2]
      exact forfeit_released hP.1 hP.2 hturn
    · refine (List.pairwise_map.mp (unreleased_members hk loanId)).imp ?_
      intro row later hne db db' _ hP h
      obtain ⟨_, _, hturn, hend⟩ := yields_bind.mp h
      rw [← (yields_pure.mp hend).2]
      refine ⟨hP.1, hP.2.imp (notHeld_kept (forfeitGuarantor_frees _ _ _ _ row hturn)) fun hP' => ?_⟩
      exact forfeits_kept hP.1 hne hP' hturn
    · obtain ⟨hrow, hloan, -, -⟩ := mem_unreleasedGuarantors.mp hrow
      refine ⟨hloan, ?_⟩
      cases hheld : row.2.held with
      | true => exact .inr (forfeits_row.mp (hclears row.1 row.2 hrow hloan hheld)).2.2
      | false =>
        refine .inl fun g hg => ?_
        cases hrow.symm.trans hg
        exact hheld
  refine holdFree_of hmoved fun id g hg hloan hheld => ?_
  have htakes : db.forfeits attempt (id, g).2 = true := hclears id g hg hloan hheld
  obtain ⟨hst, hnone, -⟩ := forfeits_row.mp htakes
  exact hrows (id, g) (mem_unreleasedGuarantors.mpr ⟨hg, hloan, hst, hnone⟩)

theorem forfeits_nothing {now : Int} {loanNumber attempt : String}
    {rows : List (Nat × LoanGuarantor)} {total : Nat}
    (hnone : ∀ row ∈ rows, row.2.loanId = loanId ∧ ¬ Forfeits attempt db row)
    (h : Yields (sumM (forfeitGuarantor now loanId loanNumber attempt) rows) db total db') :
    total = 0 := by
  induction rows generalizing total with
  | nil => exact (yields_pure.mp h).1.symm
  | cons row rows ih =>
    simp only [sumM, yields_bind, yields_pure] at h
    obtain ⟨n, mid, hfirst, m, _, hrest, htotal, rfl⟩ := h
    obtain ⟨hloan, hno⟩ := hnone row List.mem_cons_self
    rcases forfeitGuarantor_cases hfirst with ⟨rfl, rfl, -⟩ | ⟨id, a, t, hacc, hnew, hpos, -⟩
    · have hm := ih (fun later hlater => hnone later (List.mem_cons_of_mem _ hlater)) hrest
      rw [← htotal, hm]
    · exact absurd ⟨id, a, hacc, hpos, hloan.symm ▸ hnew⟩ hno

theorem offset_settles {now : Int} {jobId : Option String} {n : Nat} (hk : Keyed db)
    (hguard : db.clearsHolds (.offset now loanId jobId) = true)
    (h : Yields (offsetLoan now loanId jobId) db n db') : db.Settles db' := by
  simp only [offsetLoan, yields_bind, yields_get, yields_uuidv4] at h
  obtain ⟨_, _, ⟨rfl, rfl⟩, _, _, ⟨rfl, rfl⟩, h⟩ := h
  have hdrawn : db.OnlyFrees { db with uuid := db.uuid + 1 } := onlyFrees_same rfl
  split at h
  · rw [← (yields_pure.mp h).2]
    exact settles_same rfl rfl
  next loan hfound =>
  obtain ⟨hloan, hoffsettable⟩ := Option.filter_eq_some_iff.mp hfound
  obtain ⟨total, mid, hsum, h⟩ := yields_bind.mp h
  have hmoved : db.OnlyFrees mid :=
    History.trans hdrawn (sumM_moves (fun _ => forfeitGuarantor_frees _ _ _ _ _) _ hsum)
  have huuid : db.SameDebts { db with uuid := db.uuid + 1 } := ⟨rfl, rfl⟩
  have hdebts : db.SameDebts mid := History.trans huuid
    (sumM_moves (fun _ => forfeitGuarantor_moves _ _ _ _ _) _ hsum)
  rcases yields_ite.mp h with ⟨hpos, h⟩ | ⟨-, h⟩
  · simp only [yields_bind, yields_modify, yields_pure] at h
    obtain ⟨_, _, rfl, -, rfl⟩ := h
    have htakes : (db.unreleasedGuarantors loanId).any
        (fun row => db.forfeits (db.offsetAttempt jobId) row.2) = true := by
      by_contra hnone
      refine Nat.ne_of_gt hpos (forfeits_nothing (fun row hrow => ?_) hsum)
      obtain ⟨hat, hof, hst, hheld⟩ := mem_unreleasedGuarantors.mp hrow
      exact ⟨hof, fun htakes =>
        hnone (List.any_eq_true.mpr ⟨row, hrow, forfeits_row.mpr ⟨hst, hheld, htakes⟩⟩)⟩
    have hcloses : (loan.offsettable && (db.unreleasedGuarantors loanId).any
        (fun row => db.forfeits (db.offsetAttempt jobId) row.2)) = true :=
      Bool.and_eq_true_iff.mpr ⟨hoffsettable, htakes⟩
    have hfree : mid.HoldFree loanId := by
      have hkeyed : Keyed { db with uuid := db.uuid + 1 } := ⟨hk.unique, hk.loan⟩
      exact forfeited_holdFree hkeyed (fun id g hg hof hheld =>
        letsGo_row hguard hloan hcloses hg hof hheld) hsum
    have hloans : ∀ f : Loan → Loan, (mid.updateLoan loanId f).loans = db.loans.modify loanId f :=
      fun f => by rw [Db.updateLoan, hdebts.loans]
    exact settles_write (History.trans hmoved (onlyFrees_same rfl)) (hloans _)
      fun _ _ _ => .inr hfree
  · rw [← (yields_pure.mp h).2]
    exact settles_frees hmoved hdebts.loans

/-! ## 7. Answers -/

theorem settles_loan {f : Loan → Loan} (hloans : db'.loans = db.loans.modify loanId f)
    (hother : ∀ l, l ≠ loanId → db.HoldFree l → db'.HoldFree l)
    (h : ∀ loan, db.loans[loanId]? = some loan → (f loan).status.terminal = true →
      db'.HoldFree loanId) : db.Settles db' := by
  intro l hdead hheld
  obtain ⟨loan', hrow', hterminal⟩ := hdead
  rw [hloans] at hrow'
  obtain ⟨loan, hrow, rfl⟩ := Table.getElem?_modify_some hrow'
  by_cases hl : loanId = l
  · subst hl
    rw [if_pos rfl] at hterminal
    exact absurd (h loan hrow hterminal) hheld
  · rw [if_neg hl] at hterminal
    exact ⟨⟨loan, hrow, hterminal⟩, fun hfree => hheld (hother l (Ne.symm hl) hfree)⟩

theorem placed_rows {memberId amount : Nat} {ty : AccountType} {u : Unit}
    (h : Yields (placeGuarantorHolds memberId amount ty) db u db') :
    db'.loanGuarantors = db.loanGuarantors ∧ db'.loans = db.loans ∧
      db'.loanProducts = db.loanProducts := by
  obtain ⟨-, id, a, -, -, rfl⟩ := placeGuarantorHolds_cases h
  exact ⟨rfl, rfl, rfl⟩

/-- The loop of a refused application clears the loan, when each of its holds is of an accepted
guarantee. -/
theorem refused_holdFree {now : Int} {ty : AccountType}
    (hclears : ∀ (id : Nat) (g : LoanGuarantor), db.loanGuarantors[id]? = some g →
      g.loanId = loanId → g.held = true → g.status = .accepted)
    (h : Yields ((db.guarantorsOf loanId [.accepted]).forM (releaseAcceptedHold now ty)) db () db') :
    db'.HoldFree loanId := by
  refine holdFree_of (Moves.forM' (releaseAcceptedHold_frees now ty) _ h) fun id g hg hloan hheld =>
    accepted_released h (id, g) (mem_guarantorsOf.mpr ⟨hg, hloan, ?_⟩)
  rw [hclears id g hg hloan hheld]
  rfl

theorem respond_settles {now : Int} {args : DecisionArgs} {s : LoanStatus}
    (hguard : db.clearsHolds (.respond now args) = true)
    (h : Yields (applyDecision now args) db s db') : db.Settles db' := by
  obtain ⟨g, loan, product, held, hr, happly⟩ := applyDecision_cases h
  generalize hnext : args.nextStatus now g.invitedAt = next at hr happly
  -- the hold that an acceptance places is on an account only
  obtain ⟨hrows, hloans, hproducts⟩ : held.loanGuarantors = db.loanGuarantors ∧
      held.loans = db.loans ∧ held.loanProducts = db.loanProducts := by
    by_cases haccepted : next = .accepted
    · exact placed_rows (hr.placed (hnext.trans haccepted))
    · rw [hr.kept fun heq => haccepted (hnext.symm.trans heq)]
      exact ⟨rfl, rfl, rfl⟩
  have hclears : db.answerClears now args g = true := by
    have hall := hguard
    unfold Db.clearsHolds at hall
    dsimp only at hall
    rw [hr.row, Option.all_some, hr.ofLoan, hr.pending, bne_self_eq_false, bne_self_eq_false,
      Bool.false_or, Bool.false_or] at hall
    exact hall
  obtain ⟨hclosed, hrefused⟩ := Bool.and_eq_true_iff.mp hclears
  rw [hnext] at hclosed hrefused
  generalize hstart : db.updateGuarantor args.guarantorId (·.answered now next) = start
    at hclosed hrefused
  generalize hanswered : held.updateGuarantor args.guarantorId (·.answered now next) = answered at happly
  have hsame : answered.loanGuarantors = start.loanGuarantors := by
    rw [← hanswered, ← hstart, Db.updateGuarantor, Db.updateGuarantor, hrows]
  have hstartLoans : start.loans = db.loans := by rw [← hstart, Db.updateGuarantor]
  have hanswerLoans : answered.loans = db.loans := by
    rw [← hanswered, Db.updateGuarantor, hloans]
  have hrow : start.loans[args.loanId]? = some loan := by
    rw [hstartLoans]
    exact hr.loan_eq
  -- the guarantees of the other loans are as they were
  have hother : ∀ l, l ≠ args.loanId → db.HoldFree l → answered.HoldFree l := by
    intro l hl hfree k g' hg' hof
    rw [hsame, ← hstart] at hg'
    obtain ⟨m, hm, rfl⟩ := Table.getElem?_modify_some hg'
    by_cases hk : args.guarantorId = k
    · subst hk
      cases hr.row.symm.trans hm
      rw [if_pos rfl] at hof
      exact absurd (hof.symm.trans hr.ofLoan) hl
    · rw [if_neg hk] at hof ⊢
      exact hfree k m hm hof
  rcases applyLoanState_cases happly with ⟨-, rfl⟩ | ⟨hwaits, -, rfl⟩ |
    ⟨hwaits, hmet, hrejects, mid, hloop, rfl⟩
  · have hid : db'.loans = db.loans.modify args.loanId id := by rw [hanswerLoans, List.modify_id]
    refine settles_loan hid hother fun row hfound hterminal k g' hg' hof => ?_
    cases hr.loan_eq.symm.trans hfound
    rw [hsame] at hg'
    exact letsGo_holdFree hclosed hrow hterminal k g' hg' hof
  · refine settles_loan (by rw [Db.updateLoan, hanswerLoans]) hother fun row hfound hterminal => ?_
    cases hr.loan_eq.symm.trans hfound
    rw [if_pos hwaits] at hterminal
    cases hterminal
  · have hloop' : answered.OnlyFrees mid :=
      Moves.forM' (fun _ => releaseAcceptedHold_frees _ _ _) _ hloop
    have hdebts : answered.SameDebts mid :=
      Moves.forM' (fun _ => releaseAcceptedHold_moves _ _ _) _ hloop
    have htally : answered.coverageTally args.loanId = start.coverageTally args.loanId := by
      unfold Db.coverageTally Db.guarantorsOf
      rw [hsame]
    have hrefuses : start.refuses args.loanId next loan = true := by
      unfold Db.refuses
      have hproduct : start.loanProducts[loan.loanProductId]? = some product := by
        rw [← hstart]
        exact hr.product_eq
      rw [hwaits, hproduct, Option.any_some, ← htally, hmet, hrejects]
      rfl
    have hfree : mid.HoldFree args.loanId := by
      refine refused_holdFree (fun k g' hg' hof hheld => ?_) hloop
      rw [hsame] at hg'
      exact beq_iff_eq.mp (letsGo_row hrefused hrow hrefuses hg' hof hheld)
    have hwritten : ∀ f : Loan → Loan,
        (mid.updateLoan args.loanId f).loans = db.loans.modify args.loanId f :=
      fun f => by rw [Db.updateLoan, hdebts.loans, hanswerLoans]
    exact settles_loan (hwritten _) (fun l hl hkept => holdFree_kept hloop' (hother l hl hkept))
      fun _ _ _ => hfree

/-! ## 8. Expiries -/

/-- What the expiry of one waiting guarantee does: its hold is gone, the others keep their columns
but for the releases, and a loan that waited is closed and lets go of the accepted guarantees. -/
structure Expires (row : Nat × LoanGuarantor) (db db' : Db) : Prop where
  frees : db.OnlyFrees db'
  gone : NotHeld db' row.1
  others : ∀ (id : Nat) (g : LoanGuarantor), id ≠ row.1 → db.loanGuarantors[id]? = some g →
    ∃ g', db'.loanGuarantors[id]? = some g' ∧ g'.invitation = g.invitation
  loans : db'.loans = db.loans ∨ ∃ loan, db.loans[row.2.loanId]? = some loan ∧
    loan.status = .pendingGuarantors ∧
    db'.loans = db.loans.modify row.2.loanId (fun l =>
      if l.status = .pendingGuarantors then { l with status := .rejectedGuarantorDecline } else l) ∧
    ∀ (id : Nat) (g : LoanGuarantor), id ≠ row.1 → db.loanGuarantors[id]? = some g →
      g.loanId = row.2.loanId → g.status = .accepted → NotHeld db' id

/-- The guarantee of the row still waits as it was read. -/
def Waits (db : Db) (row : Nat × LoanGuarantor) : Prop :=
  row.2.status = .pending ∧ ∃ g, db.loanGuarantors[row.1]? = some g ∧
    g.invitation = row.2.invitation

theorem expire_not_held {g : LoanGuarantor} {now : Int} (hst : g.status = .pending) :
    (g.expire now g.holdPlacedAt.isSome).held = false := by
  unfold LoanGuarantor.expire LoanGuarantor.held
  rw [if_pos hst]
  cases hplaced : g.holdPlacedAt with
  | none => rfl
  | some at' => rfl

theorem expireGuarantor_does {now : Int} {row : Nat × LoanGuarantor} {ty : AccountType} {u : Unit}
    (hw : Waits db row) (h : Yields (expireGuarantor now row ty) db u db') : Expires row db db' := by
  obtain ⟨hpending, g, hg, hinvitation⟩ := hw
  obtain ⟨freed, hplaced, hunplaced, htail⟩ := expireGuarantor_cases h
  have hst : g.status = .pending :=
    (congrArg LoanGuarantor.status hinvitation : g.invitation.status = row.2.invitation.status).trans
      hpending
  have hat : row.2.holdPlacedAt = g.holdPlacedAt :=
    (congrArg LoanGuarantor.holdPlacedAt hinvitation :
      g.invitation.holdPlacedAt = row.2.invitation.holdPlacedAt).symm
  rw [hat] at htail hplaced hunplaced
  -- freeing the savings touches neither the guarantors nor the loans
  have hfreed : freed.loanGuarantors = db.loanGuarantors ∧ freed.loans = db.loans := by
    cases hp : g.holdPlacedAt with
    | none =>
      rw [hunplaced hp]
      exact ⟨rfl, rfl⟩
    | some placedAt => exact unfrozen_rows (hplaced (by rw [hp]; rfl)).2
  generalize hexpired : freed.updateGuarantor row.1 (·.expire now g.holdPlacedAt.isSome) = expired
    at htail
  have hrow : freed.loanGuarantors[row.1]? = some g := by rw [hfreed.1, hg]
  have hfrees : db.OnlyFrees expired := by
    rw [← hexpired]
    refine History.trans (onlyFrees_same hfreed.1) (onlyFrees_update fun m hm hheld => ?_)
    cases hrow.symm.trans hm
    rw [expire_not_held hst] at hheld
    cases hheld
  have hgone : NotHeld expired row.1 := by
    rw [← hexpired]
    intro m hm
    rw [Db.updateGuarantor, Table.getElem?_modify_self hrow] at hm
    cases hm
    exact expire_not_held hst
  have hothers : ∀ (id : Nat) (m : LoanGuarantor), id ≠ row.1 → db.loanGuarantors[id]? = some m →
      expired.loanGuarantors[id]? = some m := by
    intro id m hne hm
    rw [← hexpired, Db.updateGuarantor, Table.getElem?_modify_other (Ne.symm hne), hfreed.1, hm]
  have hloans : expired.loans = db.loans := by rw [← hexpired, Db.updateGuarantor, hfreed.2]
  -- the loan stays, or it is rejected and every hold that was accepted for it is released
  rcases rejectForTimeout_cases htail with ⟨-, rfl⟩ | ⟨loan, mid, hloan, hwaits, hloop, rfl⟩
  · exact ⟨hfrees, hgone, fun id m hne hm => ⟨m, hothers id m hne hm, rfl⟩, .inl hloans⟩
  have hmoved : expired.OnlyFrees mid :=
    Moves.forM' (fun _ => releaseAcceptedHold_frees _ _ _) _ hloop
  have hdebts : expired.SameDebts mid :=
    Moves.forM' (fun _ => releaseAcceptedHold_moves _ _ _) _ hloop
  have hinvitations : expired.SameInvitations mid :=
    Moves.forM' (fun _ => releaseAcceptedHold_moves _ _ _) _ hloop
  refine ⟨History.trans hfrees hmoved, notHeld_kept hmoved hgone, fun id m hne hm => ?_, .inr
    ⟨loan, hloans ▸ hloan, hwaits, by rw [Db.updateLoan, hdebts.loans, hloans],
      fun id m hne hm hof haccepted => ?_⟩⟩
  · have hmap : (mid.loanGuarantors.map LoanGuarantor.invitation)[id]? = some m.invitation := by
      rw [hinvitations, List.getElem?_map, hothers id m hne hm]
      rfl
    rw [List.getElem?_map] at hmap
    exact Option.map_eq_some_iff.mp hmap
  · refine accepted_released hloop (id, m)
      (mem_guarantorsOf.mpr ⟨hothers id m hne hm, hof, ?_⟩)
    rw [haccepted]
    rfl

/-- The guarantees `rows` expire one after the other. A hold that is left on a closed loan was there
before, and is none of theirs. -/
theorem expiries_settle {now : Int} {ty : Nat × LoanGuarantor → AccountType}
    {rows : List (Nat × LoanGuarantor)} (hnodup : (rows.map Prod.fst).Nodup)
    (hwaits : ∀ row ∈ rows, Waits db row)
    (hclears : ∀ row ∈ rows, ∀ loan, db.loans[row.2.loanId]? = some loan →
      loan.status = .pendingGuarantors → ∀ (id : Nat) (g : LoanGuarantor),
        db.loanGuarantors[id]? = some g → g.loanId = row.2.loanId → g.held = true →
          g.status = .accepted ∨ id ∈ rows.map Prod.fst)
    (h : Yields (rows.forM fun row => expireGuarantor now row (ty row)) db () db')
    (hdead : db'.Dead loanId) (hheld : ¬ db'.HoldFree loanId) :
    db.Dead loanId ∧ ∃ (id : Nat) (g : LoanGuarantor), db.loanGuarantors[id]? = some g ∧
      g.loanId = loanId ∧ g.held = true ∧ id ∉ rows.map Prod.fst := by
  induction rows generalizing db with
  | nil =>
    obtain ⟨-, rfl⟩ := yields_pure.mp h
    refine ⟨hdead, ?_⟩
    by_contra hnone
    refine hheld fun id g hg hof => ?_
    by_contra hh
    rw [Bool.not_eq_false] at hh
    exact hnone ⟨id, g, hg, hof, hh, List.not_mem_nil⟩
  | cons row rows ih =>
    obtain ⟨hnew, hnodup⟩ := List.nodup_cons.mp hnodup
    obtain ⟨_, mid, hfirst, hrest⟩ := yields_bind.mp h
    have hexpires := expireGuarantor_does (hwaits row List.mem_cons_self) hfirst
    have hmidWaits : ∀ later ∈ rows, Waits mid later := by
      intro later hlater
      obtain ⟨hpending, g, hg, hinvitation⟩ := hwaits later (List.mem_cons_of_mem _ hlater)
      have hne : later.1 ≠ row.1 := fun heq => hnew (heq ▸ List.mem_map_of_mem hlater)
      obtain ⟨g', hg', hsame⟩ := hexpires.others later.1 g hne hg
      exact ⟨hpending, g', hg', hsame.trans hinvitation⟩
    -- a row that is held after the first turn was held before, and is not the first
    have hback : ∀ (id : Nat) (g' : LoanGuarantor), mid.loanGuarantors[id]? = some g' →
        g'.held = true → id ≠ row.1 ∧ ∃ g, db.loanGuarantors[id]? = some g ∧ g.held = true ∧
          g.loanId = g'.loanId ∧ g.status = g'.status := by
      intro id g' hg' hh
      refine ⟨fun heq => ?_, hexpires.frees id g' hg' hh⟩
      subst heq
      rw [hexpires.gone g' hg'] at hh
      cases hh
    have hmidClears : ∀ later ∈ rows, ∀ loan, mid.loans[later.2.loanId]? = some loan →
        loan.status = .pendingGuarantors → ∀ (id : Nat) (g : LoanGuarantor),
          mid.loanGuarantors[id]? = some g → g.loanId = later.2.loanId → g.held = true →
            g.status = .accepted ∨ id ∈ rows.map Prod.fst := by
      intro later hlater loan hloan hst id g' hg' hof hh
      obtain ⟨hne, g, hg, hheldBefore, hsame, hstatus⟩ := hback id g' hg' hh
      have hbefore : ∃ old, db.loans[later.2.loanId]? = some old ∧
          old.status = .pendingGuarantors := by
        rcases hexpires.loans with hloans | ⟨old, -, -, hloans, -⟩
        · exact ⟨loan, hloans ▸ hloan, hst⟩
        · rw [hloans] at hloan
          obtain ⟨old, hold, rfl⟩ := Table.getElem?_modify_some hloan
          refine ⟨old, hold, ?_⟩
          by_cases heq : row.2.loanId = later.2.loanId
          · rw [if_pos heq] at hst
            split at hst
            · cases hst
            · exact hst
          · rw [if_neg heq] at hst
            exact hst
      obtain ⟨old, hold, holdSt⟩ := hbefore
      rw [← hstatus]
      rcases hclears later (List.mem_cons_of_mem _ hlater) old hold holdSt id g hg (hsame.trans hof)
        hheldBefore with haccepted | hmem
      · exact .inl haccepted
      · rw [List.map_cons, List.mem_cons] at hmem
        exact .inr (hmem.resolve_left hne)
    obtain ⟨hmidDead, id, g', hg', hof, hh, hout⟩ := ih hnodup hmidWaits hmidClears hrest
    obtain ⟨hne, g, hg, hheldBefore, hsame, hstatus⟩ := hback id g' hg' hh
    have hout' : id ∉ (row :: rows).map Prod.fst := by
      rw [List.map_cons, List.mem_cons, not_or]
      exact ⟨hne, hout⟩
    refine ⟨?_, id, g, hg, hsame.trans hof, hheldBefore, hout'⟩
    obtain ⟨loan', hloan', hterminal⟩ := hmidDead
    rcases hexpires.loans with hloans | ⟨old, hold, hst, hloans, hreleased⟩
    · exact ⟨loan', hloans ▸ hloan', hterminal⟩
    rw [hloans] at hloan'
    obtain ⟨loan, hloan, rfl⟩ := Table.getElem?_modify_some hloan'
    by_cases heq : row.2.loanId = loanId
    · -- the loan is closed in this turn, so the hold was let go
      exfalso
      rcases hclears row List.mem_cons_self old hold hst id g hg ((hsame.trans hof).trans heq.symm)
        hheldBefore with haccepted | hmem
      · rw [hreleased id g hne hg ((hsame.trans hof).trans heq.symm) haccepted g' hg'] at hh
        cases hh
      · exact hout' hmem
    · rw [if_neg heq] at hterminal
      exact ⟨loan, hloan, hterminal⟩

theorem lapse_settles {now : Int} {ty : Nat × LoanGuarantor → AccountType}
    {rows : List (Nat × LoanGuarantor)} (hnodup : (rows.map Prod.fst).Nodup)
    (hrows : ∀ row ∈ rows, db.loanGuarantors[row.1]? = some row.2 ∧ row.2.status = .pending)
    (hguard : db.lapseClears rows = true)
    (h : Yields (rows.forM fun row => expireGuarantor now row (ty row)) db () db') :
    db.Settles db' := by
  intro loanId hdead hheld
  have hclears : ∀ row ∈ rows, ∀ loan, db.loans[row.2.loanId]? = some loan →
      loan.status = .pendingGuarantors → ∀ (id : Nat) (g : LoanGuarantor),
        db.loanGuarantors[id]? = some g → g.loanId = row.2.loanId → g.held = true →
          g.status = .accepted ∨ id ∈ rows.map Prod.fst := by
    intro row hrow loan hloan hst id g hg hof hh
    have hclear := letsGo_row (List.all_eq_true.mp hguard row hrow) hloan (beq_iff_eq.mpr hst) hg hof hh
    rcases Bool.or_eq_true_iff.mp hclear with haccepted | hmem
    · exact .inl (beq_iff_eq.mp haccepted)
    · obtain ⟨swept, hswept, heq⟩ := List.any_eq_true.mp hmem
      exact .inr (List.mem_map.mpr ⟨swept, hswept, beq_iff_eq.mp heq⟩)
  have hwaits : ∀ row ∈ rows, Waits db row := fun row hrow =>
    ⟨(hrows row hrow).2, row.2, (hrows row hrow).1, rfl⟩
  obtain ⟨hbefore, id, g, hg, hof, hh, -⟩ :=
    expiries_settle hnodup hwaits hclears h hdead hheld
  refine ⟨hbefore, fun hfree => ?_⟩
  rw [hfree id g hg hof] at hh
  cases hh

theorem expireSpecific_settles {now : Int} {guarantorId : Nat} {u : Unit}
    (hguard : db.clearsHolds (.expireGuarantor now guarantorId) = true)
    (h : Yields (expireSpecificGuarantor now guarantorId) db u db') : db.Settles db' := by
  simp only [expireSpecificGuarantor, yields_bind, yields_get] at h
  obtain ⟨_, _, ⟨rfl, rfl⟩, h⟩ := h
  split at h
  · rw [← (yields_pure.mp h).2]
    exact settles_refl db
  next g hfound =>
  obtain ⟨hg, hst⟩ := Option.filter_eq_some_iff.mp hfound
  have hst : g.status = .pending := of_decide_eq_true hst
  have hlapse : db.lapseClears [(guarantorId, g)] = true := by
    have hall := hguard
    unfold Db.clearsHolds at hall
    dsimp only at hall
    rw [hg, Option.all_some, hst, bne_self_eq_false, Bool.false_or] at hall
    exact hall
  have hloop : Yields ([(guarantorId, g)].forM fun row =>
      expireGuarantor now row (db.collateralTypeOf row.2.loanId)) db () db' :=
    yields_bind.mpr ⟨(), db', h, yields_pure.mpr ⟨rfl, rfl⟩⟩
  have hnodup : ([(guarantorId, g)].map Prod.fst).Nodup := List.nodup_singleton guarantorId
  refine lapse_settles hnodup (fun row hrow => ?_) hlapse hloop
  rw [List.mem_singleton.mp hrow]
  exact ⟨hg, hst⟩

theorem sweep_settles {now cutoff : Int} {u : Unit}
    (hguard : db.clearsHolds (.expirySweep now cutoff) = true)
    (h : Yields (expireTenantGuarantors now cutoff) db u db') : db.Settles db' := by
  simp only [expireTenantGuarantors, yields_bind, yields_get] at h
  obtain ⟨_, _, ⟨rfl, rfl⟩, h⟩ := h
  refine lapse_settles Table.nodup_selectRows (fun row hrow => ?_) hguard h
  obtain ⟨hat, hp⟩ := Table.mem_selectRows.mp hrow
  exact ⟨hat, beq_iff_eq.mp (Bool.and_eq_true_iff.mp hp).1⟩

/-! ## 9. Runs -/

theorem step_settles {op : Op} (hk : Keyed db) (hguard : db.clearsHolds op = true) :
    db.Settles (step db op) := by
  rcases step_cases db op with ⟨u, h⟩ | hsame
  · cases op with
    | postEntry p => exact (Moves.bind' (postEntry_moves p) fun _ => Moves.pure' ()) h
    | transfer p => exact (Moves.bind' (postInternalTransfer_moves p) fun _ => Moves.pure' ()) h
    | reverse id reason actorId =>
      exact (Moves.bind' (reverseTransaction_moves id reason actorId) fun _ => Moves.pure' ()) h
    | leg p => exact (Moves.bind' (postGlOnlyLegEntry_moves p) fun _ => Moves.pure' ()) h
    | repay p =>
      obtain ⟨r, mid, hy, hend⟩ := yields_bind.mp h
      rw [← (yields_pure.mp hend).2]
      exact repay_settles hk hguard hy
    | processRepayment now input =>
      obtain ⟨r, mid, hy, hend⟩ := yields_bind.mp h
      rw [← (yields_pure.mp hend).2]
      exact processRepayment_settles hguard hy
    | accrue seen loanId date => exact accrue_settles h
    | createApplication now loan requires guarantors =>
      obtain ⟨r, mid, hy, hend⟩ := yields_bind.mp h
      rw [← (yields_pure.mp hend).2]
      exact createApplication_settles hy
    | inviteGuarantor seen now loanId nominated item => exact inviteGuarantor_settles h
    | finishInvite seen loanId nominated => exact finishInvite_settles h
    | respond now args =>
      obtain ⟨r, mid, hy, hend⟩ := yields_bind.mp h
      rw [← (yields_pure.mp hend).2]
      exact respond_settles hguard hy
    | expireGuarantor now guarantorId => exact expireSpecific_settles hguard h
    | expirySweep now cutoff => exact sweep_settles hguard h
    | reject now loanId => exact reject_settles hk hguard h
    | approve seen loanId => exact approve_settles h
    | updateStatus seen now loanId target reason => exact updateStatus_settles hk hguard h
    | signOff loanId approverId role approved => exact signOff_settles hguard h
    | disburse seen params => exact disburse_settles h
    | recover now loanId amount actorId =>
      obtain ⟨r, mid, hy, hend⟩ := yields_bind.mp h
      rw [← (yields_pure.mp hend).2]
      exact recover_settles hy
    | offset now loanId jobId =>
      obtain ⟨r, mid, hy, hend⟩ := yields_bind.mp h
      rw [← (yields_pure.mp hend).2]
      exact offset_settles hk hguard hy
    | b2cTimeout mpesaTxId => exact b2cTimeout_settles h
  · rw [hsame]
    exact settles_refl db

end HoldLemmas

open HoldLemmas

/-- From a tenant without guarantees: no guarantee of a closed loan has an active hold in any state
of a run, when every operation that closes a loan can let go of each of its holds and no hold is
placed on a closed loan. -/
theorem no_hold_on_dead_loan {db : Db} {ops : List Op} (hopening : db.loanGuarantors = [])
    (h : Machine.Guarded step (fun db op => db.clearsHolds op = true) db ops) :
    ∀ g ∈ (db.after ops).loanGuarantors, g.held = true →
      ∀ loan, (db.after ops).loans[g.loanId]? = some loan → loan.status.terminal = false := by
  have hkeyed : Keyed db := by
    refine ⟨?_, fun g hg => ?_⟩
    · rw [hopening]
      exact List.nodup_nil
    · rw [hopening] at hg
      exact absurd hg List.not_mem_nil
  have hinvariant : Keyed (db.after ops) ∧ ∀ loanId, (db.after ops).Dead loanId →
      (db.after ops).HoldFree loanId := by
    refine Machine.run_induct (I := fun db => Keyed db ∧ ∀ loanId, db.Dead loanId →
      db.HoldFree loanId) (fun db op hI hguard => ?_) ⟨hkeyed, fun loanId _ id g hg => ?_⟩ h
    · refine ⟨step_keyed db op hI.1, fun loanId hdead => ?_⟩
      by_contra hheld
      obtain ⟨hbefore, hnot⟩ := step_settles hI.1 hguard loanId hdead hheld
      exact hnot (hI.2 loanId hbefore)
    · rw [hopening] at hg
      cases hg
  intro g hg hheld loan hloan
  by_contra hterminal
  rw [Bool.not_eq_false] at hterminal
  obtain ⟨id, hid⟩ := List.mem_iff_getElem?.mp hg
  rw [hinvariant.2 g.loanId ⟨loan, hloan, hterminal⟩ id g hid rfl] at hheld
  cases hheld

/-- Nobody has borrowed yet; member 1 has KES 50 in the FOSA account. -/
def exCollateral : Db :=
  { exSacco with
    accounts := exSacco.accounts.modify 2 fun a => { a with balance := 500000 }
    loans := [] }

def exAccepts : Op :=
  .respond 0
    { loanId := 0
      guarantorId := 0
      action := .accept
      digitalAcknowledgment := true
      source := .member }

/-- Member 0 borrows KES 100, for which member 1 guarantees KES 50. -/
def exGuaranteedLoan : List Op :=
  let applied := exCollateral.after [.createApplication 0 exLoan true [⟨1, 500000⟩]]
  let accepted := applied.after [exAccepts]
  let approved := accepted.after [.approve accepted 0]
  let payout : DisburseParams :=
    { loanId := 0
      disbursedBy := "m"
      disbursedAt := 0
      dueDate := msPerDay
      schedule := [{ dueDate := msPerDay, principalDue := 1000000, interestDue := 0 }] }
  [.createApplication 0 exLoan true [⟨1, 500000⟩], exAccepts, .approve accepted 0,
    .disburse approved payout]

/-- KES 100 from the FOSA account. -/
def exSavingsRepayment : Op :=
  .repay
    { loanId := 0
      amountKes := 1000000
      processedBy := "A"
      idempotencyKey := some "k"
      minute := "m"
      now := 0 }

/-- KES 100 over M-Pesa. -/
def exMpesaRepayment : Op :=
  .processRepayment 0
    { reference := "M-9", amount := some 100, processedBy := "SYSTEM", loanId := some 0 }

theorem no_hold_on_dead_loan_repaid :
    (exCollateral.after (exGuaranteedLoan ++ [exSavingsRepayment])).statuses = [.fullyPaid] ∧
      ∀ g ∈ (exCollateral.after (exGuaranteedLoan ++ [exSavingsRepayment])).loanGuarantors,
        g.held = true → ∀ loan,
          (exCollateral.after (exGuaranteedLoan ++ [exSavingsRepayment])).loans[g.loanId]? =
            some loan → loan.status.terminal = false :=
  ⟨by decide +kernel, no_hold_on_dead_loan rfl (by decide +kernel)⟩

/-- The loan is paid off over M-Pesa, or it is rejected before its guarantor accepts: the hold is
active, and the savings are frozen. -/
theorem closed_loans_hold :
    ((exCollateral.after (exGuaranteedLoan ++ [exMpesaRepayment])).statuses = [.fullyPaid] ∧
      (exCollateral.after (exGuaranteedLoan ++ [exMpesaRepayment])).loanGuarantors.map
        (fun g => (g.loanId, g.held)) = [(0, true)] ∧
      (exCollateral.after (exGuaranteedLoan ++ [exMpesaRepayment])).accounts[2]?.map
        (·.frozenSavings) = some 500000) ∧
    (exCollateral.after [.createApplication 0 exLoan true [⟨1, 500000⟩], .reject 0 0,
        exAccepts]).statuses = [.rejected] ∧
      (exCollateral.after [.createApplication 0 exLoan true [⟨1, 500000⟩], .reject 0 0,
        exAccepts]).loanGuarantors.map (fun g => (g.loanId, g.held)) = [(0, true)] ∧
      (exCollateral.after [.createApplication 0 exLoan true [⟨1, 500000⟩], .reject 0 0,
        exAccepts]).accounts[2]?.map (·.frozenSavings) = some 500000 := by
  decide +kernel

end BebaSacco
