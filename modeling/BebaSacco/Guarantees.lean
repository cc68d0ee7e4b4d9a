import BebaSacco.Repayment

/-! # Guarantees and their holds

Inviting guarantors, their responses, the expiry sweep and the two ways of
recovering a default from them. Accepting a guarantee freezes savings of the
guarantor's account; every other path re-derives how much to unfreeze.
-/

namespace BebaSacco

open Txn

/-! ## 1. `GuarantorValidationService` -/

/-- What is neither locked nor frozen. -/
def Account.available (account : Account) : Int :=
  account.balance - account.lockedBalance - account.frozenSavings

structure Nomination where
  memberId : Nat
  guaranteedAmount : Nat
  deriving DecidableEq, Repr

/-- Every amount must be positive, and nobody is nominated twice: `seen` are the members
before. -/
def normalizeGuarantors (seen : List Nat) : List Nomination → Except Err Unit
  | [] => .ok ()
  | guarantor :: guarantors =>
    if seen.contains guarantor.memberId then
      .error (.badRequest (s!"DUPLICATE_GUARANTOR: guarantor {guarantor.memberId} was nominated " ++
        "more than once"))
    else if guarantor.guaranteedAmount = 0 then
      .error (.badRequest (s!"INVALID_GUARANTEE_AMOUNT: guarantor {guarantor.memberId} amount " ++
        "must be greater than zero"))
    else normalizeGuarantors (guarantor.memberId :: seen) guarantors

/-- Freezes `guaranteedAmount` of the member's savings. -/
def placeGuarantorHolds (memberId guaranteedAmount : Nat) (accountType : AccountType) :
    Tx Unit := do
  fromExcept (normalizeGuarantors [] [{ memberId, guaranteedAmount }])
  let db ← get
  let (accountId, account) ← required (db.activeAccount memberId accountType)
    (.badRequest s!"GUARANTOR_ACCOUNT_NOT_FOUND: guarantor {memberId} has no active account")
  ensure ((guaranteedAmount : Int) ≤ account.available)
    (.badRequest (s!"GUARANTOR_INSUFFICIENT_FUNDS: guarantor {memberId} available " ++
      s!"KES {toFixed2 account.available} is below guaranteed KES {toFixed2 guaranteedAmount}"))
  ensure (account.lockedBalance + (account.frozenSavings + guaranteedAmount) ≤ account.balance)
    (.conflict "Guarantor collateral changed or insufficient; please retry")
  modify (·.updateAccount accountId (·.hold guaranteedAmount))

/-- Unfreezes `guaranteedAmount` of the member's savings, or what is frozen when
that is less; nothing when the member has no such account. -/
def releaseGuarantorHolds (memberId guaranteedAmount : Nat) (accountType : AccountType) :
    Tx Unit := do
  fromExcept (normalizeGuarantors [] [{ memberId, guaranteedAmount }])
  let db ← get
  match db.activeAccount memberId accountType with
  | none => pure ()
  | some (accountId, account) =>
    let releaseAmount := min account.frozenSavings guaranteedAmount
    if releaseAmount = 0 then pure ()
    else modify (·.updateAccount accountId (·.hold (-releaseAmount)))

/-! ## 2. Inviting -/

/-- The guarantees of a loan in one of the given states. -/
def Db.guarantorsOf (db : Db) (loanId : Nat) (statuses : List GuarantorStatus) :
    List (Nat × LoanGuarantor) :=
  Table.selectRows (fun g => g.loanId == loanId && statuses.contains g.status) db.loanGuarantors

/-- The guarantee of a member for a loan; there is at most one. -/
def Db.guarantorRow (db : Db) (loanId memberId : Nat) : Option (Nat × LoanGuarantor) :=
  Table.findRow (fun g => g.loanId == loanId && g.memberId == memberId) db.loanGuarantors

def LoanStatus.guaranteesCount (status : LoanStatus) : Bool :=
  status == .active || status == .approved || status == .disbursed

def LoanStatus.circularGuarantee (status : LoanStatus) : Bool :=
  status == .pendingGuarantors || status == .pendingReview || status == .pendingApproval ||
    status.guaranteesCount

/-- Why a member cannot guarantee a loan, or `none` when it can. -/
def Db.ineligible (db : Db) (item : Nomination) (borrowerMemberId : Nat)
    (accountType : AccountType) : Option String :=
  let loanHas (p : Loan → Bool) (g : LoanGuarantor) := (db.loans[g.loanId]?.map p).getD false
  if item.memberId = borrowerMemberId then some "Member cannot guarantee their own loan"
  else
    match db.members[item.memberId]?.filter (·.isActive) with
    | none => some "Guarantor not found or inactive"
    | some guarantor =>
      if ¬ (guarantor.roleIsMember ∧ guarantor.accountStatusActive) then
        some "Guarantor must be an active approved member"
      else if ¬ guarantor.kycApproved then some "Guarantor KYC is not approved"
      else if guarantor.isBlacklisted then some "Guarantor is blacklisted"
      else if db.loanGuarantors.any (fun g => g.memberId == borrowerMemberId &&
          (g.status == .pending || g.status == .accepted) &&
          loanHas (fun l => l.memberId == item.memberId && l.status.circularGuarantee) g) then
        some ("Circular guarantee detected. This member is already guaranteeing a loan for " ++
          "the applicant.")
      else
        match db.activeAccount item.memberId accountType with
        | none => some "Guarantor has no active FOSA account"
        | some (_, account) =>
          if account.available < item.guaranteedAmount then
            some (s!"Insufficient FOSA available balance: available " ++
              s!"KES {toFixed2 account.available}, committing KES {toFixed2 item.guaranteedAmount}")
          else if db.loans.any (fun l => l.memberId == item.memberId && l.status == .defaulted) then
            some "Guarantor has a defaulted loan"
          else if db.maxConcurrentGuarantees ≤
              db.loanGuarantors.countP (fun g => g.memberId == item.memberId &&
                g.status == .accepted && loanHas (·.status.guaranteesCount) g) then
            some (s!"Guarantor has reached the maximum concurrent guarantee limit " ++
              s!"({db.maxConcurrentGuarantees})")
          else none

/-- The checks an invitation starts with. -/
def Db.invitable (db : Db) (loanId nominated : Nat) : Except Err Loan :=
  match db.loans[loanId]? with
  | none => .error (.notFound "Loan not found")
  | some loan =>
    if loan.status ≠ .draft ∧ loan.status ≠ .pendingGuarantors then
      .error (.badRequest s!"Cannot add guarantors to a loan in \"{loan.status.name}\" status")
    else
      let maxGuarantors := (db.loanProducts[loan.loanProductId]?.map (·.maxGuarantors)).getD 0
      if 0 < maxGuarantors ∧
          maxGuarantors < (db.guarantorsOf loanId [.pending, .accepted]).length + nominated then
        .error (.badRequest s!"This product allows at most {maxGuarantors} guarantor(s).")
      else .ok loan

def consentExpiryMs : Int := 72 * 60 * 60 * 1000

/-- The row of a guarantor who is asked to guarantee the loan `loanId`. -/
def Nomination.invited (item : Nomination) (now : Int) (loanId : Nat) : LoanGuarantor where
  loanId := loanId
  memberId := item.memberId
  status := .pending
  guaranteedAmount := item.guaranteedAmount
  recoveredAmount := 0
  invitedAt := now
  respondedAt := none
  expiresAt := some (now + consentExpiryMs)
  holdPlacedAt := none
  holdReleasedAt := none

/-- The row of a guarantor who is asked again. The dates of an earlier hold and
what was recovered from it stay. -/
def LoanGuarantor.reinvited (guarantor : LoanGuarantor) (now : Int) (guaranteedAmount : Nat) :
    LoanGuarantor :=
  { guarantor with
    guaranteedAmount := guaranteedAmount
    status := .pending
    invitedAt := now
    expiresAt := some (now + consentExpiryMs)
    respondedAt := none }

/-- The invitation of one guarantor: a new row, or the old row reset. -/
def upsertGuarantor (now : Int) (loanId : Nat) (item : Nomination) : Tx Unit := do
  let db ← get
  match db.guarantorRow loanId item.memberId with
  | some (id, _) => modify (·.updateGuarantor id (·.reinvited now item.guaranteedAmount))
  | none =>
    ensure (loanId < db.loans.length) (.foreignKeyViolation "loanId")
    modify fun db =>
      { db with loanGuarantors := db.loanGuarantors ++ [item.invited now loanId] }

/-- One nomination of an invitation. The loan and the guarantor were checked in
the state `seen`; only the upsert writes, and it is not in a transaction with
the checks. -/
def inviteGuarantor (seen : Db) (now : Int) (loanId nominated : Nat) (item : Nomination) :
    Tx Unit := do
  let loan ← fromExcept (seen.invitable loanId nominated)
  match seen.ineligible item loan.memberId (seen.collateralType loan) with
  | some _ => pure ()
  | none => upsertGuarantor now loanId item

/-- The end of an invitation: the status is written without looking at it again. -/
def finishInvite (seen : Db) (loanId nominated : Nat) : Tx Unit := do
  let _ ← fromExcept (seen.invitable loanId nominated)
  let db ← get
  let _ ← required db.loans[loanId]? (.notFound "No record was found for an update.")
  modify (·.updateLoan loanId fun loan => { loan with status := .pendingGuarantors })

/-! ## 3. The response of a guarantor -/

inductive GuarantorWorkflowAction | accept | decline
  deriving DecidableEq, Repr

inductive DecisionSource | member | adminOverride
  deriving DecidableEq, Repr

structure DecisionArgs where
  loanId : Nat
  guarantorId : Nat
  action : GuarantorWorkflowAction
  digitalAcknowledgment : Bool
  source : DecisionSource
  deriving DecidableEq, Repr

def assertGuarantorCanAccept (memberId : Nat) : Tx Unit := do
  let db ← get
  let member ← required (db.members[memberId]?.filter fun m => m.isActive && m.accountStatusActive)
    (.badRequest "GUARANTOR_NOT_ACTIVE: guarantor must be an active SACCO member")
  ensure (member.kycApproved = true)
    (.badRequest "GUARANTOR_KYC_NOT_VERIFIED: guarantor KYC must be verified")

/-- Releases the hold of an accepted guarantee, once. -/
def releaseAcceptedHold (now : Int) (accountType : AccountType) (row : Nat × LoanGuarantor) :
    Tx Unit :=
  if row.2.holdReleasedAt.isSome then pure ()
  else do
    releaseGuarantorHolds row.2.memberId row.2.guaranteedAmount accountType
    modify (·.updateGuarantor row.1 (·.released now))

/-- What the guarantees of a loan add up to. -/
structure CoverageTally where
  accepted : List (Nat × LoanGuarantor)
  pending : Nat
  hasDecline : Bool

def CoverageTally.totalAccepted (tally : CoverageTally) : Nat :=
  (tally.accepted.map (·.2.guaranteedAmount)).sum

def Db.coverageTally (db : Db) (loanId : Nat) : CoverageTally where
  accepted := db.guarantorsOf loanId [.accepted]
  pending := (db.guarantorsOf loanId [.pending]).length
  hasDecline := (db.guarantorsOf loanId [.rejected, .expired]) ≠ []

/-- Nobody is left to respond, and enough accepted to cover the loan. -/
def CoverageTally.criteriaMet (tally : CoverageTally) (loan : Loan) (product : LoanProduct) : Bool :=
  tally.pending == 0 && product.minGuarantors ≤ tally.accepted.length &&
    loan.principalAmount * product.guarantorCoverageRatio ≤ tally.totalAccepted * 10000

/-- The application is dead: the invitation ran out, or nobody is left to respond
and no replacement can make up for a decline. -/
def CoverageTally.shouldTerminallyReject (tally : CoverageTally) (product : LoanProduct)
    (latestStatus : GuarantorStatus) : Bool :=
  let activeGuarantors := tally.accepted.length + tally.pending
  let availableReplacementSlots := product.maxGuarantors - activeGuarantors
  let replacementStillFeasible :=
    product.minGuarantors ≤ activeGuarantors + availableReplacementSlots
  latestStatus == .expired ||
    (tally.pending == 0 && !(tally.hasDecline && replacementStillFeasible))

/-- What a response does to a loan that waits for its guarantors. -/
def applyLoanState (now : Int) (loanId : Nat) (loan : Loan) (product : LoanProduct)
    (latestStatus : GuarantorStatus) : Tx LoanStatus := do
  if loan.status ≠ .pendingGuarantors then pure loan.status
  else
    let db ← get
    let tally := db.coverageTally loanId
    if tally.criteriaMet loan product then
      modify (·.updateLoan loanId fun l =>
        if l.status = .pendingGuarantors then { l with status := .pendingApproval } else l)
      pure .pendingApproval
    else if tally.shouldTerminallyReject product latestStatus then
      tally.accepted.forM (releaseAcceptedHold now (product.requiredAccountType.getD .fosa))
      modify (·.updateLoan loanId fun l =>
        if l.status = .pendingGuarantors then { l with status := .rejectedGuarantorDecline } else l)
      pure .rejectedGuarantorDecline
    else pure loan.status

/-- The status a response gives the guarantee. -/
def DecisionArgs.nextStatus (args : DecisionArgs) (now invitedAt : Int) : GuarantorStatus :=
  if invitedAt + consentExpiryMs < now then .expired
  else
    match args.action with
    | .accept => .accepted
    | .decline => .rejected

/-- The row after the response. -/
def LoanGuarantor.answered (guarantor : LoanGuarantor) (now : Int) (nextStatus : GuarantorStatus) :
    LoanGuarantor :=
  { guarantor with
    status := nextStatus
    respondedAt := some now
    holdPlacedAt := if nextStatus = .accepted then some now else guarantor.holdPlacedAt }

/-- A guarantor accepts or declines. -/
def applyDecision (now : Int) (args : DecisionArgs) : Tx LoanStatus := do
  ensure (args.action = .accept → args.source = .member → args.digitalAcknowledgment = true)
    (.badRequest ("DIGITAL_ACKNOWLEDGMENT_REQUIRED: you must confirm you understand the " ++
      "guarantee obligation before accepting"))
  let db ← get
  let locked ← required (db.loanGuarantors[args.guarantorId]?.filter (·.loanId = args.loanId))
    (.notFound "Guarantor request not found")
  ensure (locked.status = .pending)
    (.conflict s!"Guarantor request already {locked.status.name}")
  let loan ← required db.loans[args.loanId]? (.notFound "Loan not found")
  let product ← required db.loanProducts[loan.loanProductId]? (.notFound "Loan not found")
  let nextStatus := args.nextStatus now locked.invitedAt
  if nextStatus = .accepted then
    assertGuarantorCanAccept locked.memberId
    placeGuarantorHolds locked.memberId locked.guaranteedAmount
      (product.requiredAccountType.getD .fosa)
  modify (·.updateGuarantor args.guarantorId (·.answered now nextStatus))
  applyLoanState now args.loanId loan product nextStatus

/-! ## 4. The expiry sweep -/

/-- The loan is rejected for a guarantor that did not answer in time, if it still
waits for its guarantors. -/
def rejectLoanForGuarantorTimeout (now : Int) (loanId : Nat) (accountType : AccountType) :
    Tx Unit := do
  let db ← get
  match db.loans[loanId]?.filter (·.status = .pendingGuarantors) with
  | none => pure ()
  | some _ =>
    (db.guarantorsOf loanId [.accepted]).forM (releaseAcceptedHold now accountType)
    modify (·.updateLoan loanId fun l =>
      if l.status = .pendingGuarantors then { l with status := .rejectedGuarantorDecline } else l)

/-- The row after its invitation ran out; `held` says that a hold was released with it. -/
def LoanGuarantor.expire (guarantor : LoanGuarantor) (now : Int) (held : Bool) : LoanGuarantor :=
  if guarantor.status = .pending then
    { guarantor with
      status := .expired
      respondedAt := some now
      holdReleasedAt := if held then some now else guarantor.holdReleasedAt }
  else guarantor

/-- One guarantor that did not answer. -/
def expireGuarantor (now : Int) (row : Nat × LoanGuarantor) (accountType : AccountType) :
    Tx Unit := do
  if row.2.holdPlacedAt.isSome then
    releaseGuarantorHolds row.2.memberId row.2.guaranteedAmount accountType
  modify (·.updateGuarantor row.1 (·.expire now row.2.holdPlacedAt.isSome))
  rejectLoanForGuarantorTimeout now row.2.loanId accountType

/-- The account type a guarantee's collateral is taken from. -/
def Db.collateralTypeOf (db : Db) (loanId : Nat) : AccountType :=
  (db.loans[loanId]?.map db.collateralType).getD .fosa

/-- The delayed job of one invitation. -/
def expireSpecificGuarantor (now : Int) (guarantorId : Nat) : Tx Unit := do
  let db ← get
  match db.loanGuarantors[guarantorId]?.filter (·.status = .pending) with
  | none => pure ()
  | some g => expireGuarantor now (guarantorId, g) (db.collateralTypeOf g.loanId)

/-- The hourly sweep: the guarantees invited before `cutoff`, in one transaction. -/
def expireTenantGuarantors (now cutoff : Int) : Tx Unit := do
  let db ← get
  (Table.selectRows (fun g => g.status == .pending && g.invitedAt < cutoff) db.loanGuarantors).forM
    fun row => expireGuarantor now row (db.collateralTypeOf row.2.loanId)

/-! ## 5. Rejecting a loan -/

def LoanStatus.rejectable (status : LoanStatus) : Bool :=
  status == .pendingApproval || status == .pendingGuarantors || status == .pendingReview

/-- One hold of a rejected loan: kept when the guarantor has no such account or
nothing is frozen on it. -/
def releaseRejected (now : Int) (accountType : AccountType) (row : Nat × LoanGuarantor) :
    Tx Unit := do
  let db ← get
  releaseFullyRepaid now (fun memberId => db.activeAccount memberId accountType) row

/-- Staff reject a loan. -/
def reject (now : Int) (loanId : Nat) : Tx Unit := do
  let db ← get
  let lockedLoan ← required db.loans[loanId]? (.notFound "Loan not found")
  ensure (lockedLoan.status.rejectable = true)
    (.badRequest s!"Cannot reject a loan in \"{lockedLoan.status.name}\" status")
  (db.unreleasedGuarantors loanId).forM (releaseRejected now (db.collateralType lockedLoan))
  modify (·.updateLoan loanId fun loan => { loan with status := .rejected })

end BebaSacco
