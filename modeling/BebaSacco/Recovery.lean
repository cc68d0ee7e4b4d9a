import BebaSacco.Guarantees
import BebaSacco.Lib.Precision

/-! # Recovering a default from the guarantors

`LoanRecoveryService.recoverFromGuarantors` debits the guarantors of a loan in
proportion to what they can give; `GuarantorDefaultOffsetProcessor.offsetLoan`
forfeits what they pledged and closes the loan. Both take the money out of the
frozen savings, under one lock for each loan, so each is one step of the model.
-/

namespace BebaSacco

open Txn

/-- The shared reference of both paths; the attempt is a fresh id. -/
def guarantorForfeitureReference (tenantId : String) (loanId accountId : Nat)
    (recoveryAttemptId : String) : String :=
  s!"GUAR_FORFEIT-{tenantId}-{loanId}-{accountId}-{recoveryAttemptId}"

/-- Savings that were frozen leave the account. -/
def Account.forfeit (amount : Int) (account : Account) : Account :=
  { account with
    balance := account.balance - amount
    frozenSavings := account.frozenSavings - amount
    version := account.version + 1 }

/-! ## 1. Recovery after a notice -/

/-- What one guarantor can give: what is left of the guarantee, scaled down when
the loan owes less than all guarantees together, and no more than what the
account holds and has frozen. The ratio and the product have twenty digits; that the
product keeps its units as well is only seen above what the columns hold. -/
def recoveryCapacity (guarantor : LoanGuarantor) (account : Option (Nat × Account))
    (sumHolds outstandingBalance : Nat) : Int :=
  let left : Int := (guarantor.guaranteedAmount : Int) - guarantor.recoveredAmount
  let guaranteeCapacity : Int :=
    if 0 < sumHolds ∧ outstandingBalance < sumHolds then
      toDecimalPlaces4 (Rounding.significantUnits
        (ofUnits left * Rounding.significant (ofUnits outstandingBalance / ofUnits sumHolds)))
    else left
  let accountCapacity : Int :=
    match account with
    | some (_, account) => min account.balance account.frozenSavings
    | none => 0
  min guaranteeCapacity accountCapacity

structure RecoveryAllocation where
  guarantorId : Nat
  guarantor : LoanGuarantor
  account : Option (Nat × Account)
  deduction : Int

/-- The part of the debt that the capacity is of the capacities; the product and the
quotient have twenty digits. -/
def proportionalShare (remainingDebt capacity remainingCapacity : Int) : Int :=
  toDecimalPlaces4 (Rounding.significant
    (Rounding.significant (ofUnits remainingDebt * ofUnits capacity) / ofUnits remainingCapacity))

/-- Each guarantor gives its share of the debt that is left, in proportion to its
part of the capacity that is left. -/
def shareDebt : List (RecoveryAllocation × Int) → Int → Int → List RecoveryAllocation
  | [], _, _ => []
  | (item, capacity) :: items, remainingDebt, remainingCapacity =>
    if remainingDebt = 0 ∨ remainingCapacity = 0 ∨ capacity ≤ 0 then
      { item with deduction := 0 } :: shareDebt items remainingDebt remainingCapacity
    else
      let share := proportionalShare remainingDebt capacity remainingCapacity
      let deduction := min (min capacity share) remainingDebt
      { item with deduction := deduction } ::
        shareDebt items (remainingDebt - deduction) (remainingCapacity - capacity)

def Db.allocateRecovery (db : Db) (guarantors : List (Nat × LoanGuarantor))
    (accountType : AccountType) (defaultAmount : Int) (outstandingBalance : Nat) :
    List RecoveryAllocation :=
  let sumHolds := (guarantors.map (·.2.guaranteedAmount)).sum
  let capacities := guarantors.map fun (id, g) =>
    let account := db.activeAccount g.memberId accountType
    (({ guarantorId := id, guarantor := g, account, deduction := 0 } : RecoveryAllocation),
      recoveryCapacity g account sumHolds outstandingBalance)
  shareDebt capacities defaultAmount (capacities.map (·.2)).sum

/-- The statement row of savings taken from a guarantor. -/
def forfeitureTransaction (accountId loanId : Nat) (type : TransactionType) (amount : Int)
    (balanceBefore : Int) (reference description processedBy : String) : Transaction where
  accountId := accountId
  loanId := some loanId
  type := type
  status := .completed
  amount := amount
  balanceBefore := balanceBefore
  balanceAfter := balanceBefore - amount
  reference := reference
  description := description
  processedBy := some processedBy
  linkedTransactionId := none

/-- The row after `amount` was taken; the hold is released with it when `releasedAt` says so. -/
def LoanGuarantor.recover (guarantor : LoanGuarantor) (amount : Int) (releasedAt : Option Int) :
    LoanGuarantor :=
  { guarantor with
    recoveredAmount := guarantor.recoveredAmount + amount.toNat
    holdReleasedAt := releasedAt.or guarantor.holdReleasedAt }

/-- The deduction of one guarantor; what was recovered is returned. The hold
counts as released only when nothing stays frozen on the whole account. -/
def recoverFromGuarantor (now : Int) (loanId : Nat) (loanNumber : String)
    (accountType : AccountType) (attempt actorId : String) (allocation : RecoveryAllocation) :
    Tx Nat :=
  match allocation.account with
  | none => pure 0
  | some (accountId, _) => do
    if allocation.deduction = 0 then pure 0
    else
      let db ← get
      let reference := guarantorForfeitureReference db.tenantId loanId accountId attempt
      match db.transactionByReference reference with
      | some _ => pure 0
      | none =>
        let lockedAccount ← required db.accounts[accountId]?
          (.conflict "Concurrent balance modification, retry")
        let actualDeduction :=
          min (min allocation.deduction lockedAccount.balance) lockedAccount.frozenSavings
        if actualDeduction ≤ 0 then pure 0
        else
          ensure (lockedAccount.isActive = true)
            (.conflict "Concurrent balance modification, retry")
          modify (·.updateAccount accountId (·.forfeit actualDeduction))
          modify (·.updateGuarantor allocation.guarantorId (·.recover actualDeduction
            (if lockedAccount.frozenSavings - actualDeduction ≤ 0 then some now else none)))
          let description := s!"Guarantor recovery for loan {loanNumber}"
          let recoveryTxn ← createTransaction
            (forfeitureTransaction accountId loanId .loanRepayment actualDeduction
              lockedAccount.balance reference description actorId)
          let _ ← postGuarantorForfeitureEntry reference actualDeduction accountType recoveryTxn
            (some actorId) (some description)
          pure actualDeduction.toNat

/-- Runs `f` on each item and adds up what it returns. -/
def sumM {α : Type} (f : α → Tx Nat) : List α → Tx Nat
  | [] => pure 0
  | a :: l => do
    let n ← f a
    let m ← sumM f l
    pure (n + m)

def recoverFromGuarantors (now : Int) (loanId : Nat) (defaultAmount : ℚ) (actorId : String) :
    Tx Nat := do
  ensure (0 < defaultAmount)
    (.badRequest "INVALID_DEFAULT_AMOUNT: defaultAmount must be greater than zero")
  let attempt ← uuidv4
  let db ← get
  let loan ← required db.loans[loanId]? (.notFound "Loan not found")
  let guarantors := db.unreleasedGuarantors loanId
  ensure (guarantors ≠ [])
    (.badRequest "NO_ACCEPTED_GUARANTORS: loan has no accepted guarantors for recovery")
  let accountType := db.collateralType loan
  let allocations := db.allocateRecovery guarantors accountType (toDecimalPlaces4 defaultAmount)
    loan.outstandingBalance
  let totalRecovered ←
    sumM (recoverFromGuarantor now loanId loan.loanNumber accountType attempt actorId) allocations
  if 0 < totalRecovered then
    modify (·.updateLoan loanId fun l =>
      { l with
        outstandingBalance := l.outstandingBalance - min loan.outstandingBalance totalRecovered })
  pure totalRecovered

/-! ## 2. Default offset -/

/-- What is left of a guarantee. -/
def LoanGuarantor.remainingGuarantee (guarantor : LoanGuarantor) : Nat :=
  guarantor.guaranteedAmount - guarantor.recoveredAmount

/-- The forfeiture of one guarantor, always from the BOSA account; the hold counts
as released whatever was left of it. What was forfeited is returned. -/
def forfeitGuarantor (now : Int) (loanId : Nat) (loanNumber attempt : String)
    (row : Nat × LoanGuarantor) : Tx Nat := do
  let db ← get
  match db.activeAccount row.2.memberId .bosa with
  | none => pure 0
  | some (accountId, account) =>
    let amount := min (min (row.2.remainingGuarantee : Int) account.balance) account.frozenSavings
    if amount ≤ 0 then pure 0
    else
      let reference := guarantorForfeitureReference db.tenantId loanId accountId attempt
      match db.transactionByReference reference with
      | some _ => pure 0
      | none =>
        modify (·.updateAccount accountId (·.forfeit amount))
        modify (·.updateGuarantor row.1 (·.recover amount (some now)))
        let description := s!"Guarantor default offset for loan {loanNumber}"
        let forfeitureTxn ← createTransaction
          (forfeitureTransaction accountId loanId .withdrawal amount account.balance reference
            description "SYSTEM")
        let _ ← postGuarantorForfeitureEntry reference amount .bosa forfeitureTxn none
          (some description)
        pure amount.toNat

/-- A loan that the offset job takes: it is not closed, and it is non-performing
or more than ninety days in arrears. -/
def Loan.offsettable (loan : Loan) : Bool :=
  loan.status != .fullyPaid && loan.status != .writtenOff &&
    (loan.staging == .npl || 90 < loan.arrearsDays)

/-- The loan after its guarantors forfeited `forfeited`. -/
def Loan.offset (loan : Loan) (forfeited : Nat) : Loan :=
  let outstandingAfter := loan.outstandingBalance - min loan.outstandingBalance forfeited
  { loan with
    outstandingBalance := outstandingAfter
    status := if outstandingAfter = 0 then .fullyPaid else .writtenOff
    staging := if outstandingAfter = 0 then .performing else .npl
    arrearsAmount := if outstandingAfter = 0 then 0 else loan.arrearsAmount }

def offsetLoan (now : Int) (loanId : Nat) (jobId : Option String) : Tx Nat := do
  let uuid ← uuidv4
  let recoveryAttemptId := (jobId.map fun jobId => s!"{jobId}-{uuid}").getD uuid
  let db ← get
  match db.loans[loanId]?.filter (·.offsettable) with
  | none => pure 0
  | some loan =>
    let totalForfeited ← sumM (forfeitGuarantor now loanId loan.loanNumber recoveryAttemptId)
      (db.unreleasedGuarantors loanId)
    if 0 < totalForfeited then
      modify (·.updateLoan loanId (·.offset totalForfeited))
    pure totalForfeited

end BebaSacco
