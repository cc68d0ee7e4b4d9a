import BebaSacco.Channels
import BebaSacco.Lib.Precision

/-! # Repayments of any number

The amount of a repayment from the FOSA balance is any number. `LoansService.repay` computes with it
as it is and rounds what it writes, each column and each leg on its own. A number of no more than
four decimals leaves nothing to round: its repayment is one in units of 0.0001.

Results:
 1. `minus_units`, `fixed2_units`: amounts in units are kept.
 2. `repayNumber_units`: a repayment of such a number is a repayment in units.
-/

namespace BebaSacco

open Txn

/-! ## 1. The call -/

/-- `Decimal.minus`: twenty digits, and four decimals in any case. -/
def decimalMinus (a b : ℚ) : ℚ := Rounding.significantUnits (a - b)

/-- `Decimal.toFixed(2)` of any number that is not negative. -/
def fixed2 (q : ℚ) : String := toFixed2 (Rounding.roundTo 100 q * 100)

/-- A repayment of `amountKes`; `amountText` is the number as JavaScript prints it. -/
structure RepayRequest where
  loanId : Nat
  amountKes : ℚ
  amountText : String
  processedBy : String
  idempotencyKey : Option String
  minute : String
  now : Int
  deriving DecidableEq, Repr

def RepayRequest.reference (request : RepayRequest) (tenantId : String) : String :=
  match request.idempotencyKey.filter (· ≠ "") with
  | some key => s!"REPAY-{tenantId}-{key}"
  | none => s!"TXN-REPAY-{tenantId}-{request.loanId}-{request.amountText}-{request.minute}"

/-- What goes to the penalties, the interest and the principal, before it is rounded. -/
structure RepayParts where
  toArrears : ℚ
  toInterest : ℚ
  toPrincipal : ℚ
  deriving DecidableEq, Repr

structure RepayAnswer where
  transaction : Nat
  reference : String
  allocation : RepayParts
  deriving DecidableEq, Repr

def Loan.repayParts (loan : Loan) (actualRepayment : ℚ) : RepayParts :=
  let toArrears := min actualRepayment (ofUnits loan.arrearsAmount)
  let remaining := decimalMinus actualRepayment toArrears
  let toInterest := min remaining (ofUnits loan.accruedInterest)
  { toArrears, toInterest, toPrincipal := decimalMinus remaining toInterest }

/-- The loan after a repayment, every column rounded on its own. -/
def Loan.payParts (loan : Loan) (actualRepayment : ℚ) (parts : RepayParts) (status : LoanStatus) :
    Loan :=
  { loan with
    arrearsAmount :=
      (toDecimalPlaces4 (decimalMinus (ofUnits loan.arrearsAmount) parts.toArrears)).toNat
    accruedInterest :=
      (toDecimalPlaces4 (decimalMinus (ofUnits loan.accruedInterest) parts.toInterest)).toNat
    outstandingBalance :=
      (toDecimalPlaces4 (decimalMinus (ofUnits loan.outstandingBalance) parts.toPrincipal)).toNat
    totalRepaid := loan.totalRepaid + (toDecimalPlaces4 actualRepayment).toNat
    status := status }

/-- A leg is posted, rounded, when its part is positive. -/
def repayPart (reference : String) (leg : Leg) (suffix : String) (part : ℚ) (transactionId : Nat)
    (processedBy : String) : Tx Unit :=
  if 0 < part then do
    let _ ← postAccountSourcedRepaymentLegEntry s!"{reference}-{suffix}" leg
      (toDecimalPlaces4 part) .fosa transactionId processedBy
    pure ()
  else pure ()

def RepayRequest.transaction (request : RepayRequest) (accountId : Nat)
    (loanNumber reference : String) (actualRepayment : ℚ) (balBefore : Int) : Transaction where
  accountId := accountId
  loanId := some request.loanId
  type := .loanRepayment
  status := .completed
  amount := toDecimalPlaces4 actualRepayment
  balanceBefore := balBefore
  balanceAfter := toDecimalPlaces4 (decimalMinus (ofUnits balBefore) actualRepayment)
  reference := reference
  description := s!"Loan repayment – {loanNumber}"
  processedBy := some request.processedBy
  linkedTransactionId := none

def repayNumberBody (request : RepayRequest) (fosaAccountId : Nat) (loanNumber reference : String) :
    Tx RepayAnswer := do
  let db ← get
  match db.transactionByReference reference with
  | some (existingReplay, _) =>
    let _ ← required db.loans[request.loanId]? (.notFound "Loan not found")
    pure { transaction := existingReplay, reference, allocation := ⟨0, 0, 0⟩ }
  | none =>
    let acc ← required (db.accounts[fosaAccountId]?.filter (·.isActive))
      (.notFound "FOSA account not found or inactive")
    let currentLoan ← required db.loans[request.loanId]? (.notFound "Loan not found")
    ensure (currentLoan.status = .active)
      (.badRequest (s!"Loan status changed to \"{currentLoan.status.name}\" during concurrent " ++
        "processing. Please retry the repayment."))
    let totalOwed := ofUnits currentLoan.totalOwed
    let actualRepayment := if totalOwed < request.amountKes then totalOwed else request.amountKes
    ensure (actualRepayment ≤ ofUnits acc.balance)
      (.unprocessableEntity (s!"Insufficient FOSA balance KES {toFixed2 acc.balance} " ++
        s!"for repayment of KES {fixed2 actualRepayment}. " ++
        "Please deposit funds before repaying."))
    let parts := currentLoan.repayParts actualRepayment
    let txn ← createTransaction
      (request.transaction fosaAccountId loanNumber reference actualRepayment acc.balance)
    modify (·.updateAccount fosaAccountId fun a =>
      { a with balance := toDecimalPlaces4 (decimalMinus (ofUnits acc.balance) actualRepayment) })
    repayPart reference .penalty "PENALTY" parts.toArrears txn request.processedBy
    repayPart reference .interest "INTEREST" parts.toInterest txn request.processedBy
    repayPart reference .principal "PRINCIPAL" parts.toPrincipal txn request.processedBy
    let newOutstanding := decimalMinus (ofUnits currentLoan.outstandingBalance) parts.toPrincipal
    let newStatus : LoanStatus := if newOutstanding ≤ 0 then .fullyPaid else .active
    modify (·.updateLoan request.loanId (·.payParts actualRepayment parts newStatus))
    if newStatus = .fullyPaid then
      releaseGuarantorHoldsOnFullRepayment request.now request.loanId
    pure { transaction := txn, reference, allocation := parts }

def repayNumber (request : RepayRequest) : Tx RepayAnswer := do
  ensure (0 < request.amountKes) (.badRequest "Repayment amount must be positive")
  let db ← get
  let loan ← required (db.loans[request.loanId]?.filter (·.status = .active))
    (.notFound "Active loan not found")
  let (fosaAccountId, _) ← required (db.activeAccount loan.memberId .fosa)
    (.badRequest "No active FOSA account for repayment")
  repayNumberBody request fosaAccountId loan.loanNumber (request.reference db.tenantId)

/-! ## 2. Four decimals -/

/-- The same repayment in units. -/
def RepayRequest.units (request : RepayRequest) : RepayParams where
  loanId := request.loanId
  amountKes := toDecimalPlaces4 request.amountKes
  processedBy := request.processedBy
  idempotencyKey := request.idempotencyKey
  minute := request.minute
  now := request.now

/-- The amount has no more than four decimals, and is printed as such. -/
def RepayRequest.inUnits (request : RepayRequest) : Bool :=
  ofUnits request.units.amountKes == request.amountKes &&
    kesText request.units.amountKes == request.amountText

def Allocation.parts (a : Allocation) : RepayParts :=
  ⟨ofUnits a.penalty, ofUnits a.interest, ofUnits a.principal⟩

def RepayResult.answer (r : RepayResult) : RepayAnswer := ⟨r.transaction, r.reference, r.allocation.parts⟩

namespace NumberLemmas

theorem ofUnits_le {m n : Int} : ofUnits m ≤ ofUnits n ↔ m ≤ n := by
  unfold ofUnits Rounding.units
  rw [div_le_div_iff_of_pos_right (by norm_num), Int.cast_le]

theorem ofUnits_lt {m n : Int} : ofUnits m < ofUnits n ↔ m < n := by
  rw [← not_le, ofUnits_le, Int.not_le]

theorem ofUnits_zero : ofUnits 0 = 0 := by norm_num [ofUnits, Rounding.units]

theorem ofUnits_pos {n : Int} : 0 < ofUnits n ↔ 0 < n := by rw [← ofUnits_zero, ofUnits_lt]

theorem ofUnits_min (m n : Int) : min (ofUnits m) (ofUnits n) = ofUnits (min m n) :=
  ((show Monotone ofUnits from fun _ _ h => ofUnits_le.mpr h).map_min).symm

theorem minus_units (m n : Int) : decimalMinus (ofUnits m) (ofUnits n) = ofUnits (m - n) := by
  have hsub : ofUnits m - ofUnits n = ofUnits (m - n) := by
    unfold ofUnits Rounding.units
    push_cast
    ring
  rw [decimalMinus, hsub]
  exact Rounding.significantUnits_exact _

theorem fixed2_units (n : Nat) : fixed2 (ofUnits n) = toFixed2 n := by
  have hround : Rounding.roundTo 100 (ofUnits n) = ((n + 50) / 100 : Nat) := by
    unfold Rounding.roundTo Rounding.roundHalfUp ofUnits Rounding.units
    rw [if_pos (by positivity)]
    have hcents : ((n : Int) : ℚ) / (10000 : Nat) * (100 : Nat) + 1 / 2 =
        ((n + 50 : Int) : ℚ) / (100 : Nat) := by
      push_cast
      ring
    rw [hcents, Rat.floor_intCast_div_natCast]
    norm_cast
  rw [fixed2, hround, toFixed2, toFixed2]
  simp only [Int.natAbs_mul, Int.natAbs_natCast]
  have hcents : ((n + 50) / 100 * Int.natAbs 100 + 50) / 100 = (n + 50) / 100 := by
    show ((n + 50) / 100 * 100 + 50) / 100 = _
    omega
  rw [hcents, if_neg (by omega), if_neg (by omega)]

theorem parts_zero {a : Allocation} (h : a.parts = ⟨0, 0, 0⟩) : a = ⟨0, 0, 0⟩ := by
  have hzero : ∀ {n : Nat}, ofUnits n = 0 → n = 0 := fun {n} hn => by
    have hle : ofUnits n ≤ ofUnits 0 := (hn.trans ofUnits_zero.symm).le
    exact Nat.le_zero.mp (Int.ofNat_le.mp (ofUnits_le.mp hle))
  obtain ⟨hp, hi, hr⟩ := RepayParts.mk.inj h
  exact Allocation.mk.injEq .. |>.mpr ⟨hzero hp, hzero hi, hzero hr⟩

/-- The parts of an amount in units are its allocation. -/
theorem repayParts_units (loan : Loan) (n : Nat) :
    loan.repayParts (ofUnits n) = (loan.repayAllocation n).parts := by
  simp only [Loan.repayParts, Loan.repayAllocation, Allocation.parts, ofUnits_min, minus_units,
    RepayParts.mk.injEq]
  refine ⟨congrArg ofUnits ?_, congrArg ofUnits ?_, congrArg ofUnits ?_⟩ <;> omega

theorem payParts_units (loan owed : Loan) (n : Nat) (status : LoanStatus) :
    loan.payParts (ofUnits n) (owed.repayAllocation n).parts status =
      loan.pay (owed.repayAllocation n) status := by
  have htotal : (owed.repayAllocation n).total = n := by
    simp only [Loan.repayAllocation, Allocation.total]
    omega
  simp only [Loan.payParts, Loan.pay, Allocation.parts, minus_units, toDecimalPlaces4_ofUnits,
    Int.toNat_natCast, Int.toNat_sub, htotal]

theorem repayPart_units (reference suffix by' : String) (leg : Leg) (n txn : Nat) :
    repayPart reference leg suffix (ofUnits n) txn by' = repayLeg reference leg suffix n txn by' := by
  have hpos : 0 < ofUnits n ↔ 0 < n := ofUnits_pos.trans Int.natCast_pos
  simp only [repayPart, repayLeg, hpos, toDecimalPlaces4_ofUnits]

theorem repayNumberBody_units {q : RepayRequest} {n : Nat} (hn : q.amountKes = ofUnits n)
    (accountId : Nat) (loanNumber reference : String) :
    repayNumberBody q accountId loanNumber reference =
      repayBody q.units accountId loanNumber reference >>= fun r => pure r.answer := by
  have hamount : q.units.amountKes.toNat = n := by
    rw [RepayRequest.units, hn, toDecimalPlaces4_ofUnits, Int.toNat_natCast]
  unfold repayNumberBody repayBody
  simp only [bind_assoc]
  refine bind_congr fun db => ?_
  cases db.transactionByReference reference with
  | some t =>
    simp only [bind_assoc, pure_bind]
    refine bind_congr fun _ => congrArg pure ?_
    simp only [RepayResult.answer, Allocation.parts, Nat.cast_zero, ofUnits_zero]
  | none =>
    simp only [bind_assoc]
    refine bind_congr fun acc => bind_congr fun loan => bind_congr fun _ => ?_
    have hactual : (if ofUnits loan.totalOwed < q.amountKes then ofUnits loan.totalOwed
        else q.amountKes) = ofUnits (min n loan.totalOwed : Nat) := by
      rw [hn]
      split
      · next hlt => exact congrArg ofUnits (by have := ofUnits_lt.mp hlt; omega)
      · next hge => exact congrArg ofUnits (by have := ofUnits_lt.not.mp hge; omega)
    rw [hactual, hamount]
    generalize min n loan.totalOwed = n
    have htxn : q.transaction accountId loanNumber reference (ofUnits n) acc.balance =
        q.units.transaction accountId loanNumber reference n acc.balance := by
      simp only [RepayRequest.transaction, RepayParams.transaction, minus_units,
        toDecimalPlaces4_ofUnits]
      rfl
    have hleft : decimalMinus (ofUnits loan.outstandingBalance)
        (loan.repayAllocation n).parts.toPrincipal ≤ 0 ↔
        loan.outstandingBalance - (loan.repayAllocation n).principal = 0 := by
      rw [Allocation.parts, minus_units, ← ofUnits_zero, ofUnits_le]
      omega
    simp only [fixed2_units, repayParts_units, htxn, payParts_units]
    rw [ensure_congr ofUnits_le]
    refine bind_congr fun _ => bind_congr fun txn => ?_
    simp only [minus_units, toDecimalPlaces4_ofUnits]
    refine bind_congr fun _ => ?_
    simp only [Allocation.parts, repayPart_units] at hleft ⊢
    refine bind_congr fun _ => bind_congr fun _ => bind_congr fun _ => ?_
    by_cases hpaid : loan.outstandingBalance - (loan.repayAllocation n).principal = 0
    · simp only [hpaid, hleft.mpr hpaid, if_true, bind_assoc, pure_bind]
      rfl
    · simp only [hpaid, mt hleft.mp hpaid, if_false]
      rfl

end NumberLemmas

open NumberLemmas

theorem RepayRequest.inUnits_eq {q : RepayRequest} (h : q.inUnits = true) :
    ofUnits q.units.amountKes = q.amountKes ∧ q.units.reference = q.reference := by
  simp only [RepayRequest.inUnits, Bool.and_eq_true, beq_iff_eq] at h
  refine ⟨h.1, funext fun tenantId => ?_⟩
  rw [RepayParams.reference, h.2]
  rfl

/-- The repayment of a number that is one in units is the repayment in units. -/
theorem repayNumber_units {q : RepayRequest} (h : q.inUnits = true) :
    repayNumber q = repay q.units >>= fun r => pure r.answer := by
  obtain ⟨hamount, href⟩ := RepayRequest.inUnits_eq h
  have hpos : 0 < q.amountKes ↔ 0 < q.units.amountKes := hamount ▸ ofUnits_pos
  unfold repayNumber repay
  rw [ensure_congr hpos, href]
  by_cases hp : 0 < q.units.amountKes
  · have hn : q.amountKes = ofUnits q.units.amountKes.toNat := by
      rw [Int.toNat_of_nonneg (by omega), hamount]
    simp only [repayNumberBody_units hn, bind_assoc]
    rfl
  · rw [ensure, if_neg hp]
    rfl

theorem yields_repayNumber {q : RepayRequest} {a : RepayAnswer} {db db' : Db}
    (h : q.inUnits = true) : Yields (repayNumber q) db a db' ↔
      ∃ r, Yields (repay q.units) db r db' ∧ r.answer = a := by
  rw [repayNumber_units h, yields_bind]
  constructor
  · rintro ⟨r, _, hr, hpure⟩
    obtain ⟨rfl, rfl⟩ := yields_pure.mp hpure
    exact ⟨r, hr, rfl⟩
  · rintro ⟨r, hr, rfl⟩
    exact ⟨r, _, hr, yields_pure.mpr ⟨rfl, rfl⟩⟩

end BebaSacco
