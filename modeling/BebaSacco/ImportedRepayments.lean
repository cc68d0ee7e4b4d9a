import BebaSacco.Ledger
import BebaSacco.RepaymentSheets

/-! # What an imported repayment does to its loan

The import works out the balance of a loan anew, from the instalment and from all repayments of the
loan, whoever recorded them; it does not look at the balance and the total that the loan has.

Results:
 1. `repaid_credited_iff`: when the balance worked out is the old one less the amount.
 2. `imported_repayment_iff`: the same of a row of the sheet.
 3. `import_closes_early`: a loan of three months is closed by its first instalment.
-/

namespace BebaSacco

open Txn SheetLemmas

/-! ## 1. The loan -/

/-- A row of the sheet with the amount it gives. -/
structure ImportedRepayment where
  idNumber : String
  dayNumber : Int
  amountPaid : ℚ
  paymentDate : Int
  method : Option String
  deriving DecidableEq, Repr

/-- The `Decimal(10, 2)` column keeps two places. -/
def ImportedRepayment.row (r : ImportedRepayment) : RawLoanRepaymentRow where
  idNumber := r.idNumber
  dayNumber := r.dayNumber
  amountPaid := Rounding.roundTo 100 r.amountPaid
  paymentDate := r.paymentDate
  method := r.method

/-- The loan was credited with the amount. -/
structure SheetLoan.Credited (amount : ℚ) (before after : SheetLoan) : Prop where
  outstanding : ofUnits after.outstandingBalance =
    ofUnits before.outstandingBalance - min amount (ofUnits before.outstandingBalance)
  repaid : ofUnits after.totalRepaid = ofUnits before.totalRepaid + amount
  fullyPaid : after.status = .fullyPaid ↔ after.outstandingBalance = 0

/-- The loan agrees with its repayments of `paid` cents: its total is their sum, up to what the column
cuts off the amount, and its balance is what the total leaves of one instalment, or the amount
covers both. -/
structure SheetLoan.Agrees (loan : SheetLoan) (paid : Int) (amount : ℚ) : Prop where
  total : ofUnits loan.totalRepaid + amount =
    Rounding.units 100 (paid + Rounding.roundTo 100 amount)
  balance : loan.outstandingBalance = loan.monthlyInstalment - loan.totalRepaid ∨
    ofUnits loan.outstandingBalance ≤ amount ∧
      ofUnits (loan.monthlyInstalment - loan.totalRepaid) ≤ amount

namespace ImportLemmas

variable {amount : ℚ} {loan : SheetLoan} {total : Int}

theorem sub_min_eq (balance amount : ℚ) : balance - min amount balance = max (balance - amount) 0 := by
  rcases le_total amount balance with h | h
  · rw [min_eq_left h, max_eq_left (sub_nonneg.mpr h)]
  · rw [min_eq_right h, max_eq_right (sub_nonpos.mpr h), sub_self]

theorem max_eq_max_iff {a b : ℚ} : max a 0 = max b 0 ↔ a = b ∨ a ≤ 0 ∧ b ≤ 0 := by
  constructor
  · intro h
    rcases le_or_gt a 0 with ha | ha
    · rw [max_eq_right ha] at h
      exact .inr ⟨ha, h ▸ le_max_left b 0⟩
    · rw [max_eq_left ha.le] at h
      rcases le_or_gt b 0 with hb | hb
      · rw [max_eq_right hb] at h
        exact absurd h ha.ne'
      · rw [max_eq_left hb.le] at h
        exact .inl h
  · rintro (rfl | ⟨ha, hb⟩)
    · rfl
    · rw [max_eq_right ha, max_eq_right hb]

theorem ofUnits_sub (m n : Int) : ofUnits (m - n) = ofUnits m - ofUnits n := by
  unfold ofUnits Rounding.units
  rw [Int.cast_sub, sub_div]

theorem ofUnits_repaid (loan : SheetLoan) (total : Int) :
    ofUnits (loan.repaid total).outstandingBalance =
      max (ofUnits (loan.monthlyInstalment - total)) 0 := by
  have hzero : ofUnits 0 = 0 := by
    unfold ofUnits Rounding.units
    rw [Int.cast_zero, zero_div]
  have hmono : ∀ {n : Int}, ofUnits n < 0 ↔ n < 0 := by
    intro n
    unfold ofUnits Rounding.units
    rw [div_lt_iff₀ (by norm_num), zero_mul, Int.cast_lt_zero]
  unfold SheetLoan.repaid
  dsimp only
  split
  · next hneg => rw [hzero, max_eq_right (hmono.mpr hneg).le]
  · next hneg => rw [max_eq_left (not_lt.mp fun h => hneg (hmono.mp h))]

/-- A loan is closed when nothing is left of the instalment. -/
theorem repaid_fullyPaid (loan : SheetLoan) (total : Int) :
    (loan.repaid total).status = .fullyPaid ↔ (loan.repaid total).outstandingBalance = 0 := by
  unfold SheetLoan.repaid
  dsimp only
  by_cases hle : loan.monthlyInstalment - total ≤ 0
  · rw [if_pos hle]
    refine iff_of_true rfl ?_
    split
    · rfl
    · omega
  · rw [if_neg hle]
    refine iff_of_false (fun h => by cases h) ?_
    split
    · omega
    · omega

/-- The balance worked out is the old one less the amount. -/
theorem repaid_credited_iff (htotal : ofUnits total = ofUnits loan.totalRepaid + amount) :
    ofUnits (loan.repaid total).outstandingBalance =
        ofUnits loan.outstandingBalance - min amount (ofUnits loan.outstandingBalance) ↔
      loan.outstandingBalance = loan.monthlyInstalment - loan.totalRepaid ∨
        ofUnits loan.outstandingBalance ≤ amount ∧
          ofUnits (loan.monthlyInstalment - loan.totalRepaid) ≤ amount := by
  have hinj : ∀ {m n : Int}, ofUnits m = ofUnits n ↔ m = n := by
    intro m n
    unfold ofUnits Rounding.units
    rw [div_left_inj' (by norm_num), Int.cast_inj]
  have hleft : ofUnits (loan.monthlyInstalment - total) =
      ofUnits (loan.monthlyInstalment - loan.totalRepaid) - amount := by
    rw [ofUnits_sub, ofUnits_sub, htotal]
    ring
  rw [ofUnits_repaid, sub_min_eq, hleft, max_eq_max_iff, sub_left_inj, hinj, sub_nonpos, sub_nonpos,
    and_comm, eq_comm]

/-- A row that is recorded is recorded on the current loan of the member. -/
theorem upsert_recorded {db db' : SheetDb} {recordedBy : String} {row : RawLoanRepaymentRow}
    (h : Yields (upsertLoanRepayment recordedBy row) db true db') :
    ∃ loanId, (db.memberOf row.idNumber).bind db.current = some loanId ∧
      db' = db.record recordedBy row loanId := by
  simp only [upsertLoanRepayment, yields_bind, yields_get, yields_required] at h
  obtain ⟨_, _, ⟨rfl, rfl⟩, memberId, _, ⟨hmember, rfl⟩, loanId, _, ⟨hloan, rfl⟩, h⟩ := h
  refine ⟨loanId, by rw [hmember, Option.bind_some, hloan], ?_⟩
  rcases yields_ite.mp h with ⟨_, h⟩ | ⟨_, h⟩
  · cases (yields_pure.mp h).1
  · simp only [yields_bind, yields_ensure, yields_modify, yields_pure] at h
    obtain ⟨_, _, ⟨_, rfl⟩, _, _, rfl, _, _, rfl, _, rfl⟩ := h
    rfl

end ImportLemmas

open ImportLemmas

/-! ## 2. A row of the sheet -/

/-- A repayment that the import records is credited to its loan exactly if the loan agrees with its
repayments so far. -/
theorem imported_repayment_iff (db db' : SheetDb) (recordedBy : String) (r : ImportedRepayment)
    (loanId : Nat) (loan loan' : SheetLoan)
    (hrecorded : Yields (upsertLoanRepayment recordedBy r.row) db true db')
    (hcurrent : (db.memberOf r.idNumber).bind db.current = some loanId)
    (hloan : db.loans[loanId]? = some loan) (hloan' : db'.loans[loanId]? = some loan') :
    loan.Credited r.amountPaid loan' ↔ loan.Agrees (db.paidOn loanId) r.amountPaid := by
  obtain ⟨id, hid, rfl⟩ := upsert_recorded hrecorded
  cases hid.symm.trans hcurrent
  rw [loans_record, if_pos rfl, hloan, Option.map_some] at hloan'
  cases hloan'
  have htotal : ofUnits ((db.paidOn loanId + r.row.amountPaid) * 100) =
      Rounding.units 100 (db.paidOn loanId + Rounding.roundTo 100 r.amountPaid) := by
    unfold ofUnits Rounding.units ImportedRepayment.row
    push_cast
    ring
  constructor
  · intro h
    have hrepaid := h.repaid
    refine ⟨(hrepaid.symm.trans htotal), (repaid_credited_iff hrepaid).mp h.outstanding⟩
  · intro h
    have hrepaid := htotal.trans h.total.symm
    exact ⟨(repaid_credited_iff hrepaid).mpr h.balance, hrepaid, repaid_fullyPaid loan _⟩

/-- A loan of KES 3,000 over three months, with nothing paid. -/
def exThreeMonths : SheetDb where
  users := [⟨some "30112233", some 7⟩]
  loans := [⟨7, .active, 10000000, 0, 30000000, some 100⟩]
  repayments := []

def exImported (dayNumber : Int) (amountPaid : ℚ) : ImportedRepayment :=
  ⟨"30112233", dayNumber, amountPaid, 950, none⟩

/-- A loan of one month, as the import makes them. -/
def exOneMonth : SheetDb :=
  { exThreeMonths with loans := [⟨7, .disbursed, 10600000, 0, 10600000, some 100⟩] }

theorem imported_repayment_one_month :
    ∃ db' loan', Yields (upsertLoanRepayment "admin" (exImported 1 500).row) exOneMonth true db' ∧
      db'.loans[0]? = some loan' ∧
      SheetLoan.Credited 500 ⟨7, .disbursed, 10600000, 0, 10600000, some 100⟩ loan' := by
  have hrun : Yields (upsertLoanRepayment "admin" (exImported 1 500).row) exOneMonth true
      (exOneMonth.record "admin" (exImported 1 500).row 0) := by decide +kernel
  refine ⟨_, ⟨7, .active, 10600000, 5000000, 5600000, some 100⟩, hrun, by decide +kernel, ?_⟩
  refine (imported_repayment_iff exOneMonth _ "admin" (exImported 1 500) 0
    ⟨7, .disbursed, 10600000, 0, 10600000, some 100⟩ _ hrun (by decide +kernel)
    rfl (by decide +kernel)).mpr ⟨by decide +kernel, .inl rfl⟩

/-- The first instalment of KES 1,000 closes the loan, and KES 2,000 are gone. -/
theorem import_closes_early :
    ∃ db' loan', Yields (upsertLoanRepayment "admin" (exImported 1 1000).row) exThreeMonths true db' ∧
      db'.loans[0]? = some loan' ∧ loan'.status = .fullyPaid ∧ loan'.outstandingBalance = 0 ∧
      ¬ SheetLoan.Credited 1000 ⟨7, .active, 10000000, 0, 30000000, some 100⟩ loan' := by
  refine ⟨exThreeMonths.record "admin" (exImported 1 1000).row 0,
    ⟨7, .fullyPaid, 10000000, 10000000, 0, some 100⟩, by decide +kernel, by decide +kernel, rfl, rfl,
    fun h => ?_⟩
  have houtstanding := h.outstanding
  revert houtstanding
  decide +kernel

end BebaSacco
