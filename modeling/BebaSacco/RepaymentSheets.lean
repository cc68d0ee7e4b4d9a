import BebaSacco.Schema
import Mathlib.Data.List.Sort
import Mathlib.Data.List.Perm.Basic
import Mathlib.Algebra.Ring.Int.Defs

/-! # Repayment sheets

A sheet of repayments names members and day numbers. Each row is recorded on the member's latest loan
that is paid out, unless that loan has a repayment for the day; the loan is closed when it is repaid.

Results:
 1. `upsert_does`: a row is recorded on one loan, or it changes nothing.
 2. `sheet_replays_iff`: a second import changes nothing and every repayment is on the loan that was
    current at the start, if and only if no member who has another loan to go on with repays one by
    the sheet.
 3. `sheet_lands_elsewhere`: a loan that is repaid by the sheet makes room for the one before.
-/

namespace BebaSacco

open Txn

/-! ## 1. The tables and the import -/

structure SheetUser where
  idNumber : Option String
  memberId : Option Nat
  deriving DecidableEq, Repr

structure SheetLoan where
  memberId : Nat
  status : LoanStatus
  monthlyInstalment : Int
  totalRepaid : Int
  outstandingBalance : Int
  disbursedAt : Option Int
  deriving DecidableEq, Repr

/-- `amountPaid` is in cents, the unit of its column; the columns of a loan have four digits. -/
structure SheetRepayment where
  loanId : Nat
  dayNumber : Int
  amountPaid : Int
  paymentDate : Int
  method : String
  recordedBy : String
  deriving DecidableEq, Repr

structure SheetDb where
  users : List SheetUser
  loans : List SheetLoan
  repayments : List SheetRepayment
  deriving DecidableEq, Repr

/-- `RawLoanRepaymentRow`; the amount is rounded to the cent, as the column rounds it. -/
structure RawLoanRepaymentRow where
  idNumber : String
  dayNumber : Int
  amountPaid : Int
  paymentDate : Int
  method : Option String
  deriving DecidableEq, Repr

/-- The columns hold the values: `dayNumber` has 32 bits and `amountPaid` ten digits. -/
def RawLoanRepaymentRow.fits (row : RawLoanRepaymentRow) : Bool :=
  -2147483648 ≤ row.dayNumber && row.dayNumber < 2147483648 && row.amountPaid.natAbs < 10000000000

/-- The member of the user with the number. -/
def SheetDb.memberOf (db : SheetDb) (idNumber : String) : Option Nat :=
  (db.users.find? (·.idNumber == some idNumber)).bind (·.memberId)

/-- `status: { in: ['DISBURSED', 'ACTIVE'] }`. -/
def SheetLoan.isOpen (loan : SheetLoan) : Bool :=
  loan.status == .disbursed || loan.status == .active

/-- The loans of a member that are paid out and not repaid, each with its date. -/
def SheetDb.openLoans (db : SheetDb) (memberId : Nat) : List (Nat × Option Int) :=
  (List.range db.loans.length).filterMap fun id =>
    (db.loans[id]?.filter fun loan => loan.memberId == memberId && loan.isOpen).map
      fun loan => (id, loan.disbursedAt)

/-- `disbursedAt: 'desc'` puts a row without a date first. -/
def laterDisbursed (a b : Nat × Option Int) : Bool :=
  match a.2, b.2 with
  | none, _ => true
  | some _, none => false
  | some x, some y => y ≤ x

/-- The first of the loans by their dates. -/
def latest (loans : List (Nat × Option Int)) : Option Nat :=
  (loans.insertionSort fun a b => laterDisbursed a b = true).head?.map Prod.fst

/-- The loan that a row of the member is recorded on. -/
def SheetDb.current (db : SheetDb) (memberId : Nat) : Option Nat := latest (db.openLoans memberId)

/-- The days that a loan has a repayment for. -/
def SheetDb.daysOn (db : SheetDb) (loanId : Nat) : List Int :=
  (db.repayments.filter (·.loanId == loanId)).map (·.dayNumber)

/-- `aggregate({ _sum: { amountPaid } })`, in cents. -/
def SheetDb.paidOn (db : SheetDb) (loanId : Nat) : Int :=
  ((db.repayments.filter (·.loanId == loanId)).map (·.amountPaid)).sum

/-- The update of a loan after a repayment. -/
def SheetLoan.repaid (totalRepaid : Int) (loan : SheetLoan) : SheetLoan :=
  let outstanding := loan.monthlyInstalment - totalRepaid
  { loan with
    totalRepaid
    outstandingBalance := if outstanding < 0 then 0 else outstanding
    status := if outstanding ≤ 0 then .fullyPaid else .active }

def RawLoanRepaymentRow.repayment (row : RawLoanRepaymentRow) (loanId : Nat) (recordedBy : String) :
    SheetRepayment where
  loanId := loanId
  dayNumber := row.dayNumber
  amountPaid := row.amountPaid
  paymentDate := row.paymentDate
  method := row.method.getD "CASH"
  recordedBy := recordedBy

/-- A row of the sheet; `true` when it was recorded. -/
def upsertLoanRepayment (recordedBy : String) (row : RawLoanRepaymentRow) : Txn SheetDb String Bool := do
  let db ← get
  let memberId ← required (db.memberOf row.idNumber)
    s!"Member not found for idNumber: {row.idNumber}"
  let loanId ← required (db.current memberId) s!"No active loan found for idNumber: {row.idNumber}"
  if row.dayNumber ∈ db.daysOn loanId then return false
  else do
    ensure (row.fits = true) "Value out of range"
    modify fun db => { db with repayments := db.repayments ++ [row.repayment loanId recordedBy] }
    -- the column of the total has four digits
    modify fun db =>
      { db with loans := db.loans.modify loanId (·.repaid (db.paidOn loanId * 100)) }
    return true

/-- What an import of repayments answers. -/
structure FinancialExecuteResponse where
  repaymentsCreated : Nat
  skipped : Nat
  errorDetails : List (Nat × String)
  deriving DecidableEq, Repr

def FinancialExecuteResponse.count (response : FinancialExecuteResponse) (rowNumber : Nat) :
    Except String Bool → FinancialExecuteResponse
  | .ok true => { response with repaymentsCreated := response.repaymentsCreated + 1 }
  | .ok false => { response with skipped := response.skipped + 1 }
  | .error reason => { response with errorDetails := response.errorDetails ++ [(rowNumber, reason)] }

/-- The rows from number `rowNumber` on; a row that fails is noted. -/
def importRows (recordedBy : String) (rowNumber : Nat) (response : FinancialExecuteResponse) :
    List RawLoanRepaymentRow → SheetDb → FinancialExecuteResponse × SheetDb
  | [], db => (response, db)
  | row :: rows, db =>
    let outcome := (upsertLoanRepayment recordedBy row).run db
    importRows recordedBy (rowNumber + 1) (response.count rowNumber (outcome.map Prod.fst)) rows
      (commit (upsertLoanRepayment recordedBy row) db)

/-- `executeFinancialImport` of a sheet of repayments. -/
def executeFinancialImport (recordedBy : String) (rows : List RawLoanRepaymentRow) (db : SheetDb) :
    FinancialExecuteResponse × SheetDb :=
  importRows recordedBy 1 ⟨0, 0, []⟩ rows db

/-! ## 2. The condition -/

/-- The rows of a member. -/
def SheetDb.rowsOf (db : SheetDb) (memberId : Nat) (rows : List RawLoanRepaymentRow) :
    List RawLoanRepaymentRow :=
  rows.filter fun row => db.memberOf row.idNumber == some memberId

/-- The rows for new days repay an instalment, on top of `paid` cents for `days`. -/
def repays (monthlyInstalment : Int) (days : List Int) (paid : Int) :
    List RawLoanRepaymentRow → Bool
  | [] => false
  | row :: rows =>
    if row.dayNumber ∈ days ∨ row.fits = false then repays monthlyInstalment days paid rows
    else decide (monthlyInstalment ≤ (paid + row.amountPaid) * 100) ||
      repays monthlyInstalment (days ++ [row.dayNumber]) (paid + row.amountPaid) rows

/-- The rows repay the loan. -/
def SheetDb.repaidBy (db : SheetDb) (loanId : Nat) (rows : List RawLoanRepaymentRow) : Bool :=
  db.loans[loanId]?.any fun loan =>
    repays loan.monthlyInstalment (db.daysOn loanId) (db.paidOn loanId) rows

/-- The member's current loan once `loanId` is closed. -/
def SheetDb.currentAfter (db : SheetDb) (memberId loanId : Nat) : Option Nat :=
  latest ((db.openLoans memberId).filter (·.1 != loanId))

/-- A row of a member whose current loan is repaid by the member's rows has nothing to record on the
loan that comes next. -/
def SheetDb.replayableRow (db : SheetDb) (rows : List RawLoanRepaymentRow)
    (row : RawLoanRepaymentRow) : Bool :=
  (db.memberOf row.idNumber).all fun memberId =>
    (db.current memberId).all fun loanId =>
      !db.repaidBy loanId (db.rowsOf memberId rows) ||
        (db.currentAfter memberId loanId).all fun next =>
          decide (row.dayNumber ∈ db.daysOn next) || !row.fits

def SheetDb.replayable (db : SheetDb) (rows : List RawLoanRepaymentRow) : Bool :=
  rows.all (db.replayableRow rows)

/-! ## 3. What a row does -/

/-- The loan that a row is recorded on. -/
def SheetDb.records (db : SheetDb) (row : RawLoanRepaymentRow) : Option Nat :=
  ((db.memberOf row.idNumber).bind db.current).filter fun loanId =>
    !decide (row.dayNumber ∈ db.daysOn loanId) && row.fits

/-- The tables with the repayment of a row on a loan. -/
def SheetDb.record (db : SheetDb) (recordedBy : String) (row : RawLoanRepaymentRow) (loanId : Nat) :
    SheetDb :=
  let db := { db with repayments := db.repayments ++ [row.repayment loanId recordedBy] }
  { db with loans := db.loans.modify loanId (·.repaid (db.paidOn loanId * 100)) }

/-- The tables after a row. -/
def SheetDb.importRow (db : SheetDb) (recordedBy : String) (row : RawLoanRepaymentRow) : SheetDb :=
  match db.records row with
  | some loanId => db.record recordedBy row loanId
  | none => db

/-- The tables after a sheet. -/
def SheetDb.importSheet (db : SheetDb) (recordedBy : String) (rows : List RawLoanRepaymentRow) :
    SheetDb :=
  rows.foldl (fun db row => db.importRow recordedBy row) db

/-- The loans that the rows of a sheet are recorded on. -/
def SheetDb.landed (db : SheetDb) (recordedBy : String) : List RawLoanRepaymentRow → List Nat
  | [] => []
  | row :: rows => (db.records row).toList ++ (db.importRow recordedBy row).landed recordedBy rows

def SheetDb.owner (db : SheetDb) (loanId : Nat) : Option Nat := db.loans[loanId]?.map (·.memberId)

def SheetDb.instalment (db : SheetDb) (loanId : Nat) : Option Int :=
  db.loans[loanId]?.map (·.monthlyInstalment)

namespace SheetLemmas

variable {db s : SheetDb} {recordedBy : String} {row : RawLoanRepaymentRow}
  {rows : List RawLoanRepaymentRow} {memberId loanId id : Nat}

theorem upsert_does (db : SheetDb) (recordedBy : String) (row : RawLoanRepaymentRow) :
    commit (upsertLoanRepayment recordedBy row) db = db.importRow recordedBy row := by
  unfold SheetDb.importRow SheetDb.records
  -- one case for each way out of the upsert, in the order of its checks
  cases hmember : db.memberOf row.idNumber with
  | none =>
    have hrun : (upsertLoanRepayment recordedBy row).run db =
        .error s!"Member not found for idNumber: {row.idNumber}" := by
      unfold upsertLoanRepayment required
      simp only [StateT.run_bind, StateT.run_get, pure_bind, hmember]
      rfl
    unfold commit
    rw [hrun]
    rfl
  | some memberId =>
    cases hcurrent : db.current memberId with
    | none =>
      have hrun : (upsertLoanRepayment recordedBy row).run db =
          .error s!"No active loan found for idNumber: {row.idNumber}" := by
        unfold upsertLoanRepayment required
        simp only [StateT.run_bind, StateT.run_get, pure_bind, hmember, hcurrent, StateT.run_pure]
        rfl
      unfold commit
      rw [hrun, Option.bind_some, hcurrent]
      rfl
    | some loanId =>
      rw [Option.bind_some, hcurrent]
      by_cases hday : row.dayNumber ∈ db.daysOn loanId
      · have hrun : (upsertLoanRepayment recordedBy row).run db = .ok (false, db) := by
          unfold upsertLoanRepayment required
          simp only [StateT.run_bind, StateT.run_get, pure_bind, hmember, hcurrent, StateT.run_pure,
            if_pos hday]
          rfl
        unfold commit
        rw [hrun, Option.filter_some, decide_eq_true hday]
        rfl
      · cases hfits : row.fits with
        | false =>
          have hrun : (upsertLoanRepayment recordedBy row).run db = .error "Value out of range" := by
            unfold upsertLoanRepayment required ensure
            simp only [StateT.run_bind, StateT.run_get, pure_bind, hmember, hcurrent,
              StateT.run_pure, if_neg hday, hfits]
            rfl
          unfold commit
          rw [hrun, Option.filter_some, Bool.and_false]
          rfl
        | true =>
          have hrun : (upsertLoanRepayment recordedBy row).run db =
              .ok (true, db.record recordedBy row loanId) := by
            unfold upsertLoanRepayment required ensure
            simp only [StateT.run_bind, StateT.run_get, pure_bind, hmember, hcurrent,
              StateT.run_pure, if_neg hday, hfits]
            rfl
          unfold commit
          rw [hrun, Option.filter_some, decide_eq_false hday]
          rfl

theorem importRows_does (recordedBy : String) (rowNumber : Nat) (response : FinancialExecuteResponse)
    (rows : List RawLoanRepaymentRow) (db : SheetDb) :
    (importRows recordedBy rowNumber response rows db).2 = db.importSheet recordedBy rows := by
  induction rows generalizing rowNumber response db with
  | nil => rfl
  | cons row rows ih =>
    unfold importRows
    rw [ih, upsert_does]
    rfl

theorem mem_openLoans {date : Option Int} :
    (id, date) ∈ db.openLoans memberId ↔ ∃ loan, db.loans[id]? = some loan ∧
      loan.memberId = memberId ∧ loan.isOpen = true ∧ loan.disbursedAt = date := by
  unfold SheetDb.openLoans
  simp only [List.mem_filterMap, List.mem_range, Option.map_eq_some_iff, Option.filter_eq_some_iff,
    Bool.and_eq_true, beq_iff_eq, Prod.mk.injEq]
  constructor
  · rintro ⟨_, _, loan, ⟨hloan, hmember, hstatus⟩, rfl, hdate⟩
    exact ⟨loan, hloan, hmember, hstatus, hdate⟩
  · rintro ⟨loan, hloan, hmember, hstatus, hdate⟩
    exact ⟨id, (List.getElem?_eq_some_iff.mp hloan).1, loan, ⟨hloan, hmember, hstatus⟩, rfl, hdate⟩

theorem latest_mem {loans : List (Nat × Option Int)} (h : latest loans = some id) :
    ∃ date, (id, date) ∈ loans := by
  obtain ⟨⟨_, date⟩, hhead, rfl⟩ := Option.map_eq_some_iff.mp h
  exact ⟨date, (List.mem_insertionSort _).mp (List.mem_of_head? hhead)⟩

/-- The loan of a row that is recorded: the member's current one, without a repayment for the day. -/
theorem records_some : db.records row = some loanId ↔
    ∃ memberId, db.memberOf row.idNumber = some memberId ∧ db.current memberId = some loanId ∧
      row.dayNumber ∉ db.daysOn loanId ∧ row.fits = true := by
  unfold SheetDb.records
  rw [Option.filter_eq_some_iff, Option.bind_eq_some_iff, Bool.and_eq_true, Bool.not_eq_true',
    decide_eq_false_iff_not]
  constructor
  · rintro ⟨⟨memberId, hmember, hcurrent⟩, hday, hfits⟩
    exact ⟨memberId, hmember, hcurrent, hday, hfits⟩
  · rintro ⟨memberId, hmember, hcurrent, hday, hfits⟩
    exact ⟨⟨memberId, hmember, hcurrent⟩, hday, hfits⟩

/-! ### A repayment is recorded -/

/-- The repayments on a loan with one more. -/
theorem filter_append_one (repayments : List SheetRepayment) (repayment : SheetRepayment) (id : Nat) :
    (repayments ++ [repayment]).filter (·.loanId == id) =
      repayments.filter (·.loanId == id) ++ if repayment.loanId = id then [repayment] else [] := by
  rw [List.filter_append]
  congr 1
  by_cases hid : repayment.loanId = id
  · rw [if_pos hid]
    exact List.filter_cons_of_pos (beq_iff_eq.mpr hid)
  · rw [if_neg hid]
    exact List.filter_cons_of_neg fun heq => hid (beq_iff_eq.mp heq)

theorem daysOn_record : (db.record recordedBy row loanId).daysOn id =
    db.daysOn id ++ if loanId = id then [row.dayNumber] else [] := by
  show ((db.repayments ++ [row.repayment loanId recordedBy]).filter (·.loanId == id)).map _ = _
  rw [filter_append_one, List.map_append]
  refine congrArg (db.daysOn id ++ ·) ?_
  by_cases hid : loanId = id
  · rw [if_pos hid, if_pos (show (row.repayment loanId recordedBy).loanId = id from hid)]
    rfl
  · rw [if_neg hid, if_neg (show (row.repayment loanId recordedBy).loanId ≠ id from hid)]
    rfl

theorem paidOn_append (repayment : SheetRepayment) :
    ({ db with repayments := db.repayments ++ [repayment] } : SheetDb).paidOn id =
      db.paidOn id + if repayment.loanId = id then repayment.amountPaid else 0 := by
  show (((db.repayments ++ [repayment]).filter (·.loanId == id)).map _).sum = _
  rw [filter_append_one, List.map_append, List.sum_append]
  refine congrArg (db.paidOn id + ·) ?_
  split
  · rw [List.map_singleton, List.sum_singleton]
  · rfl

theorem paidOn_record : (db.record recordedBy row loanId).paidOn id =
    db.paidOn id + if loanId = id then row.amountPaid else 0 :=
  paidOn_append (row.repayment loanId recordedBy)

theorem loans_record : (db.record recordedBy row loanId).loans[id]? =
    if loanId = id then
      db.loans[id]?.map (·.repaid ((db.paidOn loanId + row.amountPaid) * 100))
    else db.loans[id]? := by
  have htotal : ({ db with repayments := db.repayments ++ [row.repayment loanId recordedBy] } :
      SheetDb).paidOn loanId = db.paidOn loanId + row.amountPaid :=
    (paidOn_append _).trans (congrArg (db.paidOn loanId + ·) (if_pos rfl))
  unfold SheetDb.record
  dsimp only
  rw [htotal]
  split
  · next hid =>
    rw [← hid, List.getElem?_modify_eq]
    rfl
  · next hid => exact Table.getElem?_modify_other hid

theorem owner_record : (db.record recordedBy row loanId).owner id = db.owner id := by
  unfold SheetDb.owner
  rw [loans_record]
  split
  · rw [Option.map_map]
    rfl
  · rfl

theorem instalment_record : (db.record recordedBy row loanId).instalment id = db.instalment id := by
  unfold SheetDb.instalment
  rw [loans_record]
  split
  · rw [Option.map_map]
    rfl
  · rfl

theorem isOpen_repaid (loan : SheetLoan) (totalRepaid : Int) :
    (loan.repaid totalRepaid).isOpen = !decide (loan.monthlyInstalment ≤ totalRepaid) := by
  unfold SheetLoan.isOpen SheetLoan.repaid
  dsimp only
  by_cases hle : loan.monthlyInstalment ≤ totalRepaid
  · rw [if_pos (Int.sub_nonpos_of_le hle), decide_eq_true hle]
    rfl
  · rw [if_neg fun h => hle (Int.le_of_sub_nonpos h), decide_eq_false hle]
    rfl

/-- The loan leaves the open ones when it is repaid. -/
theorem openLoans_record {loan : SheetLoan} (hloan : db.loans[loanId]? = some loan)
    (hopen : loan.isOpen = true) :
    (db.record recordedBy row loanId).openLoans memberId =
      if loan.monthlyInstalment ≤ (db.paidOn loanId + row.amountPaid) * 100 then
        (db.openLoans memberId).filter (·.1 != loanId)
      else db.openLoans memberId := by
  have hlength : (db.record recordedBy row loanId).loans.length = db.loans.length :=
    List.length_modify _ _ _
  have hrow := isOpen_repaid loan ((db.paidOn loanId + row.amountPaid) * 100)
  unfold SheetDb.openLoans
  rw [hlength]
  split
  · next hrepaid =>
    rw [decide_eq_true hrepaid] at hrow
    rw [List.filter_filterMap]
    refine List.filterMap_congr fun k _ => ?_
    rw [loans_record]
    by_cases hk : loanId = k
    · subst hk
      rw [if_pos rfl, hloan, Option.map_some, Option.filter_some, hrow, Bool.not_true,
        Bool.and_false]
      cases hfilter : (some loan).filter fun loan => loan.memberId == memberId && loan.isOpen with
      | none => rfl
      | some x =>
        show none = (some (loanId, x.disbursedAt)).filter _
        rw [Option.filter_some, bne_self_eq_false]
        rfl
    · rw [if_neg hk]
      cases hfilter : db.loans[k]?.filter fun loan => loan.memberId == memberId && loan.isOpen with
      | none => rfl
      | some x =>
        show some (k, x.disbursedAt) = (some (k, x.disbursedAt)).filter _
        rw [Option.filter_some, (bne_iff_ne.mpr fun heq => hk heq.symm : (k != loanId) = true)]
        rfl
  · next hrepaid =>
    rw [decide_eq_false hrepaid] at hrow
    refine List.filterMap_congr fun k _ => ?_
    rw [loans_record]
    by_cases hk : loanId = k
    · subst hk
      rw [if_pos rfl, hloan, Option.map_some, Option.filter_some, Option.filter_some, hrow, hopen]
      show Option.map _ (if (loan.memberId == memberId && true) = true then _ else _) = _
      split
      · rfl
      · rfl
    · rw [if_neg hk]

end SheetLemmas

open SheetLemmas

/-! ## 4. One member during an import -/

/-- What an import that started with `db` has left of a member: the open loans `opens`, and for each
loan of the member the days and the cents that are recorded. -/
structure MemberView (db s : SheetDb) (memberId : Nat) (opens : List (Nat × Option Int))
    (days : Nat → List Int) (paid : Nat → Int) : Prop where
  users : s.users = db.users
  owners : ∀ id, s.owner id = db.owner id
  instalments : ∀ id, s.instalment id = db.instalment id
  opens : s.openLoans memberId = opens
  days : ∀ id, db.owner id = some memberId → s.daysOn id = days id
  paid : ∀ id, db.owner id = some memberId → s.paidOn id = paid id

namespace SheetLemmas

variable {db s : SheetDb} {recordedBy : String} {row : RawLoanRepaymentRow}
  {rows rows' : List RawLoanRepaymentRow} {memberId loanId id : Nat}
  {opens : List (Nat × Option Int)} {days : Nat → List Int} {paid : Nat → Int}

theorem memberOf_view (h : MemberView db s memberId opens days paid) (idNumber : String) :
    s.memberOf idNumber = db.memberOf idNumber := by
  unfold SheetDb.memberOf
  rw [h.users]

theorem current_view (h : MemberView db s memberId opens days paid) :
    s.current memberId = latest opens := by
  unfold SheetDb.current
  rw [h.opens]

/-- A row is recorded on a loan of its member. -/
theorem records_open (h : db.records row = some loanId) : ∃ memberId loan,
    db.memberOf row.idNumber = some memberId ∧ db.current memberId = some loanId ∧
      db.loans[loanId]? = some loan ∧ loan.memberId = memberId ∧ loan.isOpen = true := by
  obtain ⟨memberId, hmember, hcurrent, -, -⟩ := records_some.mp h
  obtain ⟨date, hmem⟩ := latest_mem hcurrent
  obtain ⟨loan, hloan, howner, hopen, -⟩ := mem_openLoans.mp hmem
  exact ⟨memberId, loan, hmember, hcurrent, hloan, howner, hopen⟩

theorem importRow_none (h : s.records row = none) : s.importRow recordedBy row = s := by
  unfold SheetDb.importRow
  rw [h]

theorem importRow_some (h : s.records row = some loanId) :
    s.importRow recordedBy row = s.record recordedBy row loanId := by
  unfold SheetDb.importRow
  rw [h]

/-- Whose loan a row is recorded on, in terms of the start of the import. -/
theorem records_owner (h : MemberView db s memberId opens days paid)
    (hrecords : s.records row = some loanId) : db.owner loanId = db.memberOf row.idNumber := by
  obtain ⟨m, loan, hmember, -, hloan, howner, -⟩ := records_open hrecords
  rw [← h.owners, ← memberOf_view h, hmember]
  unfold SheetDb.owner
  rw [hloan, Option.map_some, howner]

theorem view_other (h : MemberView db s memberId opens days paid)
    (hrow : db.memberOf row.idNumber ≠ some memberId) :
    MemberView db (s.importRow recordedBy row) memberId opens days paid := by
  cases hrecords : s.records row with
  | none =>
    rw [importRow_none hrecords]
    exact h
  | some loanId =>
    rw [importRow_some hrecords]
    have howner : db.owner loanId ≠ some memberId := by
      rw [records_owner h hrecords]
      exact hrow
    have hne : ∀ id, db.owner id = some memberId → loanId ≠ id := by
      rintro id hid rfl
      exact howner hid
    obtain ⟨_, loan, -, -, hloan, -, hopen⟩ := records_open hrecords
    refine ⟨h.users, fun id => owner_record.trans (h.owners id),
      fun id => instalment_record.trans (h.instalments id), ?_, fun id hid => ?_, fun id hid => ?_⟩
    · rw [openLoans_record hloan hopen, ← h.opens]
      split
      · refine List.filter_eq_self.mpr fun r hr => ?_
        obtain ⟨x, hx, hmember, -, -⟩ := mem_openLoans.mp (show (r.1, r.2) ∈ _ from hr)
        refine bne_iff_ne.mpr fun heq => howner ?_
        rw [← h.owners, ← heq]
        unfold SheetDb.owner
        rw [hx, Option.map_some, hmember]
      · rfl
    · rw [daysOn_record, if_neg (hne id hid), List.append_nil]
      exact h.days id hid
    · rw [paidOn_record, if_neg (hne id hid), Int.add_zero]
      exact h.paid id hid

theorem view_recorded {instalment : Int} (h : MemberView db s memberId opens days paid)
    (hrecords : s.records row = some loanId) (hrow : db.memberOf row.idNumber = some memberId)
    (hinstalment : db.instalment loanId = some instalment) :
    MemberView db (s.importRow recordedBy row) memberId
      (if instalment ≤ (paid loanId + row.amountPaid) * 100 then opens.filter (·.1 != loanId)
        else opens)
      (Function.update days loanId (days loanId ++ [row.dayNumber]))
      (Function.update paid loanId (paid loanId + row.amountPaid)) := by
  rw [importRow_some hrecords]
  obtain ⟨_, loan, -, -, hloan, -, hopen⟩ := records_open hrecords
  have howner : db.owner loanId = some memberId := (records_owner h hrecords).trans hrow
  have hmonthly : loan.monthlyInstalment = instalment := by
    have hsame := (h.instalments loanId).trans hinstalment
    unfold SheetDb.instalment at hsame
    rw [hloan] at hsame
    exact Option.some.inj hsame
  refine ⟨h.users, fun id => owner_record.trans (h.owners id),
    fun id => instalment_record.trans (h.instalments id), ?_, fun id hid => ?_, fun id hid => ?_⟩
  · rw [openLoans_record hloan hopen, h.paid loanId howner, h.opens, hmonthly]
  · rw [daysOn_record, h.days id hid]
    by_cases heq : id = loanId
    · rw [heq, if_pos rfl, Function.update_self]
    · rw [if_neg fun h => heq h.symm, List.append_nil, Function.update_of_ne heq]
  · rw [paidOn_record, h.paid id hid]
    by_cases heq : id = loanId
    · rw [heq, if_pos rfl, Function.update_self]
    · rw [if_neg fun h => heq h.symm, Int.add_zero, Function.update_of_ne heq]

theorem importSheet_append : s.importSheet recordedBy (rows ++ rows') =
    (s.importSheet recordedBy rows).importSheet recordedBy rows' :=
  List.foldl_append

theorem landed_append : s.landed recordedBy (rows ++ rows') =
    s.landed recordedBy rows ++ (s.importSheet recordedBy rows).landed recordedBy rows' := by
  induction rows generalizing s with
  | nil => rfl
  | cons row rows ih =>
    show (s.records row).toList ++ (s.importRow recordedBy row).landed recordedBy (rows ++ rows') = _
    rw [ih]
    exact (List.append_assoc _ _ _).symm

theorem owner_latest (h : MemberView db s memberId opens days paid)
    (hlatest : latest opens = some loanId) : db.owner loanId = some memberId := by
  obtain ⟨date, hmem⟩ := latest_mem hlatest
  rw [← h.opens] at hmem
  obtain ⟨loan, hloan, howner, -, -⟩ := mem_openLoans.mp hmem
  rw [← h.owners]
  unfold SheetDb.owner
  rw [hloan, Option.map_some, howner]

theorem records_view (h : MemberView db s memberId opens days paid)
    (hrow : db.memberOf row.idNumber = some memberId) (hlatest : latest opens = some loanId) :
    s.records row = if row.dayNumber ∈ days loanId ∨ row.fits = false then none else some loanId := by
  unfold SheetDb.records
  rw [memberOf_view h, hrow, Option.bind_some, current_view h, hlatest, Option.filter_some,
    h.days loanId (owner_latest h hlatest)]
  by_cases hday : row.dayNumber ∈ days loanId
  · refine Eq.trans (if_neg ?_) (if_pos (Or.inl hday)).symm
    rw [decide_eq_true hday]
    exact Bool.false_ne_true
  · cases hfits : row.fits with
    | true =>
      refine Eq.trans (if_pos ?_) (if_neg ?_).symm
      · rw [decide_eq_false hday]
        rfl
      · exact fun hskip => hskip.elim hday fun hnot => Bool.noConfusion hnot
    | false =>
      refine Eq.trans (if_neg ?_) (if_pos (Or.inr rfl)).symm
      rw [Bool.and_false]
      exact Bool.false_ne_true

theorem records_idle (h : MemberView db s memberId opens days paid)
    (hrow : db.memberOf row.idNumber = some memberId) (hlatest : latest opens = none) :
    s.records row = none := by
  unfold SheetDb.records
  rw [memberOf_view h, hrow, Option.bind_some, current_view h, hlatest]
  rfl

theorem owner_other (h : MemberView db s memberId opens days paid)
    (hrow : db.memberOf row.idNumber ≠ some memberId) :
    ∀ id ∈ (s.records row).toList, db.owner id ≠ some memberId := by
  intro id hid
  rw [records_owner h (Option.mem_toList.mp hid)]
  exact hrow

theorem rowsOf_own (hrow : db.memberOf row.idNumber = some memberId) :
    db.rowsOf memberId (row :: rows) = row :: db.rowsOf memberId rows :=
  List.filter_cons_of_pos (beq_iff_eq.mpr hrow)

theorem rowsOf_other (hrow : db.memberOf row.idNumber ≠ some memberId) :
    db.rowsOf memberId (row :: rows) = db.rowsOf memberId rows :=
  List.filter_cons_of_neg fun heq => hrow (beq_iff_eq.mp heq)

/-- Rows that do not repay the current loan: it stays current, and has a repayment for each of their
days in the end. -/
theorem run_open {instalment : Int} (h : MemberView db s memberId opens days paid)
    (hlatest : latest opens = some loanId) (hinstalment : db.instalment loanId = some instalment)
    (hrepays : repays instalment (days loanId) (paid loanId) (db.rowsOf memberId rows) = false) :
    ∃ days' paid', MemberView db (s.importSheet recordedBy rows) memberId opens days' paid' ∧
      (∀ d ∈ days loanId, d ∈ days' loanId) ∧
      (∀ row ∈ rows, db.memberOf row.idNumber = some memberId → row.fits = true →
        row.dayNumber ∈ days' loanId) ∧
      ∀ id ∈ s.landed recordedBy rows, db.owner id = some memberId → id = loanId := by
  -- on the rows: a row of another member leaves the view as it is, a row of a known day is skipped,
  -- and any other is recorded on the latest open loan
  induction rows generalizing s days paid with
  | nil =>
    exact ⟨days, paid, h, fun _ hd => hd, fun _ hmem => absurd hmem List.not_mem_nil,
      fun _ hmem => absurd hmem List.not_mem_nil⟩
  | cons row rows ih =>
    by_cases hrow : db.memberOf row.idNumber = some memberId
    · rw [rowsOf_own hrow, repays] at hrepays
      have hrecords := records_view h hrow hlatest
      split at hrepays
      · next hskip =>
        rw [if_pos hskip] at hrecords
        obtain ⟨days', paid', hview, hkept, hall, hlanded⟩ := ih h hrepays
        refine ⟨days', paid', ?_, hkept, fun row' hmem hmember hfits => ?_, ?_⟩
        · show MemberView db ((s.importRow recordedBy row).importSheet recordedBy rows) _ _ _ _
          rw [importRow_none hrecords]
          exact hview
        · rcases List.mem_cons.mp hmem with rfl | hmem
          · exact hkept _ (hskip.resolve_right fun hnot => Bool.noConfusion (hnot.symm.trans hfits))
          · exact hall row' hmem hmember hfits
        · show ∀ id ∈ (s.records row).toList ++ (s.importRow recordedBy row).landed recordedBy rows, _
          rw [importRow_none hrecords, hrecords]
          exact hlanded
      · next hskip =>
        rw [if_neg hskip] at hrecords
        rw [Bool.or_eq_false_iff, decide_eq_false_iff_not] at hrepays
        have hnext := @view_recorded db s recordedBy row _ _ _ _ _ _ h hrecords hrow hinstalment
        -- the row does not repay the loan, so it stays open for the rows that follow
        rw [if_neg hrepays.1] at hnext
        obtain ⟨days', paid', hview, hkept, hall, hlanded⟩ := ih hnext (by
          rw [Function.update_self, Function.update_self]
          exact hrepays.2)
        rw [Function.update_self] at hkept
        refine ⟨days', paid', hview, fun d hd => hkept d (List.mem_append_left _ hd),
          fun row' hmem hmember hfits => ?_, fun id hmem howner => ?_⟩
        · rcases List.mem_cons.mp hmem with rfl | hmem
          · exact hkept _ (List.mem_append_right _ (List.mem_singleton_self _))
          · exact hall row' hmem hmember hfits
        · rcases List.mem_append.mp hmem with hfirst | hrest
          · rw [hrecords] at hfirst
            exact (List.mem_singleton.mp hfirst)
          · exact hlanded id hrest howner
    · rw [rowsOf_other hrow] at hrepays
      obtain ⟨days', paid', hview, hkept, hall, hlanded⟩ :=
        ih (@view_other db s recordedBy row _ _ _ _ h hrow) hrepays
      refine ⟨days', paid', hview, hkept, fun row' hmem hmember => ?_, fun id hmem howner => ?_⟩
      · rcases List.mem_cons.mp hmem with rfl | hmem
        · exact absurd hmember hrow
        · exact hall row' hmem hmember
      · rcases List.mem_append.mp hmem with hfirst | hrest
        · exact absurd howner (owner_other h hrow id hfirst)
        · exact hlanded id hrest howner

/-- Rows that repay the current loan: after one of them it is closed, and nothing else was
recorded. -/
theorem run_closes {instalment : Int} (h : MemberView db s memberId opens days paid)
    (hlatest : latest opens = some loanId) (hinstalment : db.instalment loanId = some instalment)
    (hrepays : repays instalment (days loanId) (paid loanId) (db.rowsOf memberId rows) = true) :
    ∃ before after days' paid', rows = before ++ after ∧
      MemberView db (s.importSheet recordedBy before) memberId (opens.filter (·.1 != loanId))
        days' paid' ∧
      (∀ id, id ≠ loanId → days' id = days id) ∧
      ∀ id ∈ s.landed recordedBy before, db.owner id = some memberId → id = loanId := by
  induction rows generalizing s days paid with
  | nil => cases hrepays
  | cons row rows ih =>
    -- the rows before the one that closes the loan begin with this one
    have hcons : (∃ before after days' paid', rows = before ++ after ∧
        MemberView db ((s.importRow recordedBy row).importSheet recordedBy before) memberId
          (opens.filter (·.1 != loanId)) days' paid' ∧
        (∀ id, id ≠ loanId → days' id = days id) ∧
        ∀ id ∈ (s.importRow recordedBy row).landed recordedBy before,
          db.owner id = some memberId → id = loanId) →
        (∀ id ∈ (s.records row).toList, db.owner id = some memberId → id = loanId) →
        ∃ before after days' paid', row :: rows = before ++ after ∧
          MemberView db (s.importSheet recordedBy before) memberId (opens.filter (·.1 != loanId))
            days' paid' ∧
          (∀ id, id ≠ loanId → days' id = days id) ∧
          ∀ id ∈ s.landed recordedBy before, db.owner id = some memberId → id = loanId := by
      rintro ⟨before, after, days', paid', rfl, hview, hkept, hlanded⟩ hfirst
      refine ⟨row :: before, after, days', paid', rfl, hview, hkept, fun id hmem howner => ?_⟩
      rcases List.mem_append.mp hmem with hmem | hmem
      · exact hfirst id hmem howner
      · exact hlanded id hmem howner
    by_cases hrow : db.memberOf row.idNumber = some memberId
    · rw [rowsOf_own hrow, repays] at hrepays
      have hrecords := records_view h hrow hlatest
      split at hrepays
      · next hskip =>
        rw [if_pos hskip] at hrecords
        refine hcons ?_ fun id hmem => ?_
        · rw [importRow_none hrecords]
          exact ih h hrepays
        · rw [hrecords] at hmem
          cases hmem
      · next hskip =>
        rw [if_neg hskip] at hrecords
        have hfirst : ∀ id ∈ (s.records row).toList, db.owner id = some memberId → id = loanId := by
          intro id hmem _
          rw [hrecords] at hmem
          exact List.mem_singleton.mp hmem
        have hnext := @view_recorded db s recordedBy row _ _ _ _ _ _ h hrecords hrow hinstalment
        by_cases hrepaid : instalment ≤ (paid loanId + row.amountPaid) * 100
        · rw [if_pos hrepaid] at hnext
          refine hcons ⟨[], rows, _, _, rfl, hnext, fun id hne => Function.update_of_ne hne _ _,
            fun _ hmem => absurd hmem List.not_mem_nil⟩ hfirst
        · rw [if_neg hrepaid] at hnext
          rw [decide_eq_false hrepaid, Bool.false_or] at hrepays
          obtain ⟨before, after, days', paid', hsplit, hview, hkept, hlanded⟩ := ih hnext (by
            rw [Function.update_self, Function.update_self]
            exact hrepays)
          exact hcons ⟨before, after, days', paid', hsplit, hview,
            fun id hne => (hkept id hne).trans (Function.update_of_ne hne _ _), hlanded⟩ hfirst
    · rw [rowsOf_other hrow] at hrepays
      refine hcons (ih (@view_other db s recordedBy row _ _ _ _ h hrow) hrepays) fun id hmem howner => ?_
      exact absurd howner (owner_other h hrow id hmem)

/-- While no row is recorded for the member, the view of the member stays. -/
theorem run_idle (h : MemberView db s memberId opens days paid)
    (hidle : ∀ id ∈ s.landed recordedBy rows, db.owner id ≠ some memberId) :
    MemberView db (s.importSheet recordedBy rows) memberId opens days paid := by
  induction rows generalizing s with
  | nil => exact h
  | cons row rows ih =>
    refine ih ?_ fun id hmem => hidle id (List.mem_append_right _ hmem)
    show MemberView db (s.importRow recordedBy row) memberId opens days paid
    by_cases hrow : db.memberOf row.idNumber = some memberId
    · cases hrecords : s.records row with
      | none =>
        rw [importRow_none hrecords]
        exact h
      | some id =>
        refine absurd ((records_owner h hrecords).trans hrow) (hidle id ?_)
        exact List.mem_append_left _ (Option.mem_toList.mpr hrecords)
    · exact view_other h hrow

/-- No row is recorded for the member when its loans have a repayment for each of the rows' days. -/
theorem landed_idle (h : MemberView db s memberId opens days paid)
    (hall : ∀ row ∈ rows, db.memberOf row.idNumber = some memberId →
      ∀ next, latest opens = some next → row.dayNumber ∈ days next ∨ row.fits = false) :
    ∀ id ∈ s.landed recordedBy rows, db.owner id ≠ some memberId := by
  induction rows generalizing s with
  | nil => exact fun _ hmem => absurd hmem List.not_mem_nil
  | cons row rows ih =>
    intro id hmem
    by_cases hrow : db.memberOf row.idNumber = some memberId
    · have hnone : s.records row = none := by
        cases hlatest : latest opens with
        | none => exact records_idle h hrow hlatest
        | some next =>
          rw [records_view h hrow hlatest]
          exact if_pos (hall row List.mem_cons_self hrow next hlatest)
      rcases List.mem_append.mp hmem with hfirst | hrest
      · rw [hnone] at hfirst
        cases hfirst
      · rw [importRow_none hnone] at hrest
        exact ih h (fun row' hmem' => hall row' (List.mem_cons_of_mem _ hmem')) id hrest
    · rcases List.mem_append.mp hmem with hfirst | hrest
      · exact owner_other h hrow id hfirst
      · exact ih (view_other h hrow) (fun row' hmem' => hall row' (List.mem_cons_of_mem _ hmem'))
          id hrest

/-- In a state in which `closed` is not current, no row is recorded for the member when none may be
recorded but on `closed`. -/
theorem landed_closed {closed : Nat} (h : MemberView db s memberId opens days paid)
    (hne : latest opens ≠ some closed)
    (honly : ∀ id ∈ s.landed recordedBy rows, db.owner id = some memberId → id = closed) :
    ∀ id ∈ s.landed recordedBy rows, db.owner id ≠ some memberId := by
  induction rows generalizing s with
  | nil => exact fun _ hmem => absurd hmem List.not_mem_nil
  | cons row rows ih =>
    have hrest : ∀ id ∈ (s.importRow recordedBy row).landed recordedBy rows,
        db.owner id = some memberId → id = closed :=
      fun id hmem => honly id (List.mem_append_right _ hmem)
    intro id hmem
    by_cases hrow : db.memberOf row.idNumber = some memberId
    · cases hrecords : s.records row with
      | none =>
        rw [importRow_none hrecords] at hrest
        rcases List.mem_append.mp hmem with hfirst | hmem
        · rw [hrecords] at hfirst
          cases hfirst
        · rw [importRow_none hrecords] at hmem
          exact ih h hrest id hmem
      | some loanId =>
        have howner := (records_owner h hrecords).trans hrow
        have hclosed := honly loanId
          (List.mem_append_left _ (Option.mem_toList.mpr hrecords)) howner
        obtain ⟨m, hmember, hcurrent, -, -⟩ := records_some.mp hrecords
        cases (memberOf_view h row.idNumber).symm.trans hmember |>.symm.trans hrow
        rw [current_view h, hclosed] at hcurrent
        exact absurd hcurrent hne
    · rcases List.mem_append.mp hmem with hfirst | hmem
      · exact owner_other h hrow id hfirst
      · exact ih (view_other h hrow) hrest id hmem

/-- The repayments that an import adds, by their loans. -/
theorem importSheet_repayments (s : SheetDb) (recordedBy : String) (rows : List RawLoanRepaymentRow) :
    ∃ added : List SheetRepayment, (s.importSheet recordedBy rows).repayments = s.repayments ++ added ∧
      added.map (·.loanId) = s.landed recordedBy rows := by
  induction rows generalizing s with
  | nil => exact ⟨[], (List.append_nil _).symm, rfl⟩
  | cons row rows ih =>
    obtain ⟨added, hadded, hloans⟩ := ih (s.importRow recordedBy row)
    cases hrecords : s.records row with
    | none =>
      refine ⟨added, ?_, ?_⟩
      · rw [importRow_none hrecords] at hadded
        show ((s.importRow recordedBy row).importSheet recordedBy rows).repayments = _
        rw [importRow_none hrecords]
        exact hadded
      · show _ = (s.records row).toList ++ _
        rw [hloans, hrecords]
        rfl
    | some loanId =>
      refine ⟨row.repayment loanId recordedBy :: added, ?_, ?_⟩
      · have hfirst : (s.importRow recordedBy row).repayments =
            s.repayments ++ [row.repayment loanId recordedBy] := by
          rw [importRow_some hrecords]
          rfl
        show ((s.importRow recordedBy row).importSheet recordedBy rows).repayments = _
        rw [hadded, hfirst, List.append_assoc]
        rfl
      · show _ = (s.records row).toList ++ _
        rw [List.map_cons, hloans, hrecords]
        rfl

/-- An import that records nothing finds a repayment, or no loan, for each of its rows. -/
theorem landed_nil (h : s.landed recordedBy rows = []) : ∀ row ∈ rows, s.records row = none := by
  induction rows with
  | nil => exact fun _ hmem => absurd hmem List.not_mem_nil
  | cons row rows ih =>
    obtain ⟨hfirst, hrest⟩ := List.append_eq_nil_iff.mp h
    have hnone := Option.toList_eq_nil_iff.mp hfirst
    rw [importRow_none hnone] at hrest
    intro row' hmem
    rcases List.mem_cons.mp hmem with rfl | hmem
    · exact hnone
    · exact ih hrest row' hmem

theorem importSheet_same (h : ∀ row ∈ rows, s.records row = none) :
    s.importSheet recordedBy rows = s := by
  induction rows with
  | nil => rfl
  | cons row rows ih =>
    show (s.importRow recordedBy row).importSheet recordedBy rows = s
    rw [importRow_none (h row List.mem_cons_self)]
    exact ih fun row' hmem => h row' (List.mem_cons_of_mem _ hmem)

theorem view_start (db : SheetDb) (memberId : Nat) :
    MemberView db db memberId (db.openLoans memberId) db.daysOn db.paidOn :=
  ⟨rfl, fun _ => rfl, fun _ => rfl, rfl, fun _ _ => rfl, fun _ _ => rfl⟩

/-- The row of a replayable sheet, spelled out. -/
theorem replayableRow_iff (hrow : db.memberOf row.idNumber = some memberId)
    (hcurrent : db.current memberId = some loanId)
    (hrepaid : db.repaidBy loanId (db.rowsOf memberId rows) = true) :
    db.replayableRow rows row = true ↔ ∀ next, db.currentAfter memberId loanId = some next →
      row.dayNumber ∈ db.daysOn next ∨ row.fits = false := by
  unfold SheetDb.replayableRow
  rw [hrow, Option.all_some, hcurrent, Option.all_some, hrepaid, Bool.not_true, Bool.false_or]
  cases db.currentAfter memberId loanId with
  | none => exact ⟨fun _ _ hnone => (by cases hnone), fun _ => rfl⟩
  | some next =>
    rw [Option.all_some, Bool.or_eq_true, decide_eq_true_iff, Bool.not_eq_true']
    constructor
    · intro h next' heq
      cases heq
      exact h
    · exact fun h => h next rfl

theorem repaidBy_eq {instalment : Int} (hinstalment : db.instalment loanId = some instalment) :
    db.repaidBy loanId rows = repays instalment (db.daysOn loanId) (db.paidOn loanId) rows := by
  unfold SheetDb.instalment at hinstalment
  obtain ⟨loan, hloan, rfl⟩ := Option.map_eq_some_iff.mp hinstalment
  unfold SheetDb.repaidBy
  rw [hloan, Option.any_some]

theorem instalment_current (hcurrent : db.current memberId = some loanId) :
    ∃ instalment, db.instalment loanId = some instalment := by
  obtain ⟨date, hmem⟩ := latest_mem hcurrent
  obtain ⟨loan, hloan, -⟩ := mem_openLoans.mp hmem
  unfold SheetDb.instalment
  rw [hloan]
  exact ⟨_, rfl⟩

/-- The loan that is current after another one is closed is not that one. -/
theorem currentAfter_ne {next : Nat} (h : db.currentAfter memberId loanId = some next) :
    next ≠ loanId := by
  obtain ⟨date, hmem⟩ := latest_mem h
  exact bne_iff_ne.mp (List.mem_filter.mp hmem).2

/-- A member whose rows can be replayed: they are recorded on the current loan only, and once they
are, none of them is recorded again. -/
theorem member_replays
    (hrows : ∀ row ∈ rows, db.memberOf row.idNumber = some memberId →
      db.replayableRow rows row = true) :
    (∀ id ∈ db.landed recordedBy rows, db.owner id = some memberId → db.current memberId = some id) ∧
      ∀ row ∈ rows, db.memberOf row.idNumber = some memberId →
        (db.importSheet recordedBy rows).records row = none := by
  have hstart := view_start db memberId
  cases hcurrent : db.current memberId with
  | none =>
    have hidle := @landed_idle db db recordedBy rows _ _ _ _ hstart fun _ _ _ next hlatest => by
      cases hcurrent.symm.trans hlatest
    refine ⟨fun id hmem howner => absurd howner (hidle id hmem), fun row _ hrow => ?_⟩
    exact records_idle (run_idle hstart hidle) hrow hcurrent
  | some loanId =>
    obtain ⟨instalment, hinstalment⟩ := instalment_current hcurrent
    have hrepaidBy := @repaidBy_eq db (db.rowsOf memberId rows) _ _ hinstalment
    cases hrepays : repays instalment (db.daysOn loanId) (db.paidOn loanId)
      (db.rowsOf memberId rows) with
    | false =>
      obtain ⟨days', paid', hview, -, hall, hlanded⟩ :=
        @run_open db db recordedBy _ _ _ _ _ _ _ hstart hcurrent hinstalment hrepays
      refine ⟨fun id hmem howner => congrArg some (hlanded id hmem howner).symm, fun row hmem hrow => ?_⟩
      rw [records_view hview hrow hcurrent]
      cases hfits : row.fits with
      | true => exact if_pos (.inl (hall row hmem hrow hfits))
      | false => exact if_pos (.inr rfl)
    | true =>
      rw [hrepays] at hrepaidBy
      obtain ⟨before, after, days', paid', rfl, hview, hkept, hlanded⟩ :=
        @run_closes db db recordedBy _ _ _ _ _ _ _ hstart hcurrent hinstalment hrepays
      -- the loan that comes next has a repayment for the day of each row
      have hnext : ∀ row ∈ before ++ after, db.memberOf row.idNumber = some memberId →
          ∀ next, latest ((db.openLoans memberId).filter (·.1 != loanId)) = some next →
            row.dayNumber ∈ days' next ∨ row.fits = false := by
        intro row hmem hrow next hlatest
        rw [hkept next (currentAfter_ne hlatest)]
        exact (replayableRow_iff hrow hcurrent hrepaidBy).mp (hrows row hmem hrow) next hlatest
      have hidle := @landed_idle db _ recordedBy after _ _ _ _ hview fun row hmem =>
        hnext row (List.mem_append_right _ hmem)
      have hend := run_idle hview hidle
      rw [← importSheet_append] at hend
      refine ⟨fun id hmem howner => ?_, fun row hmem hrow => ?_⟩
      · rw [landed_append] at hmem
        rcases List.mem_append.mp hmem with hfirst | hrest
        · exact congrArg some (hlanded id hfirst howner).symm
        · exact absurd howner (hidle id hrest)
      · cases hlatest : latest ((db.openLoans memberId).filter (·.1 != loanId)) with
        | none => exact records_idle hend hrow hlatest
        | some next =>
          rw [records_view hend hrow hlatest]
          exact if_pos (hnext row hmem hrow next hlatest)

/-- A sheet that is replayed has rows that can be. -/
theorem replayable_of_replays
    (hlands : ∀ id ∈ db.landed recordedBy rows, ∀ memberId, db.owner id = some memberId →
      db.current memberId = some id)
    (hagain : ∀ row ∈ rows, (db.importSheet recordedBy rows).records row = none) :
    ∀ row ∈ rows, db.replayableRow rows row = true := by
  intro row hmem
  unfold SheetDb.replayableRow
  cases hrow : db.memberOf row.idNumber with
  | none => rfl
  | some memberId =>
    rw [Option.all_some]
    cases hcurrent : db.current memberId with
    | none => rfl
    | some loanId =>
      rw [Option.all_some]
      cases hrepaid : db.repaidBy loanId (db.rowsOf memberId rows) with
      | false => rfl
      | true =>
        have hstart := view_start db memberId
        obtain ⟨instalment, hinstalment⟩ := instalment_current hcurrent
        rw [repaidBy_eq hinstalment] at hrepaid
        obtain ⟨before, after, days', paid', rfl, hview, hkept, hlanded⟩ :=
          @run_closes db db recordedBy _ _ _ _ _ _ _ hstart hcurrent hinstalment hrepaid
        have hidle := @landed_closed db _ recordedBy after _ _ _ _ loanId hview
          (fun hlatest => currentAfter_ne hlatest rfl) fun id hid howner => by
            have hland := hlands id
              (by rw [landed_append]; exact List.mem_append_right _ hid) memberId howner
            exact (Option.some.inj (hcurrent.symm.trans hland)).symm
        have hend := run_idle hview hidle
        rw [← importSheet_append] at hend
        cases hnext : db.currentAfter memberId loanId with
        | none => rfl
        | some next =>
          have hnone := hagain row hmem
          rw [records_view hend hrow hnext, hkept next (currentAfter_ne hnext)] at hnone
          rw [Bool.not_true, Bool.false_or, Option.all_some, Bool.or_eq_true, decide_eq_true_iff,
            Bool.not_eq_true']
          split at hnone
          · next hskip => exact hskip
          · cases hnone

theorem importRow_kept (s : SheetDb) (recordedBy : String) (row : RawLoanRepaymentRow) :
    (s.importRow recordedBy row).users = s.users ∧
      ∀ id, (s.importRow recordedBy row).owner id = s.owner id := by
  cases hrecords : s.records row with
  | none =>
    rw [importRow_none hrecords]
    exact ⟨rfl, fun _ => rfl⟩
  | some loanId =>
    rw [importRow_some hrecords]
    exact ⟨rfl, fun _ => owner_record⟩

theorem importSheet_users : (s.importSheet recordedBy rows).users = s.users := by
  induction rows generalizing s with
  | nil => rfl
  | cons row rows ih => exact ih.trans (importRow_kept s recordedBy row).1

/-- A row is recorded on a loan that somebody has. -/
theorem landed_owner : ∀ id ∈ s.landed recordedBy rows, ∃ memberId, s.owner id = some memberId := by
  induction rows generalizing s with
  | nil => exact fun _ hmem => absurd hmem List.not_mem_nil
  | cons row rows ih =>
    intro id hmem
    rcases List.mem_append.mp hmem with hfirst | hrest
    · obtain ⟨memberId, loan, -, -, hloan, -, -⟩ := records_open (Option.mem_toList.mp hfirst)
      unfold SheetDb.owner
      rw [hloan]
      exact ⟨_, rfl⟩
    · obtain ⟨memberId, howner⟩ := ih id hrest
      exact ⟨memberId, ((importRow_kept s recordedBy row).2 id).symm.trans howner⟩

end SheetLemmas

/-! ## 5. The sheet again -/

/-- A second import of a sheet changes no loan and no repayment, and the first one records each
repayment on the loan that was its member's current one at the start, if and only if no member's
current loan is repaid by rows that another loan could still take. -/
theorem sheet_replays_iff {db : SheetDb} {recordedBy recordedBy' : String}
    {rows : List RawLoanRepaymentRow} :
    let first := (executeFinancialImport recordedBy rows db).2
    let second := (executeFinancialImport recordedBy' rows first).2
    ((second.loans = first.loans ∧ second.repayments = first.repayments) ∧
      ∀ r ∈ first.repayments.drop db.repayments.length, ∃ loan,
        db.loans[r.loanId]? = some loan ∧ db.current loan.memberId = some r.loanId) ↔
      db.replayable rows = true := by
  intro first second
  have hfirst : first = db.importSheet recordedBy rows := importRows_does _ _ _ _ _
  have hsecond : second = first.importSheet recordedBy' rows := importRows_does _ _ _ _ _
  obtain ⟨added, hadded, hloans⟩ := importSheet_repayments db recordedBy rows
  have hdrop : first.repayments.drop db.repayments.length = added := by
    rw [hfirst, hadded, List.drop_left]
  -- the rows that the first import added lie on the loans that were current before it
  have hlands : (∀ r ∈ added, ∃ loan, db.loans[r.loanId]? = some loan ∧
      db.current loan.memberId = some r.loanId) →
      ∀ id ∈ db.landed recordedBy rows, ∀ memberId, db.owner id = some memberId →
        db.current memberId = some id := by
    intro h id hid memberId howner
    rw [← hloans] at hid
    obtain ⟨r, hr, rfl⟩ := List.mem_map.mp hid
    obtain ⟨loan, hloan, hcurrent⟩ := h r hr
    unfold SheetDb.owner at howner
    rw [hloan] at howner
    rw [← Option.some.inj howner]
    exact hcurrent
  rw [hdrop, hsecond]
  unfold SheetDb.replayable
  rw [List.all_eq_true]
  constructor
  · rintro ⟨⟨-, hrepayments⟩, hcurrent⟩
    obtain ⟨again, hagain, hagainLoans⟩ := importSheet_repayments first recordedBy' rows
    -- a second import that adds no repayment has no loan to land on
    have hnil : first.landed recordedBy' rows = [] := by
      rw [← hagainLoans, List.map_eq_nil_iff]
      exact List.append_right_eq_self.mp (hagain.symm.trans hrepayments)
    rw [hfirst] at hnil
    exact replayable_of_replays (hlands hcurrent) (landed_nil hnil)
  · intro hrows
    have hmember := fun memberId => @member_replays db recordedBy rows memberId
      fun row hmem _ => hrows row hmem
    have hnone : ∀ row ∈ rows, first.records row = none := by
      intro row hmem
      rw [hfirst]
      cases hrow : db.memberOf row.idNumber with
      | some memberId => exact (hmember memberId).2 row hmem hrow
      | none =>
        have hnobody : (db.importSheet recordedBy rows).memberOf row.idNumber = none := by
          unfold SheetDb.memberOf
          rw [importSheet_users]
          exact hrow
        unfold SheetDb.records
        rw [hnobody]
        rfl
    rw [importSheet_same hnone]
    refine ⟨⟨rfl, rfl⟩, fun r hr => ?_⟩
    have hid : r.loanId ∈ db.landed recordedBy rows := by
      rw [← hloans]
      exact List.mem_map_of_mem hr
    obtain ⟨memberId, howner⟩ := landed_owner r.loanId hid
    have hcurrent := (hmember memberId).1 r.loanId hid howner
    unfold SheetDb.owner at howner
    obtain ⟨loan, hloan, rfl⟩ := Option.map_eq_some_iff.mp howner
    exact ⟨loan, hloan, hcurrent⟩

/-- A member with a loan of two years ago and one of last month. -/
def exSheetDb : SheetDb where
  users := [⟨some "30112233", some 7⟩]
  loans := [⟨7, .active, 50000000, 0, 50000000, some 100⟩, ⟨7, .active, 1060000, 0, 1060000, some 900⟩]
  repayments := []

/-- A row that repays the second loan. -/
def exSheetRow : RawLoanRepaymentRow := ⟨"30112233", 1, 10600, 950, none⟩

theorem sheet_lands_elsewhere :
    let first := (executeFinancialImport "admin" [exSheetRow] exSheetDb).2
    let second := (executeFinancialImport "admin" [exSheetRow] first).2
    (first.repayments.map (·.loanId) = [1] ∧ second.repayments.map (·.loanId) = [1, 0] ∧
      second.loans.map (·.totalRepaid) = [1060000, 1060000]) ∧
    exSheetDb.current 7 = some 1 ∧
      ((executeFinancialImport "admin" [exSheetRow, { exSheetRow with dayNumber := 2 }]
        exSheetDb).2.repayments.map (·.loanId) = [1, 0]) := by
  decide +kernel

end BebaSacco
