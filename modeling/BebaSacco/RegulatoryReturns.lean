import BebaSacco.DailyBatches
import BebaSacco.Lib.Calendar

/-! # Regulatory returns

The CBK return and the SASRA ratios are put together from aggregates of the current tables, each with
a filter of its own.

Results:
 1. `provisions_iff`, `portfolio_iff`, `growth_iff`, `quality_of_npl`: when each figure is what it
    stands for.
 2. `returns_right_iff`: when all of them are.
 3. `provisions_counted_twice`: a loan whose loss is calculated twice in a month is provisioned for
    twice.
-/

namespace BebaSacco

/-! ## 1. The tables -/

/-- `@@unique([tenantId, loanId, calculationDate])` -/
structure ProvisioningTable where
  entries : List ProvisioningEntry
  unique : entries.Pairwise fun a b => a.loanId = b.loanId → a.calculationDate ≠ b.calculationDate

/-- What the returns read. `createdAt` has the instants of the transactions, `deletedMembers` the
members with a `deletedAt`, and `filedReturns` the periods and versions of the returns so far. -/
structure Books where
  db : Db
  createdAt : Nat → Int
  deletedMembers : List Nat
  provisioning : ProvisioningTable
  filedReturns : List (Nat × Nat)

/-! ## 2. The CBK return -/

/-- A month, counted from January 1970, starts at midnight of the local time, `zone` ahead. -/
def periodStart (zone : Int) (period : Nat) : Int := Calendar.monthStart period * msPerDay - zone

def periodEnd (zone : Int) (period : Nat) : Int := periodStart zone (period + 1) - 1

/-- The end of the month before. -/
def prevPeriodEnd (zone : Int) (period : Nat) : Int := periodStart zone period - 1

def Db.balancesOf (db : Db) (accountType : AccountType) : Int :=
  Table.sumOver (·.balance) (db.accounts.filter fun a => a.accountType == accountType && a.isActive)

def Db.outstandingOf (db : Db) (counts : Loan → Bool) : Int :=
  Table.sumOver (fun loan => (loan.outstandingBalance : Int)) (db.loans.filter counts)

def Loan.countsPerforming (loan : Loan) : Bool :=
  loan.staging == .performing && (loan.status == .active || loan.status == .disbursed)

def Loan.countsWatchlist (loan : Loan) : Bool := loan.staging == .watchlist

def Loan.countsNpl (loan : Loan) : Bool := loan.staging == .npl

/-- The entries of the period. -/
def Books.periodEntries (books : Books) (zone : Int) (period : Nat) : List ProvisioningEntry :=
  books.provisioning.entries.filter fun e =>
    periodStart zone period ≤ e.calculationDate && e.calculationDate ≤ periodEnd zone period

/-- The sum of the completed transactions of the period of some types. -/
def Books.turnover (books : Books) (zone : Int) (period : Nat) (types : List TransactionType) : Int :=
  Table.sumOver (fun row => row.1.amount) (books.db.transactions.zipIdx.filter fun row =>
    types.contains row.1.type && row.1.status == .completed &&
      periodStart zone period ≤ books.createdAt row.2 && books.createdAt row.2 ≤ periodEnd zone period)

structure CbkReturn where
  period : Nat
  version : Nat
  totalMembers : Nat
  totalDeposits : Int
  totalShares : Int
  loanPortfolio : Int
  performingLoans : Int
  watchlistLoans : Int
  nplAmount : Int
  nplRatio : ℚ
  totalProvisions : Int
  depositGrowth : ℚ
  capitalAdequacy : ℚ
  liquidityRatio : ℚ
  totalAssets : Int
  totalIncome : Int
  totalExpenses : Int
  netSurplus : Int
  deriving DecidableEq, Repr

/-- `a / b`, or `other` when `b` is not positive. -/
def ratioOr (other : ℚ) (a b : Int) : ℚ := if 0 < b then a / b else other

def generateReturn (books : Books) (zone : Int) (period : Nat) : CbkReturn :=
  let deposits := books.db.balancesOf .fosa
  let shares := books.db.balancesOf .bosa
  let performing := books.db.outstandingOf Loan.countsPerforming
  let watchlist := books.db.outstandingOf Loan.countsWatchlist
  let npl := books.db.outstandingOf Loan.countsNpl
  let provisions := Table.sumOver (·.eclAmount) (books.periodEntries zone period)
  -- the deposits of the period before are read from the same accounts
  let prevDeposits := books.db.balancesOf .fosa
  let income := books.turnover zone period [.deposit, .loanRepayment, .interestAccrual]
  let expenses := books.turnover zone period [.withdrawal, .loanDisbursement]
  let loanPortfolio := performing + watchlist + npl
  let totalAssets := deposits + loanPortfolio
  { period := period
    version := ((books.filedReturns.filter (·.1 == period)).map (·.2)).foldl max 0 + 1
    totalMembers := (books.db.members.zipIdx.filter fun row =>
      row.1.isActive && !books.deletedMembers.contains row.2).length
    totalDeposits := deposits
    totalShares := shares
    loanPortfolio := loanPortfolio
    performingLoans := performing
    watchlistLoans := watchlist
    nplAmount := npl
    nplRatio := ratioOr 0 npl loanPortfolio
    totalProvisions := provisions
    depositGrowth := ratioOr 0 (deposits - prevDeposits) prevDeposits
    capitalAdequacy := ratioOr 0 shares totalAssets
    liquidityRatio := ratioOr 1 deposits deposits
    totalAssets := totalAssets
    totalIncome := income
    totalExpenses := expenses
    netSurplus := income - expenses }

/-! ## 3. The SASRA ratios -/

structure SasraRatios where
  liquidAssets : Int
  shortTermLiabilities : Int
  liquidityRatio : ℚ
  coreCapital : Int
  totalAssets : Int
  capitalAdequacyRatio : ℚ
  totalLoans : Int
  nplAmount : Int
  portfolioQualityRatio : ℚ
  nplCount : Nat
  activeLoanCount : Nat
  deriving DecidableEq, Repr

/-- `toDecimalPlaces(6)` -/
def sixPlaces (q : ℚ) : ℚ := Rounding.units 1000000 (Rounding.roundTo 1000000 q)

/-- The loans of `totalLoans`. -/
def Loan.countsTotal (loan : Loan) : Bool :=
  loan.status == .active || loan.status == .disbursed || loan.status == .defaulted

def computeRatios (books : Books) : SasraRatios :=
  let liquidAssets := books.db.balancesOf .fosa
  let coreCapital := books.db.balancesOf .bosa
  let totalDeposits := Table.sumOver (·.balance) (books.db.accounts.filter (·.isActive))
  let totalLoans := books.db.outstandingOf Loan.countsTotal
  let nplAmount := books.db.outstandingOf Loan.countsNpl
  let totalAssets := totalDeposits + totalLoans
  { liquidAssets := liquidAssets
    shortTermLiabilities := liquidAssets
    liquidityRatio := sixPlaces (ratioOr 0 liquidAssets liquidAssets)
    coreCapital := coreCapital
    totalAssets := totalAssets
    capitalAdequacyRatio := sixPlaces (ratioOr 0 coreCapital totalAssets)
    totalLoans := totalLoans
    nplAmount := nplAmount
    portfolioQualityRatio := sixPlaces (ratioOr 0 nplAmount totalLoans)
    nplCount := (books.db.loans.filter Loan.countsNpl).length
    activeLoanCount := (books.db.loans.filter fun loan =>
      loan.status == .active || loan.status == .disbursed).length }

/-! ## 4. What the figures stand for -/

/-- No later entry of the same loan is in the list. -/
def isLatest (entries : List ProvisioningEntry) (e : ProvisioningEntry) : Bool :=
  entries.all fun e' => e'.loanId != e.loanId || e'.calculationDate ≤ e.calculationDate

/-- A disbursed loan that is not rejected, fully paid or written off. -/
def Loan.inPortfolio (loan : Loan) : Bool :=
  loan.disbursedAt.isSome && loan.status != .rejected && loan.status != .rejectedGuarantorDecline &&
    loan.status != .fullyPaid && loan.status != .writtenOff

/-- In how many of the three classes the return counts a loan. -/
def Loan.classes (loan : Loan) : Nat :=
  [loan.countsPerforming, loan.countsWatchlist, loan.countsNpl].count true

/-- The returns of a month, made at `now` from the tables of that instant. `history` has the tables of
each instant. -/
structure ReturnsRight (history : Int → Books) (zone now : Int) (period : Nat) : Prop where
  provisions : (generateReturn (history now) zone period).totalProvisions =
    Table.sumOver (·.eclAmount) (((history now).periodEntries zone period).filter
      (isLatest ((history now).periodEntries zone period)))
  portfolio : (generateReturn (history now) zone period).loanPortfolio =
    (history now).db.outstandingOf Loan.inPortfolio
  classes : ∀ loan ∈ (history now).db.loans, loan.inPortfolio = true → loan.classes = 1
  growth : (generateReturn (history now) zone period).depositGrowth =
    ratioOr 0 ((history (periodEnd zone period)).db.balancesOf .fosa -
      (history (prevPeriodEnd zone period)).db.balancesOf .fosa)
        ((history (prevPeriodEnd zone period)).db.balancesOf .fosa)
  npl : ∀ loan ∈ (history now).db.loans, loan.countsNpl = true → loan.countsTotal = true
  quality : 0 ≤ (computeRatios (history now)).portfolioQualityRatio ∧
    (computeRatios (history now)).portfolioQualityRatio ≤ 1

/-- What the filters of the returns rely on. -/
structure Fileable (history : Int → Books) (zone now : Int) (period : Nat) : Prop where
  /-- The losses that are calculated again later in the month come to nothing. -/
  recalculated : Table.sumOver (·.eclAmount) (((history now).periodEntries zone period).filter fun e =>
    !isLatest ((history now).periodEntries zone period) e) = 0
  /-- No disbursed loan is of the performing staging in another status. -/
  performing : ∀ loan ∈ (history now).db.loans, loan.staging = .performing →
    loan.disbursedAt.isSome = true → loan.status ∈
      [.active, .disbursed, .rejected, .rejectedGuarantorDecline, .fullyPaid, .writtenOff]
  /-- Nothing is outstanding on the other loans that are counted. -/
  outside : ∀ loan ∈ (history now).db.loans, loan.inPortfolio = false → loan.classes ≠ 0 →
    loan.outstandingBalance = 0
  /-- The deposits did not change over the month, or there were none. -/
  deposits : (history (prevPeriodEnd zone period)).db.balancesOf .fosa ≤ 0 ∨
    (history (periodEnd zone period)).db.balancesOf .fosa =
      (history (prevPeriodEnd zone period)).db.balancesOf .fosa
  /-- No loan keeps the staging NPL before its disbursement or after its end. -/
  ended : ∀ loan ∈ (history now).db.loans, loan.staging = .npl → loan.status ∉
    [.draft, .pendingGuarantors, .pendingReview, .pendingApproval, .approved, .rejected,
      .rejectedGuarantorDecline, .fullyPaid, .writtenOff]

namespace ReturnLemmas

variable {books : Books} {history : Int → Books} {zone now : Int} {period : Nat}

/-! ## 5. The provisions -/

theorem provisions_iff : (generateReturn books zone period).totalProvisions =
      Table.sumOver (·.eclAmount) ((books.periodEntries zone period).filter
        (isLatest (books.periodEntries zone period))) ↔
    Table.sumOver (·.eclAmount) ((books.periodEntries zone period).filter fun e =>
      !isLatest (books.periodEntries zone period) e) = 0 := by
  have hsplit := Table.sumOver_filter_split (g := fun e : ProvisioningEntry => e.eclAmount)
    (isLatest (books.periodEntries zone period)) (books.periodEntries zone period)
  unfold generateReturn
  dsimp only
  omega

/-! ## 6. The loan portfolio -/

theorem classes_le (loan : Loan) : loan.classes ≤ 1 := by
  unfold Loan.classes Loan.countsPerforming Loan.countsWatchlist Loan.countsNpl
  cases loan.staging <;> cases loan.status <;> decide

/-- A loan of the portfolio is in a class unless it is staged as performing in another status. -/
theorem classes_eq_one_iff {loan : Loan} (h : loan.inPortfolio = true) : loan.classes = 1 ↔
    (loan.staging = .performing → loan.disbursedAt.isSome = true → loan.status ∈
      [.active, .disbursed, .rejected, .rejectedGuarantorDecline, .fullyPaid, .writtenOff]) := by
  unfold Loan.inPortfolio at h
  unfold Loan.classes Loan.countsPerforming Loan.countsWatchlist Loan.countsNpl
  revert h
  cases loan.disbursedAt.isSome <;> cases loan.staging <;> cases loan.status <;> decide

theorem performing_of_outside {loan : Loan} (h : loan.inPortfolio = false)
    (hdisbursed : loan.disbursedAt.isSome = true) : loan.status ∈
      [.active, .disbursed, .rejected, .rejectedGuarantorDecline, .fullyPaid, .writtenOff] := by
  unfold Loan.inPortfolio at h
  rw [hdisbursed] at h
  revert h
  cases loan.status <;> decide

/-- An amount that counts in one of three classes at most. -/
theorem sum_of_class : ∀ x y z : Bool, [x, y, z].count true ≤ 1 → ∀ n : Int,
    (if x then n else 0) + (if y then n else 0) + (if z then n else 0) =
      if [x, y, z].count true != 0 then n else 0 := by
  intro x y z
  cases x <;> cases y <;> cases z <;> simp

/-- The three figures add up to what is outstanding on the loans of a class. -/
theorem loanPortfolio_eq : (generateReturn books zone period).loanPortfolio =
    books.db.outstandingOf fun loan => loan.classes != 0 := by
  unfold generateReturn Db.outstandingOf
  dsimp only
  rw [Table.sumOver_filter, Table.sumOver_filter, Table.sumOver_filter, Table.sumOver_filter]
  induction books.db.loans with
  | nil => rfl
  | cons loan loans ih =>
    simp only [Table.sumOver_cons]
    have hloan := sum_of_class _ _ _ (classes_le loan) (loan.outstandingBalance : Int)
    unfold Loan.classes at ih ⊢
    omega

theorem outstandingOf_nonneg (db : Db) (counts : Loan → Bool) : 0 ≤ db.outstandingOf counts :=
  Table.sumOver_nonneg fun _ _ => Int.natCast_nonneg _

theorem outstandingOf_zero_iff (db : Db) (counts : Loan → Bool) : db.outstandingOf counts = 0 ↔
    ∀ loan ∈ db.loans, counts loan = true → loan.outstandingBalance = 0 := by
  constructor
  · intro h loan hloan hcounts
    obtain ⟨i, hi⟩ := List.mem_iff_getElem?.mp (List.mem_filter.mpr ⟨hloan, hcounts⟩)
    have hle := Table.le_sumOver (g := fun loan : Loan => (loan.outstandingBalance : Int)) hi
      fun _ _ => Int.natCast_nonneg _
    unfold Db.outstandingOf at h
    omega
  · intro h
    refine Table.sumOver_zero fun loan hloan => ?_
    obtain ⟨hloan, hcounts⟩ := List.mem_filter.mp hloan
    rw [h loan hloan hcounts]
    rfl

/-- When each loan of the portfolio is in a class, the figure is what is outstanding on the portfolio
exactly if nothing is outstanding on the other loans of the classes. -/
theorem portfolio_iff (hclasses : ∀ loan ∈ books.db.loans, loan.inPortfolio = true → loan.classes = 1) :
    (generateReturn books zone period).loanPortfolio = books.db.outstandingOf Loan.inPortfolio ↔
      ∀ loan ∈ books.db.loans, loan.inPortfolio = false → loan.classes ≠ 0 →
        loan.outstandingBalance = 0 := by
  have hsplit := Table.sumOver_filter_split (g := fun loan : Loan => (loan.outstandingBalance : Int))
    Loan.inPortfolio (books.db.loans.filter fun loan => loan.classes != 0)
  have hin : (books.db.loans.filter fun loan => loan.classes != 0).filter Loan.inPortfolio =
      books.db.loans.filter Loan.inPortfolio := by
    rw [List.filter_filter]
    refine List.filter_congr fun loan hloan => ?_
    cases hp : loan.inPortfolio
    · rfl
    · rw [hclasses loan hloan hp]
      rfl
  rw [hin, List.filter_filter] at hsplit
  have hzero := outstandingOf_zero_iff books.db
    fun loan => !loan.inPortfolio && loan.classes != 0
  rw [loanPortfolio_eq]
  have hiff : (∀ loan ∈ books.db.loans, loan.inPortfolio = false → loan.classes ≠ 0 →
      loan.outstandingBalance = 0) ↔ ∀ loan ∈ books.db.loans,
        (!loan.inPortfolio && loan.classes != 0) = true → loan.outstandingBalance = 0 := by
    refine forall₂_congr fun loan _ => ?_
    rw [Bool.and_eq_true, Bool.not_eq_true', bne_iff_ne, and_imp]
  rw [hiff, ← hzero]
  unfold Db.outstandingOf
  omega

/-! ## 7. The ratios -/

/-- The growth that is returned is always none. -/
theorem depositGrowth_eq : (generateReturn books zone period).depositGrowth = 0 := by
  unfold generateReturn ratioOr
  dsimp only
  rw [Int.sub_self, Int.cast_zero, zero_div, ite_self]

theorem growth_iff {before after : Int} : 0 = ratioOr 0 (after - before) before ↔
    before ≤ 0 ∨ after = before := by
  unfold ratioOr
  split
  · next hpos =>
    have hne : (before : ℚ) ≠ 0 := Int.cast_ne_zero.mpr (by omega)
    rw [eq_comm, div_eq_zero_iff, or_iff_left hne, Int.cast_eq_zero]
    omega
  · next hneg => exact iff_of_true rfl (.inl (Int.not_lt.mp hneg))

theorem sixPlaces_mem {q : ℚ} (h : 0 ≤ q) (hle : q ≤ 1) : 0 ≤ sixPlaces q ∧ sixPlaces q ≤ 1 := by
  unfold sixPlaces Rounding.units
  have hnonneg : (0 : ℚ) ≤ Rounding.roundTo 1000000 q := by
    exact_mod_cast Rounding.roundTo_nonneg h
  have hround : (Rounding.roundTo 1000000 q : ℚ) ≤ 1000000 := by
    have := Rounding.roundTo_le (q := q) (n := 1000000) (show 0 < 1000000 by decide) (by decide)
      (by unfold Rounding.units; norm_num; exact hle)
    exact_mod_cast this
  constructor
  · positivity
  · rw [div_le_one (by norm_num)]
    exact_mod_cast hround

/-- When the loans that are not performing are among all loans, the ratio is between 0 and 1. -/
theorem quality_of_npl (h : ∀ loan ∈ books.db.loans, loan.countsNpl = true → loan.countsTotal = true) :
    0 ≤ (computeRatios books).portfolioQualityRatio ∧
      (computeRatios books).portfolioQualityRatio ≤ 1 := by
  have hle : books.db.outstandingOf Loan.countsNpl ≤ books.db.outstandingOf Loan.countsTotal := by
    unfold Db.outstandingOf
    rw [Table.sumOver_filter, Table.sumOver_filter]
    refine Table.sumOver_le fun loan hloan => ?_
    by_cases hnpl : loan.countsNpl = true
    · rw [if_pos hnpl, if_pos (h loan hloan hnpl)]
    · rw [if_neg hnpl]
      split
      · exact Int.natCast_nonneg _
      · exact Int.le_refl 0
  have hnonneg := outstandingOf_nonneg books.db Loan.countsNpl
  refine sixPlaces_mem ?_ ?_
  · unfold ratioOr
    split
    · positivity
    · exact le_refl 0
  · unfold ratioOr
    split
    · next hpos => exact (div_le_one (by exact_mod_cast hpos)).mpr (by exact_mod_cast hle)
    · exact zero_le_one

theorem npl_counted_iff {loan : Loan} : (loan.countsNpl = true → loan.countsTotal = true) ↔
    (loan.staging = .npl → loan.status ∉ [.draft, .pendingGuarantors, .pendingReview, .pendingApproval,
      .approved, .rejected, .rejectedGuarantorDecline, .fullyPaid, .writtenOff]) := by
  unfold Loan.countsNpl Loan.countsTotal
  cases loan.staging <;> cases loan.status <;> decide

end ReturnLemmas

open ReturnLemmas

/-! ## 8. All figures -/

/-- The figures are what they stand for exactly if no loss that comes to something is calculated again
in the month, the stagings go with the statuses, and the deposits did not change. -/
theorem returns_right_iff (history : Int → Books) (zone now : Int) (period : Nat) :
    ReturnsRight history zone now period ↔ Fileable history zone now period := by
  constructor
  · intro h
    refine ⟨provisions_iff.mp h.provisions, ?_, (portfolio_iff h.classes).mp h.portfolio, ?_, ?_⟩
    · intro loan hloan hstaging hdisbursed
      cases hin : loan.inPortfolio
      · exact performing_of_outside hin hdisbursed
      · exact (classes_eq_one_iff hin).mp (h.classes loan hloan hin) hstaging hdisbursed
    · exact growth_iff.mp (depositGrowth_eq.symm.trans h.growth)
    · exact fun loan hloan => npl_counted_iff.mp (h.npl loan hloan)
  · intro h
    have hclasses : ∀ loan ∈ (history now).db.loans, loan.inPortfolio = true → loan.classes = 1 :=
      fun loan hloan hin => (classes_eq_one_iff hin).mpr (h.performing loan hloan)
    have hnpl : ∀ loan ∈ (history now).db.loans, loan.countsNpl = true → loan.countsTotal = true :=
      fun loan hloan => npl_counted_iff.mpr (h.ended loan hloan)
    exact ⟨provisions_iff.mpr h.recalculated, (portfolio_iff hclasses).mpr h.outside, hclasses,
      depositGrowth_eq.trans (growth_iff.mpr h.deposits), hnpl, quality_of_npl hnpl⟩

/-- One loan in the class NPL, calculated on two days of February 1970. -/
def exFilingBooks : Books where
  db := { exSacco with loans := [{ exLoan with staging := .npl }] }
  createdAt := fun _ => 0
  deletedMembers := []
  provisioning := ⟨[⟨0, 40 * msPerDay, .npl, 1, 1, 1000000, 1000000, 1⟩,
    ⟨0, 50 * msPerDay, .npl, 1, 1, 1000000, 1000000, 1⟩], by decide⟩
  filedReturns := []

/-- The return of February has KES 200 of provisions for a loan of KES 100. -/
theorem provisions_counted_twice :
    (generateReturn exFilingBooks 10800000 1).totalProvisions = 2000000 ∧
      ¬ ReturnsRight (fun _ => exFilingBooks) 10800000 (60 * msPerDay) 1 := by
  have hreturn : (generateReturn exFilingBooks 10800000 1).totalProvisions = 2000000 := by decide +kernel
  refine ⟨hreturn, fun h => ?_⟩
  have hprovisions := h.provisions
  rw [hreturn] at hprovisions
  revert hprovisions
  decide +kernel

end BebaSacco
