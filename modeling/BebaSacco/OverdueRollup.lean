import BebaSacco.Accruals

/-! # The rollup of overdue instalments

The nightly job adds a penalty to the instalments of a loan that are overdue past the grace period
and rebuilds the arrears from the schedule. Repayments in between write the instalments too.

Results:
 1. `rollup_settles`: after a call no instalment is left that gets a penalty on this day.
 2. `overdue_rollup`: a second call on a day changes nothing, no instalment gets two penalties for
    one day, and the arrears are what is unpaid of the instalments that were due.
 3. `arrears_without_overdue`: an instalment in its days of grace counts though it is not OVERDUE.
-/

namespace BebaSacco

open Txn FootprintLemmas InstallmentLemmas AccrualLemmas

/-! ## 1. Nights and repayments -/

inductive NightStep
  | rollup (loanId fosaAccountId : Nat) (accrualDate : Int)
  | repay (params : RepayParams)
  | processRepayment (now : Int) (input : ProcessRepaymentInput)
  deriving DecidableEq, Repr

/-- One step on the database; a step that fails leaves it alone. -/
def NightStep.exec : NightStep → Db → Db
  | .rollup loanId fosaAccountId accrualDate =>
    commit (applyOverdueInstallmentsAndArrears loanId fosaAccountId accrualDate)
  | .repay params => commit (BebaSacco.repay params)
  | .processRepayment now input => commit (BebaSacco.processRepayment now input)

def Db.afterNights (db : Db) (steps : List NightStep) : Db :=
  steps.foldl (fun db step => step.exec db) db

def Db.penaltyOf (db : Db) (id : Nat) : Option Nat := db.loanRepayments[id]?.map (·.penaltyDue)

/-- The step is a rollup of the day that adds a penalty to the instalment. -/
def NightStep.penalizes (step : NightStep) (db : Db) (id : Nat) (accrualDate : Int) : Bool :=
  match step with
  | .rollup _ _ date => date == accrualDate && (step.exec db).penaltyOf id != db.penaltyOf id
  | _ => false

/-- How often an instalment gets a penalty for a day in a run. -/
def penaltyCount (id : Nat) (accrualDate : Int) : Db → List NightStep → Nat
  | _, [] => 0
  | db, step :: steps =>
    (if step.penalizes db id accrualDate then 1 else 0) +
      penaltyCount id accrualDate (step.exec db) steps

/-- What is unpaid of the instalments that satisfy `p` and were due before the date. -/
def Db.unpaidBefore (db : Db) (loanId : Nat) (accrualDate : Int) (p : LoanRepayment → Bool) : Nat :=
  ((db.loanRepayments.filter fun r =>
    decide (r.dueDate < accrualDate) && (r.loanId == loanId && p r)).map (·.unpaid)).sum

/-- The instalment has had the penalty of the day, or of a later one. -/
def Db.PenalizedUpTo (db : Db) (id : Nat) (accrualDate : Int) : Prop :=
  ∀ row, db.loanRepayments[id]? = some row →
    ∃ last, row.lastPenaltyAccrualDate = some last ∧ accrualDate ≤ last

namespace OverdueLemmas

variable {db db' : Db} {loanId accountId id : Nat} {accrualDate : Int}

/-! ## 2. One call -/

theorem penalize_cases {row : Nat × LoanRepayment} {u : Unit}
    (h : Yields (penalizeInstallment loanId accountId accrualDate row) db u db') :
    (row.2.dailyPenalty = 0 ∧ db' = db) ∨
      0 < row.2.dailyPenalty ∧ db'.loanRepayments =
        db.loanRepayments.modify row.1 (·.penalize row.2.dailyPenalty accrualDate) := by
  unfold penalizeInstallment at h
  rcases yields_ite.mp h with ⟨hpos, h⟩ | ⟨hzero, h⟩
  · simp only [yields_bind, yields_modify, yields_get] at h
    obtain ⟨_, _, rfl, _, _, ⟨rfl, rfl⟩, h⟩ := h
    refine .inr ⟨hpos, ?_⟩
    split at h
    · rw [← (yields_pure.mp h).2]
      rfl
    · simp only [yields_bind, yields_pure] at h
      obtain ⟨_, _, ht, _, _, hleg, _, rfl⟩ := h
      obtain ⟨es, rfl⟩ := posted_of_leg ht hleg
      rfl
  · exact .inl ⟨Nat.eq_zero_of_not_pos hzero, (yields_pure.mp h).2.symm⟩

theorem penalize_due (row : LoanRepayment) (penalty : Nat) :
    (row.penalize penalty accrualDate).penaltyDueOn accrualDate = false :=
  decide_eq_false (Int.lt_irrefl accrualDate)

theorem mem_penaltyEligible {r : Nat × LoanRepayment} :
    r ∈ db.penaltyEligible loanId accrualDate ↔ db.loanRepayments[r.1]? = some r.2 ∧
      (r.2.loanId == loanId && r.2.status != .paid &&
        decide (r.2.dueDate < accrualDate - PENALTY_GRACE_DAYS * msPerDay) &&
        r.2.penaltyDueOn accrualDate) = true :=
  Table.mem_selectRows

/-- Instalments that get a penalty on this day are among the rows. -/
def Pending (loanId : Nat) (accrualDate : Int) (rows : List (Nat × LoanRepayment)) (db : Db) :
    Prop :=
  ∀ r ∈ db.penaltyEligible loanId accrualDate, 0 < r.2.dailyPenalty → r ∈ rows

/-- What one instalment can meet in a call: nothing, or the penalty of a day on which it had none. -/
def Penalized (accrualDate : Int) (row row' : LoanRepayment) : Prop :=
  row' = row ∨ row.penaltyDueOn accrualDate = true ∧
    ∃ penalty, row' = row.penalize penalty accrualDate

/-- The loop over the instalments leaves none pending. -/
theorem penalties_loop {rows : List (Nat × LoanRepayment)} {u : Unit} (hrows : Current rows db)
    (hpending : Pending loanId accrualDate rows db)
    (hdue : ∀ r ∈ rows, r.2.penaltyDueOn accrualDate = true)
    (h : Yields (rows.forM (penalizeInstallment loanId accountId accrualDate)) db u db') :
    Pending loanId accrualDate [] db' ∧
      db'.loanRepayments.length = db.loanRepayments.length ∧
      ∀ (id : Nat) (row row' : LoanRepayment), db.loanRepayments[id]? = some row →
        db'.loanRepayments[id]? = some row' → Penalized accrualDate row row' := by
  induction rows generalizing db with
  | nil =>
    obtain ⟨-, rfl⟩ := yields_pure.mp h
    refine ⟨hpending, rfl, fun id row row' hrow hrow' => .inl ?_⟩
    cases hrow.symm.trans hrow'
    rfl
  | cons r rows ih =>
    obtain ⟨_, mid, hone, hrest⟩ := yields_bind.mp h
    have hdue' : ∀ r ∈ rows, r.2.penaltyDueOn accrualDate = true :=
      fun r hr => hdue r (List.mem_cons_of_mem _ hr)
    rcases penalize_cases hone with ⟨hzero, rfl⟩ | ⟨hpos, hmid⟩
    · refine ih (current_tail hrows) (fun r' hr' hpos => ?_) hdue' hrest
      rcases List.mem_cons.mp (hpending r' hr' hpos) with rfl | hlater
      · exact absurd hzero (Nat.ne_of_gt hpos)
      · exact hlater
    · have hrow := hrows.2 r List.mem_cons_self
      have hself : mid.loanRepayments[r.1]? =
          some (r.2.penalize r.2.dailyPenalty accrualDate) := by
        rw [hmid]
        exact Table.getElem?_modify_self hrow
      have hother : ∀ {id : Nat}, r.1 ≠ id → mid.loanRepayments[id]? = db.loanRepayments[id]? := by
        intro id hne
        rw [hmid]
        exact Table.getElem?_modify_other hne
      have hcurrent : Current rows mid := by
        obtain ⟨hnew, hnodup⟩ := List.nodup_cons.mp hrows.1
        refine ⟨hnodup, fun r' hr' => ?_⟩
        rw [hother fun heq => hnew (heq ▸ List.mem_map_of_mem hr')]
        exact hrows.2 r' (List.mem_cons_of_mem _ hr')
      have hpending' : Pending loanId accrualDate rows mid := by
        intro r' hr' hpos'
        obtain ⟨hrow', hp⟩ := mem_penaltyEligible.mp hr'
        by_cases heq : r.1 = r'.1
        · -- the instalment has had its penalty
          rw [← heq, hself] at hrow'
          rw [← Option.some.inj hrow', Bool.and_eq_true] at hp
          cases hp.2.symm.trans (penalize_due _ _)
        · rw [hother heq] at hrow'
          rcases List.mem_cons.mp (hpending r' (mem_penaltyEligible.mpr ⟨hrow', hp⟩) hpos') with
            rfl | hlater
          · exact absurd rfl heq
          · exact hlater
      obtain ⟨hsettled, hlength, hmet⟩ := ih hcurrent hpending' hdue' hrest
      refine ⟨hsettled, hlength.trans (by rw [hmid, List.length_modify]), ?_⟩
      intro id row row' hid hid'
      by_cases heq : r.1 = id
      · subst heq
        cases hrow.symm.trans hid
        rcases hmet r.1 _ row' hself hid' with rfl | ⟨hagain, -⟩
        · exact .inr ⟨hdue r List.mem_cons_self, _, rfl⟩
        · cases hagain.symm.trans (penalize_due _ _)
      · exact hmet id row row' ((hother heq).trans hid) hid'

theorem rollup_settles {arrears : Arrears}
    (h : Yields (applyOverdueInstallmentsAndArrears loanId accountId accrualDate) db arrears db') :
    Pending loanId accrualDate [] db' ∧ arrears = db'.arrears loanId accrualDate ∧
      db'.loanRepayments.length = db.loanRepayments.length ∧
      ∀ (id : Nat) (row row' : LoanRepayment), db.loanRepayments[id]? = some row →
        db'.loanRepayments[id]? = some row' → Penalized accrualDate row row' := by
  simp only [applyOverdueInstallmentsAndArrears, yields_bind, yields_get, yields_pure] at h
  obtain ⟨_, _, ⟨rfl, rfl⟩, _, mid, hloop, _, _, ⟨rfl, rfl⟩, rfl, rfl⟩ := h
  have hcurrent : Current (db.penaltyEligible loanId accrualDate) db :=
    ⟨Table.nodup_selectRows, fun r hr => (mem_penaltyEligible.mp hr).1⟩
  obtain ⟨hsettled, hlength, hmet⟩ := penalties_loop hcurrent (fun r hr _ => hr)
    (fun r hr => (Bool.and_eq_true _ _ ▸ (mem_penaltyEligible.mp hr).2).2) hloop
  exact ⟨hsettled, rfl, hlength, hmet⟩

theorem loop_idle {rows : List (Nat × LoanRepayment)} (h : ∀ r ∈ rows, r.2.dailyPenalty = 0) :
    Yields (rows.forM (penalizeInstallment loanId accountId accrualDate)) db () db := by
  induction rows with
  | nil => exact yields_pure.mpr ⟨rfl, rfl⟩
  | cons r rows ih =>
    refine yields_bind.mpr ⟨(), db, ?_, ih fun r' hr' => h r' (List.mem_cons_of_mem _ hr')⟩
    unfold penalizeInstallment
    exact yields_ite.mpr (.inr ⟨by rw [h r List.mem_cons_self]; exact Nat.lt_irrefl 0,
      yields_pure.mpr ⟨rfl, rfl⟩⟩)

/-- A second call on the day finds nothing to penalize. -/
theorem rollup_again {arrears : Arrears} {accountId' : Nat}
    (h : Yields (applyOverdueInstallmentsAndArrears loanId accountId accrualDate) db arrears db') :
    Yields (applyOverdueInstallmentsAndArrears loanId accountId' accrualDate) db' arrears db' := by
  obtain ⟨hsettled, rfl, -, -⟩ := rollup_settles h
  simp only [applyOverdueInstallmentsAndArrears, yields_bind, yields_get, yields_pure]
  refine ⟨_, _, ⟨rfl, rfl⟩, (), db', loop_idle fun r hr => ?_, _, _, ⟨rfl, rfl⟩, rfl, rfl⟩
  refine Nat.eq_zero_of_not_pos fun hpos => ?_
  cases hsettled r hr hpos

/-! ## 3. Runs -/

/-- The columns of an instalment that a penalty is recorded in. -/
def penaltyColumns (row : LoanRepayment) : Nat × Option Int :=
  (row.penaltyDue, row.lastPenaltyAccrualDate)

theorem repayment_columns {db : Db} {step : NightStep} (h : ∀ l a d, step ≠ .rollup l a d) :
    (step.exec db).loanRepayments.map penaltyColumns = db.loanRepayments.map penaltyColumns := by
  cases step with
  | rollup l a d => exact absurd rfl (h l a d)
  | repay params =>
    rcases yields_or_fails (BebaSacco.repay params) db with ⟨r, db', hy⟩ | hfails
    · show (commit _ db).loanRepayments.map _ = _
      rw [commit_of_yields hy]
      rcases repay_paid hy with rfl | ⟨_, _, _, hrows, _⟩
      · rfl
      · rw [hrows]
    · show (commit _ db).loanRepayments.map _ = _
      rw [commit_of_fails hfails]
  | processRepayment now input =>
    rcases yields_or_fails (BebaSacco.processRepayment now input) db with ⟨r, db', hy⟩ | hfails
    · show (commit _ db).loanRepayments.map _ = _
      rw [commit_of_yields hy]
      rcases processRepayment_cases hy with ⟨rfl, -⟩ | ⟨amount, loanId, loan, -, -, -, -, happly⟩
      · rfl
      obtain ⟨mid, halloc, hsame⟩ := applyRepayment_cases happly
      have hkept : mid.loanRepayments.map penaltyColumns = db.loanRepayments.map penaltyColumns := by
        simp only [applyInstallmentAllocation, yields_bind, yields_get] at halloc
        obtain ⟨_, _, ⟨rfl, rfl⟩, halloc⟩ := halloc
        obtain ⟨_, hkept⟩ := allocate_induct (M := fun _ mid =>
          mid.loanRepayments.map penaltyColumns = db.loanRepayments.map penaltyColumns)
          (fun hM hrow _ => (Table.map_modify_at hrow rfl).trans hM)
          (current_unpaidInstallments db loanId)
          (fun r hr => (mem_unpaidInstallments.mp hr).2.1) rfl halloc
        exact hkept
      rw [hsame.loanRepayments]
      exact hkept
    · show (commit _ db).loanRepayments.map _ = _
      rw [commit_of_fails hfails]

/-- The transaction of a rollup is committed or changes nothing. -/
theorem rollup_exec (db : Db) (loanId accountId : Nat) (date : Int) :
    (NightStep.rollup loanId accountId date).exec db = db ∨
    ∃ u, Yields (applyOverdueInstallmentsAndArrears loanId accountId date) db u
      ((NightStep.rollup loanId accountId date).exec db) := by
  show commit _ db = db ∨ ∃ u, Yields _ db u (commit _ db)
  rcases yields_or_fails (applyOverdueInstallmentsAndArrears loanId accountId date) db with
    ⟨u, db', hy⟩ | hfails
  · rw [commit_of_yields hy]
    exact .inr ⟨u, hy⟩
  · exact .inl (commit_of_fails hfails)

/-- What a rollup can do to one instalment. -/
theorem rollup_row {loanId accountId : Nat} {date : Int} {row' : LoanRepayment}
    (h : ((NightStep.rollup loanId accountId date).exec db).loanRepayments[id]? = some row') :
    ∃ row, db.loanRepayments[id]? = some row ∧ Penalized date row row' := by
  rcases rollup_exec db loanId accountId date with hsame | ⟨_, hy⟩
  · rw [hsame] at h
    exact ⟨row', h, .inl rfl⟩
  · obtain ⟨-, -, hlength, hmet⟩ := rollup_settles hy
    have hlt : id < db.loanRepayments.length := hlength ▸ Table.lt_length_of_getElem? h
    exact ⟨_, List.getElem?_eq_getElem hlt, hmet id _ row' (List.getElem?_eq_getElem hlt) h⟩

theorem rollup_length (db : Db) (loanId accountId : Nat) (date : Int) :
    ((NightStep.rollup loanId accountId date).exec db).loanRepayments.length =
      db.loanRepayments.length := by
  rcases rollup_exec db loanId accountId date with hsame | ⟨_, hy⟩
  · rw [hsame]
  · exact (rollup_settles hy).2.2.1

theorem penalizedUpTo_step (h : db.PenalizedUpTo id accrualDate) (step : NightStep) :
    (step.exec db).PenalizedUpTo id accrualDate := by
  by_cases hrollup : ∃ l a d, step = .rollup l a d
  · obtain ⟨l, a, date, rfl⟩ := hrollup
    intro row' hrow'
    obtain ⟨row, hrow, hmet⟩ := rollup_row hrow'
    obtain ⟨last, hlast, hle⟩ := h row hrow
    rcases hmet with rfl | ⟨hdue, _, rfl⟩
    · exact ⟨last, hlast, hle⟩
    · unfold LoanRepayment.penaltyDueOn at hdue
      rw [hlast] at hdue
      exact ⟨date, rfl, Int.le_trans hle (Int.le_of_lt (of_decide_eq_true hdue))⟩
  · intro row' hrow'
    have hcolumns : (step.exec db).loanRepayments.map penaltyColumns =
        db.loanRepayments.map penaltyColumns :=
      repayment_columns fun l a d heq => hrollup ⟨l, a, d, heq⟩
    have hmap : (db.loanRepayments.map penaltyColumns)[id]? = some (penaltyColumns row') := by
      rw [← hcolumns, List.getElem?_map, hrow']
      rfl
    rw [List.getElem?_map] at hmap
    obtain ⟨row, hrow, heq⟩ := Option.map_eq_some_iff.mp hmap
    obtain ⟨last, hlast, hle⟩ := h row hrow
    exact ⟨last, (congrArg Prod.snd heq).symm.trans hlast, hle⟩

/-- A penalty of the day was not there before, and is from then on. -/
theorem penalizes_first {step : NightStep} (h : step.penalizes db id accrualDate = true) :
    ¬ db.PenalizedUpTo id accrualDate ∧ (step.exec db).PenalizedUpTo id accrualDate := by
  unfold NightStep.penalizes at h
  cases step with
  | rollup l a date =>
    rw [Bool.and_eq_true, beq_iff_eq, bne_iff_ne] at h
    obtain ⟨rfl, hchanged⟩ := h
    have hexists : ∃ row', ((NightStep.rollup l a date).exec db).loanRepayments[id]? =
        some row' := by
      rcases Nat.lt_or_ge id db.loanRepayments.length with hlt | hge
      · exact ⟨_, List.getElem?_eq_getElem ((rollup_length db l a date).symm ▸ hlt)⟩
      · refine absurd ?_ hchanged
        unfold Db.penaltyOf
        rw [List.getElem?_eq_none_iff.mpr hge,
          List.getElem?_eq_none_iff.mpr ((rollup_length db l a date).symm ▸ hge)]
    obtain ⟨row', hrow'⟩ := hexists
    obtain ⟨row, hrow, hmet⟩ := rollup_row hrow'
    rcases hmet with rfl | ⟨hdue, penalty, rfl⟩
    · refine absurd ?_ hchanged
      unfold Db.penaltyOf
      rw [hrow, hrow']
    · constructor
      · intro hbefore
        obtain ⟨last, hlast, hle⟩ := hbefore row hrow
        unfold LoanRepayment.penaltyDueOn at hdue
        rw [hlast] at hdue
        exact absurd hle (Int.not_le.mpr (of_decide_eq_true hdue))
      · intro row'' hrow''
        cases hrow'.symm.trans hrow''
        exact ⟨date, rfl, Int.le_refl date⟩
  | repay params => cases h
  | processRepayment now input => cases h

theorem penaltyCount_zero (h : db.PenalizedUpTo id accrualDate) (steps : List NightStep) :
    penaltyCount id accrualDate db steps = 0 := by
  induction steps generalizing db with
  | nil => rfl
  | cons step steps ih =>
    unfold penaltyCount
    rw [ih (penalizedUpTo_step h step), if_neg fun hagain => (penalizes_first hagain).1 h]

theorem penaltyCount_le (db : Db) (id : Nat) (accrualDate : Int) (steps : List NightStep) :
    penaltyCount id accrualDate db steps ≤ 1 := by
  induction steps generalizing db with
  | nil => exact Nat.zero_le 1
  | cons step steps ih =>
    unfold penaltyCount
    split
    · next hfirst => rw [penaltyCount_zero (penalizes_first hfirst).2]
    · rw [Nat.zero_add]
      exact ih _

end OverdueLemmas

open OverdueLemmas

/-- In every state that a run reaches: a second call on a day changes nothing, and a call rebuilds
the arrears as what is unpaid of the open instalments that were due before the day. In the run no
instalment gets two penalties for one day. -/
theorem overdue_rollup (db : Db) (steps : List NightStep) :
    (∀ id accrualDate, penaltyCount id accrualDate db steps ≤ 1) ∧
      ∀ (loanId accountId : Nat) (accrualDate : Int),
        (∀ n, (db.afterNights steps).afterNights
            (List.replicate (n + 1) (.rollup loanId accountId accrualDate)) =
          (db.afterNights steps).afterNights [.rollup loanId accountId accrualDate]) ∧
        ∀ (arrears : Arrears) (db' : Db),
          Yields (applyOverdueInstallmentsAndArrears loanId accountId accrualDate)
            (db.afterNights steps) arrears db' →
          Yields (applyOverdueInstallmentsAndArrears loanId accountId accrualDate) db' arrears db' ∧
            arrears.arrearsAmount = db'.unpaidBefore loanId accrualDate (·.status != .paid) := by
  refine ⟨fun id accrualDate => penaltyCount_le db id accrualDate steps,
    fun loanId accountId accrualDate => ⟨fun n => ?_, fun arrears db' hy => ⟨rollup_again hy, ?_⟩⟩⟩
  · generalize db.afterNights steps = db
    have hagain : ∀ db : Db, (NightStep.rollup loanId accountId accrualDate).exec
        ((NightStep.rollup loanId accountId accrualDate).exec db) =
        (NightStep.rollup loanId accountId accrualDate).exec db := by
      intro db
      show commit _ (commit _ db) = commit _ db
      rcases yields_or_fails (applyOverdueInstallmentsAndArrears loanId accountId accrualDate) db
        with ⟨_, db', hy⟩ | hfails
      · rw [commit_of_yields hy, commit_of_yields (rollup_again hy)]
      · rw [commit_of_fails hfails, commit_of_fails hfails]
    induction n generalizing db with
    | zero => rfl
    | succ n ih =>
      have hone := ih ((NightStep.rollup loanId accountId accrualDate).exec db)
      rw [List.replicate_succ]
      exact hone.trans (hagain db)
  · rw [(rollup_settles hy).2.1, arrears_sum]
    rfl

/-- An instalment of KES 110 that is due on the second day. -/
def exInGrace : Db :=
  { exSacco with
    loanRepayments :=
      [({ dueDate := 2 * msPerDay
          principalDue := 1000000
          interestDue := 100000 } : ScheduledInstalment).row 0 1] }

/-- A night past the grace period, and a payment of KES 50 into it. -/
def exNights : List NightStep :=
  [.rollup 0 0 (6 * msPerDay),
    .processRepayment (6 * msPerDay)
      { reference := "R-1", amount := some 50, processedBy := "u", loanId := some 0 }]

theorem overdue_rollup_twice :
    penaltyCount 0 (6 * msPerDay) exInGrace exNights = 1 ∧
      ∃ arrears db', Yields (applyOverdueInstallmentsAndArrears 0 0 (6 * msPerDay))
          (exInGrace.afterNights exNights) arrears db' ∧
        Yields (applyOverdueInstallmentsAndArrears 0 0 (6 * msPerDay)) db' arrears db' ∧
        arrears.arrearsAmount = db'.unpaidBefore 0 (6 * msPerDay) (·.status != .paid) := by
  obtain ⟨arrears, db', hy⟩ : ∃ arrears db',
      Yields (applyOverdueInstallmentsAndArrears 0 0 (6 * msPerDay))
        (exInGrace.afterNights exNights) arrears db' := exists_yields (by decide +kernel)
  exact ⟨by decide +kernel, arrears, db', hy,
    ((overdue_rollup exInGrace exNights).2 0 0 (6 * msPerDay)).2 arrears db' hy⟩

/-- On the third day the instalment is still PENDING, and all of it is in the arrears. -/
theorem arrears_without_overdue :
    ((applyOverdueInstallmentsAndArrears 0 0 (3 * msPerDay)).run exInGrace).toOption.map (fun r =>
        (r.1.arrearsAmount, r.2.unpaidBefore 0 (3 * msPerDay) (·.status == .overdue),
          r.2.unpaidBefore 0 (3 * msPerDay) (·.status != .paid))) =
      some (1100000, 0, 1100000) := by
  decide +kernel

end BebaSacco
