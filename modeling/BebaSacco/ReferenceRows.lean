import BebaSacco.Accruals
import BebaSacco.Lib.HashChain

/-! # Who writes a row under the reference of a day's interest

The daily accrual finds out by its reference whether the interest of a loan was charged on a date.
The reference starts with `ACCRUAL-` and ends with the loan and the date; neither channel of
repayment writes such a row, and the accrual of another loan writes rows of its own.

Results:
 1. `repay_sameUnder`, `processRepayment_sameUnder`: a repayment writes no row under it.
 2. `accrual_other`: nor does the accrual of another loan.
 3. `accrual_own`: the accrual of the loan writes one row under it, when there was none and there is
    interest to charge.
-/

namespace BebaSacco

open Txn FootprintLemmas InstallmentLemmas AccrualLemmas HashChain

/-- The statement rows under a reference. -/
def Db.rowsUnder (db : Db) (reference : String) : List Transaction :=
  db.transactions.filter fun t => t.reference == reference

/-- The rows under the reference are the same, of the same tenant. -/
structure Db.SameUnder (reference : String) (db db' : Db) : Prop where
  tenant : db'.tenantId = db.tenantId
  rows : db'.rowsUnder reference = db.rowsUnder reference

namespace ReferenceLemmas

variable {reference : String}

/-! ## 1. References as text -/

theorem head_append {s t : String} {c : Char} (h : s.toList.head? = some c) :
    (s ++ t).toList.head? = some c := by
  rw [String.toList_append, List.head?_append, h]
  rfl

/-- A text that starts with another letter. -/
theorem ne_accrualReference {s tenantId : String} {loanId : Nat} {accrualDate : Int} {c : Char}
    (h : s.toList.head? = some c) (hc : c ≠ 'A') :
    s ≠ accrualReference tenantId loanId accrualDate := by
  intro heq
  have htext : accrualReference tenantId loanId accrualDate =
      "ACCRUAL-" ++ (tenantId ++ ("-" ++ (toString loanId ++ ("-" ++ isoDate accrualDate)))) := by
    simp only [← String.append_assoc]
    rfl
  have hhead : s.toList.head? = some 'A' := by
    rw [heq, htext]
    exact head_append rfl
  rw [h] at hhead
  exact hc (Option.some.inj hhead)

theorem toString_inj {n n' : Nat} (h : toString n = toString n') : n = n' := by
  have hdigits := congrArg (fun s => Nat.ofDigitChars 10 s.toList 0) h
  simpa using hdigits

theorem dash_notMem_digits (n : Nat) : '-' ∉ (toString n).toList := by
  intro h
  rw [Nat.toString_eq_repr, Nat.toList_repr] at h
  exact absurd (Nat.isDigit_of_mem_toDigits (by decide) (by decide) h) (by decide)

theorem digits_isDigit {n : Nat} : ∀ c ∈ (toString n).toList, c.isDigit = true := by
  intro c hc
  rw [Nat.toString_eq_repr, Nat.toList_repr] at hc
  exact Nat.isDigit_of_mem_toDigits (by decide) (by decide) hc

/-- Two digits, and all of them digits. -/
theorem pad2_isDigit (n : Nat) : ∀ c ∈ (pad2 n).toList, c.isDigit = true := by
  intro c hc
  unfold pad2 at hc
  split at hc
  · rw [show s!"0{n}" = "0" ++ toString n from rfl, String.toList_append] at hc
    rcases List.mem_append.mp hc with hc | hc
    · rw [List.mem_singleton.mp hc]
      rfl
    · exact digits_isDigit c hc
  · exact digits_isDigit c hc

theorem dash_notMem {l : List Char} (h : ∀ c ∈ l, c.isDigit = true) : '-' ∉ l :=
  fun hmem => absurd (h '-' hmem) (by decide)

theorem pad2_ne_nil (n : Nat) : (pad2 n).toList ≠ [] := by
  intro h
  unfold pad2 at h
  split at h
  · rw [show s!"0{n}" = "0" ++ toString n from rfl, String.toList_append] at h
    cases h
  · rw [Nat.toString_eq_repr, Nat.toList_repr] at h
    exact Nat.toDigits_ne_nil h

theorem isoDate_text (time : Int) : ∃ year month day,
    isoDate time = pad4 year ++ "-" ++ pad2 month ++ "-" ++ pad2 day :=
  ⟨_, _, _, rfl⟩

/-- The reference ends with a month and a day. -/
theorem accrualReference_ends (tenantId : String) (loanId : Nat) (accrualDate : Int) :
    ∃ front month day, (accrualReference tenantId loanId accrualDate).toList =
      (front ++ '-' :: month) ++ '-' :: day ∧ (∀ c ∈ month, c.isDigit = true) ∧
      (∀ c ∈ day, c.isDigit = true) ∧ day ≠ [] := by
  obtain ⟨y, m, d, hiso⟩ := isoDate_text accrualDate
  have htext : accrualReference tenantId loanId accrualDate =
      "ACCRUAL-" ++ tenantId ++ "-" ++ toString loanId ++ "-" ++
        (pad4 y ++ "-" ++ pad2 m ++ "-" ++ pad2 d) := by
    rw [← hiso]
    rfl
  refine ⟨("ACCRUAL-" ++ tenantId ++ "-" ++ toString loanId ++ "-" ++ pad4 y).toList,
    (pad2 m).toList, (pad2 d).toList, ?_, pad2_isDigit m, pad2_isDigit d, pad2_ne_nil d⟩
  rw [htext]
  simp only [String.toList_append, List.append_assoc]
  rfl

/-- The references of two loans differ. -/
theorem accrualReference_inj {tenantId : String} {loanId loanId' : Nat} {accrualDate : Int}
    (h : accrualReference tenantId loanId accrualDate =
      accrualReference tenantId loanId' accrualDate) : loanId = loanId' := by
  have htext : ∀ id, accrualReference tenantId id accrualDate =
      "ACCRUAL-" ++ tenantId ++ "-" ++ toString id ++ "-" ++ isoDate accrualDate := fun _ => rfl
  rw [htext, htext, String.append_left_inj, String.append_left_inj, String.append_right_inj] at h
  exact toString_inj h

/-- Neither kind of reference of `repay` is one of the accrual. -/
theorem repayReference_ne (p : RepayParams) (tenant tenantId : String) (loanId : Nat)
    (accrualDate : Int) : p.reference tenant ≠ accrualReference tenantId loanId accrualDate := by
  unfold RepayParams.reference
  split
  · next key _ =>
    have htext : s!"REPAY-{tenant}-{key}" = "REPAY-" ++ (tenant ++ ("-" ++ key)) := by
      simp only [← String.append_assoc]
      rfl
    rw [htext]
    exact ne_accrualReference (head_append rfl) (by decide)
  · have htext : s!"TXN-REPAY-{tenant}-{p.loanId}-{kesText p.amountKes}-{p.minute}" =
        "TXN-REPAY-" ++ (tenant ++ ("-" ++ (toString p.loanId ++ ("-" ++ (kesText p.amountKes ++
          ("-" ++ p.minute)))))) := by
      simp only [← String.append_assoc]
      rfl
    rw [htext]
    exact ne_accrualReference (head_append rfl) (by decide)

/-- The reference of a leg from outside ends with the name of its leg and an id. -/
theorem allocationReference_ne {s tenantId : String} {leg : Leg} {n loanId : Nat}
    {accrualDate : Int} :
    s!"{s}-{leg.allocationSuffix}-{toString n}" ≠
      accrualReference tenantId loanId accrualDate := by
  intro heq
  have htext : s!"{s}-{leg.allocationSuffix}-{toString n}" =
      s ++ "-" ++ leg.allocationSuffix ++ "-" ++ toString n := rfl
  obtain ⟨front, month, day, hends, hmonth, hday, _⟩ :=
    accrualReference_ends tenantId loanId accrualDate
  have hlists : (s.toList ++ '-' :: leg.allocationSuffix.toList) ++ '-' :: (toString n).toList =
      (front ++ '-' :: month) ++ '-' :: day := by
    rw [← hends, ← heq, htext]
    simp only [String.toList_append, List.append_assoc]
    rfl
  -- the id is the day, so the name of the leg would be the month
  obtain ⟨hfront, _⟩ := split_last (dash_notMem_digits n) (dash_notMem hday) hlists
  have hsuffix : '-' ∉ leg.allocationSuffix.toList := by
    cases leg with
    | penalty | interest | principal => decide
  obtain ⟨_, hname⟩ := split_last hsuffix (dash_notMem hmonth) hfront
  have hletter : ∃ c ∈ leg.allocationSuffix.toList, c.isDigit = false := by
    cases leg with
    | penalty | interest | principal => exact ⟨'N', by decide, rfl⟩
  obtain ⟨c, hc, hno⟩ := hletter
  rw [hname] at hc
  rw [hmonth c hc] at hno
  cases hno

theorem overpayReference_ne {s tenantId : String} {loanId : Nat} {accrualDate : Int} :
    s!"{s}-OVERPAY" ≠ accrualReference tenantId loanId accrualDate := by
  intro heq
  obtain ⟨front, month, day, hends, _, hday, hne⟩ :=
    accrualReference_ends tenantId loanId accrualDate
  have hlists : s.toList ++ '-' :: "OVERPAY".toList = (front ++ '-' :: month) ++ '-' :: day := by
    rw [← hends, ← heq]
    show _ = (s ++ "-OVERPAY").toList
    rw [String.toList_append]
    rfl
  obtain ⟨_, hname⟩ := split_last (by decide) (dash_notMem hday) hlists
  have hno := hday 'O' (hname ▸ List.mem_cons_self)
  cases hno

/-! ## 2. Writes -/

instance : History (Db.SameUnder reference) where
  refl _ := ⟨rfl, rfl⟩
  trans h k := ⟨k.tenant.trans h.tenant, k.rows.trans h.rows⟩

instance : AdmitsBalance (Db.SameUnder reference) where
  move _ _ _ := ⟨rfl, rfl⟩
  set _ _ _ := ⟨rfl, rfl⟩

instance : AdmitsHold (Db.SameUnder reference) := ⟨fun _ _ _ => ⟨rfl, rfl⟩⟩

instance : AdmitsEntry (Db.SameUnder reference) := ⟨fun _ _ => ⟨rfl, rfl⟩⟩

instance : AdmitsLoan (Db.SameUnder reference) := ⟨fun _ _ _ _ => ⟨rfl, rfl⟩⟩

instance : AdmitsRepayment (Db.SameUnder reference) :=
  ⟨fun _ _ _ => ⟨rfl, rfl⟩, fun _ _ => ⟨rfl, rfl⟩⟩

instance : AdmitsRelease (Db.SameUnder reference) := ⟨fun _ _ _ _ => ⟨rfl, rfl⟩⟩

instance : AdmitsMpesa (Db.SameUnder reference) := ⟨fun _ _ _ => ⟨rfl, rfl⟩⟩

theorem sameUnder_insert {db : Db} {t : Transaction} (h : t.reference ≠ reference) :
    db.SameUnder reference (db.insertTransaction t) := by
  refine ⟨rfl, ?_⟩
  unfold Db.rowsUnder Db.insertTransaction
  rw [List.filter_append, List.filter_singleton, beq_false_of_ne h]
  exact List.append_nil _

theorem createTransaction_sameUnder {t : Transaction} (h : t.reference ≠ reference) :
    Moves (Db.SameUnder reference) (createTransaction t) := by
  intro db id db' hy
  obtain ⟨_, _, rfl⟩ := yields_createTransaction.mp hy
  exact sameUnder_insert h

theorem postEntry_sameUnder {p : PostEntryParams} (h : p.reference ≠ reference) :
    Moves (Db.SameUnder reference) (postEntry p) := by
  intro db r db' hy
  rcases postEntry_cases hy with ⟨rfl, _, _⟩ | ⟨⟨_, _, hw⟩, _, _⟩
  · exact History.refl db'
  · obtain ⟨_, _, _, _, _, _, _, _, _, _, _, rfl⟩ := hw
    exact History.trans (History.trans (AdmitsBalance.move _ _ _) (sameUnder_insert h))
      (AdmitsEntry.insert _ _)

/-! ## 3. Repayments -/

theorem repay_sameUnder {p : RepayParams}
    (h : ∀ tenantId, p.reference tenantId ≠ reference) :
    Moves (Db.SameUnder reference) (repay p) := by
  intro db r db' hy
  rcases repay_cases hy with rfl | ⟨i, account, loan, mid, hposted, hrest⟩
  · exact History.refl db'
  obtain ⟨legged, hlegs, rfl⟩ := hposted.written
  have hdebited : db.SameUnder reference (p.debited db i account loan) :=
    History.trans (sameUnder_insert (h db.tenantId)) (AdmitsBalance.set _ _ _)
  have hmid : db.SameUnder reference (legged.updateLoan p.loanId
      (·.pay (loan.repayAllocation (p.actualRepayment loan)) (p.newStatus loan))) :=
    History.trans (History.trans hdebited (repayLegs_moves _ _ _ _ hlegs))
      (AdmitsLoan.update _ _ _ fun _ => rfl)
  rcases hrest with ⟨_, hrelease⟩ | ⟨_, rfl⟩
  · exact History.trans hmid (releaseOnFullRepayment_moves _ _ hrelease)
  · exact hmid

theorem allocateLeg_sameUnder {input : ProcessRepaymentInput} {accountId loanId : Nat}
    {balance : Int} {leg : Leg} {amount : Nat}
    (h : ∀ n : Nat, s!"{input.reference}-{leg.allocationSuffix}-{toString n}" ≠ reference) :
    Moves (Db.SameUnder reference) (allocateLeg input accountId loanId balance leg amount) := by
  refine Moves.ite' (Moves.bind' ?_ fun _ =>
    Moves.bind' (postGlOnlyLegEntry_moves _) fun _ => Moves.pure' _) (Moves.pure' _)
  intro db id db' hy
  simp only [createAllocationTransaction, yields_bind, yields_uuidv4] at hy
  obtain ⟨_, _, ⟨rfl, rfl⟩, hy⟩ := hy
  have hsame := createTransaction_sameUnder (h db.uuid) hy
  exact ⟨hsame.tenant, hsame.rows⟩

theorem processRepayment_sameUnder {now : Int} {input : ProcessRepaymentInput}
    (hleg : ∀ (leg : Leg) (n : Nat),
      s!"{input.reference}-{leg.allocationSuffix}-{toString n}" ≠ reference)
    (hover : s!"{input.reference}-OVERPAY" ≠ reference) :
    Moves (Db.SameUnder reference) (processRepayment now input) := by
  intro db r db' hy
  rcases processRepayment_cases hy with ⟨rfl, _⟩ | ⟨amount, loanId, loan, _, _, _, _, happly⟩
  · exact History.refl db'
  have hrow : ∀ accountId balance leg n, Moves (Db.SameUnder reference)
      (allocateLeg input accountId loanId balance leg n) :=
    fun _ _ leg _ => allocateLeg_sameUnder (hleg leg)
  have hcredit : ∀ accountId n, Moves (Db.SameUnder reference)
      (creditOverpayment input accountId loanId n) := fun _ _ =>
    Moves.ite' (Moves.bind' (postEntry_sameUnder hover) fun _ => Moves.pure' _) (Moves.pure' _)
  have hmoves : Moves (Db.SameUnder reference) (applyRepayment now input amount loanId loan) :=
    Moves.bind' (Moves.bind' Moves.get' fun _ => Moves.required') fun _ =>
    Moves.bind' (applyInstallmentAllocation_moves _ _ _) fun _ =>
    Moves.bind' (hrow _ _ _ _) fun _ => Moves.bind' (hrow _ _ _ _) fun _ =>
    Moves.bind' (hrow _ _ _ _) fun _ => Moves.bind' (hcredit _ _) fun _ =>
    Moves.bind' (modify_updateLoan_moves fun _ => rfl) fun _ =>
    Moves.bind' (settleMpesa_moves _ _ _) fun _ => Moves.pure' _
  exact hmoves happly

/-! ## 4. Accruals -/

theorem chargeAccount_sameUnder {accountId loanId amount : Nat} {leg : Leg}
    {r description : String} (h : r ≠ reference) :
    Moves (Db.SameUnder reference) (chargeAccount accountId loanId leg amount r description) := by
  intro db u db' hcharge
  rcases chargeAccount_cases hcharge with ⟨rfl, -⟩ | ⟨-, -, a, p, id, r, mid, -, ht, hleg⟩
  · exact History.refl _
  · exact History.trans (History.trans (AdmitsBalance.move _ _ _) (createTransaction_sameUnder h ht))
      (postGlOnlyLegEntry_moves _ hleg)

/-- The penalties of the day have references of their own. -/
theorem penalties_sameUnder {loanId accountId l : Nat} {tenantId : String}
    {accrualDate date : Int} {arrears : Arrears} {db db' : Db}
    (h : Yields (applyOverdueInstallmentsAndArrears loanId accountId accrualDate) db arrears db') :
    db.SameUnder (accrualReference tenantId l date) db' := by
  have hone : ∀ row, Moves (Db.SameUnder (accrualReference tenantId l date))
      (penalizeInstallment loanId accountId accrualDate row) := by
    intro row
    refine Moves.ite' (Moves.bind' (Moves.modify' fun _ => AdmitsRepayment.update _ _ _) fun _ =>
      Moves.bind' Moves.get' fun db => ?_) (Moves.pure' ())
    dsimp only
    split
    · exact Moves.pure' ()
    · refine Moves.bind' (createTransaction_sameUnder ?_) fun _ =>
        Moves.bind' (postGlOnlyLegEntry_moves _) fun _ => Moves.pure' ()
      have htext : s!"PENALTY-{db.tenantId}-{loanId}-{row.1}-{isoDate accrualDate}" =
          "PENALTY-" ++ (db.tenantId ++ ("-" ++ (toString loanId ++ ("-" ++ (toString row.1 ++
            ("-" ++ isoDate accrualDate)))))) := by
        simp only [← String.append_assoc]
        rfl
      show s!"PENALTY-{db.tenantId}-{loanId}-{row.1}-{isoDate accrualDate}" ≠ _
      rw [htext]
      exact ne_accrualReference (head_append rfl) (by decide)
  have hall : Moves (Db.SameUnder (accrualReference tenantId l date))
      (applyOverdueInstallmentsAndArrears loanId accountId accrualDate) :=
    Moves.bind' Moves.get' fun _ => Moves.bind' (Moves.forM' hone _) fun _ =>
    Moves.bind' Moves.get' fun _ => Moves.pure' _
  exact hall h

theorem penaltyReference_ne {tenantId tenantId' : String} {loanId l : Nat} {accrualDate date : Int} :
    penaltyReference tenantId' loanId accrualDate ≠ accrualReference tenantId l date := by
  have htext : penaltyReference tenantId' loanId accrualDate =
      "PENALTY-" ++ (tenantId' ++ ("-" ++ (toString loanId ++ ("-" ++ isoDate accrualDate)))) := by
    simp only [← String.append_assoc]
    rfl
  rw [htext]
  exact ne_accrualReference (head_append rfl) (by decide)

/-- What the accrual of the loan `loanId` wrote: the charge of its interest, and rows and entries
that are not under its reference; the loan, at last. -/
structure AccrualWritten (loanId fosaAccountId dailyInterest : Nat) (accrualDate : Int)
    (db db' : Db) : Prop where
  charged : ∃ charged : Db, Yields (chargeAccount fosaAccountId loanId .interest dailyInterest
      (accrualReference db.tenantId loanId accrualDate)
      s!"Daily interest accrual – {isoDate accrualDate}") db () charged ∧
    ∀ tenantId l, charged.SameUnder (accrualReference tenantId l accrualDate) db'
  loans : ∃ arrears, db'.loans = db.loans.modify loanId (·.accrue arrears dailyInterest accrualDate)

theorem accrueBody_written {loanId fosaAccountId dailyInterest dailyPenalty : Nat}
    {accrualDate : Int} {u : Unit} {db db' : Db}
    (h : Yields (accrueBody loanId fosaAccountId dailyInterest dailyPenalty accrualDate) db u db') :
    AccrualWritten loanId fosaAccountId dailyInterest accrualDate db db' := by
  simp only [accrueBody, yields_bind, yields_get, yields_modify] at h
  obtain ⟨_, _, ⟨rfl, rfl⟩, _, charged, hinterest, _, fined, hpenalty, arrears, swept, hsweep,
    rfl⟩ := h
  have hdebts : db.SameDebts fined :=
    History.trans (charge_debts hinterest) (charge_debts hpenalty)
  refine ⟨⟨charged, hinterest, fun tenantId l => ?_⟩, arrears, ?_⟩
  · exact History.trans (History.trans (chargeAccount_sameUnder penaltyReference_ne hpenalty)
      (penalties_sameUnder hsweep)) (AdmitsLoan.update _ _ _ fun _ => rfl)
  · rw [Db.updateLoan, (penalties_sweep hsweep).1.loans, hdebts.loans]

theorem rowsUnder_nil {db : Db} :
    db.rowsUnder reference = [] ↔ db.transactionByReference reference = none := by
  unfold Db.rowsUnder Db.transactionByReference
  rw [List.filter_eq_nil_iff, Table.findRow_none]
  constructor
  · exact fun h t ht => Bool.eq_false_iff.mpr (h t ht)
  · exact fun h t ht => Bool.eq_false_iff.mp (h t ht)

/-- What is said of a row under the reference of a charge. -/
def Transaction.charge (t : Transaction) : TransactionType × Option Nat × Int :=
  (t.type, t.loanId, t.amount)

theorem charge_fresh {accountId loanId amount : Nat} {description : String} {u : Unit}
    {db db' : Db} (hnone : db.rowsUnder reference = [])
    (h : Yields (chargeAccount accountId loanId .interest amount reference description) db u db') :
    db'.tenantId = db.tenantId ∧ (db'.rowsUnder reference).map Transaction.charge =
      if amount = 0 then [] else [(.interestAccrual, some loanId, (amount : Int))] := by
  rcases chargeAccount_cases h with ⟨rfl, hzero | hthere⟩ | ⟨_, hpos, a, p, id, r, mid, _, ht, hleg⟩
  · rw [if_pos hzero, hnone]
    exact ⟨rfl, rfl⟩
  · rw [rowsUnder_nil.mp hnone] at hthere
    cases hthere
  · rw [if_neg (Nat.pos_iff_ne_zero.mp hpos)]
    obtain ⟨_, _, rfl⟩ := yields_createTransaction.mp ht
    have hsame := postGlOnlyLegEntry_moves (R := Db.SameUnder reference) _ hleg
    rw [hsame.tenant, hsame.rows]
    refine ⟨rfl, ?_⟩
    show ((db.transactions ++ [_]).filter _).map _ = _
    rw [List.filter_append, List.filter_singleton]
    unfold Db.rowsUnder at hnone
    rw [hnone]
    simp only [chargeTransaction, beq_self_eq_true, cond_true, List.nil_append, List.map_cons,
      List.map_nil, Transaction.charge, Leg.chargeType]

theorem accrual_other {loanId l fosaAccountId dailyInterest : Nat} {accrualDate : Int}
    {db db' : Db} (h : AccrualWritten loanId fosaAccountId dailyInterest accrualDate db db')
    (hne : loanId ≠ l) : db.SameUnder (accrualReference db.tenantId l accrualDate) db' := by
  obtain ⟨charged, hinterest, hrest⟩ := h.charged
  exact History.trans
    (chargeAccount_sameUnder (fun heq => hne (accrualReference_inj heq)) hinterest) (hrest _ l)

/-- The accrual of the loan itself, when it was not charged before. -/
theorem accrual_own {loanId fosaAccountId dailyInterest : Nat} {accrualDate : Int} {db db' : Db}
    (h : AccrualWritten loanId fosaAccountId dailyInterest accrualDate db db')
    (hnone : db.rowsUnder (accrualReference db.tenantId loanId accrualDate) = []) :
    (db'.rowsUnder (accrualReference db.tenantId loanId accrualDate)).map Transaction.charge =
      if dailyInterest = 0 then []
      else [(.interestAccrual, some loanId, (dailyInterest : Int))] := by
  obtain ⟨charged, hinterest, hrest⟩ := h.charged
  rw [(hrest db.tenantId loanId).rows]
  exact (charge_fresh hnone hinterest).2

end ReferenceLemmas

end BebaSacco
