import BebaSacco.Pledges

/-! # What recovery takes

Two jobs take the debt of a loan from its guarantors: the recovery after a notice and the default
offset. Each of them takes from a guarantor what is left of the guarantee at most, and posts all it
takes to the loan receivable; but the loan is only lowered as far as it owes something. So what is
taken stays within the debt as long as each job finds pledges, or asks for an amount, within it.

Results:
 1. `recoverFromGuarantor_forfeits`, `forfeitGuarantor_forfeits`: what one guarantor gives.
 2. `collect_loop`: what the guarantors of a loan give together.
 3. `recovery_within_debt`: the pledge, the debt and the receivable in every run of the jobs.
 4. `offset_exceeds_debt`: an offset that takes more than the loan owes.
-/

namespace BebaSacco

open Txn FootprintLemmas GuarantorLemmas PledgeLemmas

/-! ## 1. The jobs and what they took -/

/-- The two jobs, with what each delivery of them carries. -/
inductive RecoveryJob
  | recover (now : Int) (loanId : Nat) (defaultAmount : ℚ) (actorId : String)
  | offset (now : Int) (loanId : Nat) (jobId : Option String)
  deriving DecidableEq, Repr

def RecoveryJob.op : RecoveryJob → Op
  | .recover now loanId defaultAmount actorId => .recover now loanId defaultAmount actorId
  | .offset now loanId jobId => .offset now loanId jobId

/-- The database after the jobs, in the order in which they ran. -/
def Db.afterJobs (db : Db) (jobs : List RecoveryJob) : Db :=
  Machine.run (fun db job => step db job.op) db jobs

/-- The statement rows from the `n`-th on. -/
def Db.rowsSince (db : Db) (n : Nat) : List Transaction := db.transactions.drop n

def Transaction.takenFor (loanId : Nat) (t : Transaction) : Int :=
  if t.loanId = some loanId then t.amount else 0

/-- What the rows from the `n`-th on took for the loan. -/
def Db.takenFor (db : Db) (n loanId : Nat) : Int :=
  Table.sumOver (Transaction.takenFor loanId) (db.rowsSince n)

def Db.ownerOf (db : Db) (t : Transaction) : Option Nat := db.accounts[t.accountId]?.map (·.memberId)

/-- What they took for the loan from the accounts of one member. -/
def Db.takenFrom (db : Db) (n loanId memberId : Nat) : Int :=
  Table.sumOver (fun t => if db.ownerOf t = some memberId then t.takenFor loanId else 0)
    (db.rowsSince n)

/-- The loan that a journal entry was written for, by the statement row it refers to. -/
def Db.loanOf (db : Db) (entry : JournalEntry) : Option Nat :=
  db.transactions[entry.referenceId]?.bind (·.loanId)

/-- What the journal entries from the `m`-th on credit to the loan receivable for the loan. -/
def Db.receivableCredited (db : Db) (m loanId : Nat) : Int :=
  Table.sumOver
    (fun e => if db.loanOf e = some loanId then e.netCredit GL_CODES.LOAN_RECEIVABLE else 0)
    (db.journalEntries.drop m)

/-- What an offset can take from one guarantor. -/
def Db.forfeitableFrom (db : Db) (row : Nat × LoanGuarantor) : Int :=
  ((db.activeAccount row.2.memberId .bosa).map fun r => max 0 (row.2.forfeitable r.2)).getD 0

/-- And from all guarantors of a loan. -/
def Db.forfeitable (db : Db) (loanId : Nat) : Int :=
  Table.sumOver db.forfeitableFrom (db.unreleasedGuarantors loanId)

/-- The capacities that a recovery starts from. -/
def Db.recoverable (db : Db) (loanId : Nat) (loan : Loan) : Int :=
  let guarantors := db.unreleasedGuarantors loanId
  Table.sumOver
    (fun row => max 0 (recoveryCapacity row.2
      (db.activeAccount row.2.memberId (db.collateralType loan))
      (guarantors.map (·.2.guaranteedAmount)).sum loan.outstandingBalance))
    guarantors

/-- The job finds no more pledged than the loan owes, or is not asked for more. -/
def Db.withinDebt (db : Db) : RecoveryJob → Bool
  | .recover _ loanId defaultAmount _ =>
    db.loans[loanId]?.all fun loan =>
      toDecimalPlaces4 defaultAmount ≤ loan.outstandingBalance ||
        db.recoverable loanId loan ≤ loan.outstandingBalance
  | .offset _ loanId _ =>
    (db.loans[loanId]?.filter (·.offsettable)).all fun loan =>
      db.forfeitable loanId ≤ loan.outstandingBalance

/-- The journal entry of a forfeiture is there only with its statement row. -/
def Db.Paired (db : Db) : Prop :=
  ∀ e ∈ db.journalEntries, ∀ loanId accountId attempt,
    e.entryNumber = s!"JE-LEDGER-{guarantorForfeitureReference db.tenantId loanId accountId attempt}" →
      ∃ t ∈ db.transactions,
        t.reference = guarantorForfeitureReference db.tenantId loanId accountId attempt

/-- The guarantee `id` of the loan gave `amount` from the account `accountId`: its statement row and
its journal entry were written. -/
structure Db.Forfeited (db : Db) (loanId id accountId : Nat) (amount : Int) (db' : Db) : Prop where
  positive : 0 < amount
  guarantor : ∃ (g : LoanGuarantor) (a : Account), db.loanGuarantors[id]? = some g ∧
    g.loanId = loanId ∧ db.accounts[accountId]? = some a ∧ a.memberId = g.memberId ∧
    amount ≤ (g.guaranteedAmount : Int) - g.recoveredAmount
  written : ∃ (t : Transaction) (e : JournalEntry) (attempt : String) (releasedAt : Option Int),
    t.accountId = accountId ∧ t.loanId = some loanId ∧ t.amount = amount ∧
    t.reference = guarantorForfeitureReference db.tenantId loanId accountId attempt ∧
    e.entryNumber = s!"JE-LEDGER-{t.reference}" ∧ e.referenceId = db.transactions.length ∧
    e.netCredit GL_CODES.LOAN_RECEIVABLE = amount ∧
    db' = (((db.updateAccount accountId (·.forfeit amount)).updateGuarantor id
      (·.recover amount releasedAt)).insertTransaction t).insertEntry e

/-- What holds while the jobs of a run take their money: `taken` of the loan `loanId` was taken by
the job that runs now and has not lowered the loan yet. -/
structure Collecting (db₀ : Db) (loanId : Nat) (taken : Int) (db : Db) : Prop where
  accounts : db.accounts.map (·.memberId) = db₀.accounts.map (·.memberId)
  transactions : db₀.transactions.length ≤ db.transactions.length
  journalEntries : db₀.journalEntries.length ≤ db.journalEntries.length
  referred : ∀ e ∈ db.journalEntries.drop db₀.journalEntries.length,
    e.referenceId < db.transactions.length
  guarantors : ∀ (id : Nat) (g₀ : LoanGuarantor), db₀.loanGuarantors[id]? = some g₀ →
    ∃ g, db.loanGuarantors[id]? = some g ∧ g.key = g₀.key ∧
      g.guaranteedAmount = g₀.guaranteedAmount ∧
      (g.recoveredAmount : Int) = g₀.recoveredAmount +
        db.takenFrom db₀.transactions.length g.loanId g.memberId ∧
      g.recoveredAmount ≤ max g₀.recoveredAmount g₀.guaranteedAmount
  loans : ∀ (l : Nat) (loan₀ : Loan), db₀.loans[l]? = some loan₀ →
    ∃ loan, db.loans[l]? = some loan ∧
      (loan.outstandingBalance : Int) = loan₀.outstandingBalance -
        db.takenFor db₀.transactions.length l + if l = loanId then taken else 0
  receivable : ∀ l, db.receivableCredited db₀.journalEntries.length l =
    db.takenFor db₀.transactions.length l
  paired : db.Paired
  keyed : Keyed db

namespace RecoveryLemmas

/-! ## 2. What one guarantor gives -/

theorem ledgerNumber_inj {a b : String} (h : s!"JE-LEDGER-{a}" = s!"JE-LEDGER-{b}") : a = b :=
  (String.append_right_inj _).mp h

theorem leg_posted {loanId accountId : Nat} {attempt : String} {amount : Int} {ty : AccountType}
    {txn : Nat} {by' description : Option String} {r : LegResult} {db mid db' : Db}
    (hp : db.Paired)
    (hnew : ∀ t ∈ db.transactions,
      t.reference ≠ guarantorForfeitureReference db.tenantId loanId accountId attempt)
    (h : Yields (postGuarantorForfeitureEntry
      (guarantorForfeitureReference db.tenantId loanId accountId attempt) amount ty txn by'
      description) mid r db')
    (hentries : mid.journalEntries = db.journalEntries) :
    ∃ e : JournalEntry, e.entryNumber =
        s!"JE-LEDGER-{guarantorForfeitureReference db.tenantId loanId accountId attempt}" ∧
      e.referenceId = txn ∧ e.netCredit GL_CODES.LOAN_RECEIVABLE = amount ∧
      db' = mid.insertEntry e := by
  obtain ⟨_, ⟨rfl, r, hr⟩ | ⟨_, actor, rfl⟩⟩ := postGlOnlyLegEntry_cases h
  · obtain ⟨hrow, hnum⟩ := Table.findRow_some hr
    have hmem := List.mem_of_getElem? hrow
    rw [hentries] at hmem
    obtain ⟨t, ht, href⟩ := hp r.2 hmem _ _ _ (beq_iff_eq.mp hnum)
    exact absurd href (hnew t ht)
  · refine ⟨_, rfl, rfl, ?_, rfl⟩
    rw [JournalEntry.netCredit_of_single singlePosting_ledgerEntry]
    cases ty with
    | fosa => exact Int.sub_zero _
    | bosa => exact Int.sub_zero _

theorem fresh_of_none {db : Db} {reference : String}
    (h : db.transactionByReference reference = none) :
    ∀ t ∈ db.transactions, t.reference ≠ reference :=
  fun t ht => beq_eq_false_iff_ne.mp (Table.findRow_none.mp h t ht)

theorem recoverFromGuarantor_forfeits {now : Int} {loanId : Nat} {loanNumber attempt by' : String}
    {ty : AccountType} {al : RecoveryAllocation} {n : Nat} {db db' : Db} (hp : db.Paired)
    (hrow : db.loanGuarantors[al.guarantorId]? = some al.guarantor)
    (hloan : al.guarantor.loanId = loanId)
    (howner : ∀ id r a, al.account = some (id, r) → db.accounts[id]? = some a →
      a.memberId = al.guarantor.memberId)
    (hleft : 0 < al.deduction →
      al.deduction ≤ (al.guarantor.guaranteedAmount : Int) - al.guarantor.recoveredAmount)
    (h : Yields (recoverFromGuarantor now loanId loanNumber ty attempt by' al) db n db') :
    (db' = db ∧ n = 0) ∨ ∃ accountId amount, db.Forfeited loanId al.guarantorId accountId amount db' ∧
      n = amount.toNat ∧ amount ≤ al.deduction := by
  rcases recoverFromGuarantor_takes h with hidle | ⟨id, r, a, amount, _, hacc, hnew, ha, hamount,
    hpos, hn, -, _, _, _, _, _, _, _, htxn, hleg⟩
  · exact .inl hidle
  obtain ⟨_, rfl, rfl⟩ := yields_createTransaction.mp htxn
  obtain ⟨e, hnum, href, hcredit, rfl⟩ := leg_posted hp (fresh_of_none hnew) hleg rfl
  have hle : amount ≤ al.deduction := by omega
  refine .inr ⟨id, amount, ⟨hpos, ⟨_, a, hrow, hloan, ha, howner _ _ _ hacc ha, ?_⟩, ?_⟩, hn, hle⟩
  · exact Int.le_trans hle (hleft (by omega))
  · exact ⟨_, e, attempt, _, rfl, rfl, rfl, rfl, hnum, href, hcredit, rfl⟩

theorem forfeitGuarantor_forfeits {now : Int} {loanId : Nat} {loanNumber attempt : String}
    {row : Nat × LoanGuarantor} {n : Nat} {db db' : Db} (hp : db.Paired)
    (hrow : db.loanGuarantors[row.1]? = some row.2) (hloan : row.2.loanId = loanId)
    (h : Yields (forfeitGuarantor now loanId loanNumber attempt row) db n db') :
    (db' = db ∧ n = 0) ∨ ∃ accountId a, db.activeAccount row.2.memberId .bosa = some (accountId, a) ∧
      db.Forfeited loanId row.1 accountId (row.2.forfeitable a) db' ∧
      n = (row.2.forfeitable a).toNat := by
  rcases forfeitGuarantor_takes h with
    ⟨hsame, hn, -⟩ | ⟨id, a, hacc, hnew, hpos, hn, _, _, _, _, _, _, _, htxn, hleg⟩
  · exact .inl ⟨hsame, hn⟩
  obtain ⟨_, rfl, rfl⟩ := yields_createTransaction.mp htxn
  obtain ⟨e, hnum, href, hcredit, rfl⟩ := leg_posted hp (fresh_of_none hnew) hleg rfl
  obtain ⟨hat, hmember, _⟩ := activeAccount_some hacc
  have hleft : row.2.forfeitable a ≤ (row.2.guaranteedAmount : Int) - row.2.recoveredAmount := by
    unfold LoanGuarantor.forfeitable LoanGuarantor.remainingGuarantee at hpos ⊢
    omega
  refine .inr ⟨id, a, hacc, ⟨hpos, ⟨_, a, hrow, hloan, hat, hmember, hleft⟩, ?_⟩, hn⟩
  exact ⟨_, e, attempt, _, rfl, rfl, rfl, rfl, hnum, href, hcredit, rfl⟩

/-! ## 3. What the guarantors of a loan give together -/

/-- The database after a forfeiture. -/
def forfeited (db : Db) (id accountId : Nat) (amount : Int) (releasedAt : Option Int)
    (t : Transaction) (e : JournalEntry) : Db :=
  (((db.updateAccount accountId (·.forfeit amount)).updateGuarantor id
    (·.recover amount releasedAt)).insertTransaction t).insertEntry e

section
variable {db : Db} {n m id accountId : Nat} {amount : Int} {releasedAt : Option Int}
  {t : Transaction} {e : JournalEntry}

theorem ownerOf_forfeited (t' : Transaction) :
    (forfeited db id accountId amount releasedAt t e).ownerOf t' = db.ownerOf t' := by
  have hmap : (db.accounts.modify accountId (·.forfeit amount)).map (·.memberId) =
      db.accounts.map (·.memberId) := Table.map_modify_same fun _ => rfl
  show ((db.accounts.modify accountId (·.forfeit amount))[t'.accountId]?).map (·.memberId) = _
  rw [← List.getElem?_map, hmap, List.getElem?_map]
  rfl

theorem rowsSince_forfeited (hn : n ≤ db.transactions.length) :
    (forfeited db id accountId amount releasedAt t e).rowsSince n = db.rowsSince n ++ [t] :=
  List.drop_append_of_le_length hn

theorem takenFor_forfeited (hn : n ≤ db.transactions.length) (l : Nat) :
    (forfeited db id accountId amount releasedAt t e).takenFor n l =
      db.takenFor n l + t.takenFor l := by
  rw [Db.takenFor, rowsSince_forfeited hn, Table.sumOver_append_one, Db.takenFor]

theorem takenFrom_forfeited (hn : n ≤ db.transactions.length) (l member : Nat) :
    (forfeited db id accountId amount releasedAt t e).takenFrom n l member =
      db.takenFrom n l member + if db.ownerOf t = some member then t.takenFor l else 0 := by
  rw [Db.takenFrom, rowsSince_forfeited hn, Table.sumOver_append_one, Db.takenFrom,
    ownerOf_forfeited]
  congr 1
  refine Table.sumOver_congr fun t' _ => ?_
  rw [ownerOf_forfeited]

theorem receivable_forfeited (hm : m ≤ db.journalEntries.length)
    (href : e.referenceId = db.transactions.length)
    (hold : ∀ e ∈ db.journalEntries.drop m, e.referenceId < db.transactions.length) (l : Nat) :
    (forfeited db id accountId amount releasedAt t e).receivableCredited m l =
      db.receivableCredited m l +
        if t.loanId = some l then e.netCredit GL_CODES.LOAN_RECEIVABLE else 0 := by
  have hrows : (forfeited db id accountId amount releasedAt t e).journalEntries.drop m =
      db.journalEntries.drop m ++ [e] := List.drop_append_of_le_length hm
  have hnew : (forfeited db id accountId amount releasedAt t e).loanOf e = t.loanId := by
    show (db.transactions ++ [t])[e.referenceId]?.bind (·.loanId) = t.loanId
    rw [href, Table.getElem?_append_one_self, Option.bind_some]
  rw [Db.receivableCredited, hrows, Table.sumOver_append_one, hnew, Db.receivableCredited]
  congr 1
  refine Table.sumOver_congr fun e' he' => ?_
  have hsame : (forfeited db id accountId amount releasedAt t e).loanOf e' = db.loanOf e' := by
    show (db.transactions ++ [t])[e'.referenceId]?.bind (·.loanId) = _
    rw [List.getElem?_append_left (hold e' he')]
    rfl
  rw [hsame]

theorem paired_forfeited (hp : db.Paired) (hnum : e.entryNumber = s!"JE-LEDGER-{t.reference}") :
    (forfeited db id accountId amount releasedAt t e).Paired := by
  intro e' he' l i attempt heq
  rcases List.mem_append.mp he' with hold | hnew
  · obtain ⟨t', ht', href⟩ := hp e' hold l i attempt heq
    exact ⟨t', List.mem_append_left _ ht', href⟩
  · rw [List.mem_singleton.mp hnew, hnum] at heq
    exact ⟨t, List.mem_append_right _ (List.mem_singleton_self t), ledgerNumber_inj heq⟩

end

/-- A forfeiture adds what it takes to the rows, to the receivable and to the guarantee. -/
theorem collecting_forfeit {db₀ db db' : Db} {loanId id accountId : Nat} {taken amount : Int}
    (hc : Collecting db₀ loanId taken db) (hf : db.Forfeited loanId id accountId amount db') :
    Collecting db₀ loanId (taken + amount) db' := by
  obtain ⟨hpos, ⟨g, a, hrow, hloan, hacc, howner, hle⟩, t, e, attempt, releasedAt, ht, htl, hta,
    _, hnum, href, hcredit, rfl⟩ := hf
  change Collecting db₀ loanId _ (forfeited db id accountId amount releasedAt t e)
  have hownerOf : db.ownerOf t = some g.memberId := by
    rw [Db.ownerOf, ht, hacc, Option.map_some, howner]
  have htaken : ∀ l, t.takenFor l = if l = loanId then amount else 0 := by
    intro l
    rw [Transaction.takenFor, htl, hta]
    by_cases hl : l = loanId
    · rw [if_pos hl, if_pos (congrArg some hl.symm)]
    · rw [if_neg hl, if_neg fun he => hl (Option.some.inj he).symm]
  constructor
  · rw [← hc.accounts]
    exact Table.map_modify_same fun _ => rfl
  · show _ ≤ (db.transactions ++ [t]).length
    rw [List.length_append]
    exact Nat.le_add_right_of_le hc.transactions
  · show _ ≤ (db.journalEntries ++ [e]).length
    rw [List.length_append]
    exact Nat.le_add_right_of_le hc.journalEntries
  · intro e' he'
    have hrows : (forfeited db id accountId amount releasedAt t e).journalEntries.drop
        db₀.journalEntries.length = db.journalEntries.drop db₀.journalEntries.length ++ [e] :=
      List.drop_append_of_le_length hc.journalEntries
    show _ < (db.transactions ++ [t]).length
    rw [List.length_append, List.length_singleton]
    rw [hrows] at he'
    rcases List.mem_append.mp he' with hold | hnew
    · exact Nat.lt_succ_of_lt (hc.referred e' hold)
    · rw [List.mem_singleton.mp hnew, href]
      exact Nat.lt_succ_self _
  · intro j g₀ hg₀
    obtain ⟨b, hb, hkey, hguaranteed, hrecovered, hmax⟩ := hc.guarantors j g₀ hg₀
    by_cases hj : id = j
    · -- the guarantee that gave
      subst hj
      rw [hrow] at hb
      cases hb
      refine ⟨g.recover amount releasedAt, Table.getElem?_modify_self hrow, hkey, hguaranteed, ?_, ?_⟩
      · rw [takenFrom_forfeited hc.transactions, hownerOf]
        show ((g.recoveredAmount + amount.toNat : Nat) : Int) = g₀.recoveredAmount +
          (db.takenFrom db₀.transactions.length g.loanId g.memberId +
            if some g.memberId = some g.memberId then t.takenFor g.loanId else 0)
        rw [if_pos rfl, htaken, if_pos hloan]
        omega
      · show g.recoveredAmount + amount.toNat ≤ _
        omega
    · -- another guarantee is of another member, or of another loan
      refine ⟨b, (Table.getElem?_modify_other hj).trans hb, hkey, hguaranteed, ?_, hmax⟩
      have hnone : (if some g.memberId = some b.memberId then t.takenFor b.loanId else 0) = 0 := by
        by_cases hl : b.loanId = loanId
        · have hne := member_ne hc.keyed hrow hb hj (hloan.trans hl.symm)
          exact if_neg fun he => hne (Option.some.inj he)
        · rw [htaken, if_neg hl]
          exact ite_self 0
      rw [takenFrom_forfeited hc.transactions, hownerOf, hnone, Int.add_zero]
      exact hrecovered
  · intro l loan₀ hl₀
    obtain ⟨loan, hl, hout⟩ := hc.loans l loan₀ hl₀
    refine ⟨loan, hl, ?_⟩
    rw [takenFor_forfeited hc.transactions, htaken, hout]
    split
    · omega
    · omega
  · intro l
    rw [receivable_forfeited hc.journalEntries href hc.referred,
      takenFor_forfeited hc.transactions, hc.receivable l, htaken, htl, hcredit]
    congr 1
    by_cases hl : l = loanId
    · rw [if_pos hl, if_pos (congrArg some hl.symm)]
    · rw [if_neg hl, if_neg fun he => hl (Option.some.inj he).symm]
  · exact paired_forfeited hc.paired hnum
  · have hkeyed : Keyed (db.updateGuarantor id (·.recover amount releasedAt)) :=
      keyed_updateGuarantor (fun _ => rfl) hc.keyed
    exact ⟨hkeyed.unique, hkeyed.loan⟩

theorem forfeited_loans {db db' : Db} {loanId id accountId : Nat} {amount : Int}
    (hf : db.Forfeited loanId id accountId amount db') : db'.loans = db.loans := by
  obtain ⟨_, _, _, _, _, _, _, _, _, _, _, _, _, rfl⟩ := hf
  rfl

/-- The row of another guarantee, and the owners of the accounts, stay as they are. -/
theorem forfeited_rows {db db' : Db} {loanId id accountId : Nat} {amount : Int}
    (hf : db.Forfeited loanId id accountId amount db') :
    (∀ j, id ≠ j → db'.loanGuarantors[j]? = db.loanGuarantors[j]?) ∧
      db'.accounts.map (·.memberId) = db.accounts.map (·.memberId) := by
  obtain ⟨_, _, t, e, _, releasedAt, _, _, _, _, _, _, _, rfl⟩ := hf
  refine ⟨fun j hj => ?_, ?_⟩
  · show (db.loanGuarantors.modify id (·.recover amount releasedAt))[j]? = _
    exact Table.getElem?_modify_other hj
  · show (db.accounts.modify accountId (·.forfeit amount)).map (·.memberId) = _
    exact Table.map_modify_same fun _ => rfl

/-- A loop over guarantees of one loan: each takes at most its cap, and finds the rows that are
left as they were. -/
theorem collect_loop {α : Type} {f : α → Tx Nat} {idOf : α → Nat} {loanId : Nat} (cap : α → Int)
    (ready : Db → α → Prop) (hcap : ∀ a, 0 ≤ cap a)
    (hstep : ∀ {a db n db'}, db.Paired → ready db a → Yields (f a) db n db' →
      (db' = db ∧ n = 0) ∨ ∃ accountId amount, db.Forfeited loanId (idOf a) accountId amount db' ∧
        n = amount.toNat ∧ amount ≤ cap a)
    (hkeep : ∀ {a b db accountId amount db'}, idOf a ≠ idOf b → Keyed db → ready db b →
      db.Forfeited loanId (idOf a) accountId amount db' → ready db' b)
    {items : List α} (hnodup : (items.map idOf).Nodup) {db₀ db db' : Db} {taken : Int} {n : Nat}
    (hready : ∀ a ∈ items, ready db a) (hc : Collecting db₀ loanId taken db)
    (h : Yields (sumM f items) db n db') :
    Collecting db₀ loanId (taken + n) db' ∧ (n : Int) ≤ Table.sumOver cap items ∧
      db'.loans = db.loans := by
  induction items generalizing db taken n with
  | nil =>
    obtain ⟨rfl, rfl⟩ := yields_pure.mp h
    exact ⟨by rwa [Int.natCast_zero, Int.add_zero], Int.le_refl 0, rfl⟩
  | cons a items ih =>
    obtain ⟨hnew, hnodup⟩ := List.nodup_cons.mp hnodup
    simp only [sumM, yields_bind, yields_pure] at h
    obtain ⟨k, mid, hfirst, k', _, hrest, rfl, rfl⟩ := h
    rw [Table.sumOver_cons]
    rcases hstep hc.paired (hready a List.mem_cons_self) hfirst with ⟨rfl, rfl⟩ |
      ⟨accountId, amount, hf, rfl, hle⟩
    · obtain ⟨hc', hle', hloans⟩ :=
        ih hnodup (fun b hb => hready b (List.mem_cons_of_mem a hb)) hc hrest
      rw [Nat.zero_add]
      exact ⟨hc', Int.le_trans hle' (Int.le_add_of_nonneg_left (hcap a)), hloans⟩
    · have hleft : ∀ b ∈ items, ready mid b := fun b hb =>
        hkeep (fun he => hnew (List.mem_map.mpr ⟨b, hb, he.symm⟩)) hc.keyed
          (hready b (List.mem_cons_of_mem a hb)) hf
      obtain ⟨hc', hle', hloans⟩ := ih hnodup hleft (collecting_forfeit hc hf) hrest
      have hamount : ((amount.toNat : Nat) : Int) = amount :=
        Int.toNat_of_nonneg (Int.le_of_lt hf.positive)
      refine ⟨?_, ?_, hloans.trans (forfeited_loans hf)⟩
      · rw [Int.natCast_add, hamount, ← Int.add_assoc]
        exact hc'
      · rw [Int.natCast_add, hamount]
        exact Int.add_le_add hle hle'

/-! ## 4. The shares of a recovery -/

theorem ofUnits_nonneg {n : Int} (h : 0 ≤ n) : 0 ≤ ofUnits n :=
  div_nonneg (Int.cast_nonneg h) (Nat.cast_nonneg _)

theorem ofUnits_nonpos {n : Int} (h : n ≤ 0) : ofUnits n ≤ 0 :=
  div_nonpos_of_nonpos_of_nonneg (Int.cast_nonpos.mpr h) (Nat.cast_nonneg _)

theorem share_nonneg {debt capacity total : Int} (hd : 0 ≤ debt) (hc : 0 ≤ capacity)
    (ht : 0 ≤ total) : 0 ≤ proportionalShare debt capacity total :=
  Rounding.roundTo_nonneg (Rounding.significant_nonneg (div_nonneg
    (Rounding.significant_nonneg (mul_nonneg (ofUnits_nonneg hd) (ofUnits_nonneg hc)))
    (ofUnits_nonneg ht)))

theorem share_nonpos {debt capacity total : Int} (hd : 0 ≤ debt) (hc : 0 ≤ capacity)
    (ht : total ≤ 0) : proportionalShare debt capacity total ≤ 0 :=
  Rounding.roundHalfUp_nonpos (mul_nonpos_of_nonpos_of_nonneg
    (Rounding.significant_nonpos (div_nonpos_of_nonneg_of_nonpos
      (Rounding.significant_nonneg (mul_nonneg (ofUnits_nonneg hd) (ofUnits_nonneg hc)))
      (ofUnits_nonpos ht))) (Nat.cast_nonneg _))

/-- Once the capacity that is left is negative, no share is positive. -/
theorem shareDebt_nonpos {items : List (RecoveryAllocation × Int)} {debt total : Int}
    (hd : 0 ≤ debt) (ht : total < 0) : ∀ al ∈ shareDebt items debt total, al.deduction ≤ 0 := by
  induction items generalizing debt total with
  | nil => exact fun al hal => absurd hal List.not_mem_nil
  | cons it items ih =>
    intro al hal
    unfold shareDebt at hal
    split at hal
    · rcases List.mem_cons.mp hal with rfl | hal
      · exact Int.le_refl 0
      · exact ih hd ht al hal
    · next hskip =>
      have hpos : 0 < it.2 := by
        rw [not_or, not_or] at hskip
        exact Int.not_le.mp hskip.2.2
      have hshare := share_nonpos hd (Int.le_of_lt hpos) (Int.le_of_lt ht)
      rcases List.mem_cons.mp hal with rfl | hal
      · show min (min it.2 _) debt ≤ 0
        omega
      · exact ih (by omega) (by omega) al hal

/-- The positive shares are together at most the debt that is shared. -/
theorem shareDebt_le_debt {items : List (RecoveryAllocation × Int)} {debt total : Int}
    (hd : 0 ≤ debt) :
    Table.sumOver (fun al => max 0 al.deduction) (shareDebt items debt total) ≤ debt := by
  induction items generalizing debt total with
  | nil => exact hd
  | cons it items ih =>
    unfold shareDebt
    split
    · rw [Table.sumOver_cons, Int.max_self, Int.zero_add]
      exact ih hd
    · next hskip =>
      rw [not_or, not_or] at hskip
      have hpos : 0 < it.2 := Int.not_le.mp hskip.2.2
      rw [Table.sumOver_cons]
      rcases lt_or_ge total 0 with ht | ht
      · have hshare := share_nonpos hd (Int.le_of_lt hpos) (Int.le_of_lt ht)
        generalize proportionalShare debt it.2 total = share at *
        have hzero : Table.sumOver (fun al : RecoveryAllocation => max 0 al.deduction)
            (shareDebt items (debt - min (min it.2 share) debt) (total - it.2)) = 0 := by
          refine Table.sumOver_zero fun al hal => ?_
          have hle := shareDebt_nonpos (by omega) (by omega) al hal
          omega
        rw [hzero]
        show max 0 (min (min it.2 share) debt) + 0 ≤ debt
        omega
      · have hshare := share_nonneg hd (Int.le_of_lt hpos) ht
        generalize proportionalShare debt it.2 total = share at *
        have hrest : Table.sumOver (fun al : RecoveryAllocation => max 0 al.deduction)
            (shareDebt items (debt - min (min it.2 share) debt) (total - it.2)) ≤
              debt - min (min it.2 share) debt := ih (by omega)
        show max 0 (min (min it.2 share) debt) + _ ≤ debt
        omega

/-- What a share is of: the item it was made for, and at most its capacity. -/
theorem shareDebt_mem {items : List (RecoveryAllocation × Int)} {debt total : Int}
    {al : RecoveryAllocation} (hal : al ∈ shareDebt items debt total) :
    ∃ it ∈ items, al = { it.1 with deduction := al.deduction } ∧ al.deduction ≤ max 0 it.2 := by
  induction items generalizing debt total with
  | nil => exact absurd hal List.not_mem_nil
  | cons it items ih =>
    unfold shareDebt at hal
    split at hal
    · rcases List.mem_cons.mp hal with rfl | hal
      · exact ⟨it, List.mem_cons_self, rfl, Int.le_max_left 0 it.2⟩
      · obtain ⟨it', hmem, hal'⟩ := ih hal
        exact ⟨it', List.mem_cons_of_mem _ hmem, hal'⟩
    · rcases List.mem_cons.mp hal with rfl | hal
      · refine ⟨it, List.mem_cons_self, rfl, ?_⟩
        show min (min it.2 _) debt ≤ max 0 it.2
        omega
      · obtain ⟨it', hmem, hal'⟩ := ih hal
        exact ⟨it', List.mem_cons_of_mem _ hmem, hal'⟩

theorem shareDebt_ids {items : List (RecoveryAllocation × Int)} {debt total : Int} :
    (shareDebt items debt total).map (·.guarantorId) = items.map (·.1.guarantorId) := by
  induction items generalizing debt total with
  | nil => rfl
  | cons it items ih =>
    unfold shareDebt
    split
    · rw [List.map_cons, List.map_cons, ih]
    · rw [List.map_cons, List.map_cons, ih]

theorem shareDebt_le_capacity {items : List (RecoveryAllocation × Int)} {debt total : Int} :
    Table.sumOver (fun al => max 0 al.deduction) (shareDebt items debt total) ≤
      Table.sumOver (fun it => max 0 it.2) items := by
  induction items generalizing debt total with
  | nil => exact Int.le_refl 0
  | cons it items ih =>
    unfold shareDebt
    split
    · rw [Table.sumOver_cons, Table.sumOver_cons, Int.max_self]
      exact Int.add_le_add (Int.le_max_left 0 it.2) ih
    · rw [Table.sumOver_cons, Table.sumOver_cons]
      refine Int.add_le_add ?_ ih
      show max 0 (min (min it.2 _) debt) ≤ max 0 it.2
      omega

/-- A capacity is at most what is left of the guarantee. -/
theorem capacity_le_left {g : LoanGuarantor} {account : Option (Nat × Account)}
    {sumHolds outstandingBalance : Nat}
    (hpos : 0 < recoveryCapacity g account sumHolds outstandingBalance) :
    recoveryCapacity g account sumHolds outstandingBalance ≤
      (g.guaranteedAmount : Int) - g.recoveredAmount := by
  unfold recoveryCapacity at hpos ⊢
  dsimp only at hpos ⊢
  generalize (g.guaranteedAmount : Int) - g.recoveredAmount = left at *
  split at hpos
  · next hscaled =>
    rw [if_pos hscaled]
    have hsum : (0 : ℚ) ≤ ofUnits sumHolds := ofUnits_nonneg (Int.natCast_nonneg _)
    have hratio : ofUnits outstandingBalance / ofUnits sumHolds ≤ 1 := by
      refine div_le_one_of_le₀ (div_le_div_of_nonneg_right ?_ (Nat.cast_nonneg _)) hsum
      exact_mod_cast Nat.le_of_lt hscaled.2
    have hratio1 := Rounding.significant_le_one hratio
    have hratio0 := Rounding.significant_nonneg
      (div_nonneg (ofUnits_nonneg (Int.natCast_nonneg outstandingBalance)) hsum)
    generalize Rounding.significant (ofUnits outstandingBalance / ofUnits sumHolds) = ratio at *
    have hleft : 0 ≤ left := by
      by_contra hneg
      have hproduct : ofUnits left * ratio ≤ ofUnits 0 :=
        (mul_nonpos_of_nonpos_of_nonneg (ofUnits_nonpos (Int.le_of_lt (Int.not_le.mp hneg)))
          hratio0).trans (ofUnits_nonneg (Int.le_refl 0))
      have hround : toDecimalPlaces4 (Rounding.significantUnits (ofUnits left * ratio)) ≤ 0 :=
        Rounding.roundTo_le (by decide) (Int.le_refl 0) (Rounding.significantUnits_le hproduct)
      omega
    have hround : toDecimalPlaces4 (Rounding.significantUnits (ofUnits left * ratio)) ≤ left :=
      Rounding.roundTo_le (by decide) hleft
        (Rounding.significantUnits_le (mul_le_of_le_one_right (ofUnits_nonneg hleft) hratio1))
    omega
  · next hwhole =>
    rw [if_neg hwhole]
    omega

/-! ## 5. The jobs -/

theorem collecting_uuid {db₀ db : Db} {loanId : Nat} {taken : Int} (k : Nat)
    (hc : Collecting db₀ loanId taken db) : Collecting db₀ loanId taken { db with uuid := k } :=
  ⟨hc.accounts, hc.transactions, hc.journalEntries, hc.referred, hc.guarantors, hc.loans,
    hc.receivable, hc.paired, ⟨hc.keyed.unique, hc.keyed.loan⟩⟩

/-- The loan is lowered by what the job took, which is no more than it owes. -/
theorem collecting_settle {db₀ db : Db} {loanId : Nat} {n : Nat} {f : Loan → Loan} {loan : Loan}
    (hc : Collecting db₀ loanId n db) (hloan : db.loans[loanId]? = some loan)
    (hle : n ≤ loan.outstandingBalance)
    (hf : (f loan).outstandingBalance = loan.outstandingBalance - n) :
    Collecting db₀ loanId 0 (db.updateLoan loanId f) where
  accounts := hc.accounts
  transactions := hc.transactions
  journalEntries := hc.journalEntries
  referred := hc.referred
  guarantors := hc.guarantors
  loans l loan₀ hl₀ := by
    obtain ⟨b, hb, hout⟩ := hc.loans l loan₀ hl₀
    by_cases hl : loanId = l
    · subst hl
      rw [hloan] at hb
      cases hb
      refine ⟨f loan, Table.getElem?_modify_self hloan, ?_⟩
      show _ = _ - db.takenFor db₀.transactions.length loanId + _
      rw [ite_self, Int.add_zero]
      rw [if_pos rfl] at hout
      omega
    · refine ⟨b, (Table.getElem?_modify_other hl).trans hb, ?_⟩
      show _ = _ - db.takenFor db₀.transactions.length l + _
      rw [if_neg fun he => hl he.symm] at hout ⊢
      exact hout
  receivable := hc.receivable
  paired := hc.paired
  keyed := keyed_updateLoan _ _ hc.keyed

theorem collecting_any {db₀ db : Db} {loanId : Nat} (hc : Collecting db₀ loanId 0 db) (l : Nat) :
    Collecting db₀ l 0 db where
  accounts := hc.accounts
  transactions := hc.transactions
  journalEntries := hc.journalEntries
  referred := hc.referred
  guarantors := hc.guarantors
  loans j loan₀ hl₀ := by
    obtain ⟨loan, hl, hout⟩ := hc.loans j loan₀ hl₀
    refine ⟨loan, hl, ?_⟩
    rw [ite_self] at hout ⊢
    exact hout
  receivable := hc.receivable
  paired := hc.paired
  keyed := hc.keyed

/-- What a recovery shares out, with the capacities. -/
def capacities (db : Db) (guarantors : List (Nat × LoanGuarantor)) (ty : AccountType) (out : Nat) :
    List (RecoveryAllocation × Int) :=
  guarantors.map fun row =>
    ({ guarantorId := row.1
       guarantor := row.2
       account := db.activeAccount row.2.memberId ty
       deduction := 0 },
      recoveryCapacity row.2 (db.activeAccount row.2.memberId ty)
        (guarantors.map (·.2.guaranteedAmount)).sum out)

theorem allocateRecovery_eq (db : Db) (guarantors : List (Nat × LoanGuarantor)) (ty : AccountType)
    (debt : Int) (out : Nat) :
    db.allocateRecovery guarantors ty debt out = shareDebt (capacities db guarantors ty out) debt
      ((capacities db guarantors ty out).map (·.2)).sum := rfl

theorem recoverable_eq (db : Db) (loanId : Nat) (loan : Loan) :
    db.recoverable loanId loan = Table.sumOver (fun it => max 0 it.2)
      (capacities db (db.unreleasedGuarantors loanId) (db.collateralType loan)
        loan.outstandingBalance) := by
  rw [capacities, Table.sumOver_map]
  rfl

theorem allocateRecovery_mem {db : Db} {loanId : Nat} {ty : AccountType} {debt : Int} {out : Nat}
    {al : RecoveryAllocation}
    (hal : al ∈ db.allocateRecovery (db.unreleasedGuarantors loanId) ty debt out) :
    (al.guarantorId, al.guarantor) ∈ db.unreleasedGuarantors loanId ∧
      al.account = db.activeAccount al.guarantor.memberId ty ∧
      (0 < al.deduction →
        al.deduction ≤ (al.guarantor.guaranteedAmount : Int) - al.guarantor.recoveredAmount) := by
  rw [allocateRecovery_eq] at hal
  obtain ⟨it, hit, heq, hle⟩ := shareDebt_mem hal
  obtain ⟨row, hrow, rfl⟩ := List.mem_map.mp hit
  have hid : al.guarantorId = row.1 := by rw [heq]
  have hg : al.guarantor = row.2 := by rw [heq]
  have hacc : al.account = db.activeAccount row.2.memberId ty := by rw [heq]
  refine ⟨by rw [hid, hg]; exact hrow, by rw [hacc, hg], fun hpos => ?_⟩
  dsimp only at hle
  have hcap : recoveryCapacity row.2 (db.activeAccount row.2.memberId ty)
      ((db.unreleasedGuarantors loanId).map (·.2.guaranteedAmount)).sum out ≤
        (row.2.guaranteedAmount : Int) - row.2.recoveredAmount := capacity_le_left (by omega)
  rw [hg]
  omega

/-- An item that the loop of a recovery comes to: its guarantee is as it was read, its account is
of the guarantor, and its share is within the guarantee. -/
structure Ready (loanId : Nat) (db : Db) (al : RecoveryAllocation) : Prop where
  current : db.loanGuarantors[al.guarantorId]? = some al.guarantor
  ofLoan : al.guarantor.loanId = loanId
  owner : ∀ id r, al.account = some (id, r) →
    db.accounts[id]?.map (·.memberId) = some al.guarantor.memberId
  within : 0 < al.deduction →
    al.deduction ≤ (al.guarantor.guaranteedAmount : Int) - al.guarantor.recoveredAmount

theorem allocated_ready {db : Db} {loanId k : Nat} {ty : AccountType} {debt : Int} {out : Nat}
    {al : RecoveryAllocation}
    (hal : al ∈ db.allocateRecovery (db.unreleasedGuarantors loanId) ty debt out) :
    Ready loanId { db with uuid := k } al := by
  obtain ⟨hmem, hacc, hleft⟩ := allocateRecovery_mem hal
  obtain ⟨hrow, hl, _, _⟩ := mem_unreleasedGuarantors.mp hmem
  refine ⟨hrow, hl, fun id r hr => ?_, hleft⟩
  obtain ⟨hat, hmember, _⟩ := activeAccount_some (hacc.symm.trans hr)
  show db.accounts[id]?.map (·.memberId) = _
  rw [hat, Option.map_some, hmember]

theorem recover_step {now : Int} {loanId : Nat} {loanNumber attempt by' : String}
    {ty : AccountType} {al : RecoveryAllocation} {db : Db} {n : Nat} {db' : Db} (hp : db.Paired)
    (hr : Ready loanId db al)
    (hy : Yields (recoverFromGuarantor now loanId loanNumber ty attempt by' al) db n db') :
    (db' = db ∧ n = 0) ∨ ∃ accountId amount, db.Forfeited loanId al.guarantorId accountId amount db' ∧
      n = amount.toNat ∧ amount ≤ max 0 al.deduction := by
  have howner : ∀ id r a, al.account = some (id, r) → db.accounts[id]? = some a →
      a.memberId = al.guarantor.memberId := by
    intro id r a hacc ha
    have hmember := hr.owner id r hacc
    rw [ha, Option.map_some] at hmember
    exact Option.some.inj hmember
  rcases recoverFromGuarantor_forfeits hp hr.current hr.ofLoan howner hr.within hy with hidle |
    ⟨accountId, amount, hf, hn, hle⟩
  · exact .inl hidle
  · exact .inr ⟨accountId, amount, hf, hn, Int.le_trans hle (Int.le_max_right 0 _)⟩

theorem recover_keep {loanId : Nat} {a b : RecoveryAllocation} {db db' : Db} {accountId : Nat}
    {amount : Int} (hne : a.guarantorId ≠ b.guarantorId) (_hk : Keyed db) (hr : Ready loanId db b)
    (hf : db.Forfeited loanId a.guarantorId accountId amount db') : Ready loanId db' b := by
  obtain ⟨hrows, hmembers⟩ := forfeited_rows hf
  refine ⟨(hrows _ hne).trans hr.current, hr.ofLoan, fun id r hacc => ?_, hr.within⟩
  rw [← List.getElem?_map, hmembers, List.getElem?_map]
  exact hr.owner id r hacc

/-- The end of a job: the loan is lowered if anything was taken. -/
theorem collecting_lowered {db₀ mid db' : Db} {loanId total n : Nat} {f : Loan → Loan} {loan : Loan}
    (hc : Collecting db₀ loanId (0 + total) mid) (hloan : mid.loans[loanId]? = some loan)
    (hle : total ≤ loan.outstandingBalance)
    (hf : (f loan).outstandingBalance = loan.outstandingBalance - total)
    (h : Yields (if 0 < total then modify (·.updateLoan loanId f) >>= fun _ => pure total
      else pure total : Tx Nat) mid n db') : Collecting db₀ loanId 0 db' := by
  rw [Int.zero_add] at hc
  rcases yields_ite.mp h with ⟨_, h⟩ | ⟨hzero, h⟩
  · simp only [yields_bind, yields_modify, yields_pure] at h
    obtain ⟨_, _, rfl, _, rfl⟩ := h
    exact collecting_settle hc hloan hle hf
  · obtain ⟨_, rfl⟩ := yields_pure.mp h
    obtain rfl : total = 0 := by omega
    exact hc

theorem recover_collects {db₀ db db' : Db} {now : Int} {loanId : Nat} {defaultAmount : ℚ}
    {actorId : String} {n : Nat} (hc : Collecting db₀ loanId 0 db)
    (hw : db.withinDebt (.recover now loanId defaultAmount actorId) = true)
    (h : Yields (recoverFromGuarantors now loanId defaultAmount actorId) db n db') :
    Collecting db₀ loanId 0 db' := by
  simp only [recoverFromGuarantors, yields_bind, yields_get, yields_ensure, yields_required,
    yields_uuidv4] at h
  obtain ⟨_, _, ⟨hamount, rfl⟩, attempt, drawn, ⟨rfl, rfl⟩, _, _, ⟨rfl, rfl⟩, loan, _, ⟨hloan, rfl⟩,
    _, _, ⟨_, rfl⟩, total, mid, hloop, h⟩ := h
  have hstart : Collecting db₀ loanId 0 { db with uuid := db.uuid + 1 } :=
    collecting_uuid _ hc
  have hdebt : 0 ≤ toDecimalPlaces4 defaultAmount := by
    refine Rounding.roundHalfUp_nonneg ?_
    positivity
  have hids : ((db.allocateRecovery (db.unreleasedGuarantors loanId) (db.collateralType loan)
      (toDecimalPlaces4 defaultAmount) loan.outstandingBalance).map (·.guarantorId)).Nodup := by
    rw [allocateRecovery_eq, shareDebt_ids, capacities, List.map_map]
    exact Table.nodup_selectRows
  obtain ⟨hc', hle, hloans⟩ := collect_loop (fun al => max 0 al.deduction) (Ready loanId)
    (fun al => Int.le_max_left 0 al.deduction) recover_step recover_keep hids
    (fun _ hal => allocated_ready hal) hstart hloop
  -- either the amount asked for or what the guarantors can give is within the debt
  have hwithin : total ≤ loan.outstandingBalance := by
    have hall : (db.loans[loanId]?.all fun loan =>
        toDecimalPlaces4 defaultAmount ≤ loan.outstandingBalance ||
          db.recoverable loanId loan ≤ loan.outstandingBalance) = true := hw
    have hrow : db.loans[loanId]? = some loan := hloan
    rw [hrow, Option.all_some, Bool.or_eq_true, decide_eq_true_eq, decide_eq_true_eq] at hall
    have hsum : (total : Int) ≤ Table.sumOver (fun al : RecoveryAllocation => max 0 al.deduction)
        (db.allocateRecovery (db.unreleasedGuarantors loanId) (db.collateralType loan)
          (toDecimalPlaces4 defaultAmount) loan.outstandingBalance) := hle
    rw [allocateRecovery_eq] at hsum
    rcases hall with hasked | hpledged
    · have hdebt := Int.le_trans hsum (shareDebt_le_debt hdebt)
      omega
    · rw [recoverable_eq] at hpledged
      have hcap := Int.le_trans hsum shareDebt_le_capacity
      omega
  refine collecting_lowered hc' ((congrArg (·[loanId]?) hloans).trans hloan) hwithin ?_ h
  show loan.outstandingBalance - min loan.outstandingBalance total = _
  omega

/-- A row that the loop of an offset comes to: it is as it was read, and so is the account of the
guarantor, `found` in the state the job started from. -/
structure Due (found : Db) (loanId : Nat) (db : Db) (row : Nat × LoanGuarantor) : Prop where
  current : db.loanGuarantors[row.1]? = some row.2
  ofLoan : row.2.loanId = loanId
  account : db.activeAccount row.2.memberId .bosa = found.activeAccount row.2.memberId .bosa

theorem forfeit_step {found : Db} {now : Int} {loanId : Nat} {loanNumber attempt : String}
    {row : Nat × LoanGuarantor} {db : Db} {n : Nat} {db' : Db} (hp : db.Paired)
    (hd : Due found loanId db row)
    (hy : Yields (forfeitGuarantor now loanId loanNumber attempt row) db n db') :
    (db' = db ∧ n = 0) ∨ ∃ accountId amount, db.Forfeited loanId row.1 accountId amount db' ∧
      n = amount.toNat ∧ amount ≤ found.forfeitableFrom row := by
  rcases forfeitGuarantor_forfeits hp hd.current hd.ofLoan hy with hidle |
    ⟨accountId, a, hacc, hf, hn⟩
  · exact .inl hidle
  · refine .inr ⟨accountId, _, hf, hn, ?_⟩
    rw [Db.forfeitableFrom, ← hd.account, hacc]
    exact Int.le_max_right 0 _

theorem forfeitableFrom_nonneg (db : Db) (row : Nat × LoanGuarantor) :
    0 ≤ db.forfeitableFrom row := by
  unfold Db.forfeitableFrom
  cases db.activeAccount row.2.memberId .bosa with
  | none => exact Int.le_refl 0
  | some r => exact Int.le_max_left 0 _

theorem unreleased_due {db : Db} {loanId k : Nat} {row : Nat × LoanGuarantor}
    (hrow : row ∈ db.unreleasedGuarantors loanId) : Due db loanId { db with uuid := k } row := by
  obtain ⟨hat, hl, _, _⟩ := mem_unreleasedGuarantors.mp hrow
  exact ⟨hat, hl, rfl⟩

theorem forfeit_keep {found : Db} {loanId : Nat} {a b : Nat × LoanGuarantor} {db db' : Db}
    {accountId : Nat} {amount : Int} (hne : a.1 ≠ b.1) (hk : Keyed db) (hd : Due found loanId db b)
    (hf : db.Forfeited loanId a.1 accountId amount db') : Due found loanId db' b := by
  refine ⟨((forfeited_rows hf).1 _ hne).trans hd.current, hd.ofLoan, ?_⟩
  rw [← hd.account]
  obtain ⟨_, ⟨g, account, hrow, hloan, hacc, howner, _⟩, t, e, _, releasedAt, _, _, _, _, _, _, _,
    rfl⟩ := hf
  have hmember : account.memberId ≠ b.2.memberId :=
    howner ▸ member_ne hk hrow hd.current hne (hloan.trans hd.ofLoan.symm)
  refine Table.findRow_modify_other hacc ?_ ?_
  · rw [beq_false_of_ne hmember, Bool.false_and, Bool.false_and]
  · show (account.memberId == b.2.memberId && _ && _) = false
    rw [beq_false_of_ne hmember, Bool.false_and, Bool.false_and]

theorem offset_collects {db₀ db db' : Db} {now : Int} {loanId : Nat} {jobId : Option String}
    {n : Nat} (hc : Collecting db₀ loanId 0 db)
    (hw : db.withinDebt (.offset now loanId jobId) = true)
    (h : Yields (offsetLoan now loanId jobId) db n db') : Collecting db₀ loanId 0 db' := by
  simp only [offsetLoan, yields_bind, yields_get, yields_uuidv4] at h
  obtain ⟨_, _, ⟨rfl, rfl⟩, _, _, ⟨rfl, rfl⟩, h⟩ := h
  have hstart : Collecting db₀ loanId 0 { db with uuid := db.uuid + 1 } := collecting_uuid _ hc
  cases hfind : db.loans[loanId]?.filter (·.offsettable) with
  | none =>
    simp only [hfind, yields_pure] at h
    rw [← h.2]
    exact hstart
  | some loan =>
    simp only [hfind, yields_bind] at h
    obtain ⟨total, mid, hloop, h⟩ := h
    obtain ⟨hloan, _⟩ := Option.filter_eq_some_iff.mp hfind
    obtain ⟨hc', hle, hloans⟩ := collect_loop db.forfeitableFrom (Due db loanId)
      (forfeitableFrom_nonneg db) forfeit_step forfeit_keep Table.nodup_selectRows
      (fun _ hrow => unreleased_due hrow) hstart hloop
    have hwithin : total ≤ loan.outstandingBalance := by
      have hall : ((db.loans[loanId]?.filter (·.offsettable)).all fun loan =>
        db.forfeitable loanId ≤ loan.outstandingBalance) = true := hw
      rw [hfind, Option.all_some, decide_eq_true_eq] at hall
      have hsum : (total : Int) ≤ db.forfeitable loanId := hle
      omega
    refine collecting_lowered hc' ((congrArg (·[loanId]?) hloans).trans hloan) hwithin ?_ h
    show loan.outstandingBalance - min loan.outstandingBalance total = _
    omega

theorem job_collects {db₀ db : Db} {job : RecoveryJob} (hc : ∀ l, Collecting db₀ l 0 db)
    (hw : db.withinDebt job = true) : ∀ l, Collecting db₀ l 0 (step db job.op) := by
  rcases step_cases db job.op with ⟨u, hy⟩ | hsame
  · cases job with
    | recover now loanId defaultAmount actorId =>
      obtain ⟨_, _, hrun, _, rfl⟩ := yields_bind.mp hy
      exact collecting_any (recover_collects (hc loanId) hw hrun)
    | offset now loanId jobId =>
      obtain ⟨_, _, hrun, _, rfl⟩ := yields_bind.mp hy
      exact collecting_any (offset_collects (hc loanId) hw hrun)
  · rw [hsame]
    exact hc

theorem collecting_refl {db : Db} (hp : db.Paired) (hk : Keyed db) (l : Nat) :
    Collecting db l 0 db where
  accounts := rfl
  transactions := Nat.le_refl _
  journalEntries := Nat.le_refl _
  referred e he := by
    rw [List.drop_length] at he
    exact absurd he List.not_mem_nil
  guarantors id g hg := by
    refine ⟨g, hg, rfl, rfl, ?_, Nat.le_max_left _ _⟩
    rw [Db.takenFrom, Db.rowsSince, List.drop_length, Table.sumOver_nil, Int.add_zero]
  loans j loan hloan := by
    refine ⟨loan, hloan, ?_⟩
    rw [Db.takenFor, Db.rowsSince, List.drop_length, Table.sumOver_nil, ite_self, Int.sub_zero,
      Int.add_zero]
  receivable j := by
    rw [Db.takenFor, Db.rowsSince, List.drop_length, Db.receivableCredited, List.drop_length,
      Table.sumOver_nil, Table.sumOver_nil]
  paired := hp
  keyed := hk

end RecoveryLemmas

open RecoveryLemmas

/-- In every run of the two jobs, in any order and any number of times, in which each job finds no
more pledged than the loan owes or is not asked for more: what a guarantor has given for the loan
stays within the guarantee, what all of them gave is at most what the loan owed at first, and the
loan went down by what the receivable was credited for it. -/
theorem recovery_within_debt {db : Db} {jobs : List RecoveryJob} (hpaired : db.Paired)
    (hkeyed : Keyed db)
    (hwithin : Machine.Guarded (fun db job => step db job.op) (fun db job => db.withinDebt job = true)
      db jobs) :
    (∀ (id : Nat) (g : LoanGuarantor), db.loanGuarantors[id]? = some g →
      (db.afterJobs jobs).takenFrom db.transactions.length g.loanId g.memberId + g.recoveredAmount ≤
        max g.recoveredAmount g.guaranteedAmount) ∧
    ∀ (loanId : Nat) (loan : Loan), db.loans[loanId]? = some loan →
      (db.afterJobs jobs).takenFor db.transactions.length loanId ≤ loan.outstandingBalance ∧
      ∀ loan', (db.afterJobs jobs).loans[loanId]? = some loan' →
        (loan.outstandingBalance : Int) - loan'.outstandingBalance =
          (db.afterJobs jobs).receivableCredited db.journalEntries.length loanId := by
  have hrun : ∀ l, Collecting db l 0 (db.afterJobs jobs) :=
    Machine.run_induct (I := fun s => ∀ l, Collecting db l 0 s)
      (fun _ _ hc hw => job_collects hc hw) (collecting_refl hpaired hkeyed) hwithin
  have hc := hrun 0
  refine ⟨fun id g hg => ?_, fun loanId loan hloan => ?_⟩
  · obtain ⟨g', _, hkey, _, hrecovered, hmax⟩ := hc.guarantors id g hg
    rw [LoanGuarantor.key, LoanGuarantor.key, Prod.mk.injEq] at hkey
    rw [hkey.1, hkey.2] at hrecovered
    omega
  · obtain ⟨loan₁, hloan₁, hout⟩ := hc.loans loanId loan hloan
    rw [ite_self, Int.add_zero] at hout
    refine ⟨by omega, fun loan' hloan' => ?_⟩
    rw [hloan₁] at hloan'
    cases hloan'
    rw [hc.receivable loanId]
    omega

/-- Member 1 has guaranteed half of the loan of KES 100 with BOSA savings; the loan still owes
`outstandingBalance` and is non-performing. -/
def exPledged (outstandingBalance : Nat) : Db :=
  { exSacco with
    accounts := exSacco.accounts.modify 3 fun a =>
      { a with balance := 500000, frozenSavings := 500000 }
    loanProducts :=
      [{ requiredAccountType := some .bosa
         minGuarantors := 1
         maxGuarantors := 2
         guarantorCoverageRatio := 5000 }]
    loans := [{ exLoan with status := .defaulted, staging := .npl, outstandingBalance }]
    loanGuarantors :=
      [{ (⟨1, 500000⟩ : Nomination).invited 0 0 with
         status := .accepted
         respondedAt := some 0
         holdPlacedAt := some 0 }] }

/-- A recovery of KES 20 and the offset of what is left. -/
def exRecovery : List RecoveryJob := [.recover 0 0 20 "A", .offset 0 0 none]

/-- The loan owes KES 100: the two jobs take the KES 50 of the guarantee. -/
theorem recovery_within_debt_pledge :
    ((exPledged 1000000).afterJobs exRecovery).takenFrom 0 0 1 + (0 : Nat) ≤ max (0 : Nat) 500000 ∧
      ((exPledged 1000000).afterJobs exRecovery).takenFor 0 0 ≤ (1000000 : Nat) ∧
      ((exPledged 1000000).afterJobs exRecovery).takenFor 0 0 = 500000 := by
  have hrun := @recovery_within_debt (exPledged 1000000) exRecovery
    (fun e he => absurd he List.not_mem_nil) ⟨by decide, by decide⟩ (by decide +kernel)
  exact ⟨hrun.1 0 _ rfl, (hrun.2 0 _ rfl).1, by decide +kernel⟩

/-- The loan has been repaid down to KES 40 when the offset runs. It takes the whole pledge of
KES 50 from the guarantor and credits it to the receivable, but the loan goes down by KES 40. -/
theorem offset_exceeds_debt :
    ((exPledged 400000).loans.map (·.outstandingBalance) = [400000]) ∧
      ((exPledged 400000).afterJobs [.offset 0 0 none]).takenFor 0 0 = 500000 ∧
      ((exPledged 400000).afterJobs [.offset 0 0 none]).receivableCredited 0 0 = 500000 ∧
      ((exPledged 400000).afterJobs [.offset 0 0 none]).loans.map (·.outstandingBalance) = [0] := by
  decide +kernel

end BebaSacco
