import BebaSacco.RunningBalance
import BebaSacco.Pledges
import BebaSacco.Lib.ReadCommitted

/-! # The default offset among the other operations

`offsetLoanLocked` runs in a transaction without an isolation level: each of its statements sees what
others have committed since the one before. It reads the savings of a guarantor, and takes them under
a check of the version, the balance and the frozen savings it read. Every other operation that moves
a balance is serializable, so it is one step between two statements of the running offsets, and it
fails when a row it changes is locked by one of them.

Results:
 1. `balances_unbroken`: in every interleaving of offsets and operations, the rows of an account that
    were completed lead from its opening balance to its balance, those among them that a reversal
    marked included.
 2. `reversal_gap`: without the marked rows there is a gap.
-/

namespace BebaSacco

open Txn HistoryLemmas FootprintLemmas BalanceLemmas

/-! ## 1. The writes of an offset -/

/-- A write of the offset: of the savings of a guarantor, which it sets to what it computed, of the
guarantee, of the statement row, of its journal entry, and of the loan. -/
inductive Write where
  | account (id : Nat) (balance frozenSavings : Int)
  | guarantor (id : Nat) (amount forfeitedAt : Int)
  | transaction (t : Transaction)
  | entry (e : JournalEntry)
  | loan (id totalForfeited : Nat)
  deriving DecidableEq, Repr

/-- An entry belongs to the row that was written just before it. -/
def Write.apply : Write → Db → Db
  | .account id balance frozenSavings, db =>
    db.updateAccount id fun a => { a with balance, frozenSavings, version := a.version + 1 }
  | .guarantor id amount forfeitedAt, db =>
    db.updateGuarantor id (·.recover amount (some forfeitedAt))
  | .transaction t, db => db.insertTransaction t
  | .entry e, db => db.insertEntry { e with referenceId := db.transactions.length - 1 }
  | .loan id totalForfeited, db => db.updateLoan id (·.offset totalForfeited)

/-- A row lock keeps the row as it is; an uncommitted unique value is not taken by another row. -/
def Write.allows : Write → Db → Db → Bool
  | .account id _ _, db, db' => db'.accounts[id]? == db.accounts[id]?
  | .guarantor id _ _, db, db' => db'.loanGuarantors[id]? == db.loanGuarantors[id]?
  | .transaction t, _, db' => db'.transactions.all (·.reference != t.reference)
  | .entry e, _, db' => db'.journalEntries.all (·.entryNumber != e.entryNumber)
  | .loan id _, db, db' => db'.loans[id]? == db.loans[id]?

/-- Two writes of one row, or of one unique value. -/
def Write.clash : Write → Write → Bool
  | .account id _ _, .account id' _ _ => id == id'
  | .guarantor id _ _, .guarantor id' _ _ => id == id'
  | .transaction t, .transaction t' => t.reference == t'.reference
  | .entry e, .entry e' => e.entryNumber == e'.entryNumber
  | .loan id _, .loan id' _ => id == id'
  | _, _ => false

theorem Write.clash_symm (v w : Write) : v.clash w = w.clash v := by
  cases v with
  | account id _ _ | guarantor id _ _ | transaction t | entry e | loan id _ =>
    cases w with
    | account _ _ _ | guarantor _ _ _ | transaction _ | entry _ | loan _ _ =>
      first
      | rfl
      | exact BEq.comm

/-! ## 2. The statements of an offset -/

structure OffsetCall where
  now : Int
  loanId : Nat
  recoveryAttemptId : String
  deriving DecidableEq, Repr

/-- An offset under way: the loan as it was read, the guarantors that are left and what was
forfeited. -/
structure LoanOffset extends OffsetCall where
  loan : Loan
  guarantors : List (Nat × LoanGuarantor)
  totalForfeited : Nat
  deriving DecidableEq, Repr

/-- A guarantor and the savings account as they were read. -/
structure Forfeiture where
  guarantorId : Nat
  guarantor : LoanGuarantor
  accountId : Nat
  account : Account
  deriving DecidableEq, Repr

def Forfeiture.amount (f : Forfeiture) : Int := f.guarantor.forfeitable f.account

def LoanOffset.reference (o : LoanOffset) (tenantId : String) (f : Forfeiture) : String :=
  guarantorForfeitureReference tenantId o.loanId f.accountId o.recoveryAttemptId

def LoanOffset.description (o : LoanOffset) : String :=
  s!"Guarantor default offset for loan {o.loan.loanNumber}"

/-- `accountUpdate`: where the version, the balance and the frozen savings are those that were
read. -/
def Forfeiture.unchanged (f : Forfeiture) (row : Account) : Bool :=
  row.version == f.account.version && row.balance == f.account.balance &&
    row.frozenSavings == f.account.frozenSavings

/-- The statement row. -/
def LoanOffset.forfeitureTxn (o : LoanOffset) (tenantId : String) (f : Forfeiture) : Transaction :=
  forfeitureTransaction f.accountId o.loanId .withdrawal f.amount f.account.balance
    (o.reference tenantId f) o.description "SYSTEM"

/-- The next statement of `offsetLoanLocked`. -/
inductive OffsetPoint where
  | findLoan (call : OffsetCall)
  | findAccount (o : LoanOffset)
  | findForfeiture (o : LoanOffset) (f : Forfeiture)
  | updateAccount (o : LoanOffset) (f : Forfeiture)
  | updateGuarantor (o : LoanOffset) (f : Forfeiture)
  | createTransaction (o : LoanOffset) (f : Forfeiture)
  | postEntry (o : LoanOffset) (f : Forfeiture)
  deriving DecidableEq, Repr

abbrev OffsetStatement := ReadCommitted.Statement Write OffsetPoint

/-- The end of the loop: the loan is written when it is as it was read. The code compares
`updatedAt`; a loan that others wrote and that is the same again is a rollback. -/
def LoanOffset.close (o : LoanOffset) (db : Db) : Option OffsetStatement :=
  if o.totalForfeited = 0 then some ⟨[], none⟩
  else if db.loans[o.loanId]? = some o.loan then some ⟨[.loan o.loanId o.totalForfeited], none⟩
  else none

def offsetStatement : OffsetPoint → Db → Option OffsetStatement
  | .findLoan call, db =>
    match db.loans[call.loanId]?.filter (·.offsettable) with
    | none => some ⟨[], none⟩
    | some loan => some ⟨[], some (.findAccount
        { call with loan, guarantors := db.unreleasedGuarantors call.loanId, totalForfeited := 0 })⟩
  | .findAccount o, db =>
    match o.guarantors with
    | [] => o.close db
    | (guarantorId, guarantor) :: guarantors =>
      match db.activeAccount guarantor.memberId .bosa with
      | none => some ⟨[], some (.findAccount { o with guarantors })⟩
      | some (accountId, account) =>
        if guarantor.forfeitable account ≤ 0 then
          some ⟨[], some (.findAccount { o with guarantors })⟩
        else
          some ⟨[], some (.findForfeiture { o with guarantors }
            { guarantorId, guarantor, accountId, account })⟩
  | .findForfeiture o f, db =>
    match db.transactionByReference (o.reference db.tenantId f) with
    | some _ => some ⟨[], some (.findAccount o)⟩
    | none => some ⟨[], some (.updateAccount o f)⟩
  | .updateAccount o f, db =>
    if db.accounts[f.accountId]?.any f.unchanged then
      some ⟨[.account f.accountId (f.account.balance - f.amount)
        (f.account.frozenSavings - f.amount)], some (.updateGuarantor o f)⟩
    else none
  | .updateGuarantor o f, db =>
    let held := db.loanGuarantors[f.guarantorId]?.any fun g =>
      g.status == .accepted && g.holdReleasedAt.isNone
    some ⟨if held then [.guarantor f.guarantorId f.amount o.now] else [],
      some (.createTransaction o f)⟩
  | .createTransaction o f, db =>
    match (BebaSacco.createTransaction (o.forfeitureTxn db.tenantId f)).run db with
    | .ok _ => some ⟨[.transaction (o.forfeitureTxn db.tenantId f)], some (.postEntry o f)⟩
    | .error _ => none
  | .postEntry o f, db =>
    match (postGuarantorForfeitureEntry (o.reference db.tenantId f) f.amount .bosa
      (db.transactions.length - 1) none (some o.description)).run db with
    | .ok (_, posted) => some ⟨(posted.journalEntries.drop db.journalEntries.length).map .entry,
        some (.findAccount { o with totalForfeited := o.totalForfeited + f.amount.toNat })⟩
    | .error _ => none

/-- The offset of a loan; the id of its attempt is random, so any id is allowed. -/
def offsetProgram : ReadCommitted.Program Db Write OffsetCall OffsetPoint where
  apply := Write.apply
  allows := Write.allows
  clash := Write.clash
  clash_symm := Write.clash_symm
  entry := .findLoan
  statement := offsetStatement

abbrev RunningOffset := ReadCommitted.Running Write OffsetPoint

abbrev OffsetWorld := ReadCommitted.World Db Write OffsetPoint

/-- An event of an offset, or another operation between two of its statements. -/
abbrev OffsetEvent := ReadCommitted.Event Op OffsetCall

def OffsetWorld.step (w : OffsetWorld) (e : OffsetEvent) : OffsetWorld :=
  offsetProgram.step (fun op db => BebaSacco.step db op) w e

/-- The world after the events, with no offset under way at their start. -/
def Db.afterOffsets (db : Db) (events : List OffsetEvent) : Db :=
  (Machine.run OffsetWorld.step ⟨db, []⟩ events).state

/-! ## 3. What the writes of an offset do to one account -/

def Write.row : Write → Option Transaction
  | .transaction t => some t
  | _ => none

/-- The balance of the account `accountId` after a write. -/
def Write.moved (accountId : Nat) (balance : Int) : Write → Int
  | .account id balance' _ => if id = accountId then balance' else balance
  | _ => balance

/-- A write that neither moves a balance nor is a row of a statement. -/
def Write.silent : Write → Bool
  | .account _ _ _ | .transaction _ => false
  | _ => true

/-- The rows of an account among the writes. -/
def rowsIn (accountId : Nat) (ws : List Write) : List Transaction :=
  (ws.filterMap Write.row).filter fun t => t.accountId == accountId

def balanceIn (accountId : Nat) (balance : Int) (ws : List Write) : Int :=
  ws.foldl (Write.moved accountId) balance

/-- The forfeiture whose savings are taken and whose row is still to be written. -/
def OffsetPoint.owes : OffsetPoint → Option Forfeiture
  | .updateGuarantor _ f | .createTransaction _ f => some f
  | _ => none

/-- The writes of an offset do not touch the savings of the account. -/
def Untouched (accountId : Nat) (ws : List Write) : Prop :=
  ∀ balance frozenSavings, Write.account accountId balance frozenSavings ∉ ws

/-- The rows that an offset has for an account lead from the balance that is committed to the one
that it wrote, but for the row that it still owes. -/
structure Prepared (accountId : Nat) (db : Db) (r : RunningOffset) : Prop where
  booked : ∀ t ∈ rowsIn accountId r.writes, t.booked = true
  untouched : Untouched accountId r.writes → rowsIn accountId r.writes = [] ∧
    ∀ f, r.point.owes = some f → f.accountId ≠ accountId
  settled : ∀ a, db.accounts[accountId]? = some a →
    (∀ f, r.point.owes = some f → f.accountId ≠ accountId) →
    Unbroken a.balance (rowsIn accountId r.writes) (balanceIn accountId a.balance r.writes)
  owing : ∀ a f, db.accounts[accountId]? = some a → r.point.owes = some f →
    f.accountId = accountId →
    Unbroken a.balance (rowsIn accountId r.writes) f.account.balance ∧
      balanceIn accountId a.balance r.writes = f.account.balance - f.amount

namespace OffsetLemmas

variable {opening : Int} {accountId : Nat} {db db' : Db} {ws ws' : List Write}
  {r r' : RunningOffset} {balance : Int}

theorem rowsIn_append : rowsIn accountId (ws ++ ws') = rowsIn accountId ws ++ rowsIn accountId ws' := by
  unfold rowsIn
  rw [List.filterMap_append, List.filter_append]

theorem balanceIn_append : balanceIn accountId balance (ws ++ ws') =
    balanceIn accountId (balanceIn accountId balance ws) ws' :=
  List.foldl_append

theorem balanceIn_untouched (h : Untouched accountId ws) :
    balanceIn accountId balance ws = balance := by
  induction ws generalizing balance with
  | nil => rfl
  | cons w ws ih =>
    have hrest : Untouched accountId ws := fun b f hmem => h b f (List.mem_cons_of_mem _ hmem)
    have hfirst : w.moved accountId balance = balance := by
      cases w with
      | account id b f =>
        refine if_neg fun hid => h b f ?_
        rw [hid]
        exact List.mem_cons_self
      | guarantor _ _ _ | transaction _ | entry _ | loan _ _ => rfl
    show balanceIn accountId (w.moved accountId balance) ws = balance
    rw [hfirst]
    exact ih hrest

theorem rowsIn_silent (h : ∀ w ∈ ws, w.silent = true) : rowsIn accountId ws = [] := by
  have hnone : ws.filterMap Write.row = [] := by
    refine List.filterMap_eq_nil_iff.mpr fun w hw => ?_
    cases w with
    | transaction t => cases h _ hw
    | account _ _ _ | guarantor _ _ _ | entry _ | loan _ _ => rfl
  rw [rowsIn, hnone, List.filter_nil]

theorem rowsIn_own {t : Transaction} (h : t.accountId = accountId) :
    rowsIn accountId [.transaction t] = [t] := by
  show [t].filter _ = [t]
  rw [List.filter_singleton, h, beq_self_eq_true]
  rfl

theorem rowsIn_other {t : Transaction} (h : t.accountId ≠ accountId) :
    rowsIn accountId [.transaction t] = [] := by
  show [t].filter _ = []
  rw [List.filter_singleton, beq_false_of_ne h]
  rfl

theorem untouched_silent (h : ∀ w ∈ ws, w.silent = true) : Untouched accountId ws := by
  intro b f hmem
  cases h _ hmem

theorem untouched_append :
    Untouched accountId (ws ++ ws') ↔ Untouched accountId ws ∧ Untouched accountId ws' := by
  constructor
  · exact fun h => ⟨fun b f hmem => h b f (List.mem_append_left _ hmem),
      fun b f hmem => h b f (List.mem_append_right _ hmem)⟩
  · rintro ⟨h, h'⟩ b f hmem
    rcases List.mem_append.mp hmem with hmem | hmem
    · exact h b f hmem
    · exact h' b f hmem

/-- One write on the rows and on the balance of the account. -/
theorem apply_rowsOf (w : Write) :
    (w.apply db).rowsOf accountId = db.rowsOf accountId ++ rowsIn accountId [w] := by
  cases w with
  | transaction t => exact List.filter_append _ _
  | account _ _ _ | guarantor _ _ _ | entry _ | loan _ _ => exact (List.append_nil _).symm

theorem apply_account (w : Write) {a : Account} (ha : db.accounts[accountId]? = some a) :
    ∃ a', (w.apply db).accounts[accountId]? = some a' ∧
      a'.balance = w.moved accountId a.balance := by
  cases w with
  | account id b f =>
    by_cases hid : id = accountId
    · subst hid
      exact ⟨_, Table.getElem?_modify_self ha, (if_pos rfl).symm⟩
    · exact ⟨a, (Table.getElem?_modify_other hid).trans ha, (if_neg hid).symm⟩
  | guarantor _ _ _ | transaction _ | entry _ | loan _ _ => exact ⟨a, ha, rfl⟩

theorem applyAll_rowsOf (ws : List Write) (db : Db) :
    (offsetProgram.applyAll ws db).rowsOf accountId =
      db.rowsOf accountId ++ rowsIn accountId ws := by
  induction ws generalizing db with
  | nil => exact (List.append_nil _).symm
  | cons w ws ih =>
    have hcons : rowsIn accountId (w :: ws) = rowsIn accountId [w] ++ rowsIn accountId ws :=
      @rowsIn_append accountId [w] ws
    have happly : (offsetProgram.applyAll (w :: ws) db).rowsOf accountId =
        (w.apply db).rowsOf accountId ++ rowsIn accountId ws := ih (w.apply db)
    rw [happly, apply_rowsOf, hcons, List.append_assoc]

theorem applyAll_account (ws : List Write) {a : Account} (ha : db.accounts[accountId]? = some a) :
    ∃ a', (offsetProgram.applyAll ws db).accounts[accountId]? = some a' ∧
      a'.balance = balanceIn accountId a.balance ws := by
  induction ws generalizing db a with
  | nil => exact ⟨a, ha, rfl⟩
  | cons w ws ih =>
    obtain ⟨a₁, ha₁, hfirst⟩ := apply_account w ha
    obtain ⟨a', ha', hrest⟩ := ih ha₁
    refine ⟨a', ha', hrest.trans ?_⟩
    rw [hfirst]
    rfl

theorem applyAll_untouched (h : Untouched accountId ws) :
    (offsetProgram.applyAll ws db).accounts[accountId]? = db.accounts[accountId]? := by
  induction ws generalizing db with
  | nil => rfl
  | cons w ws ih =>
    have hrest : Untouched accountId ws := fun b f hmem => h b f (List.mem_cons_of_mem _ hmem)
    have hfirst : (w.apply db).accounts[accountId]? = db.accounts[accountId]? := by
      cases w with
      | account id b f =>
        refine Table.getElem?_modify_other fun hid => h b f ?_
        rw [hid]
        exact List.mem_cons_self
      | guarantor _ _ _ | transaction _ | entry _ | loan _ _ => rfl
    exact (ih hrest).trans hfirst

/-- What an offset commits keeps the chain, when it owes no row. -/
theorem commit_runningBalance (hb : RunningBalance opening accountId db)
    (h : Prepared accountId db r) (howes : r.point.owes = none)
    (hws : ∀ w ∈ ws, w.silent = true) :
    RunningBalance opening accountId (offsetProgram.applyAll (r.writes ++ ws) db) := by
  have hrows : (offsetProgram.applyAll (r.writes ++ ws) db).rowsOf accountId =
      db.rowsOf accountId ++ rowsIn accountId r.writes := by
    rw [applyAll_rowsOf, rowsIn_append, rowsIn_silent hws, List.append_nil]
  obtain ⟨a, ha, hchain⟩ := hb.chain
  obtain ⟨a', ha', hbalance⟩ := applyAll_account (r.writes ++ ws) ha
  refine ⟨fun t ht hacc => ?_, a', ha', ?_⟩
  · have hrow : t ∈ (offsetProgram.applyAll (r.writes ++ ws) db).rowsOf accountId :=
      List.mem_filter.mpr ⟨ht, beq_iff_eq.mpr hacc⟩
    rw [hrows] at hrow
    rcases List.mem_append.mp hrow with hold | hnew
    · exact hb.booked t (List.mem_filter.mp hold).1 hacc
    · exact h.booked t hnew
  · rw [hrows, hbalance, balanceIn_append, balanceIn_untouched (untouched_silent hws),
      unbroken_append]
    refine ⟨a.balance, hchain, h.settled a ha fun f hf => ?_⟩
    rw [howes] at hf
    cases hf

theorem prepared_held (h : Prepared accountId db r)
    (hsame : ¬ Untouched accountId r.writes → db'.accounts[accountId]? = db.accounts[accountId]?) :
    Prepared accountId db' r := by
  by_cases hlock : Untouched accountId r.writes
  · obtain ⟨hrows, howes⟩ := h.untouched hlock
    refine ⟨h.booked, h.untouched, fun a _ _ => ?_, fun a f _ hf hacc => absurd hacc (howes f hf)⟩
    rw [hrows, balanceIn_untouched hlock]
    rfl
  · exact ⟨h.booked, h.untouched, fun a ha => h.settled a (hsame hlock ▸ ha),
      fun a f ha => h.owing a f (hsame hlock ▸ ha)⟩

/-- A statement that writes nothing of an account, at a point that owes what the point before did. -/
theorem prepared_goes {p : OffsetPoint} (h : Prepared accountId db r)
    (howes : p.owes = r.point.owes) (hws : ∀ w ∈ ws, w.silent = true) :
    Prepared accountId db ⟨p, r.writes ++ ws⟩ := by
  have hrows : rowsIn accountId (r.writes ++ ws) = rowsIn accountId r.writes := by
    rw [rowsIn_append, rowsIn_silent hws, List.append_nil]
  have hbalance : ∀ b, balanceIn accountId b (r.writes ++ ws) = balanceIn accountId b r.writes := by
    intro b
    rw [balanceIn_append, balanceIn_untouched (untouched_silent hws)]
  constructor
  · rw [hrows]
    exact h.booked
  · intro hlock
    rw [hrows, howes]
    exact h.untouched (untouched_append.mp hlock).1
  · intro a ha hnone
    rw [hrows, hbalance]
    exact h.settled a ha (howes ▸ hnone)
  · intro a f ha hf hacc
    rw [hrows, hbalance]
    exact h.owing a f ha (howes ▸ hf) hacc

/-- The savings are taken, on what is committed and was written before: the check saw it. -/
theorem prepared_taken {o : LoanOffset} {f : Forfeiture} (h : Prepared accountId db r)
    (hpoint : r.point = .updateAccount o f)
    (hcas : ((offsetProgram.view r db).accounts[f.accountId]?.any f.unchanged) = true) :
    Prepared accountId db ⟨.updateGuarantor o f, r.writes ++ [.account f.accountId
      (f.account.balance - f.amount) (f.account.frozenSavings - f.amount)]⟩ := by
  have hrows : rowsIn accountId (r.writes ++ [.account f.accountId (f.account.balance - f.amount)
      (f.account.frozenSavings - f.amount)]) = rowsIn accountId r.writes := by
    rw [rowsIn_append]
    exact List.append_nil _
  have howes : ∀ f, r.point.owes = some f → f.accountId ≠ accountId := by
    intro f hf
    rw [hpoint] at hf
    cases hf
  constructor
  · rw [hrows]
    exact h.booked
  · intro hlock
    obtain ⟨hlock, hown⟩ := untouched_append.mp hlock
    refine ⟨hrows.trans (h.untouched hlock).1, fun f' hf' hacc => ?_⟩
    cases hf'
    refine hown (f.account.balance - f.amount) (f.account.frozenSavings - f.amount) ?_
    rw [hacc]
    exact List.mem_singleton_self _
  · intro a ha hnone
    rw [hrows, balanceIn_append]
    have hother : f.accountId ≠ accountId := hnone f rfl
    have hsame : balanceIn accountId (balanceIn accountId a.balance r.writes)
        [.account f.accountId (f.account.balance - f.amount)
          (f.account.frozenSavings - f.amount)] = balanceIn accountId a.balance r.writes :=
      if_neg hother
    rw [hsame]
    exact h.settled a ha howes
  · intro a f' ha hf' hacc
    cases hf'
    subst hacc
    refine ⟨?_, ?_⟩
    · obtain ⟨a', ha', hbalance⟩ := applyAll_account r.writes ha
      have hview : (offsetProgram.view r db).accounts[f.accountId]? = some a' := ha'
      rw [hview] at hcas
      have hread : a'.balance = f.account.balance := by
        have hunchanged : f.unchanged a' = true := hcas
        simp only [Forfeiture.unchanged, Bool.and_eq_true, beq_iff_eq] at hunchanged
        exact hunchanged.1.2
      rw [hrows, ← hread, hbalance]
      exact h.settled a ha howes
    · rw [balanceIn_append]
      exact if_pos rfl

theorem prepared_noted {o : LoanOffset} {f : Forfeiture} {tenantId : String}
    (h : Prepared accountId db r) (hpoint : r.point = .createTransaction o f) :
    Prepared accountId db
      ⟨.postEntry o f, r.writes ++ [.transaction (o.forfeitureTxn tenantId f)]⟩ := by
  have hbalance : ∀ b, balanceIn accountId b
      (r.writes ++ [.transaction (o.forfeitureTxn tenantId f)]) =
      balanceIn accountId b r.writes := by
    intro b
    rw [balanceIn_append]
    rfl
  have howes : r.point.owes = some f := by rw [hpoint, OffsetPoint.owes]
  -- the row is written for one account; every other one sees the transaction as it was
  by_cases hacc : f.accountId = accountId
  · have hrows : rowsIn accountId (r.writes ++ [.transaction (o.forfeitureTxn tenantId f)]) =
        rowsIn accountId r.writes ++ [o.forfeitureTxn tenantId f] := by
      rw [rowsIn_append, rowsIn_own (t := o.forfeitureTxn tenantId f) hacc]
    constructor
    · rw [hrows]
      intro t ht
      rcases List.mem_append.mp ht with hold | hnew
      · exact h.booked t hold
      · rw [List.mem_singleton.mp hnew]
        rfl
    · intro hlock
      exact absurd hacc ((h.untouched (untouched_append.mp hlock).1).2 f howes)
    · intro a ha _
      obtain ⟨hchain, htaken⟩ := h.owing a f ha howes hacc
      rw [hrows, hbalance, htaken, unbroken_append]
      exact ⟨f.account.balance, hchain, rfl, rfl⟩
    · intro a f' _ hf'
      cases hf'
  · have hrows : rowsIn accountId (r.writes ++ [.transaction (o.forfeitureTxn tenantId f)]) =
        rowsIn accountId r.writes := by
      rw [rowsIn_append, rowsIn_other (t := o.forfeitureTxn tenantId f) hacc, List.append_nil]
    have hnone : ∀ f', r.point.owes = some f' → f'.accountId ≠ accountId := by
      intro f' hf'
      rw [howes] at hf'
      cases hf'
      exact hacc
    constructor
    · rw [hrows]
      exact h.booked
    · intro hlock
      refine ⟨hrows.trans (h.untouched (untouched_append.mp hlock).1).1, fun f' hf' => ?_⟩
      cases hf'
    · intro a ha _
      rw [hrows, hbalance]
      exact h.settled a ha hnone
    · intro a f' _ hf'
      cases hf'

/-! ## 4. The statements -/

/-- A statement writes nothing of an account and leaves what is owed as it is, or takes the savings,
or writes their row. -/
theorem statement_writes {p : OffsetPoint} {next : Option OffsetPoint}
    (h : offsetStatement p db = some ⟨ws, next⟩) :
    ((∀ w ∈ ws, w.silent = true) ∧ next.bind (·.owes) = p.owes) ∨
    (∃ o f, p = .updateAccount o f ∧ db.accounts[f.accountId]?.any f.unchanged = true ∧
      next = some (.updateGuarantor o f) ∧
      ws = [.account f.accountId (f.account.balance - f.amount)
        (f.account.frozenSavings - f.amount)]) ∨
    ∃ o f tenantId, p = .createTransaction o f ∧ next = some (.postEntry o f) ∧
      ws = [.transaction (o.forfeitureTxn tenantId f)] := by
  -- every statement but two writes nothing to the savings, and the forfeiture it owes stays as it
  -- is
  have hidle : ∀ w ∈ ([] : List Write), w.silent = true := fun _ hw => absurd hw List.not_mem_nil
  cases p with
  | findLoan call =>
    unfold offsetStatement at h
    dsimp only at h
    split at h
    · cases h
      exact .inl ⟨hidle, rfl⟩
    · cases h
      exact .inl ⟨hidle, rfl⟩
  | findAccount o =>
    unfold offsetStatement at h
    dsimp only at h
    split at h
    · unfold LoanOffset.close at h
      split at h
      · cases h
        exact .inl ⟨hidle, rfl⟩
      · split at h
        · cases h
          refine .inl ⟨fun w hw => ?_, rfl⟩
          cases List.mem_singleton.mp hw
          rfl
        · cases h
    · split at h
      · cases h
        exact .inl ⟨hidle, rfl⟩
      · split at h
        · cases h
          exact .inl ⟨hidle, rfl⟩
        · cases h
          exact .inl ⟨hidle, rfl⟩
  | findForfeiture o f =>
    unfold offsetStatement at h
    dsimp only at h
    split at h
    · cases h
      exact .inl ⟨hidle, rfl⟩
    · cases h
      exact .inl ⟨hidle, rfl⟩
  | updateAccount o f =>
    unfold offsetStatement at h
    dsimp only at h
    split at h
    · next hcas =>
      cases h
      exact .inr (.inl ⟨o, f, rfl, hcas, rfl, rfl⟩)
    · cases h
  | updateGuarantor o f =>
    cases h
    refine .inl ⟨fun w hw => ?_, rfl⟩
    split at hw
    · cases List.mem_singleton.mp hw
      rfl
    · cases hw
  | createTransaction o f =>
    unfold offsetStatement at h
    dsimp only at h
    split at h
    · cases h
      exact .inr (.inr ⟨o, f, _, rfl, rfl, rfl⟩)
    · cases h
  | postEntry o f =>
    unfold offsetStatement at h
    dsimp only at h
    split at h
    · cases h
      refine .inl ⟨fun w hw => ?_, rfl⟩
      obtain ⟨e, _, rfl⟩ := List.mem_map.mp hw
      rfl
    · cases h

theorem offset_keeps (opening : Int) (accountId : Nat) :
    ReadCommitted.Keeps offsetProgram (fun op db => step db op) (RunningBalance opening accountId)
      (Prepared accountId) where
  served op db hb := step_runningBalance op hb
  held op db r _ hr hlocks := by
    refine prepared_held hr fun hlock => ?_
    unfold Untouched at hlock
    simp only [not_forall, not_not] at hlock
    obtain ⟨b, f, hmem⟩ := hlock
    exact beq_iff_eq.mp (hlocks _ hmem)
  begun call db _ := by
    refine ⟨fun t ht => ?_, fun _ => ⟨rfl, fun f hf => ?_⟩, fun a _ _ => rfl, fun a f _ hf => ?_⟩
    · cases ht
    · cases hf
    · cases hf
  goes db r ws t _ hr hst := by
    rcases statement_writes hst with ⟨hws, howes⟩ | ⟨o, f, hp, hcas, ⟨⟩, rfl⟩ |
      ⟨o, f, tenantId, hp, ⟨⟩, rfl⟩
    · exact prepared_goes hr howes hws
    · exact prepared_taken hr hp hcas
    · exact prepared_noted hr hp
  commits db r ws hb hr hst := by
    rcases statement_writes hst with ⟨hws, howes⟩ | ⟨_, _, _, _, ⟨⟩, _⟩ | ⟨_, _, _, _, ⟨⟩, _⟩
    exact commit_runningBalance hb hr howes.symm hws
  aside db ws r _ hr hclash := by
    refine prepared_held hr fun hlock => applyAll_untouched fun b f hmem => hlock fun b' f' hown => ?_
    have hfree : (accountId == accountId) = false := hclash _ hown _ hmem
    rw [beq_self_eq_true] at hfree
    cases hfree

end OffsetLemmas

open OffsetLemmas

/-- In every interleaving of offsets with the other operations, the completed rows of an account that
had none lead from the balance it was opened with to the balance it has, without a gap, the rows
included that a reversal marked later. -/
theorem balances_unbroken {db : Db} {accountId : Nat} {a : Account}
    (ha : db.accounts[accountId]? = some a)
    (hnew : ∀ t ∈ db.transactions, t.accountId ≠ accountId) (events : List OffsetEvent) :
    ∃ a', (db.afterOffsets events).accounts[accountId]? = some a' ∧
      Unbroken a.balance (((db.afterOffsets events).rowsOf accountId).filter (·.booked))
        a'.balance := by
  have hopen : RunningBalance a.balance accountId db := by
    refine ⟨fun t ht hacc => absurd hacc (hnew t ht), a, ha, ?_⟩
    have hrows : db.rowsOf accountId = [] :=
      List.filter_eq_nil_iff.mpr fun t ht => by
        rw [beq_false_of_ne (hnew t ht)]
        exact Bool.false_ne_true
    rw [hrows]
    rfl
  have hrun := (ReadCommitted.run_upheld (offset_keeps a.balance accountId)
    (ReadCommitted.opening_upheld hopen) events).state
  obtain ⟨a', ha', hchain⟩ := hrun.chain
  refine ⟨a', ha', ?_⟩
  have hall : (((db.afterOffsets events).rowsOf accountId).filter (·.booked)) =
      (db.afterOffsets events).rowsOf accountId := by
    refine List.filter_eq_self.mpr fun t ht => ?_
    obtain ⟨hmem, hacc⟩ := List.mem_filter.mp ht
    exact hrun.booked t hmem (beq_iff_eq.mp hacc)
  rw [hall]
  exact hchain

/-- Member 1 has savings of KES 80, of which KES 50 are pledged for the loan, which is
non-performing. -/
def exNonPerforming : Db :=
  { exSacco with
    accounts := exSacco.accounts.modify 3 fun a =>
      { a with balance := 800000, frozenSavings := 500000 }
    loans := [{ exLoan with staging := .npl }]
    loanGuarantors :=
      [{ loanId := 0
         memberId := 1
         status := .accepted
         guaranteedAmount := 500000
         recoveredAmount := 0
         invitedAt := 0
         respondedAt := some 0
         expiresAt := none
         holdPlacedAt := some 0
         holdReleasedAt := none }] }

/-- An offset with deposits to the savings it takes: after it has read the loan, while it holds the
savings, where the deposit fails, and after it has committed. -/
def exInterleaved : List OffsetEvent :=
  [.start ⟨1, 0, "J"⟩, .advance 0, .serve (exDeposit "D1" 3 10), .advance 0, .advance 0, .advance 0,
    .serve (exDeposit "D2" 3 20), .advance 0, .advance 0, .advance 0, .advance 0,
    .serve (exDeposit "D3" 3 30)]

theorem balances_unbroken_around_an_offset :
    ∃ a', (exNonPerforming.afterOffsets exInterleaved).accounts[3]? = some a' ∧
      Unbroken 800000
        (((exNonPerforming.afterOffsets exInterleaved).rowsOf 3).filter (·.booked)) a'.balance :=
  @balances_unbroken exNonPerforming 3
    { exAccount 1 .bosa "B-1" with balance := 800000, frozenSavings := 500000 }
    (by decide +kernel) (by decide +kernel) exInterleaved

-- alone, the offset does in its statements what it does in one step
example :
    exNonPerforming.afterOffsets (.start ⟨1, 0, "0"⟩ :: List.replicate 9 (.advance 0)) =
      { step exNonPerforming (.offset 1 0 none) with uuid := 0 } := by
  decide +kernel

/-- A deposit of KES 100 to the FOSA account of member 0, and its reversal. -/
def exReversed : List OffsetEvent :=
  [.serve (exDeposit "D1" 0 100), .serve (.reverse 0 "wrong account" none)]

/-- The row of the deposit is marked `REVERSED`; the one of its reversal is the only row that counts
as completed, and it starts from a balance that the account was not opened with. -/
theorem reversal_gap :
    exSacco.accounts[0]? = some (exAccount 0 .fosa "F-0") ∧ exSacco.transactions = [] ∧
      (exSacco.afterOffsets exReversed).accounts[0]?.map (·.balance) = some 0 ∧
      (((exSacco.afterOffsets exReversed).rowsOf 0).filter (·.status == .completed)).map
        (fun t => (t.balanceBefore, t.balanceAfter)) = [(1000000, 0)] ∧
      ¬ Unbroken 0 (((exSacco.afterOffsets exReversed).rowsOf 0).filter (·.status == .completed))
        0 := by
  decide +kernel

end BebaSacco
