import BebaSacco.Guarantors
import BebaSacco.Lib.Process

/-! # Four eyes on a large loan

A large loan is paid out only after a manager and a teller have signed for it. The chain of their
slots is created after the approval has committed, a sign-off reads the slots before it updates one
of them by id, and a disbursement reads the chain before its own transaction.

Results:
 1. `chainStep_of_next`: one statement, when no other call got between a check and its write,
    leaves the chains alone, creates one that is not there, or signs a slot that waits.
 2. `four_eyes`: in a run of such statements a large loan is disbursed only when two users signed
    for it, and a loan that one of them refused is never disbursed.
 3. `unsigned_loan_disbursed`: an approval that is lost before it creates the chain, or a sign-off
    that another one overtakes, lets the loan through.
-/

namespace BebaSacco

open Txn Process

/-! ## 1. The statements -/

/-- In shillings. -/
def DUAL_APPROVAL_THRESHOLD : Nat := 500000

def requiresDualApproval (principalAmount : Nat) : Bool :=
  decide (DUAL_APPROVAL_THRESHOLD * 10000 ≤ principalAmount)

/-- A slot as `initApprovalChain` creates it. -/
def approvalSlot (loanId : Nat) (role : String) : LoanApprovalChain where
  loanId := loanId
  approverId := ""
  role := role
  status := .pending

/-- The operations that are calls of their own below. -/
def Op.gated : Op → Bool
  | .approve .. => true
  | .signOff .. => true
  | .disburse .. => true
  | _ => false

/-- A call of a user; `serve` is any other operation of the services. -/
inductive ReleaseCall
  | approve (loanId : Nat)
  | signOff (loanId : Nat) (approverId role : String) (approved : Bool)
  | disburse (params : DisburseParams)
  | serve (op : Op) (h : op.gated = false)
  deriving DecidableEq

/-- The statement a call is at, with what it has read. -/
inductive ReleaseTask
  | approveRead (loanId : Nat)
  | assertPassed (loanId : Nat) (loan : Loan)
  | approveCheck (loanId : Nat) (loan : Loan)
  | approveWrite (loanId : Nat) (loan : Loan)
  | countChain (loanId : Nat)
  | createChain (loanId count : Nat)
  | signLoan (loanId : Nat) (approverId role : String) (approved : Bool)
  | signRead (loanId : Nat) (approverId role : String) (approved : Bool)
  | signWrite (loanId : Nat) (slot : Nat × LoanApprovalChain) (chain : ChainRows)
      (approverId : String) (approved : Bool)
  | disburseRead (params : DisburseParams)
  | replay (params : DisburseParams) (loanNumber : String)
  | isChainApproved (params : DisburseParams) (loan : Loan)
  | kycStatus (params : DisburseParams) (loan : Loan)
  | fosaAccount (params : DisburseParams) (loan : Loan)
  | disburseBody (params : DisburseParams) (fosaAccountId : Nat) (loanNumber : String)
  | serve (op : Op) (h : op.gated = false)
  deriving DecidableEq

def ReleaseCall.entry : ReleaseCall → ReleaseTask
  | .approve loanId => .approveRead loanId
  | .signOff loanId approverId role approved => .signLoan loanId approverId role approved
  | .disburse params => .disburseRead params
  | .serve op h => .serve op h

def approvable (loan : Loan) : Tx Unit :=
  ensure (loan.status.approvable = true)
    (.badRequest (s!"Cannot approve a loan in \"{loan.status.name}\" status. " ++
      "Expected one of: PENDING_REVIEW, PENDING_APPROVAL."))

/-- One statement of a call. The transaction of `approve` reads the status and updates by id, that
of `signOff` reads the chain and updates a slot by id, and neither is serializable. -/
def ReleaseTask.next : ReleaseTask → Unit → Tx (Option ReleaseTask)
  | .approveRead loanId, _ => do
    let db ← get
    let loan ← required db.loans[loanId]? (.notFound "Loan not found")
    approvable loan
    pure (some (.assertPassed loanId loan))
  | .assertPassed loanId loan, _ => do
    let db ← get
    fromExcept (db.assertGatePassed loanId)
    pure (some (.approveCheck loanId loan))
  | .approveCheck loanId loan, _ => do
    let db ← get
    let oldValue ← required db.loans[loanId]? (.notFound "Loan not found")
    approvable oldValue
    pure (some (.approveWrite loanId loan))
  | .approveWrite loanId loan, _ => do
    modify (·.updateLoan loanId fun l => { l with status := .approved })
    pure (if requiresDualApproval loan.principalAmount then some (.countChain loanId) else none)
  | .countChain loanId, _ => do
    let db ← get
    let count := (db.chainOf loanId).length
    pure (if count = 0 then some (.createChain loanId count) else none)
  | .createChain loanId _, _ => do
    modify fun db =>
      { db with
        loanApprovalChains := db.loanApprovalChains ++
          [approvalSlot loanId "MANAGER", approvalSlot loanId "TELLER"] }
    pure none
  | .signLoan loanId approverId role approved, _ => do
    let db ← get
    let _ ← required db.loans[loanId]? (.notFound "Loan not found")
    pure (some (.signRead loanId approverId role approved))
  | .signRead loanId approverId role approved, _ => do
    let (slot, chain) ← signOffRead loanId approverId role
    pure (some (.signWrite loanId slot chain approverId approved))
  | .signWrite loanId slot _ approverId approved, _ => do
    signOffWrite loanId slot.1 approverId approved
    pure none
  | .disburseRead params, _ => do
    let db ← get
    let loan ← required db.loans[params.loanId]? (.notFound "Loan not found")
    if loan.status = .active then
      pure (some (.replay params loan.loanNumber))
    else
      ensure (loan.status = .approved)
        (.badRequest
          s!"Cannot disburse a loan in \"{loan.status.name}\" status. Expected APPROVED.")
      pure (some (.isChainApproved params loan))
  | .replay params loanNumber, _ => do
    let db ← get
    let _ ← required (db.transactionByReference s!"LOAN-DISBURSEMENT-{params.loanId}")
      (.conflict (s!"Loan {loanNumber} is ACTIVE but its disbursement transaction " ++
        s!"(LOAN-DISBURSEMENT-{params.loanId}) could not be found — ledger is inconsistent"))
    pure none
  | .isChainApproved params loan, _ => do
    let db ← get
    ensure (db.isChainApproved params.loanId = true)
      (.badRequest ("This loan requires MANAGER and TELLER sign-off before disbursement " ++
        "(4-eyes principle for loans ≥ KES 500,000)."))
    pure (some (.kycStatus params loan))
  | .kycStatus params loan, _ => do
    let db ← get
    ensure ((db.members[loan.memberId]?.map (·.kycApproved)).getD false = true)
      (.badRequest "KYC must be approved before loan disbursement.")
    pure (some (.fosaAccount params loan))
  | .fosaAccount params loan, _ => do
    let db ← get
    let (fosaAccountId, _) ← required (db.activeAccount loan.memberId .fosa)
      (.badRequest
        "Member has no active FOSA account. Please open a FOSA account before disbursing.")
    pure (some (.disburseBody params fosaAccountId loan.loanNumber))
  | .disburseBody params fosaAccountId loanNumber, _ => do
    BebaSacco.disburseBody params fosaAccountId loanNumber
    pure none
  | .serve op _, _ => do
    op.exec
    pure none

def releases : Process.Program Db Err ReleaseCall Unit ReleaseTask where
  entry := ReleaseCall.entry
  next := ReleaseTask.next

abbrev ReleaseWorld := Process.World Db ReleaseTask

abbrev ReleaseEvent := Process.Event ReleaseCall Unit

def ReleaseWorld.opening (db : Db) : ReleaseWorld := ⟨db, []⟩

def ReleaseWorld.after (w : ReleaseWorld) (events : List ReleaseEvent) : ReleaseWorld :=
  Machine.run releases.step w events

/-! ## 2. What is asked for -/

/-- A manager and a teller have signed for the loan, and are two users. -/
def Db.TwoSigned (db : Db) (loanId : Nat) : Prop :=
  ∃ m ∈ db.loanApprovalChains, ∃ t ∈ db.loanApprovalChains,
    (m.loanId = loanId ∧ m.role = "MANAGER" ∧ m.status = .approved) ∧
    (t.loanId = loanId ∧ t.role = "TELLER" ∧ t.status = .approved) ∧
    m.approverId ≠ t.approverId

/-- One of the slots was signed REJECTED. -/
def Db.Refused (db : Db) (loanId : Nat) : Prop :=
  ∃ c ∈ db.loanApprovalChains, c.loanId = loanId ∧ c.status = .rejected

instance (db : Db) (loanId : Nat) : Decidable (db.TwoSigned loanId) := by
  unfold Db.TwoSigned
  infer_instance

instance (db : Db) (loanId : Nat) : Decidable (db.Refused loanId) := by
  unfold Db.Refused
  infer_instance

/-- The loan asks for two signatures. -/
def Db.isLarge (db : Db) (loanId : Nat) : Bool :=
  db.loans[loanId]?.any fun l => requiresDualApproval l.principalAmount

/-- The event makes the loan ACTIVE, as the transaction of a disbursement. -/
structure ReleaseWorld.Disburses (w : ReleaseWorld) (e : ReleaseEvent) (loanId : Nat) : Prop where
  task : ∃ i params fosaAccountId loanNumber, e = .advance i () ∧
    w.At i (.disburseBody params fosaAccountId loanNumber) ∧ params.loanId = loanId
  inactive : ∃ l, w.state.loans[loanId]? = some l ∧ l.status ≠ .active
  active : ∃ l, (releases.step w e).state.loans[loanId]? = some l ∧ l.status = .active

/-- The chain of a large loan is there when a disbursement reads it, and has the slots that were counted
when an approval creates it; the slot of a sign-off has the status that the call has read, and its
user has signed for the loan just if the call has read so. -/
def ReleaseTask.inOrder (db : Db) : ReleaseTask → Bool
  | .createChain loanId count => (db.chainOf loanId).length == count
  | .signWrite loanId slot chain approverId _ =>
    db.loanApprovalChains[slot.1]?.any (·.status == slot.2.status) &&
      signedBy (db.chainOf loanId) approverId == signedBy chain approverId
  | .isChainApproved params _ =>
    !db.isLarge params.loanId || !(db.chainOf params.loanId).isEmpty
  | _ => true

def ReleaseWorld.inOrder (w : ReleaseWorld) : ReleaseEvent → Bool
  | .advance i _ => (w.task i).all fun t => t.inOrder w.state
  | _ => true

/-! ## 3. What one statement does to the chains -/

/-- The chains after one statement. -/
inductive ChainStep (db : Db) : List LoanApprovalChain → Prop
  | same : ChainStep db db.loanApprovalChains
  | create (loanId : Nat) (hnone : ∀ c ∈ db.loanApprovalChains, c.loanId ≠ loanId)
      (hlarge : db.isLarge loanId = true) :
      ChainStep db (db.loanApprovalChains ++
        [approvalSlot loanId "MANAGER", approvalSlot loanId "TELLER"])
  | sign (slotId : Nat) (slot : LoanApprovalChain) (approverId : String) (status : ApprovalStatus)
      (hslot : db.loanApprovalChains[slotId]? = some slot) (hpending : slot.status = .pending)
      (hnew : ∀ c ∈ db.loanApprovalChains, c.loanId = slot.loanId → c.status ≠ .pending →
        c.approverId ≠ approverId) :
      ChainStep db (db.loanApprovalChains.modify slotId fun c =>
        { c with approverId := approverId, status := status })

/-- No slot is touched. -/
def Db.SameChains (db db' : Db) : Prop := db'.loanApprovalChains = db.loanApprovalChains

/-- A loan that is about to be paid out: its chain is there when it needs one, and signed. -/
structure Db.Cleared (db : Db) (loanId : Nat) : Prop where
  found : db.loans[loanId]?.isSome = true
  signed : ∀ c ∈ db.loanApprovalChains, c.loanId = loanId → c.status = .approved
  chained : db.isLarge loanId = true → ∃ c ∈ db.loanApprovalChains, c.loanId = loanId

/-- What a call has established when it gets to a statement. -/
def ReleaseTask.Ok (db : Db) : ReleaseTask → Prop
  | .assertPassed loanId loan | .approveCheck loanId loan | .approveWrite loanId loan =>
    requiresDualApproval loan.principalAmount = true → db.isLarge loanId = true
  | .countChain loanId => db.isLarge loanId = true
  | .createChain loanId count => db.isLarge loanId = true ∧ count = 0
  | .signWrite loanId slot chain approverId _ =>
    (∃ c, db.loanApprovalChains[slot.1]? = some c ∧ c.loanId = loanId) ∧
      slot.2.status = .pending ∧ signedBy chain approverId = false
  | .isChainApproved params _ => db.loans[params.loanId]?.isSome = true
  | .kycStatus params _ | .fosaAccount params _ | .disburseBody params _ _ =>
    db.Cleared params.loanId
  | _ => True

/-- What no sign-off changes of a slot. -/
def LoanApprovalChain.place (slot : LoanApprovalChain) : Nat × String := (slot.loanId, slot.role)

/-- A chain has a slot for a manager and one for a teller, and nobody signed two of its slots. -/
structure ChainsSound (rows : List LoanApprovalChain) : Prop where
  places : ∀ c ∈ rows.map LoanApprovalChain.place,
    (c.1, "MANAGER") ∈ rows.map LoanApprovalChain.place ∧
      (c.1, "TELLER") ∈ rows.map LoanApprovalChain.place
  apart : ∀ (i j : Nat) (c d : LoanApprovalChain), rows[i]? = some c → rows[j]? = some d →
    c.loanId = d.loanId → c.status ≠ .pending → d.status ≠ .pending → i ≠ j →
    c.approverId ≠ d.approverId

/-- A statement that creates no slot and signs none. -/
def ReleaseTask.plain : ReleaseTask → Bool
  | .createChain .. => false
  | .signWrite .. => false
  | _ => true

namespace FourEyesLemmas

open FootprintLemmas GuarantorLemmas

variable {db db' : Db} {loanId : Nat} {t : ReleaseTask} {t' : Option ReleaseTask}

instance : History Db.SameChains where
  refl _ := rfl
  trans h k := k.trans h

instance : AdmitsBalance Db.SameChains := ⟨fun _ _ _ => rfl, fun _ _ _ => rfl⟩

instance : AdmitsHold Db.SameChains := ⟨fun _ _ _ => rfl⟩

instance : AdmitsForfeit Db.SameChains := ⟨fun _ _ _ => rfl⟩

instance : AdmitsTransaction Db.SameChains :=
  ⟨fun _ _ => rfl, fun _ _ _ => rfl, fun _ _ => rfl, fun _ _ => rfl⟩

instance : AdmitsEntry Db.SameChains := ⟨fun _ _ => rfl⟩

instance : AdmitsLoan Db.SameChains := ⟨fun _ _ _ _ => rfl⟩

instance : AdmitsRepayment Db.SameChains := ⟨fun _ _ _ => rfl, fun _ _ => rfl⟩

instance : AdmitsGuarantor Db.SameChains := ⟨fun _ _ _ _ => rfl⟩

instance : AdmitsNomination Db.SameChains :=
  admitsNomination (fun _ _ => rfl) fun _ _ => rfl

instance : AdmitsMpesa Db.SameChains := ⟨fun _ _ _ => rfl⟩

/-! ### The loans -/

theorem terms_at (h : db.SameTerms db') {l : Loan} (hl : db.loans[loanId]? = some l) :
    ∃ l', db'.loans[loanId]? = some l' ∧ l'.principalAmount = l.principalAmount := by
  have hterms : (db.loans.map Loan.terms)[loanId]? = some l.terms := by
    rw [List.getElem?_map, hl]
    rfl
  have hterms' := Table.getElem?_of_prefix h.loans hterms
  rw [List.getElem?_map] at hterms'
  obtain ⟨l', hl', heq⟩ := Option.map_eq_some_iff.mp hterms'
  have hp : l'.terms.principalAmount = l.terms.principalAmount := by rw [heq]
  exact ⟨l', hl', hp⟩

theorem isLarge_iff : db.isLarge loanId = true ↔
    ∃ l, db.loans[loanId]? = some l ∧ requiresDualApproval l.principalAmount = true := by
  unfold Db.isLarge
  rw [Option.any_eq_true]

theorem found_kept (h : db.SameTerms db') (hl : db.loans[loanId]?.isSome = true) :
    db'.loans[loanId]?.isSome = true := by
  obtain ⟨l, hl⟩ := Option.isSome_iff_exists.mp hl
  obtain ⟨l', hl', -⟩ := terms_at h hl
  rw [hl']
  rfl

theorem isLarge_kept (h : db.SameTerms db') (hlarge : db.isLarge loanId = true) :
    db'.isLarge loanId = true := by
  obtain ⟨l, hl, hp⟩ := isLarge_iff.mp hlarge
  obtain ⟨l', hl', heq⟩ := terms_at h hl
  exact isLarge_iff.mpr ⟨l', hl', heq ▸ hp⟩

/-- A loan that was there is large when it was. -/
theorem isLarge_was (h : db.SameTerms db') (hfound : db.loans[loanId]?.isSome = true)
    (hlarge : db'.isLarge loanId = true) : db.isLarge loanId = true := by
  obtain ⟨l, hl⟩ := Option.isSome_iff_exists.mp hfound
  obtain ⟨l', hl', heq⟩ := terms_at h hl
  obtain ⟨m, hm, hp⟩ := isLarge_iff.mp hlarge
  cases hl'.symm.trans hm
  exact isLarge_iff.mpr ⟨l, hl, heq ▸ hp⟩

theorem mem_chainOf {i : Nat} {c : LoanApprovalChain} :
    (i, c) ∈ db.chainOf loanId ↔ db.loanApprovalChains[i]? = some c ∧ c.loanId = loanId := by
  unfold Db.chainOf
  rw [Table.mem_selectRows, beq_iff_eq]

theorem chainOf_nil_iff :
    db.chainOf loanId = [] ↔ ∀ c ∈ db.loanApprovalChains, c.loanId ≠ loanId := by
  rw [← List.map_eq_nil_iff (f := Prod.snd), Db.chainOf, Table.map_snd_selectRows,
    List.filter_eq_nil_iff]
  simp only [beq_iff_eq]

theorem any_chainOf {p : LoanApprovalChain → Bool} :
    ((db.chainOf loanId).any fun c => p c.2) = true ↔
      ∃ c ∈ db.loanApprovalChains, c.loanId = loanId ∧ p c = true := by
  rw [List.any_eq_true]
  constructor
  · rintro ⟨⟨i, c⟩, hc, hp⟩
    obtain ⟨hrow, hloan⟩ := mem_chainOf.mp hc
    exact ⟨c, List.mem_of_getElem? hrow, hloan, hp⟩
  · rintro ⟨c, hc, hloan, hp⟩
    obtain ⟨i, hi⟩ := List.getElem?_of_mem hc
    exact ⟨(i, c), mem_chainOf.mpr ⟨hi, hloan⟩, hp⟩

theorem isChainApproved_iff : db.isChainApproved loanId = true ↔
    ∀ c ∈ db.loanApprovalChains, c.loanId = loanId → c.status = .approved := by
  unfold Db.isChainApproved
  rw [List.all_eq_true]
  constructor
  · intro h c hc hloan
    obtain ⟨i, hi⟩ := List.getElem?_of_mem hc
    exact eq_of_beq (h (i, c) (mem_chainOf.mpr ⟨hi, hloan⟩))
  · rintro h ⟨i, c⟩ hc
    obtain ⟨hrow, hloan⟩ := mem_chainOf.mp hc
    exact beq_iff_eq.mpr (h c (List.mem_of_getElem? hrow) hloan)

/-! ### One statement -/

theorem signOffRead_slot {approverId role : String} {slot : Nat × LoanApprovalChain}
    {chain : ChainRows} (h : Yields (signOffRead loanId approverId role) db (slot, chain) db') :
    db' = db ∧ (∃ c, db.loanApprovalChains[slot.1]? = some c ∧ c.loanId = loanId) ∧
      slot.2.status = .pending ∧ signedBy chain approverId = false := by
  simp only [signOffRead, yields_bind, yields_get, yields_ensure, yields_required,
    yields_pure] at h
  obtain ⟨_, _, ⟨rfl, rfl⟩, _, _, ⟨-, rfl⟩, ⟨i, c⟩, _, ⟨hfind, rfl⟩, _, _, ⟨hnew, rfl⟩, hread, rfl⟩ := h
  cases hread
  have hslot := List.find?_some hfind
  rw [Bool.and_eq_true, beq_iff_eq, beq_iff_eq] at hslot
  exact ⟨rfl, ⟨c, mem_chainOf.mp (List.mem_of_find?_eq_some hfind)⟩, hslot.2, hnew⟩

theorem signOffWrite_sets {slotId : Nat} {approverId : String} {approved : Bool} {u : Unit}
    (h : Yields (signOffWrite loanId slotId approverId approved) db u db') :
    db'.loanApprovalChains = db.loanApprovalChains.modify slotId fun c =>
      { c with approverId := approverId,
               status := if approved then .approved else .rejected } := by
  simp only [signOffWrite, yields_bind, yields_get, yields_modify] at h
  obtain ⟨_, _, rfl, _, _, ⟨rfl, rfl⟩, h⟩ := h
  -- the refusal writes the loan only
  rcases yields_ite.mp h with ⟨-, h⟩ | ⟨-, h⟩
  · rw [yields_modify] at h
    rw [← h]
    rfl
  · rw [yields_pure] at h
    rw [← h.2]

/-- What a call writes, with the rows of a chain for the two statements that are not plain. -/
theorem next_moves {R : Db → Db → Prop} [History R] [AdmitsBalance R] [AdmitsHold R]
    [AdmitsForfeit R] [AdmitsTransaction R] [AdmitsEntry R] [AdmitsLoan R] [AdmitsRepayment R]
    [AdmitsGuarantor R] [AdmitsNomination R] [AdmitsMpesa R]
    (hchain : t.plain = false → AdmitsChain R) : Moves R (t.next ()) := by
  cases t with
  | approveRead loanId =>
    exact Moves.bind' Moves.get' fun _ => Moves.bind' Moves.required' fun _ =>
      Moves.bind' Moves.ensure' fun _ => Moves.pure' _
  | assertPassed loanId loan =>
    exact Moves.bind' Moves.get' fun _ => Moves.bind' Moves.fromExcept' fun _ => Moves.pure' _
  | approveCheck loanId loan =>
    exact Moves.bind' Moves.get' fun _ => Moves.bind' Moves.required' fun _ =>
      Moves.bind' Moves.ensure' fun _ => Moves.pure' _
  | approveWrite loanId loan =>
    exact Moves.bind' (modify_updateLoan_moves fun _ => rfl) fun _ => Moves.pure' _
  | countChain loanId => exact Moves.bind' Moves.get' fun _ => Moves.pure' _
  | createChain loanId count =>
    have := hchain rfl
    exact Moves.bind' (Moves.modify' fun _ => AdmitsChain.update _ _) fun _ => Moves.pure' _
  | signLoan loanId approverId role approved =>
    exact Moves.bind' Moves.get' fun _ => Moves.bind' Moves.required' fun _ => Moves.pure' _
  | signRead loanId approverId role approved =>
    exact Moves.bind' (signOffRead_moves _ _ _) fun _ => Moves.pure' _
  | signWrite loanId slot chain approverId approved =>
    have := hchain rfl
    exact Moves.bind' (signOffWrite_moves _ _ _ _) fun _ => Moves.pure' _
  | disburseRead params =>
    exact Moves.bind' Moves.get' fun _ => Moves.bind' Moves.required' fun _ =>
      Moves.ite' (Moves.pure' _) (Moves.bind' Moves.ensure' fun _ => Moves.pure' _)
  | replay params loanNumber =>
    exact Moves.bind' Moves.get' fun _ => Moves.bind' Moves.required' fun _ => Moves.pure' _
  | isChainApproved params loan =>
    exact Moves.bind' Moves.get' fun _ => Moves.bind' Moves.ensure' fun _ => Moves.pure' _
  | kycStatus params loan =>
    exact Moves.bind' Moves.get' fun _ => Moves.bind' Moves.ensure' fun _ => Moves.pure' _
  | fosaAccount params loan =>
    exact Moves.bind' Moves.get' fun _ => Moves.bind' Moves.required' fun _ => Moves.pure' _
  | disburseBody params fosaAccountId loanNumber =>
    exact Moves.bind' (disburseBody_moves _ _ _) fun _ => Moves.pure' _
  | serve op h =>
    refine Moves.bind' (exec_moves_of fun hsign => ?_) fun _ => Moves.pure' _
    cases op with
    | signOff loanId approverId role approved => cases h
    | _ => cases hsign

theorem next_sameChains (hplain : t.plain = true) : Moves Db.SameChains (t.next ()) := by
  refine next_moves fun h => ?_
  rw [hplain] at h
  cases h

theorem next_sameTerms (t : ReleaseTask) : Moves Db.SameTerms (t.next ()) :=
  next_moves fun _ => inferInstance

/-- What the statement of a call that nobody overtook since it read does to the chains. -/
theorem chainStep_of_next (hok : t.Ok db) (horder : t.inOrder db = true)
    (h : Yields (t.next ()) db t' db') : ChainStep db db'.loanApprovalChains := by
  cases hplain : t.plain with
  | true =>
    rw [next_sameChains hplain h]
    exact .same
  | false =>
    cases t with
    | createChain loanId count =>
      simp only [ReleaseTask.next, yields_bind, yields_modify, yields_pure] at h
      obtain ⟨_, _, rfl, -, rfl⟩ := h
      have hnone := List.eq_nil_of_length_eq_zero ((beq_iff_eq.mp horder).trans hok.2)
      exact .create loanId (chainOf_nil_iff.mp hnone) hok.1
    | signWrite loanId read chain approverId approved =>
      simp only [ReleaseTask.next, yields_bind, yields_pure] at h
      obtain ⟨_, _, hwrite, -, rfl⟩ := h
      rw [signOffWrite_sets hwrite]
      -- what the call has read and checked is still so
      obtain ⟨⟨slot, hslot, hloan⟩, hread, hunsigned⟩ := hok
      simp only [ReleaseTask.inOrder, Bool.and_eq_true, hslot, Option.any_some, beq_iff_eq,
        hread, hunsigned] at horder
      obtain ⟨hpending, hnone⟩ := horder
      refine .sign read.1 slot approverId _ hslot hpending fun c hc hsame hdecided heq => ?_
      -- the user had signed a slot of the loan already
      have hany : signedBy (db.chainOf loanId) approverId = true := by
        refine (any_chainOf (p := fun c => c.approverId == approverId && c.status != .pending)).mpr
          ⟨c, hc, hsame.trans hloan, ?_⟩
        simp [heq, hdecided]
      rw [hnone] at hany
      cases hany
    | _ => cases hplain

/-! ### The invariant -/

variable {rows : List LoanApprovalChain}

/-- A signature is never taken back. -/
theorem decided_kept {i : Nat} {c : LoanApprovalChain} (h : ChainStep db rows)
    (hrow : db.loanApprovalChains[i]? = some c) (hdecided : c.status ≠ .pending) :
    rows[i]? = some c := by
  cases h with
  | same => exact hrow
  | create loanId hnone hlarge => exact Table.getElem?_of_prefix (List.prefix_append _ _) hrow
  | sign slotId slot approverId status hslot hpending hnew =>
    have hne : slotId ≠ i := by
      rintro rfl
      cases hslot.symm.trans hrow
      exact hdecided hpending
    rw [Table.getElem?_modify_other hne]
    exact hrow

theorem refused_kept (h : ChainStep db db'.loanApprovalChains) (hr : db.Refused loanId) :
    db'.Refused loanId := by
  obtain ⟨c, hc, hloan, hstatus⟩ := hr
  obtain ⟨i, hi⟩ := List.getElem?_of_mem hc
  have hrow := decided_kept h hi (fun hp => by rw [hstatus] at hp; cases hp)
  exact ⟨c, List.mem_of_getElem? hrow, hloan, hstatus⟩

theorem places_kept (hs : ChainsSound db.loanApprovalChains) (h : ChainStep db rows) :
    ∀ c ∈ rows.map LoanApprovalChain.place,
      (c.1, "MANAGER") ∈ rows.map LoanApprovalChain.place ∧
        (c.1, "TELLER") ∈ rows.map LoanApprovalChain.place := by
  cases h with
  | same => exact hs.places
  | create loanId hnone hlarge =>
    intro c hc
    rw [List.map_append] at hc ⊢
    rcases List.mem_append.mp hc with hc | hc
    · obtain ⟨hm, ht⟩ := hs.places c hc
      exact ⟨List.mem_append_left _ hm, List.mem_append_left _ ht⟩
    · -- the two slots were created together
      have hloan : c.1 = loanId := by
        rcases List.mem_pair.mp hc with rfl | rfl
        · rfl
        · rfl
      rw [hloan]
      exact ⟨List.mem_append_right _ List.mem_cons_self,
        List.mem_append_right _ (List.mem_cons_of_mem _ List.mem_cons_self)⟩
  | sign slotId slot approverId status hslot hpending hnew =>
    have hsame : (db.loanApprovalChains.modify slotId fun c =>
        { c with approverId := approverId, status := status }).map LoanApprovalChain.place =
          db.loanApprovalChains.map LoanApprovalChain.place :=
      Table.map_modify_same fun _ => rfl
    rw [hsame]
    exact hs.places

theorem apart_kept (hs : ChainsSound db.loanApprovalChains) (h : ChainStep db rows)
    {i j : Nat} {c d : LoanApprovalChain} (hi : rows[i]? = some c) (hj : rows[j]? = some d)
    (hloan : c.loanId = d.loanId) (hc : c.status ≠ .pending) (hd : d.status ≠ .pending)
    (hij : i ≠ j) : c.approverId ≠ d.approverId := by
  cases h with
  | same => exact hs.apart i j c d hi hj hloan hc hd hij
  | create loanId hnone hlarge =>
    -- the new slots wait, so both rows are old ones
    have hold : ∀ (k : Nat) (r : LoanApprovalChain), (db.loanApprovalChains ++
        [approvalSlot loanId "MANAGER", approvalSlot loanId "TELLER"])[k]? = some r →
        r.status ≠ .pending → db.loanApprovalChains[k]? = some r := by
      intro k r hk hr
      rcases Nat.lt_or_ge k db.loanApprovalChains.length with hlt | hge
      · rw [List.getElem?_append_left hlt] at hk
        exact hk
      · rw [List.getElem?_append_right hge] at hk
        rcases List.mem_pair.mp (List.mem_of_getElem? hk) with rfl | rfl
        · exact absurd rfl hr
        · exact absurd rfl hr
    exact hs.apart i j c d (hold i c hi hc) (hold j d hj hd) hloan hc hd hij
  | sign slotId slot approverId status hslot hpending hnew =>
    obtain ⟨c₀, hc₀, rfl⟩ := Table.getElem?_modify_some hi
    obtain ⟨d₀, hd₀, rfl⟩ := Table.getElem?_modify_some hj
    by_cases hsi : slotId = i
    · subst hsi
      rw [if_pos rfl, if_neg hij] at hloan ⊢
      rw [if_neg hij] at hd
      cases hslot.symm.trans hc₀
      exact fun heq => hnew d₀ (List.mem_of_getElem? hd₀) hloan.symm hd heq.symm
    · rw [if_neg hsi] at hloan hc ⊢
      by_cases hsj : slotId = j
      · subst hsj
        rw [if_pos rfl] at hloan ⊢
        cases hslot.symm.trans hd₀
        exact hnew c₀ (List.mem_of_getElem? hc₀) hloan hc
      · rw [if_neg hsj] at hloan hd ⊢
        exact hs.apart i j c₀ d₀ hc₀ hd₀ hloan hc hd hij

theorem sound_kept (hs : ChainsSound db.loanApprovalChains) (h : ChainStep db rows) :
    ChainsSound rows :=
  ⟨places_kept hs h, fun _ _ _ _ hi hj hloan hc hd hij => apart_kept hs h hi hj hloan hc hd hij⟩

theorem cleared_kept (hterms : db.SameTerms db') (h : ChainStep db db'.loanApprovalChains)
    (hc : db.Cleared loanId) : db'.Cleared loanId := by
  refine ⟨found_kept hterms hc.found, ?_, fun hlarge => ?_⟩
  · generalize db'.loanApprovalChains = rows at h
    cases h with
    | same => exact hc.signed
    | create created hnone hlarge =>
      intro c hmem hloan
      rcases List.mem_append.mp hmem with hmem | hmem
      · exact hc.signed c hmem hloan
      · -- a large loan that is cleared has its chain, so the new one is of another loan
        have hcreated : created = loanId := by
          rcases List.mem_pair.mp hmem with rfl | rfl
          · exact hloan
          · exact hloan
        subst hcreated
        obtain ⟨c', hc', hloan'⟩ := hc.chained hlarge
        exact absurd hloan' (hnone c' hc')
    | sign slotId slot approverId status hslot hpending hnew =>
      intro c hmem hloan
      obtain ⟨j, hj⟩ := List.getElem?_of_mem hmem
      obtain ⟨c₀, hc₀, rfl⟩ := Table.getElem?_modify_some hj
      by_cases hsj : slotId = j
      · subst hsj
        cases hslot.symm.trans hc₀
        rw [if_pos rfl] at hloan
        have happroved := hc.signed slot (List.mem_of_getElem? hslot) hloan
        rw [hpending] at happroved
        cases happroved
      · rw [if_neg hsj] at hloan ⊢
        exact hc.signed c₀ (List.mem_of_getElem? hc₀) hloan
  · obtain ⟨c, hmem, hloan⟩ := hc.chained (isLarge_was hterms hc.found hlarge)
    obtain ⟨i, hi⟩ := List.getElem?_of_mem hmem
    have happroved := hc.signed c hmem hloan
    have hrow := decided_kept h hi (fun hp => by rw [happroved] at hp; cases hp)
    exact ⟨c, List.mem_of_getElem? hrow, hloan⟩

theorem slot_kept {slotId : Nat} (h : ChainStep db rows)
    (hs : ∃ c, db.loanApprovalChains[slotId]? = some c ∧ c.loanId = loanId) :
    ∃ c, rows[slotId]? = some c ∧ c.loanId = loanId := by
  obtain ⟨c, hc, hloan⟩ := hs
  cases h with
  | same => exact ⟨c, hc, hloan⟩
  | create created hnone hlarge =>
    exact ⟨c, Table.getElem?_of_prefix (List.prefix_append _ _) hc, hloan⟩
  | sign id slot approverId status hslot hpending hnew =>
    by_cases hid : id = slotId
    · subst hid
      exact ⟨_, Table.getElem?_modify_self hc, hloan⟩
    · refine ⟨c, ?_, hloan⟩
      rw [Table.getElem?_modify_other hid]
      exact hc

/-- What a call has established survives the statements of the others. -/
theorem ok_kept (hterms : db.SameTerms db') (h : ChainStep db db'.loanApprovalChains)
    (hok : t.Ok db) : t.Ok db' := by
  cases t with
  | assertPassed loanId loan | approveCheck loanId loan | approveWrite loanId loan =>
    exact fun hlarge => isLarge_kept hterms (hok hlarge)
  | countChain loanId => exact isLarge_kept hterms hok
  | createChain loanId count => exact ⟨isLarge_kept hterms hok.1, hok.2⟩
  | signWrite loanId slot chain approverId approved => exact ⟨slot_kept h hok.1, hok.2⟩
  | isChainApproved params loan => exact found_kept hterms hok
  | kycStatus params loan | fosaAccount params loan | disburseBody params accountId number =>
    exact cleared_kept hterms h hok
  | _ => trivial

theorem next_own {u : ReleaseTask} (hok : t.Ok db) (horder : t.inOrder db = true)
    (h : Yields (t.next ()) db (some u) db') : u.Ok db' := by
  cases t with
  | approveRead loanId =>
    simp only [ReleaseTask.next, approvable, yields_bind, yields_get, yields_required,
      yields_ensure, yields_pure] at h
    obtain ⟨_, _, ⟨rfl, rfl⟩, loan, _, ⟨hloan, rfl⟩, _, _, ⟨-, rfl⟩, hu, rfl⟩ := h
    cases hu
    exact fun hlarge => isLarge_iff.mpr ⟨loan, hloan, hlarge⟩
  | assertPassed loanId loan =>
    simp only [ReleaseTask.next, yields_bind, yields_get, yields_fromExcept, yields_pure] at h
    obtain ⟨_, _, ⟨rfl, rfl⟩, _, _, ⟨-, rfl⟩, hu, rfl⟩ := h
    cases hu
    exact hok
  | approveCheck loanId loan =>
    simp only [ReleaseTask.next, approvable, yields_bind, yields_get, yields_required,
      yields_ensure, yields_pure] at h
    obtain ⟨_, _, ⟨rfl, rfl⟩, _, _, ⟨-, rfl⟩, _, _, ⟨-, rfl⟩, hu, rfl⟩ := h
    cases hu
    exact hok
  | approveWrite loanId loan =>
    have hterms := next_sameTerms _ h
    simp only [ReleaseTask.next, yields_bind, yields_modify, yields_pure] at h
    obtain ⟨_, _, rfl, hu, rfl⟩ := h
    split at hu
    · next hlarge =>
      cases hu
      exact isLarge_kept hterms (hok hlarge)
    · cases hu
  | countChain loanId =>
    simp only [ReleaseTask.next, yields_bind, yields_get, yields_pure] at h
    obtain ⟨_, _, ⟨rfl, rfl⟩, hu, rfl⟩ := h
    split at hu
    · next hnone =>
      cases hu
      exact ⟨hok, hnone⟩
    · cases hu
  | createChain loanId count =>
    simp only [ReleaseTask.next, yields_bind, yields_modify, yields_pure] at h
    obtain ⟨_, _, -, hu, -⟩ := h
    cases hu
  | signLoan loanId approverId role approved =>
    simp only [ReleaseTask.next, yields_bind, yields_get, yields_required, yields_pure] at h
    obtain ⟨_, _, ⟨rfl, rfl⟩, _, _, ⟨-, rfl⟩, hu, rfl⟩ := h
    cases hu
    trivial
  | signRead loanId approverId role approved =>
    simp only [ReleaseTask.next, yields_bind, yields_pure] at h
    obtain ⟨⟨slot, chain⟩, _, hread, hu, rfl⟩ := h
    obtain ⟨rfl, hslot⟩ := signOffRead_slot hread
    cases hu
    exact hslot
  | signWrite loanId slot chain approverId approved =>
    simp only [ReleaseTask.next, yields_bind, yields_pure] at h
    obtain ⟨_, _, -, hu, -⟩ := h
    cases hu
  | disburseRead params =>
    simp only [ReleaseTask.next, yields_bind, yields_get, yields_required] at h
    obtain ⟨_, _, ⟨rfl, rfl⟩, loan, _, ⟨hloan, rfl⟩, h⟩ := h
    rcases yields_ite.mp h with ⟨-, h⟩ | ⟨-, h⟩
    · rw [yields_pure] at h
      cases h.1
      trivial
    · simp only [yields_bind, yields_ensure, yields_pure] at h
      obtain ⟨_, _, ⟨-, rfl⟩, hu, rfl⟩ := h
      cases hu
      exact Option.isSome_iff_exists.mpr ⟨loan, hloan⟩
  | replay params loanNumber =>
    simp only [ReleaseTask.next, yields_bind, yields_pure] at h
    obtain ⟨_, _, -, _, _, -, hu, -⟩ := h
    cases hu
  | isChainApproved params loan =>
    simp only [ReleaseTask.next, yields_bind, yields_get, yields_ensure, yields_pure] at h
    obtain ⟨_, _, ⟨rfl, rfl⟩, _, _, ⟨happroved, rfl⟩, hu, rfl⟩ := h
    cases hu
    refine ⟨hok, isChainApproved_iff.mp happroved, fun hlarge => ?_⟩
    -- the chain of a large loan is not empty, as the guard says
    simp only [ReleaseTask.inOrder, hlarge, Bool.not_true, Bool.false_or,
      Bool.not_eq_true'] at horder
    by_contra hnone
    push Not at hnone
    rw [List.isEmpty_iff.mpr (chainOf_nil_iff.mpr hnone)] at horder
    cases horder
  | kycStatus params loan =>
    simp only [ReleaseTask.next, yields_bind, yields_get, yields_ensure, yields_pure] at h
    obtain ⟨_, _, ⟨rfl, rfl⟩, _, _, ⟨-, rfl⟩, hu, rfl⟩ := h
    cases hu
    exact hok
  | fosaAccount params loan =>
    simp only [ReleaseTask.next, yields_bind, yields_get, yields_required, yields_pure] at h
    obtain ⟨_, _, ⟨rfl, rfl⟩, _, _, ⟨-, rfl⟩, hu, rfl⟩ := h
    cases hu
    exact hok
  | disburseBody params fosaAccountId loanNumber =>
    simp only [ReleaseTask.next, yields_bind, yields_pure] at h
    obtain ⟨_, _, -, hu, -⟩ := h
    cases hu
  | serve op hop =>
    simp only [ReleaseTask.next, yields_bind, yields_pure] at h
    obtain ⟨_, _, -, hu, -⟩ := h
    cases hu

/-! ### Runs -/

variable {w : ReleaseWorld} {e : ReleaseEvent} {events : List ReleaseEvent}

/-- The chains are sound, and every call has established what its next statement relies on. -/
def SoundWorld (w : ReleaseWorld) : Prop :=
  Upheld (fun db => ChainsSound db.loanApprovalChains) (fun db t => t.Ok db) w

theorem inOrder_task {i : Nat} (hg : w.inOrder (.advance i ()) = true) (hat : w.At i t) :
    t.inOrder w.state = true := by
  have hall : (w.task i).all (fun t => t.inOrder w.state) = true := hg
  rw [task_some.mpr hat] at hall
  exact hall

theorem sound_step (h : SoundWorld w) (hg : w.inOrder e = true) :
    SoundWorld (releases.step w e) := by
  refine upheld_step h (fun a _ => ?_) fun i input t t' db' he hat hy => ?_
  · cases a with
    | approve loanId | disburse params | serve op hop => trivial
    | signOff loanId approverId role approved => trivial
  · subst he
    have horder := inOrder_task hg hat
    have hok := h.tasks i t hat
    have hchain := chainStep_of_next hok horder hy
    refine ⟨sound_kept h.state hchain, fun u hu => ?_, fun j u _ _ hu => ?_⟩
    · subst hu
      exact next_own hok horder hy
    · exact ok_kept (next_sameTerms t hy) hchain hu

theorem refused_step (h : SoundWorld w) (hg : w.inOrder e = true)
    (hr : w.state.Refused loanId) : (releases.step w e).state.Refused loanId := by
  rcases Process.step_cases releases w e with ⟨a, he, hstep⟩ | ⟨i, input, t, t', he, hat, hy, -⟩ |
    ⟨hstate, -⟩
  · rw [hstep]
    exact hr
  · subst he
    exact refused_kept (chainStep_of_next (h.tasks i t hat) (inOrder_task hg hat) hy) hr
  · rw [hstate]
    exact hr

theorem sound_opening (hopen : db.loanApprovalChains = []) :
    SoundWorld (ReleaseWorld.opening db) := by
  refine ⟨?_, fun i t hat => ?_⟩
  · show ChainsSound db.loanApprovalChains
    rw [hopen]
    exact ⟨fun c hc => (by cases hc), fun i j c d hc => (by cases hc)⟩
  · cases hat

theorem sound_run (h : SoundWorld w)
    (hg : Machine.Guarded releases.step (fun w e => ReleaseWorld.inOrder w e = true) w events) :
    SoundWorld (w.after events) :=
  Machine.run_induct (fun _ _ => sound_step) h hg

theorem refused_run (h : SoundWorld w)
    (hg : Machine.Guarded releases.step (fun w e => ReleaseWorld.inOrder w e = true) w events)
    (hr : w.state.Refused loanId) : (w.after events).state.Refused loanId := by
  refine (Machine.run_induct (I := fun w => SoundWorld w ∧ w.state.Refused loanId)
    (fun w e hI hg => ?_) ⟨h, hr⟩ hg).2
  exact ⟨sound_step hI.1 hg, refused_step hI.1 hg hI.2⟩

/-- A cleared loan that is large has its two signatures: its slots are all approved, and nobody
signed two of them. -/
theorem twoSigned_of_cleared (hs : ChainsSound db.loanApprovalChains) (hc : db.Cleared loanId)
    (hlarge : db.isLarge loanId = true) : db.TwoSigned loanId := by
  obtain ⟨c, hmem, rfl⟩ := hc.chained hlarge
  obtain ⟨hm, ht⟩ := hs.places c.place (List.mem_map_of_mem hmem)
  obtain ⟨m, hm, hmplace⟩ := List.mem_map.mp hm
  obtain ⟨t, ht, htplace⟩ := List.mem_map.mp ht
  have hmloan : m.loanId = c.loanId := congrArg Prod.fst hmplace
  have htloan : t.loanId = c.loanId := congrArg Prod.fst htplace
  have hmrole : m.role = "MANAGER" := congrArg Prod.snd hmplace
  have htrole : t.role = "TELLER" := congrArg Prod.snd htplace
  have hmsigned := hc.signed m hm hmloan
  have htsigned := hc.signed t ht htloan
  refine ⟨m, hm, t, ht, ⟨hmloan, hmrole, hmsigned⟩, ⟨htloan, htrole, htsigned⟩, ?_⟩
  obtain ⟨i, hi⟩ := List.getElem?_of_mem hm
  obtain ⟨j, hj⟩ := List.getElem?_of_mem ht
  refine hs.apart i j m t hi hj (hmloan.trans htloan.symm) ?_ ?_ ?_
  · rw [hmsigned]
    exact fun h => by cases h
  · rw [htsigned]
    exact fun h => by cases h
  · rintro rfl
    -- one slot has one role
    cases hi.symm.trans hj
    rw [hmrole] at htrole
    exact absurd htrole (by decide)

theorem cleared_of_disburses (h : SoundWorld w) (hd : w.Disburses e loanId) :
    w.state.Cleared loanId := by
  obtain ⟨i, params, fosaAccountId, loanNumber, -, hat, rfl⟩ := hd.task
  exact h.tasks i _ hat

end FourEyesLemmas

open FourEyesLemmas

/-- In a run whose statements find what they rely on, a large loan is disbursed only with the
signatures of two users, and a loan is never disbursed after one of its slots was refused. -/
theorem four_eyes {db : Db} {events : List ReleaseEvent} {e : ReleaseEvent} {loanId : Nat}
    (hopen : db.loanApprovalChains = [])
    (hg : Machine.Guarded releases.step (fun w e => ReleaseWorld.inOrder w e = true)
      (ReleaseWorld.opening db) events)
    (hd : ((ReleaseWorld.opening db).after events).Disburses e loanId) :
    (((ReleaseWorld.opening db).after events).state.isLarge loanId = true →
      ((ReleaseWorld.opening db).after events).state.TwoSigned loanId) ∧
    ∀ earlier, earlier <+: events →
      ¬ ((ReleaseWorld.opening db).after earlier).state.Refused loanId := by
  have hopening := sound_opening hopen
  have hsound := sound_run hopening hg
  have hcleared := cleared_of_disburses hsound hd
  refine ⟨twoSigned_of_cleared hsound.state hcleared, ?_⟩
  rintro earlier ⟨later, rfl⟩ hrefused
  obtain ⟨hgE, hgL⟩ := Machine.guarded_append.mp hg
  have hrefused' := refused_run (sound_run hopening hgE) hgL hrefused
  unfold ReleaseWorld.after at hcleared hrefused'
  rw [Machine.run_append] at hcleared
  -- a refused slot is not an approved one
  obtain ⟨c, hc, hloan, hstatus⟩ := hrefused'
  have happroved := hcleared.signed c hc hloan
  rw [hstatus] at happroved
  cases happroved

/-! ### A loan of half a million -/

/-- The loan waits for its approval; the product asks for no guarantors. -/
def exLarge : Db :=
  { exSacco with
    loans := [{ exLoan with status := .pendingApproval, principalAmount := 5000000000 }]
    loanProducts := exSacco.loanProducts.map fun p => { p with minGuarantors := 0 } }

def exStatements (i n : Nat) : List ReleaseEvent := List.replicate n (.advance i ())

def exRelease : DisburseParams where
  loanId := 0
  disbursedBy := "A"
  disbursedAt := 0
  dueDate := 0
  schedule := []

/-- Two users sign for the loan after its approval. -/
def exSigned : List ReleaseEvent :=
  .start (.approve 0) :: exStatements 0 6 ++
    .start (.signOff 0 "M" "MANAGER" true) :: exStatements 1 3 ++
    .start (.signOff 0 "T" "TELLER" true) :: exStatements 2 3 ++
    .start (.disburse exRelease) :: exStatements 3 4

theorem four_eyes_signed :
    ((ReleaseWorld.opening exLarge).after exSigned).state.TwoSigned 0 :=
  (four_eyes (e := .advance 3 ()) rfl (by decide +kernel)
    ⟨⟨3, exRelease, 0, "LN-1", rfl, by decide +kernel, rfl⟩, by decide +kernel,
      by decide +kernel⟩).1 (by decide +kernel)

/-- The approval is lost before it creates the chain. -/
def exUnchained : List ReleaseEvent :=
  .start (.approve 0) :: exStatements 0 4 ++ .crash 0 ::
    .start (.disburse exRelease) :: exStatements 1 4

/-- Both sign-offs of one user read the chain before either writes. -/
def exOneUser : List ReleaseEvent :=
  .start (.approve 0) :: exStatements 0 6 ++
    [.start (.signOff 0 "U" "MANAGER" true), .start (.signOff 0 "U" "TELLER" true)] ++
    exStatements 1 2 ++ exStatements 2 3 ++ exStatements 1 1 ++
    .start (.disburse exRelease) :: exStatements 3 4

/-- The manager's slot is refused next to a sign-off that has read it, and a second approval has
checked the loan before the first one wrote. -/
def exRefusal : List ReleaseEvent :=
  [.start (.approve 0), .start (.approve 0)] ++
    exStatements 0 3 ++ exStatements 1 3 ++ exStatements 0 3 ++
    [.start (.signOff 0 "A" "MANAGER" true), .start (.signOff 0 "B" "MANAGER" false)] ++
    exStatements 2 2 ++ exStatements 3 3

/-- The sign-off overwrites the refusal and the approval reopens the loan. -/
def exOverwritten : List ReleaseEvent :=
  exRefusal ++ exStatements 2 1 ++ exStatements 1 1 ++
    .start (.signOff 0 "T" "TELLER" true) :: exStatements 4 3 ++
    .start (.disburse exRelease) :: exStatements 5 4

/-- The large loan is disbursed with no signature, with those of one user, and after a refusal. -/
theorem unsigned_loan_disbursed :
    (((ReleaseWorld.opening exLarge).after exUnchained).Disburses (.advance 1 ()) 0 ∧
      ((ReleaseWorld.opening exLarge).after exUnchained).state.isLarge 0 = true ∧
      ¬ ((ReleaseWorld.opening exLarge).after exUnchained).state.TwoSigned 0) ∧
    (((ReleaseWorld.opening exLarge).after exOneUser).Disburses (.advance 3 ()) 0 ∧
      ¬ ((ReleaseWorld.opening exLarge).after exOneUser).state.TwoSigned 0) ∧
    (((ReleaseWorld.opening exLarge).after exOverwritten).Disburses (.advance 5 ()) 0 ∧
      exRefusal <+: exOverwritten ∧
      ((ReleaseWorld.opening exLarge).after exRefusal).state.Refused 0) := by
  refine ⟨⟨⟨⟨1, exRelease, 0, "LN-1", rfl, ?_, rfl⟩, ?_, ?_⟩, ?_, ?_⟩,
    ⟨⟨⟨3, exRelease, 0, "LN-1", rfl, ?_, rfl⟩, ?_, ?_⟩, ?_⟩,
    ⟨⟨⟨5, exRelease, 0, "LN-1", rfl, ?_, rfl⟩, ?_, ?_⟩, ⟨_, List.append_assoc _ _ _ |>.symm⟩, ?_⟩⟩
  all_goals decide +kernel

end BebaSacco
