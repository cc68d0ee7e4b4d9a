import BebaSacco.DeadLoans
import BebaSacco.GuarantorGate
import Mathlib.Logic.Relation

/-! # The consensus of the guarantors

Answers and expiries are transactions of their own. Each of them counts the guarantees of the loan
again and decides what becomes of it. An expiry closes the loan at once; an answer after the window
closes it too, unless it is the last one and the others cover the loan. An acceptance does not look
at the loan. A transaction locks the row of its own guarantee only, and counts what is committed.

Results:
 1. `applyDecision_turn`, `expireGuarantor_turn`: what an answer and an expiry write.
 2. `turn_sound`: a loan that moves on is covered, whatever the order.
 3. `turn_polled`: what has become of a loan, from the answers alone.
 4. `guarantor_consensus`: two runs with the same answers leave the loan and its holds alike, when
    no guarantor accepts for a rejected loan, no late answer completes the guarantors and no
    transactions of a loan overlap.
 5. `consensus_depends_on_order`: a late answer and an acceptance in both orders, and two acceptances
    that overlap.
-/

namespace BebaSacco

open Txn FootprintLemmas InstallmentLemmas PledgeLemmas HoldLemmas GuarantorGateLemmas

/-! ## 1. Answers -/

/-- The operations that answer for a guarantor. -/
def Op.answers : Op → Bool
  | .respond _ _ => true
  | .expireGuarantor _ _ => true
  | .expirySweep _ _ => true
  | _ => false

def Db.loanStatus (db : Db) (loanId : Nat) : Option LoanStatus :=
  db.loans[loanId]?.map (·.status)

/-- The guarantees of a loan with their answers. -/
def Db.answers (db : Db) (loanId : Nat) : List (Nat × GuarantorStatus) :=
  (Table.selectRows (fun g => g.loanId == loanId) db.loanGuarantors).map fun r => (r.1, r.2.status)

/-- The accepted guarantees of a loan that have an active hold, with the savings they freeze. -/
def Db.activeHolds (db : Db) (loanId : Nat) : List (Nat × Nat × Nat) :=
  (Table.selectRows (fun g => g.loanId == loanId && (g.status == .accepted && g.held))
    db.loanGuarantors).map fun r => (r.1, r.2.memberId, r.2.guaranteedAmount)

/-- The others have answered and cover the loan, which still waits. -/
def Db.coveredWithout (db : Db) (now : Int) (loanId guarantorId : Nat) : Bool :=
  db.loans[loanId]?.any fun loan => loan.status == .pendingGuarantors &&
    db.loanProducts[loan.loanProductId]?.any fun product =>
      ((db.updateGuarantor guarantorId (·.answered now .expired)).coverageTally loanId).criteriaMet
        loan product

/-- The answer is not an acceptance for a rejected loan, nor a late answer after which the
guarantors are complete. -/
def Db.orderly (db : Db) : Op → Bool
  | .respond now args =>
    db.loanGuarantors[args.guarantorId]?.all fun g =>
      match args.nextStatus now g.invitedAt with
      | .accepted => db.loanStatus args.loanId != some .rejectedGuarantorDecline
      | .expired => !db.coveredWithout now args.loanId args.guarantorId
      | _ => true
  | .expireGuarantor _ _ => true
  | .expirySweep _ _ => true
  | _ => false

def LoanGuarantor.unanswered (guarantor : LoanGuarantor) : LoanGuarantor :=
  { guarantor with status := .pending, respondedAt := none, holdPlacedAt := none }

/-- An operation and what its transaction, which runs at READ COMMITTED, has not seen of its loans:
the answers that were committed after its count, and the loans whose verdict was after its read. -/
structure PollEvent where
  op : Op
  unseen : List Nat
  stale : List Nat
  deriving DecidableEq

/-- An answer locks its own row, of which it sees what is committed. -/
def PollEvent.hidden (e : PollEvent) : List Nat :=
  match e.op with
  | .respond _ args => e.unseen.filter (· ≠ args.guarantorId)
  | _ => e.unseen

/-- The database as the transaction sees it. -/
def PollEvent.view (e : PollEvent) (db : Db) : Db :=
  e.stale.foldl (fun db id => db.updateLoan id fun l => { l with status := .pendingGuarantors })
    (e.hidden.foldl (fun db id => db.updateGuarantor id (·.unanswered)) db)

/-- The database with what was written in the view `after`. Answers are written on rows that are
pending and verdicts on loans that wait, so that what was not seen stays as it is. -/
def PollEvent.written (e : PollEvent) (db after : Db) : Db :=
  e.stale.foldl (fun after id => after.updateLoan id (db.loans[id]?.getD ·))
    (e.hidden.foldl (fun after id => after.updateGuarantor id (db.loanGuarantors[id]?.getD ·)) after)

def pollStep (db : Db) (e : PollEvent) : Db := e.written db (step (e.view db) e.op)

/-- The database after the transactions `events`, in the order of their commits. -/
def Db.polled (db : Db) (events : List PollEvent) : Db := Machine.run pollStep db events

/-- No answer for the loan was committed between the reads of the transaction and its commit. -/
def PollEvent.alone (e : PollEvent) : Bool := e.unseen.isEmpty && e.stale.isEmpty

def PollEvent.orderly (e : PollEvent) (db : Db) : Bool := e.alone && db.orderly e.op

/-! ## 2. Turns -/

/-- What the rejection of a loan does to a guarantee. -/
def LoanGuarantor.letGo (loanId : Nat) (now : Int) (guarantor : LoanGuarantor) : LoanGuarantor :=
  if guarantor.loanId = loanId ∧ guarantor.status = .accepted ∧ guarantor.holdReleasedAt = none then
    guarantor.released now
  else guarantor

/-- What an answer makes of a loan that waits. -/
def CoverageTally.verdict (tally : CoverageTally) (loan : Loan) (product : LoanProduct)
    (latestStatus : GuarantorStatus) : LoanStatus :=
  if tally.criteriaMet loan product then .pendingApproval
  else if tally.shouldTerminallyReject product latestStatus then .rejectedGuarantorDecline
  else .pendingGuarantors

/-- The loan after a verdict on it. -/
def Loan.concluded (loan : Loan) (verdict : LoanStatus) : Loan :=
  if loan.status = .pendingGuarantors then { loan with status := verdict } else loan

/-- What an answer leaves of a guarantee. -/
def LoanGuarantor.pledge (guarantor : LoanGuarantor) : Nat × Nat × Nat :=
  (guarantor.loanId, guarantor.memberId, guarantor.guaranteedAmount)

/-- The tables with another row `id`. -/
def Db.putGuarantor (db : Db) (id : Nat) (guarantor : LoanGuarantor) : Db :=
  { db with loanGuarantors := db.loanGuarantors.set id guarantor }

/-- One guarantor has answered, or the window has closed: the row `g` is `g'` now, and `verdict` is
what that makes of a loan that waits. -/
structure Turn (id : Nat) (g g' : LoanGuarantor) (verdict : LoanStatus) (db db' : Db) : Prop where
  found : db.loanGuarantors[id]? = some g
  pending : g.status = .pending
  answered : g'.status ≠ .pending
  pledge : g'.pledge = g.pledge
  placed : g'.status = .accepted →
    g'.holdPlacedAt.isSome = true ∧ g'.holdReleasedAt = g.holdReleasedAt
  products : db'.loanProducts = db.loanProducts
  loans : db'.loans = db.loans.modify g.loanId (·.concluded verdict)
  rows :
    ((verdict = .rejectedGuarantorDecline → db.loanStatus g.loanId ≠ some .pendingGuarantors) ∧
      db'.loanGuarantors = db.loanGuarantors.set id g') ∨
    (verdict = .rejectedGuarantorDecline ∧ db.loanStatus g.loanId = some .pendingGuarantors ∧
      ∃ now, db'.loanGuarantors = (db.loanGuarantors.set id g').map (·.letGo g.loanId now))
  decided : ∀ loan, db.loans[g.loanId]? = some loan → loan.status = .pendingGuarantors →
    (g'.status = .expired ∧ verdict = .rejectedGuarantorDecline) ∨
      ∃ product, db.loanProducts[loan.loanProductId]? = some product ∧
        verdict = ((db.putGuarantor id g').coverageTally g.loanId).verdict loan product g'.status

/-- What a count over the guarantees of a loan reads of one. -/
def LoanGuarantor.ballot (guarantor : LoanGuarantor) (loanId : Nat) :
    Option (GuarantorStatus × Nat) :=
  if guarantor.loanId = loanId then some (guarantor.status, guarantor.guaranteedAmount) else none

def Db.ballots (db : Db) (loanId : Nat) : List (Option (GuarantorStatus × Nat)) :=
  db.loanGuarantors.map (·.ballot loanId)

namespace ConsensusLemmas

variable {db db' : Db} {loanId id : Nat} {g g' : LoanGuarantor} {v : LoanStatus}

theorem coverageTally_same (h : db'.loanGuarantors = db.loanGuarantors) (loanId : Nat) :
    db'.coverageTally loanId = db.coverageTally loanId := by
  unfold Db.coverageTally Db.guarantorsOf
  rw [h]

theorem concluded_same {l : Loan} (h : l.status = .pendingGuarantors → v = .pendingGuarantors) :
    l.concluded v = l := by
  unfold Loan.concluded
  split
  · next hwaits => rw [h hwaits, ← hwaits]
  · rfl

theorem modify_concluded_same
    (h : db.loanStatus loanId = some .pendingGuarantors → v = .pendingGuarantors) :
    db.loans.modify loanId (·.concluded v) = db.loans := by
  refine List.ext_getElem? fun k => ?_
  by_cases hk : loanId = k
  · subst hk
    cases hl : db.loans[loanId]? with
    | none => rw [List.getElem?_modify, hl, Option.map_eq_map, Option.map_none]
    | some l =>
      refine (Table.getElem?_modify_self hl).trans (congrArg some (concluded_same fun hwaits => h ?_))
      rw [Db.loanStatus, hl, Option.map_some, hwaits]
  · exact Table.getElem?_modify_other hk

theorem modify_eq_put {f : LoanGuarantor → LoanGuarantor} (h : db.loanGuarantors[id]? = some g) :
    (db.updateGuarantor id f).loanGuarantors = (db.putGuarantor id (f g)).loanGuarantors := by
  refine List.ext_getElem? fun k => ?_
  unfold Db.updateGuarantor Db.putGuarantor
  dsimp only
  by_cases hk : id = k
  · subst hk
    rw [Table.getElem?_modify_self h, List.getElem?_set_self (Table.lt_length_of_getElem? h)]
  · rw [Table.getElem?_modify_other hk, List.getElem?_set_ne hk]

/-! ### The holds of a rejected loan -/

theorem releaseAccepted_rows {now : Int} {ty : AccountType} {rows : List (Nat × LoanGuarantor)}
    (h : Yields (rows.forM (releaseAcceptedHold now ty)) db () db') (k : Nat) :
    db'.loanGuarantors[k]? = db.loanGuarantors[k]?.map fun m =>
      if rows.any fun r => r.1 == k && r.2.holdReleasedAt.isNone then m.released now else m := by
  induction rows generalizing db with
  | nil =>
    rw [(yields_pure.mp h).2]
    exact Option.map_id'.symm
  | cons row rows ih =>
    obtain ⟨_, mid, hrow, hrest⟩ := yields_bind.mp h
    rw [ih hrest, List.any_cons]
    rcases releaseAcceptedHold_cases hrow with ⟨hrel, rfl⟩ | ⟨hrel, -, freed, hfree, rfl⟩
    · rw [Option.isNone_eq_false_iff.mpr hrel, Bool.and_false, Bool.false_or]
    · rw [hrel, Option.isNone_none, Bool.and_true, Db.updateGuarantor, (unfrozen_rows hfree).1,
        List.getElem?_modify]
      cases hk : db.loanGuarantors[k]? with
      | none => rfl
      | some m =>
        by_cases heq : row.1 = k
        · -- the row is released in its own turn; a later release writes the same
          simp only [heq, beq_self_eq_true, Bool.true_or, Option.map_eq_map, Option.map_some,
            Option.some_inj]
          split <;> rfl
        · simp only [heq, beq_eq_false_iff_ne.mpr heq, Bool.false_or, Option.map_eq_map,
            Option.map_some, if_false]

theorem accepted_letGo {now : Int} {ty : AccountType}
    (h : Yields ((db.guarantorsOf loanId [.accepted]).forM (releaseAcceptedHold now ty)) db () db') :
    db'.loanGuarantors = db.loanGuarantors.map (·.letGo loanId now) := by
  refine List.ext_getElem? fun k => ?_
  rw [releaseAccepted_rows h k, List.getElem?_map]
  cases hk : db.loanGuarantors[k]? with
  | none => rfl
  | some m =>
    have hany : ((db.guarantorsOf loanId [.accepted]).any fun r =>
        r.1 == k && r.2.holdReleasedAt.isNone) = true ↔
        m.loanId = loanId ∧ m.status = .accepted ∧ m.holdReleasedAt = none := by
      rw [List.any_eq_true]
      constructor
      · rintro ⟨r, hr, hrk⟩
        obtain ⟨hat, hof, hst⟩ := mem_guarantorsOf.mp hr
        obtain ⟨heq, hnone⟩ := Bool.and_eq_true_iff.mp hrk
        rw [beq_iff_eq.mp heq, hk] at hat
        cases hat
        exact ⟨hof, List.mem_singleton.mp (List.contains_iff_mem.mp hst),
          Option.isNone_iff_eq_none.mp hnone⟩
      · rintro ⟨hof, hst, hnone⟩
        refine ⟨(k, m), mem_guarantorsOf.mpr ⟨hk, hof, ?_⟩, ?_⟩
        · rw [hst]
          rfl
        · rw [hnone, beq_self_eq_true]
          rfl
    rw [Option.map_some, Option.map_some, LoanGuarantor.letGo]
    exact congrArg some (if_congr hany rfl rfl)

/-! ### Answers and expiries -/

/-- The row has its answer, and the loan has not been looked at yet. -/
structure Answer (id : Nat) (g g' : LoanGuarantor) (db answered : Db) : Prop where
  found : db.loanGuarantors[id]? = some g
  pending : g.status = .pending
  done : g'.status ≠ .pending
  pledge : g'.pledge = g.pledge
  placed : g'.status = .accepted →
    g'.holdPlacedAt.isSome = true ∧ g'.holdReleasedAt = g.holdReleasedAt
  rows : answered.loanGuarantors = (db.putGuarantor id g').loanGuarantors
  loans : answered.loans = db.loans
  products : answered.loanProducts = db.loanProducts

theorem turn_of_kept {answered : Db} (ha : Answer id g g' db answered)
    (hloans : db'.loans = answered.loans.modify g.loanId (·.concluded v))
    (hrows : db'.loanGuarantors = answered.loanGuarantors)
    (hproducts : db'.loanProducts = answered.loanProducts)
    (hkept : v = .rejectedGuarantorDecline → db.loanStatus g.loanId ≠ some .pendingGuarantors)
    (hdecided : ∀ loan, db.loans[g.loanId]? = some loan → loan.status = .pendingGuarantors →
      (g'.status = .expired ∧ v = .rejectedGuarantorDecline) ∨
        ∃ product, db.loanProducts[loan.loanProductId]? = some product ∧
          v = ((db.putGuarantor id g').coverageTally g.loanId).verdict loan product g'.status) :
    Turn id g g' v db db' :=
  ⟨ha.found, ha.pending, ha.done, ha.pledge, ha.placed, hproducts.trans ha.products,
    by rw [hloans, ha.loans], .inl ⟨hkept, hrows.trans ha.rows⟩, hdecided⟩

/-- The loan was rejected, and let go of the guarantees that were accepted. -/
theorem turn_of_rejected {answered mid : Db} {now : Int} {ty : AccountType}
    (ha : Answer id g g' db answered)
    (hwaits : db.loanStatus g.loanId = some .pendingGuarantors)
    (hloop : Yields ((answered.guarantorsOf g.loanId [.accepted]).forM (releaseAcceptedHold now ty))
      answered () mid)
    (hdecided : ∀ loan, db.loans[g.loanId]? = some loan → loan.status = .pendingGuarantors →
      (g'.status = .expired ∧ LoanStatus.rejectedGuarantorDecline = .rejectedGuarantorDecline) ∨
        ∃ product, db.loanProducts[loan.loanProductId]? = some product ∧
          .rejectedGuarantorDecline =
            ((db.putGuarantor id g').coverageTally g.loanId).verdict loan product g'.status) :
    Turn id g g' .rejectedGuarantorDecline db
      (mid.updateLoan g.loanId (·.concluded .rejectedGuarantorDecline)) := by
  have hdebts : answered.SameDebts mid :=
    Moves.forM' (fun _ => releaseAcceptedHold_moves _ _ _) _ hloop
  have hterms : answered.SameTerms mid :=
    Moves.forM' (fun _ => releaseAcceptedHold_moves _ _ _) _ hloop
  refine ⟨ha.found, ha.pending, ha.done, ha.pledge, ha.placed,
    hterms.loanProducts.trans ha.products, ?_, .inr ⟨rfl, hwaits, now, ?_⟩, hdecided⟩
  · rw [Db.updateLoan, hdebts.loans, ha.loans]
  · rw [Db.updateLoan, accepted_letGo hloop, ha.rows]
    rfl

theorem answered_pending {now : Int} {args : DecisionArgs} :
    args.nextStatus now g.invitedAt ≠ .pending := by
  unfold DecisionArgs.nextStatus
  split
  · decide
  · cases args.action <;> decide

theorem applyDecision_turn {now : Int} {args : DecisionArgs} {s : LoanStatus}
    (h : Yields (applyDecision now args) db s db') :
    ∃ g, db.loanGuarantors[args.guarantorId]? = some g ∧ g.loanId = args.loanId ∧
      ∃ v, Turn args.guarantorId g (g.answered now (args.nextStatus now g.invitedAt)) v db db' := by
  obtain ⟨g, loan, product, held, hr, happly⟩ := applyDecision_cases h
  refine ⟨g, hr.row, hr.ofLoan, ?_⟩
  obtain ⟨hrows, hloans, hproducts⟩ : held.loanGuarantors = db.loanGuarantors ∧
      held.loans = db.loans ∧ held.loanProducts = db.loanProducts := by
    by_cases haccepted : args.nextStatus now g.invitedAt = .accepted
    · exact placed_rows (hr.placed haccepted)
    · rw [hr.kept haccepted]
      exact ⟨rfl, rfl, rfl⟩
  have hne : args.nextStatus now g.invitedAt ≠ .pending := answered_pending
  generalize args.nextStatus now g.invitedAt = next at happly hne ⊢
  have hplaced : next = .accepted → (g.answered now next).holdPlacedAt.isSome = true ∧
      (g.answered now next).holdReleasedAt = g.holdReleasedAt := by
    rintro rfl
    exact ⟨rfl, rfl⟩
  generalize hafter : held.updateGuarantor args.guarantorId (·.answered now next) = after at happly
  have ha : Answer args.guarantorId g (g.answered now next) db after := by
    refine ⟨hr.row, hr.pending, hne, rfl, hplaced, ?_, ?_, ?_⟩
    · rw [← modify_eq_put (f := (·.answered now next)) hr.row, ← hafter, Db.updateGuarantor,
        Db.updateGuarantor, hrows]
    · rw [← hafter, Db.updateGuarantor, hloans]
    · rw [← hafter, Db.updateGuarantor, hproducts]
  have hof := hr.ofLoan
  have hloan : db.loans[g.loanId]? = some loan := by rw [hof, hr.loan_eq]
  rw [← hof] at happly
  -- the tally is taken on the rows with the answer in them
  have hdecided : ∀ v, ((loan.status = .pendingGuarantors →
      v = (after.coverageTally g.loanId).verdict loan product next)) →
      ∀ l, db.loans[g.loanId]? = some l → l.status = .pendingGuarantors →
        (next = .expired ∧ v = .rejectedGuarantorDecline) ∨
          ∃ product, db.loanProducts[l.loanProductId]? = some product ∧
            v = ((db.putGuarantor args.guarantorId (g.answered now next)).coverageTally
              g.loanId).verdict l product next := by
    intro v hv l hl hwaits
    cases hloan.symm.trans hl
    exact .inr ⟨product, hr.product_eq, by rw [← coverageTally_same ha.rows]; exact hv hwaits⟩
  -- the loan stays, has its cover, or can no longer get it
  rcases applyLoanState_cases happly with ⟨hstays, rfl⟩ | ⟨hwaits, hmet, rfl⟩ |
    ⟨hwaits, hmet, hrejects, mid, hloop, rfl⟩
  · have hsame : db'.loans = db'.loans.modify g.loanId (·.concluded .pendingGuarantors) :=
      (modify_concluded_same fun _ => rfl).symm
    refine ⟨_, turn_of_kept ha hsame rfl rfl (fun heq => by cases heq) (hdecided _ fun hwaits => ?_)⟩
    rw [CoverageTally.verdict, (hstays hwaits).1, (hstays hwaits).2]
    rfl
  · refine ⟨_, turn_of_kept (v := .pendingApproval) ha rfl rfl rfl
      (fun heq => by cases heq) (hdecided _ fun _ => ?_)⟩
    rw [CoverageTally.verdict, hmet]
    rfl
  · refine ⟨_, turn_of_rejected ha ?_ hloop (hdecided _ fun _ => ?_)⟩
    · rw [Db.loanStatus, hloan, Option.map_some, hwaits]
    · rw [CoverageTally.verdict, hmet, hrejects]
      rfl

theorem expireGuarantor_turn {now : Int} {ty : AccountType} {u : Unit}
    (hfound : db.loanGuarantors[id]? = some g) (hpending : g.status = .pending)
    (h : Yields (expireGuarantor now (id, g) ty) db u db') :
    ∃ g', g'.status = .expired ∧ Turn id g g' .rejectedGuarantorDecline db db' := by
  obtain ⟨freed, hheld, hunheld, htail⟩ := expireGuarantor_cases h
  obtain ⟨hrows, hloans, hproducts⟩ : freed.loanGuarantors = db.loanGuarantors ∧
      freed.loans = db.loans ∧ freed.loanProducts = db.loanProducts := by
    cases hp : g.holdPlacedAt with
    | none =>
      rw [hunheld hp]
      exact ⟨rfl, rfl, rfl⟩
    | some placedAt =>
      rcases (hheld (by rw [hp]; rfl)).2 with ⟨rfl, -⟩ | ⟨_, _, -, rfl⟩
      · exact ⟨rfl, rfl, rfl⟩
      · exact ⟨rfl, rfl, rfl⟩
  obtain ⟨g', hg'⟩ : ∃ g', g.expire now g.holdPlacedAt.isSome = g' := ⟨_, rfl⟩
  have hexpired : g'.status = .expired ∧ g'.pledge = g.pledge := by
    rw [← hg', LoanGuarantor.expire, if_pos hpending]
    exact ⟨rfl, rfl⟩
  generalize hafter : freed.updateGuarantor id (·.expire now g.holdPlacedAt.isSome) = after at htail
  have ha : Answer id g g' db after := by
    refine ⟨hfound, hpending, ?_, hexpired.2, fun hacc => ?_, ?_, ?_, ?_⟩
    · rw [hexpired.1]
      decide
    · rw [hexpired.1] at hacc
      cases hacc
    · rw [← hg', ← modify_eq_put (f := (·.expire now g.holdPlacedAt.isSome)) hfound, ← hafter,
        Db.updateGuarantor, Db.updateGuarantor, hrows]
    · rw [← hafter, Db.updateGuarantor, hloans]
    · rw [← hafter, Db.updateGuarantor, hproducts]
  refine ⟨g', hexpired.1, ?_⟩
  rcases rejectForTimeout_cases htail with ⟨hnone, rfl⟩ | ⟨loan, mid, hloan, hwaits, hloop, rfl⟩
  · have hother : db'.loanStatus g.loanId ≠ some .pendingGuarantors := by
      intro hst
      obtain ⟨loan, hl, hst⟩ := Option.map_eq_some_iff.mp hst
      rw [hl, Option.filter_some, if_pos (decide_eq_true hst)] at hnone
      cases hnone
    have hsame : db'.loans = db'.loans.modify g.loanId (·.concluded .rejectedGuarantorDecline) :=
      (modify_concluded_same fun hst => absurd hst hother).symm
    refine turn_of_kept ha hsame rfl rfl (fun _ => ?_) fun _ _ _ => .inl ⟨hexpired.1, rfl⟩
    unfold Db.loanStatus at hother ⊢
    rwa [ha.loans] at hother
  · refine turn_of_rejected ha ?_ hloop fun _ _ _ => .inl ⟨hexpired.1, rfl⟩
    rw [Db.loanStatus, ← ha.loans, hloan, Option.map_some, hwaits]

/-! ### The rows after a turn -/

/-- What the verdict does to the rows: the accepted guarantees of the loan lose their holds when it
is rejected. -/
structure LetsGo (rejects : Prop) (loanId : Nat) (f : LoanGuarantor → LoanGuarantor) : Prop where
  kept : ∀ m, m.loanId ≠ loanId ∨ m.status ≠ .accepted → f m = m
  status : ∀ m, (f m).status = m.status
  pledge : ∀ m, (f m).pledge = m.pledge
  held : ∀ m, m.loanId = loanId → m.status = .accepted →
    ((f m).held = true ↔ ¬ rejects ∧ m.held = true)

theorem letGo_letsGo {rejects : Prop} (h : rejects) (now : Int) :
    LetsGo rejects loanId (·.letGo loanId now) := by
  refine ⟨fun m hm => ?_, fun m => ?_, fun m => ?_, fun m hof hst => ?_⟩
  · refine if_neg fun hall => ?_
    rcases hm with hof | hst
    · exact hof hall.1
    · exact hst hall.2.1
  · unfold LoanGuarantor.letGo
    split <;> rfl
  · unfold LoanGuarantor.letGo
    split <;> rfl
  · refine iff_of_false (fun hheld => ?_) fun hall => hall.1 h
    unfold LoanGuarantor.letGo at hheld
    split at hheld
    · rw [released_not_held] at hheld
      cases hheld
    · next hne =>
      refine hne ⟨hof, hst, ?_⟩
      exact Option.isNone_iff_eq_none.mp (Bool.and_eq_true_iff.mp hheld).2

theorem turn_rows (ht : Turn id g g' v db db') :
    ∃ f, db'.loanGuarantors = (db.loanGuarantors.set id g').map f ∧
      LetsGo (v = .rejectedGuarantorDecline ∧ db.loanStatus g.loanId = some .pendingGuarantors)
        g.loanId f := by
  rcases ht.rows with ⟨hkept, hrows⟩ | ⟨hv, hwaits, now, hrows⟩
  · refine ⟨fun m => m, by rw [List.map_id', hrows], fun _ _ => rfl, fun _ => rfl, fun _ => rfl,
      fun m _ _ => ?_⟩
    exact ⟨fun hheld => ⟨fun hall => hkept hall.1 hall.2, hheld⟩, fun hall => hall.2⟩
  · exact ⟨_, hrows, letGo_letsGo ⟨hv, hwaits⟩ now⟩

theorem turn_waiting {k : Nat} {m : LoanGuarantor} (ht : Turn id g g' v db db') (hk : id ≠ k)
    (hm : db.loanGuarantors[k]? = some m) (hst : m.status = .pending) :
    db'.loanGuarantors[k]? = some m := by
  obtain ⟨f, hrows, hf⟩ := turn_rows ht
  rw [hrows, List.getElem?_map, List.getElem?_set_ne hk, hm, Option.map_some, hf.kept]
  right
  rw [hst]
  decide

/-! ### What a count depends on -/

theorem guarantorsOf_ballots (db : Db) (loanId : Nat) (statuses : List GuarantorStatus) :
    (db.guarantorsOf loanId statuses).map (fun r => (r.2.status, r.2.guaranteedAmount)) =
      (db.ballots loanId).reduceOption.filter fun b => statuses.contains b.1 := by
  have hrows : (GuarantorGateLemmas.rowsOf db loanId).map
      (fun g => (g.status, g.guaranteedAmount)) = (db.ballots loanId).reduceOption := by
    unfold GuarantorGateLemmas.rowsOf Db.ballots LoanGuarantor.ballot
    induction db.loanGuarantors with
    | nil => rfl
    | cons g rows ih =>
      rw [List.filter_cons, List.map_cons]
      by_cases hof : g.loanId = loanId
      · rw [if_pos (beq_iff_eq.mpr hof), if_pos hof, List.map_cons, ih]
        rfl
      · rw [if_neg fun h => hof (beq_iff_eq.mp h), if_neg hof, ih]
        rfl
  rw [← hrows, List.filter_map, show (fun r : Nat × LoanGuarantor =>
    (r.2.status, r.2.guaranteedAmount)) = (fun g => (g.status, g.guaranteedAmount)) ∘ Prod.snd from rfl,
    ← List.map_map, guarantorsOf_rows]
  rfl

theorem guarantorsOf_congr (h : db'.ballots loanId = db.ballots loanId)
    (statuses : List GuarantorStatus) :
    (db'.guarantorsOf loanId statuses).map (fun r => (r.2.status, r.2.guaranteedAmount)) =
      (db.guarantorsOf loanId statuses).map (fun r => (r.2.status, r.2.guaranteedAmount)) := by
  rw [guarantorsOf_ballots, guarantorsOf_ballots, h]

theorem guarantorsOf_length (h : db'.ballots loanId = db.ballots loanId)
    (statuses : List GuarantorStatus) :
    (db'.guarantorsOf loanId statuses).length = (db.guarantorsOf loanId statuses).length := by
  have hlength := congrArg List.length (guarantorsOf_congr h statuses)
  rwa [List.length_map, List.length_map] at hlength

theorem guarantorsOf_nil (h : db'.ballots loanId = db.ballots loanId)
    (statuses : List GuarantorStatus) :
    db'.guarantorsOf loanId statuses = [] ↔ db.guarantorsOf loanId statuses = [] := by
  rw [← List.length_eq_zero_iff, ← List.length_eq_zero_iff, guarantorsOf_length h]

theorem totalAccepted_congr (h : db'.ballots loanId = db.ballots loanId) :
    (db'.coverageTally loanId).totalAccepted = (db.coverageTally loanId).totalAccepted := by
  have hsum := congrArg (fun bs : List (GuarantorStatus × Nat) => (bs.map Prod.snd).sum)
    (guarantorsOf_congr h [.accepted])
  rwa [List.map_map, List.map_map] at hsum

theorem criteriaMet_congr (h : db'.ballots loanId = db.ballots loanId) (loan : Loan)
    (product : LoanProduct) :
    (db'.coverageTally loanId).criteriaMet loan product =
      (db.coverageTally loanId).criteriaMet loan product := by
  unfold CoverageTally.criteriaMet
  rw [totalAccepted_congr h]
  unfold Db.coverageTally
  dsimp only
  rw [guarantorsOf_length h, guarantorsOf_length h]

theorem verdict_congr (h : db'.ballots loanId = db.ballots loanId) (loan : Loan)
    (product : LoanProduct) (next : GuarantorStatus) :
    (db'.coverageTally loanId).verdict loan product next =
      (db.coverageTally loanId).verdict loan product next := by
  unfold CoverageTally.verdict
  rw [criteriaMet_congr h]
  unfold CoverageTally.shouldTerminallyReject Db.coverageTally
  dsimp only
  rw [guarantorsOf_length h, guarantorsOf_length h]
  simp only [ne_eq, guarantorsOf_nil h]

theorem ballot_same {m m' : LoanGuarantor} (hpledge : m'.pledge = m.pledge)
    (hst : m'.status = m.status) : m'.ballot loanId = m.ballot loanId := by
  have hof : m'.loanId = m.loanId := congrArg Prod.fst hpledge
  have hamount : m'.guaranteedAmount = m.guaranteedAmount := congrArg (·.2.2) hpledge
  rw [LoanGuarantor.ballot, LoanGuarantor.ballot, hof, hamount, hst]

theorem turn_ballots (ht : Turn id g g' v db db') :
    db'.ballots loanId = (db.putGuarantor id g').ballots loanId := by
  obtain ⟨f, hrows, hf⟩ := turn_rows ht
  unfold Db.ballots
  rw [hrows, List.map_map]
  exact List.map_congr_left fun m _ => ballot_same (hf.pledge m) (hf.status m)

theorem turn_ballots_other (ht : Turn id g g' v db db') (hne : g.loanId ≠ loanId) :
    db'.ballots loanId = db.ballots loanId := by
  have hof : g'.loanId = g.loanId := congrArg Prod.fst ht.pledge
  rw [turn_ballots ht]
  unfold Db.ballots Db.putGuarantor
  refine List.ext_getElem? fun k => ?_
  rw [List.getElem?_map, List.getElem?_map]
  by_cases hk : id = k
  · subst hk
    rw [List.getElem?_set_self (Table.lt_length_of_getElem? ht.found), ht.found, Option.map_some,
      Option.map_some, LoanGuarantor.ballot, LoanGuarantor.ballot, if_neg (hof ▸ hne), if_neg hne]
  · rw [List.getElem?_set_ne hk]

/-! ## 3. Loans that move on -/

/-- A loan that moved on was covered when it did. -/
def Sound (start : Db) (loanId : Nat) (db : Db) : Prop :=
  ∀ loan, db.loans[loanId]? = some loan → loan.status = .pendingApproval →
    start.loanStatus loanId = some .pendingApproval ∨
      ∃ product, db.loanProducts[loan.loanProductId]? = some product ∧
        (db.coverageTally loanId).criteriaMet loan product = true

theorem pending_asked (ht : Turn id g g' v db db') : db.guarantorsOf g.loanId [.pending] ≠ [] := by
  intro hnil
  have hrow : (id, g) ∈ db.guarantorsOf g.loanId [.pending] :=
    mem_guarantorsOf.mpr ⟨ht.found, rfl, by rw [ht.pending]; rfl⟩
  rw [hnil] at hrow
  cases hrow

theorem turn_sound {start : Db} (ht : Turn id g g' v db db') (h : Sound start loanId db) :
    Sound start loanId db' := by
  intro loan' hl' hst
  rw [ht.loans] at hl'
  obtain ⟨loan, hl, rfl⟩ := Table.getElem?_modify_some hl'
  by_cases hof : g.loanId = loanId
  · subst hof
    rw [if_pos rfl] at hst ⊢
    by_cases hwaits : loan.status = .pendingGuarantors
    · rw [Loan.concluded, if_pos hwaits] at hst ⊢
      have hv : v = .pendingApproval := hst
      rcases ht.decided loan hl hwaits with ⟨-, hrejected⟩ | ⟨product, hproduct, hverdict⟩
      · rw [hrejected] at hv
        cases hv
      · refine .inr ⟨product, by rw [ht.products]; exact hproduct, ?_⟩
        rw [hv, CoverageTally.verdict] at hverdict
        have hmet : ((db.putGuarantor id g').coverageTally g.loanId).criteriaMet loan product =
            true := by
          by_contra hnot
          rw [if_neg hnot] at hverdict
          split at hverdict <;> cases hverdict
        rw [criteriaMet_congr (turn_ballots ht)]
        exact hmet
    · rw [Loan.concluded, if_neg hwaits] at hst ⊢
      rcases h loan hl hst with hstart | ⟨product, -, hmet⟩
      · exact .inl hstart
      · -- nobody is left to answer on a loan that has moved on
        exact absurd (covered_of_criteria hmet).1 (pending_asked ht)
  · rw [if_neg hof] at hst ⊢
    rcases h loan hl hst with hstart | ⟨product, hproduct, hmet⟩
    · exact .inl hstart
    · refine .inr ⟨product, by rw [ht.products]; exact hproduct, ?_⟩
      rw [criteriaMet_congr (turn_ballots_other ht hof)]
      exact hmet

/-! ## 4. What has become of a loan -/

/-- The window closed on a guarantor who had been asked. -/
def Lapsed (start : Db) (loanId : Nat) (db : Db) : Prop :=
  ∃ (id : Nat) (g g' : LoanGuarantor), start.loanGuarantors[id]? = some g ∧ g.loanId = loanId ∧
    g.status = .pending ∧ db.loanGuarantors[id]? = some g' ∧ g'.status = .expired

/-- The status of a loan, from the answers alone. -/
inductive Outcome (start : Db) (loanId : Nat) (db : Db) (loan : Loan) : LoanStatus → Prop
  | other (h : loan.status ≠ .pendingGuarantors) : Outcome start loanId db loan loan.status
  | lapsed (hwaits : loan.status = .pendingGuarantors) (h : Lapsed start loanId db) :
    Outcome start loanId db loan .rejectedGuarantorDecline
  | waits (hwaits : loan.status = .pendingGuarantors) (hopen : ¬ Lapsed start loanId db)
    (h : db.guarantorsOf loanId [.pending] ≠ [] ∨ start.guarantorsOf loanId [.pending] = []) :
    Outcome start loanId db loan .pendingGuarantors
  | decided {product : LoanProduct} (hwaits : loan.status = .pendingGuarantors)
    (hopen : ¬ Lapsed start loanId db) (hdone : db.guarantorsOf loanId [.pending] = [])
    (hasked : start.guarantorsOf loanId [.pending] ≠ [])
    (hproduct : db.loanProducts[loan.loanProductId]? = some product) :
    Outcome start loanId db loan ((db.coverageTally loanId).verdict loan product .accepted)

/-- The loan was rejected since. -/
def Closed (start : Db) (loanId : Nat) (db : Db) : Prop :=
  start.loanStatus loanId = some .pendingGuarantors ∧
    db.loanStatus loanId = some .rejectedGuarantorDecline

/-- What has become of a guarantee of the loan. -/
structure Fate (closed : Prop) (g g' : LoanGuarantor) : Prop where
  settled : g.status ≠ .pending → g'.status = g.status
  waits : g'.status = .pending → g' = g
  held : g'.status = .accepted → (g'.held = true ↔
    ¬ closed ∧ g.holdReleasedAt = none ∧ (g.status = .pending ∨ g.holdPlacedAt.isSome = true))

/-- The state `db` has come from `start` by answers. -/
structure Polled (start : Db) (loanId : Nat) (db : Db) : Prop where
  products : db.loanProducts = start.loanProducts
  length : db.loanGuarantors.length = start.loanGuarantors.length
  pledge : ∀ (id : Nat) (g g' : LoanGuarantor), start.loanGuarantors[id]? = some g →
    db.loanGuarantors[id]? = some g' → g'.pledge = g.pledge
  row : ∀ (id : Nat) (g g' : LoanGuarantor), start.loanGuarantors[id]? = some g →
    db.loanGuarantors[id]? = some g' → g.loanId = loanId → Fate (Closed start loanId db) g g'
  loan : ∀ loan, start.loans[loanId]? = some loan →
    ∃ s, db.loans[loanId]? = some { loan with status := s } ∧ Outcome start loanId db loan s
  absent : start.loans[loanId]? = none → db.loans[loanId]? = none

theorem polled_start (start : Db) (loanId : Nat) : Polled start loanId start := by
  have hopen : ¬ Lapsed start loanId start := by
    rintro ⟨id, g, g', hg, -, hst, hg', hst'⟩
    cases hg.symm.trans hg'
    rw [hst] at hst'
    cases hst'
  refine ⟨rfl, rfl, fun id g g' hg hg' => ?_, fun id g g' hg hg' _ => ?_, fun loan hl => ?_, fun h => h⟩
  · cases hg.symm.trans hg'
    rfl
  · cases hg.symm.trans hg'
    refine ⟨fun _ => rfl, fun _ => rfl, fun hst => ?_⟩
    have hnot : ¬ Closed start loanId start := by
      rintro ⟨hwaits, hrejected⟩
      rw [hwaits] at hrejected
      cases hrejected
    have hne : g.status ≠ .pending := by
      rw [hst]
      decide
    rw [LoanGuarantor.held, Bool.and_eq_true, Option.isNone_iff_eq_none]
    exact ⟨fun h => ⟨hnot, h.2, .inr h.1⟩, fun h => ⟨h.2.2.resolve_left hne, h.2.1⟩⟩
  · refine ⟨loan.status, hl, ?_⟩
    by_cases hwaits : loan.status = .pendingGuarantors
    · rw [hwaits]
      refine .waits hwaits hopen ?_
      by_cases hnil : start.guarantorsOf loanId [.pending] = []
      · exact .inr hnil
      · exact .inl hnil
    · exact .other hwaits

/-! ### A turn of another loan -/

theorem turn_back {k : Nat} {m' : LoanGuarantor} (ht : Turn id g g' v db db')
    (hm' : db'.loanGuarantors[k]? = some m') :
    ∃ m, db.loanGuarantors[k]? = some m ∧ m'.pledge = m.pledge ∧ (m.loanId ≠ g.loanId → m' = m) := by
  obtain ⟨f, hrows, hf⟩ := turn_rows ht
  rw [hrows, List.getElem?_map] at hm'
  obtain ⟨m, hm, rfl⟩ := Option.map_eq_some_iff.mp hm'
  by_cases hk : id = k
  · subst hk
    rw [List.getElem?_set_self (Table.lt_length_of_getElem? ht.found)] at hm
    cases hm
    exact ⟨g, ht.found, (hf.pledge g').trans ht.pledge, fun hne => absurd rfl hne⟩
  · rw [List.getElem?_set_ne hk] at hm
    exact ⟨m, hm, hf.pledge m, fun hne => hf.kept m (.inl hne)⟩

theorem turn_apart {k : Nat} {m : LoanGuarantor} (ht : Turn id g g' v db db')
    (hm : db.loanGuarantors[k]? = some m) (hne : m.loanId ≠ g.loanId) :
    db'.loanGuarantors[k]? = some m := by
  obtain ⟨f, hrows, hf⟩ := turn_rows ht
  have hk : id ≠ k := by
    rintro rfl
    cases ht.found.symm.trans hm
    exact hne rfl
  rw [hrows, List.getElem?_map, List.getElem?_set_ne hk, hm, Option.map_some, hf.kept m (.inl hne)]

theorem outcome_congr {start : Db} {loan : Loan} {s : LoanStatus}
    (hlapsed : Lapsed start loanId db' ↔ Lapsed start loanId db)
    (hballots : db'.ballots loanId = db.ballots loanId)
    (hproducts : db'.loanProducts = db.loanProducts) (h : Outcome start loanId db loan s) :
    Outcome start loanId db' loan s := by
  cases h with
  | other h => exact .other h
  | lapsed hwaits h => exact .lapsed hwaits (hlapsed.mpr h)
  | waits hwaits hopen h =>
    refine .waits hwaits (fun hl => hopen (hlapsed.mp hl)) ?_
    rwa [ne_eq, guarantorsOf_nil hballots]
  | decided hwaits hopen hdone hasked hproduct =>
    rw [← verdict_congr hballots]
    refine .decided hwaits (fun hl => hopen (hlapsed.mp hl)) ((guarantorsOf_nil hballots _).mpr hdone)
      hasked ?_
    rwa [hproducts]

theorem polled_length (ht : Turn id g g' v db db') :
    db'.loanGuarantors.length = db.loanGuarantors.length := by
  obtain ⟨f, hrows, -⟩ := turn_rows ht
  rw [hrows, List.length_map, List.length_set]

theorem turn_polled_other {start : Db} (ht : Turn id g g' v db db') (hne : g.loanId ≠ loanId)
    (h : Polled start loanId db) : Polled start loanId db' := by
  have hloan : db'.loans[loanId]? = db.loans[loanId]? := by
    rw [ht.loans, Table.getElem?_modify_other hne]
  have hclosed : Closed start loanId db' ↔ Closed start loanId db := by
    unfold Closed Db.loanStatus
    rw [hloan]
  -- the rows of this loan are the same before and after
  have hof : ∀ (k : Nat) (g₀ m : LoanGuarantor), start.loanGuarantors[k]? = some g₀ →
      db.loanGuarantors[k]? = some m → g₀.loanId = loanId → m.loanId ≠ g.loanId := by
    intro k g₀ m hg₀ hm hof heq
    have hsame : m.loanId = g₀.loanId := congrArg Prod.fst (h.pledge k g₀ m hg₀ hm)
    exact hne (heq.symm.trans (hsame.trans hof))
  have hlapsed : Lapsed start loanId db' ↔ Lapsed start loanId db := by
    constructor
    · rintro ⟨k, g₀, m', hg₀, hofLoan, hst, hm', hst'⟩
      obtain ⟨m, hm, -, hsame⟩ := turn_back ht hm'
      rw [hsame (hof k g₀ m hg₀ hm hofLoan)] at hst'
      exact ⟨k, g₀, m, hg₀, hofLoan, hst, hm, hst'⟩
    · rintro ⟨k, g₀, m, hg₀, hofLoan, hst, hm, hst'⟩
      exact ⟨k, g₀, m, hg₀, hofLoan, hst, turn_apart ht hm (hof k g₀ m hg₀ hm hofLoan), hst'⟩
  refine ⟨ht.products.trans h.products, (polled_length ht).trans h.length, fun k g₀ m' hg₀ hm' => ?_,
    fun k g₀ m' hg₀ hm' hofLoan => ?_, fun loan hl => ?_, fun hnone => ?_⟩
  · obtain ⟨m, hm, hpledge, -⟩ := turn_back ht hm'
    exact hpledge.trans (h.pledge k g₀ m hg₀ hm)
  · obtain ⟨m, hm, -, hsame⟩ := turn_back ht hm'
    rw [hsame (hof k g₀ m hg₀ hm hofLoan)]
    obtain ⟨hsettled, hwaits, hheld⟩ := h.row k g₀ m hg₀ hm hofLoan
    exact ⟨hsettled, hwaits, by rwa [hclosed]⟩
  · obtain ⟨s, hs, houtcome⟩ := h.loan loan hl
    exact ⟨s, hloan.trans hs, outcome_congr hlapsed (turn_ballots_other ht hne) ht.products houtcome⟩
  · exact hloan.trans (h.absent hnone)

/-! ### A turn of the loan -/

/-- The answer is not an acceptance for a rejected loan, and a late one closes a loan that waits. -/
structure Orderly (g g' : LoanGuarantor) (v : LoanStatus) (db : Db) : Prop where
  accepts : g'.status = .accepted → db.loanStatus g.loanId ≠ some .rejectedGuarantorDecline
  lapses : g'.status = .expired → db.loanStatus g.loanId = some .pendingGuarantors →
    v = .rejectedGuarantorDecline

theorem loanStatus_turn (ht : Turn id g g' v db db') :
    db'.loanStatus g.loanId =
      (db.loanStatus g.loanId).map fun s => if s = .pendingGuarantors then v else s := by
  unfold Db.loanStatus
  rw [ht.loans, List.getElem?_modify]
  cases db.loans[g.loanId]? with
  | none => rfl
  | some loan =>
    simp only [if_true, Option.map_eq_map, Option.map_some, Option.some_inj, Loan.concluded]
    split <;> rfl

theorem polled_waits {start : Db} (h : Polled start loanId db)
    (hwaits : db.loanStatus loanId = some .pendingGuarantors) :
    start.loanStatus loanId = some .pendingGuarantors := by
  cases hl : start.loans[loanId]? with
  | none =>
    rw [Db.loanStatus, h.absent hl] at hwaits
    cases hwaits
  | some loan =>
    obtain ⟨s, hs, houtcome⟩ := h.loan loan hl
    rw [Db.loanStatus, hs, Option.map_some, Option.some_inj] at hwaits
    rw [Db.loanStatus, hl, Option.map_some, Option.some_inj]
    cases houtcome with
    | other hne => exact absurd hwaits hne
    | lapsed hw _ => exact hw
    | waits hw _ _ => exact hw
    | decided hw _ _ _ _ => exact hw

theorem closed_turn {start : Db} (ht : Turn id g g' v db db') (h : Polled start g.loanId db) :
    Closed start g.loanId db' ↔ Closed start g.loanId db ∨
      (v = .rejectedGuarantorDecline ∧ db.loanStatus g.loanId = some .pendingGuarantors) := by
  unfold Closed
  rw [loanStatus_turn ht]
  cases hst : db.loanStatus g.loanId with
  | none => simp
  | some s =>
    by_cases hwaits : s = .pendingGuarantors
    · subst hwaits
      have hstart := polled_waits h hst
      simp [hstart]
    · simp [hwaits]

theorem turn_start {start : Db} (ht : Turn id g g' v db db') (h : Polled start g.loanId db) :
    start.loanGuarantors[id]? = some g := by
  have hlt : id < start.loanGuarantors.length := h.length ▸ Table.lt_length_of_getElem? ht.found
  obtain ⟨g₀, hg₀⟩ : ∃ g₀, start.loanGuarantors[id]? = some g₀ := ⟨_, List.getElem?_eq_getElem hlt⟩
  have hof : g.loanId = g₀.loanId := congrArg Prod.fst (h.pledge id g₀ g hg₀ ht.found)
  rw [hg₀, (h.row id g₀ g hg₀ ht.found hof.symm).waits ht.pending]

theorem turn_fate {start : Db} {k : Nat} {g₀ m' : LoanGuarantor} (ht : Turn id g g' v db db')
    (ho : Orderly g g' v db) (h : Polled start g.loanId db)
    (hg₀ : start.loanGuarantors[k]? = some g₀) (hm' : db'.loanGuarantors[k]? = some m')
    (hof : g₀.loanId = g.loanId) : Fate (Closed start g.loanId db') g₀ m' := by
  obtain ⟨f, hrows, hf⟩ := turn_rows ht
  rw [hrows, List.getElem?_map] at hm'
  obtain ⟨m, hm, rfl⟩ := Option.map_eq_some_iff.mp hm'
  have hclosed := closed_turn ht h
  by_cases hk : id = k
  · -- the row that has its answer now was as at the start
    subst hk
    rw [List.getElem?_set_self (Table.lt_length_of_getElem? ht.found)] at hm
    cases hm
    cases (turn_start ht h).symm.trans hg₀
    refine ⟨fun hne => absurd ht.pending hne, fun hst => ?_, fun hst => ?_⟩
    · rw [hf.status] at hst
      exact absurd hst ht.answered
    · rw [hf.status] at hst
      obtain ⟨hplaced, hreleased⟩ := ht.placed hst
      have hnot : ¬ Closed start g.loanId db := fun hc => ho.accepts hst hc.2
      have hloan : g'.loanId = g.loanId := congrArg Prod.fst ht.pledge
      rw [hf.held g' hloan hst, hclosed, LoanGuarantor.held, hplaced, hreleased, Bool.true_and,
        Option.isNone_iff_eq_none]
      simp only [hnot, false_or, ht.pending, true_or, and_true]
  · rw [List.getElem?_set_ne hk] at hm
    obtain ⟨hsettled, hwaits, hheld⟩ := h.row k g₀ m hg₀ hm hof
    refine ⟨fun hne => (hf.status m).trans (hsettled hne), fun hst => ?_, fun hst => ?_⟩
    · rw [hf.status] at hst
      rw [hf.kept m (.inr (by rw [hst]; decide)), hwaits hst]
    · rw [hf.status] at hst
      have hloan : m.loanId = g.loanId :=
        (congrArg Prod.fst (h.pledge k g₀ m hg₀ hm) : m.loanId = g₀.loanId).trans hof
      rw [hf.held m hloan hst, hheld hst, hclosed, not_or]
      exact ⟨fun hall => ⟨⟨hall.2.1, hall.1⟩, hall.2.2⟩, fun hall => ⟨hall.1.2, hall.1.1, hall.2⟩⟩

theorem verdict_open {tally : CoverageTally} {loan : Loan} {product : LoanProduct}
    {next : GuarantorStatus} (hopen : tally.pending ≠ 0) (hnext : next ≠ .expired) :
    tally.verdict loan product next = .pendingGuarantors := by
  have hpending : (tally.pending == 0) = false := beq_eq_false_iff_ne.mpr hopen
  have hlate : (next == .expired) = false := beq_eq_false_iff_ne.mpr hnext
  unfold CoverageTally.verdict CoverageTally.criteriaMet CoverageTally.shouldTerminallyReject
  simp only [hpending, hlate, Bool.false_and, Bool.or_self, if_false, Bool.false_eq_true]

/-- Of the latest answer only matters whether it is late. -/
theorem verdict_latest {tally : CoverageTally} {loan : Loan} {product : LoanProduct}
    {next : GuarantorStatus} (hnext : next ≠ .expired) :
    tally.verdict loan product next = tally.verdict loan product .accepted := by
  have hlate : (next == .expired) = false := beq_eq_false_iff_ne.mpr hnext
  unfold CoverageTally.verdict CoverageTally.shouldTerminallyReject
  simp only [hlate]
  rfl

/-- The answer itself lapsed, or nothing new has. -/
theorem lapsed_turn {start : Db} (ht : Turn id g g' v db db') (h : Polled start g.loanId db) :
    Lapsed start g.loanId db' ↔ Lapsed start g.loanId db ∨ g'.status = .expired := by
  obtain ⟨f, hrows, hf⟩ := turn_rows ht
  have hself : db'.loanGuarantors[id]? = some (f g') := by
    rw [hrows, List.getElem?_map, List.getElem?_set_self (Table.lt_length_of_getElem? ht.found)]
    rfl
  have hnext : ∀ k, id ≠ k → db'.loanGuarantors[k]? = db.loanGuarantors[k]?.map f := by
    intro k hk
    rw [hrows, List.getElem?_map, List.getElem?_set_ne hk]
  constructor
  · rintro ⟨k, g₀, m', hg₀, hof, hst, hm', hst'⟩
    by_cases hk : id = k
    · subst hk
      cases hself.symm.trans hm'
      exact .inr ((hf.status g').symm.trans hst')
    · rw [hnext k hk] at hm'
      obtain ⟨m, hm, rfl⟩ := Option.map_eq_some_iff.mp hm'
      exact .inl ⟨k, g₀, m, hg₀, hof, hst, hm, (hf.status m).symm.trans hst'⟩
  · rintro (⟨k, g₀, m, hg₀, hof, hst, hm, hst'⟩ | hexpired)
    · have hk : id ≠ k := by
        rintro rfl
        cases ht.found.symm.trans hm
        rw [ht.pending] at hst'
        cases hst'
      exact ⟨k, g₀, f m, hg₀, hof, hst, by rw [hnext k hk, hm, Option.map_some],
        (hf.status m).trans hst'⟩
    · exact ⟨id, g, f g', turn_start ht h, rfl, ht.pending, hself, (hf.status g').trans hexpired⟩

theorem turn_outcome {start : Db} {loan : Loan} (ht : Turn id g g' v db db')
    (ho : Orderly g g' v db) (h : Polled start g.loanId db)
    (hl : start.loans[g.loanId]? = some loan) :
    ∃ s, db'.loans[g.loanId]? = some { loan with status := s } ∧
      Outcome start g.loanId db' loan s := by
  obtain ⟨s, hs, houtcome⟩ := h.loan loan hl
  have hrow : db'.loans[g.loanId]? = some (Loan.concluded { loan with status := s } v) := by
    rw [ht.loans, Table.getElem?_modify_self hs]
  have hlapsed := lapsed_turn ht h
  have hasked : start.guarantorsOf g.loanId [.pending] ≠ [] := by
    intro hnil
    have hmem : (id, g) ∈ start.guarantorsOf g.loanId [.pending] :=
      mem_guarantorsOf.mpr ⟨turn_start ht h, rfl, by rw [ht.pending]; rfl⟩
    rw [hnil] at hmem
    cases hmem
  cases houtcome with
  | other hne =>
    rw [concluded_same fun hwaits => absurd hwaits hne] at hrow
    exact ⟨_, hrow, .other hne⟩
  | lapsed hwaits hl =>
    rw [concluded_same fun hw => by cases hw] at hrow
    exact ⟨_, hrow, .lapsed hwaits (hlapsed.mpr (.inl hl))⟩
  | decided hwaits hopen hdone hstart hproduct => exact absurd hdone (pending_asked ht)
  | waits hwaits hopen _ =>
    rw [Loan.concluded, if_pos rfl] at hrow
    have hst : db.loanStatus g.loanId = some .pendingGuarantors := by
      rw [Db.loanStatus, hs, Option.map_some]
    refine ⟨v, hrow, ?_⟩
    by_cases hexpired : g'.status = .expired
    · rw [ho.lapses hexpired hst]
      exact .lapsed hwaits (hlapsed.mpr (.inr hexpired))
    · have hopen' : ¬ Lapsed start g.loanId db' := fun hl =>
        (hlapsed.mp hl).elim hopen hexpired
      rcases ht.decided _ hs rfl with ⟨hlate, -⟩ | ⟨product, hproduct, hv⟩
      · exact absurd hlate hexpired
      rw [← verdict_congr (turn_ballots ht)] at hv
      by_cases hdone : db'.guarantorsOf g.loanId [.pending] = []
      · rw [hv, verdict_latest hexpired]
        exact .decided hwaits hopen' hdone hasked (by rw [ht.products]; exact hproduct)
      · have hleft : (db'.coverageTally g.loanId).pending ≠ 0 :=
          fun hzero => hdone (List.length_eq_zero_iff.mp hzero)
        rw [hv, verdict_open hleft hexpired]
        exact .waits hwaits hopen' (.inl hdone)

theorem turn_polled {start : Db} (ht : Turn id g g' v db db') (ho : Orderly g g' v db)
    (h : Polled start loanId db) : Polled start loanId db' := by
  by_cases hof : g.loanId = loanId
  · subst hof
    refine ⟨ht.products.trans h.products, (polled_length ht).trans h.length,
      fun k g₀ m' hg₀ hm' => ?_, fun k g₀ m' hg₀ hm' hof => turn_fate ht ho h hg₀ hm' hof,
      fun loan hl => turn_outcome ht ho h hl, fun hnone => ?_⟩
    · obtain ⟨m, hm, hpledge, -⟩ := turn_back ht hm'
      exact hpledge.trans (h.pledge k g₀ m hg₀ hm)
    · rw [ht.loans, List.getElem?_modify, h.absent hnone]
      rfl
  · exact turn_polled_other ht hof h

/-! ## 5. The same answers -/

theorem mem_answers {st : GuarantorStatus} :
    (id, st) ∈ db.answers loanId ↔ ∃ m, db.loanGuarantors[id]? = some m ∧ m.loanId = loanId ∧
      m.status = st := by
  unfold Db.answers
  rw [List.mem_map]
  constructor
  · rintro ⟨r, hr, heq⟩
    obtain ⟨hat, hof⟩ := Table.mem_selectRows.mp hr
    cases heq
    exact ⟨r.2, hat, beq_iff_eq.mp hof, rfl⟩
  · rintro ⟨m, hm, hof, rfl⟩
    exact ⟨(id, m), Table.mem_selectRows.mpr ⟨hm, beq_iff_eq.mpr hof⟩, rfl⟩

/-- The answers decide the status. -/
theorem outcome_unique {start : Db} {loan : Loan} {s s' : LoanStatus}
    (h : Outcome start loanId db loan s) (h' : Outcome start loanId db loan s') : s = s' := by
  cases h with
  | other hne =>
    cases h' with
    | other => rfl
    | lapsed hwaits => exact absurd hwaits hne
    | waits hwaits => exact absurd hwaits hne
    | decided hwaits => exact absurd hwaits hne
  | lapsed hwaits hl =>
    cases h' with
    | other hne => exact absurd hwaits hne
    | lapsed => rfl
    | waits _ hopen => exact absurd hl hopen
    | decided _ hopen => exact absurd hl hopen
  | waits hwaits hopen hor =>
    cases h' with
    | other hne => exact absurd hwaits hne
    | lapsed _ hl => exact absurd hl hopen
    | waits => rfl
    | decided _ _ hdone hasked => exact absurd hor (not_or.mpr ⟨not_not.mpr hdone, hasked⟩)
  | decided hwaits hopen hdone hasked hproduct =>
    cases h' with
    | other hne => exact absurd hwaits hne
    | lapsed _ hl => exact absurd hl hopen
    | waits _ _ hor => exact absurd hor (not_or.mpr ⟨not_not.mpr hdone, hasked⟩)
    | decided _ _ _ _ hproduct' => rw [Option.some_inj.mp (hproduct.symm.trans hproduct')]

/-- Two states with the same answers have the same loan and the same holds. -/
theorem polled_agree {start d d' : Db} (h : Polled start loanId d) (h' : Polled start loanId d')
    (hanswers : d.answers loanId = d'.answers loanId) :
    d.loanStatus loanId = d'.loanStatus loanId ∧ d.activeHolds loanId = d'.activeHolds loanId := by
  have hlength : d.loanGuarantors.length = d'.loanGuarantors.length := h.length.trans h'.length.symm
  -- every row of the one state has its counterpart at the start and in the other
  have hrow : ∀ (k : Nat) (m m' : LoanGuarantor), d.loanGuarantors[k]? = some m →
      d'.loanGuarantors[k]? = some m' → ∃ g, start.loanGuarantors[k]? = some g ∧
        m.pledge = g.pledge ∧ m'.pledge = g.pledge ∧ (g.loanId = loanId → m.status = m'.status) := by
    intro k m m' hm hm'
    have hlt : k < start.loanGuarantors.length := h.length ▸ Table.lt_length_of_getElem? hm
    obtain ⟨g, hg⟩ : ∃ g, start.loanGuarantors[k]? = some g := ⟨_, List.getElem?_eq_getElem hlt⟩
    refine ⟨g, hg, h.pledge k g m hg hm, h'.pledge k g m' hg hm', fun hof => ?_⟩
    have hmof : m.loanId = loanId :=
      (congrArg Prod.fst (h.pledge k g m hg hm) : m.loanId = g.loanId).trans hof
    have hmem : (k, m.status) ∈ d.answers loanId := mem_answers.mpr ⟨m, hm, hmof, rfl⟩
    rw [hanswers] at hmem
    obtain ⟨other, hother, -, hst⟩ := mem_answers.mp hmem
    cases hm'.symm.trans hother
    exact hst.symm
  have hback : ∀ (k : Nat) (m : LoanGuarantor), d.loanGuarantors[k]? = some m →
      ∃ m', d'.loanGuarantors[k]? = some m' := fun k m hm =>
    ⟨_, List.getElem?_eq_getElem (hlength ▸ Table.lt_length_of_getElem? hm)⟩
  have hforth : ∀ (k : Nat) (m' : LoanGuarantor), d'.loanGuarantors[k]? = some m' →
      ∃ m, d.loanGuarantors[k]? = some m := fun k m' hm' =>
    ⟨_, List.getElem?_eq_getElem (hlength.symm ▸ Table.lt_length_of_getElem? hm')⟩
  have hballots : d'.ballots loanId = d.ballots loanId := by
    refine List.ext_getElem? fun k => ?_
    rw [Db.ballots, Db.ballots, List.getElem?_map, List.getElem?_map]
    cases hm : d.loanGuarantors[k]? with
    | none =>
      rw [List.getElem?_eq_none (hlength ▸ List.getElem?_eq_none_iff.mp hm)]
    | some m =>
      obtain ⟨m', hm'⟩ := hback k m hm
      obtain ⟨g, -, hp, hp', hst⟩ := hrow k m m' hm hm'
      rw [hm', Option.map_some, Option.map_some, Option.some_inj]
      by_cases hof : g.loanId = loanId
      · exact ballot_same (hp'.trans hp.symm) (hst hof).symm
      · have hm_of : m.loanId = g.loanId := congrArg Prod.fst hp
        have hm'_of : m'.loanId = g.loanId := congrArg Prod.fst hp'
        rw [LoanGuarantor.ballot, LoanGuarantor.ballot, if_neg (hm'_of ▸ hof), if_neg (hm_of ▸ hof)]
  have hlapsed : Lapsed start loanId d' ↔ Lapsed start loanId d := by
    constructor
    · rintro ⟨k, g, m', hg, hof, hst, hm', hst'⟩
      obtain ⟨m, hm⟩ := hforth k m' hm'
      obtain ⟨g', hg', -, -, hsame⟩ := hrow k m m' hm hm'
      cases hg.symm.trans hg'
      exact ⟨k, g, m, hg, hof, hst, hm, (hsame hof).trans hst'⟩
    · rintro ⟨k, g, m, hg, hof, hst, hm, hst'⟩
      obtain ⟨m', hm'⟩ := hback k m hm
      obtain ⟨g', hg', -, -, hsame⟩ := hrow k m m' hm hm'
      cases hg.symm.trans hg'
      exact ⟨k, g, m', hg, hof, hst, hm', (hsame hof).symm.trans hst'⟩
  have hstatus : d.loanStatus loanId = d'.loanStatus loanId := by
    cases hl : start.loans[loanId]? with
    | none => rw [Db.loanStatus, Db.loanStatus, h.absent hl, h'.absent hl]
    | some loan =>
      obtain ⟨s, hs, houtcome⟩ := h.loan loan hl
      obtain ⟨s', hs', houtcome'⟩ := h'.loan loan hl
      have hproducts : d'.loanProducts = d.loanProducts := h'.products.trans h.products.symm
      rw [Db.loanStatus, Db.loanStatus, hs, hs', Option.map_some, Option.map_some,
        outcome_unique (outcome_congr hlapsed hballots hproducts houtcome) houtcome']
  refine ⟨hstatus, Table.map_selectRows_congr
    (c := fun m : LoanGuarantor => (m.memberId, m.guaranteedAmount)) hlength
      fun k m m' hm hm' => ?_⟩
  obtain ⟨g, hg, hp, hp', hst⟩ := hrow k m m' hm hm'
  have hm_of : m.loanId = g.loanId := congrArg Prod.fst hp
  have hm'_of : m'.loanId = g.loanId := congrArg Prod.fst hp'
  refine ⟨?_, fun _ => congrArg Prod.snd (hp.trans hp'.symm)⟩
  by_cases hof : g.loanId = loanId
  · rw [hm_of, hm'_of, hst hof]
    by_cases hacc : m'.status = .accepted
    · have hclosed : Closed start loanId d ↔ Closed start loanId d' := by
        unfold Closed
        rw [hstatus]
      have hheld : m.held = m'.held := by
        rw [Bool.eq_iff_iff, (h.row k g m hg hm hof).held ((hst hof).trans hacc),
          (h'.row k g m' hg hm' hof).held hacc, hclosed]
      rw [hheld]
    · rw [beq_eq_false_iff_ne.mpr hacc, Bool.false_and, Bool.false_and]
  · rw [hm_of, hm'_of, beq_eq_false_iff_ne.mpr hof, Bool.false_and, Bool.false_and]

/-! ## 6. Runs -/

/-- One turn, that is orderly under the condition `p`. -/
def Turned (p : Prop) (db db' : Db) : Prop :=
  ∃ id g g' v, Turn id g g' v db db' ∧ (p → Orderly g g' v db)

theorem expiries_turned {p : Prop} {now : Int} {ty : Nat × LoanGuarantor → AccountType}
    {rows : List (Nat × LoanGuarantor)} (hnodup : (rows.map Prod.fst).Nodup)
    (hrows : ∀ row ∈ rows, db.loanGuarantors[row.1]? = some row.2 ∧ row.2.status = .pending)
    (h : Yields (rows.forM fun row => expireGuarantor now row (ty row)) db () db') :
    Relation.ReflTransGen (Turned p) db db' := by
  induction rows generalizing db with
  | nil =>
    rw [(yields_pure.mp h).2]
  | cons row rows ih =>
    obtain ⟨hnew, hnodup⟩ := List.nodup_cons.mp hnodup
    obtain ⟨_, mid, hfirst, hrest⟩ := yields_bind.mp h
    obtain ⟨hfound, hpending⟩ := hrows row List.mem_cons_self
    obtain ⟨g', hexpired, ht⟩ := expireGuarantor_turn hfound hpending hfirst
    have ho : Orderly row.2 g' .rejectedGuarantorDecline db := by
      refine ⟨fun hacc => ?_, fun _ _ => rfl⟩
      rw [hexpired] at hacc
      cases hacc
    refine .head ⟨_, _, _, _, ht, fun _ => ho⟩ (ih hnodup (fun later hlater => ?_) hrest)
    have hne : row.1 ≠ later.1 := fun heq => hnew (heq ▸ List.mem_map_of_mem hlater)
    obtain ⟨hat, hst⟩ := hrows later (List.mem_cons_of_mem _ hlater)
    exact ⟨turn_waiting ht hne hat hst, hst⟩

theorem respond_turned {now : Int} {args : DecisionArgs} {s : LoanStatus}
    (h : Yields (applyDecision now args) db s db') :
    Turned (db.orderly (.respond now args) = true) db db' := by
  obtain ⟨g, hg, hof, v, ht⟩ := applyDecision_turn h
  refine ⟨_, _, _, _, ht, fun horderly => ?_⟩
  unfold Db.orderly at horderly
  dsimp only at horderly
  rw [hg, Option.all_some] at horderly
  have hst : (g.answered now (args.nextStatus now g.invitedAt)).status =
      args.nextStatus now g.invitedAt := rfl
  refine ⟨fun hacc hrejected => ?_, fun hexpired hwaits => ?_⟩
  · rw [hst] at hacc
    rw [hacc, ← hof, hrejected] at horderly
    cases horderly
  · rw [hst] at hexpired
    rw [hexpired] at horderly ht
    dsimp only at horderly
    obtain ⟨loan, hl, hloan⟩ := Option.map_eq_some_iff.mp hwaits
    rcases ht.decided loan hl hloan with ⟨-, hv⟩ | ⟨product, hproduct, hv⟩
    · exact hv
    have hmet : ((db.putGuarantor args.guarantorId (g.answered now .expired)).coverageTally
        g.loanId).criteriaMet loan product = false := by
      rw [Bool.not_eq_true', Db.coveredWithout, ← hof, hl, Option.any_some, hloan, hproduct,
        Option.any_some, coverageTally_same (modify_eq_put hg)] at horderly
      exact horderly
    rw [hv, CoverageTally.verdict, hmet]
    -- a late answer closes a loan that is not covered
    rfl

theorem step_turned {op : Op} (hop : op.answers = true) :
    Relation.ReflTransGen (Turned (db.orderly op = true)) db (step db op) := by
  rcases step_cases db op with ⟨u, h⟩ | hsame
  · cases op with
    | respond now args =>
      obtain ⟨s, mid, hy, hend⟩ := yields_bind.mp h
      rw [← (yields_pure.mp hend).2]
      exact .single (respond_turned hy)
    | expireGuarantor now guarantorId =>
      have hy := h
      simp only [Op.exec, expireSpecificGuarantor, yields_bind, yields_get] at hy
      obtain ⟨_, _, ⟨rfl, rfl⟩, hy⟩ := hy
      split at hy
      · rw [← (yields_pure.mp hy).2]
      next g hfound =>
      obtain ⟨hg, hst⟩ := Option.filter_eq_some_iff.mp hfound
      have hloop : Yields ([(guarantorId, g)].forM fun row =>
          expireGuarantor now row (db.collateralTypeOf row.2.loanId)) db () _ :=
        yields_bind.mpr ⟨(), _, hy, yields_pure.mpr ⟨rfl, rfl⟩⟩
      have hnodup : ([(guarantorId, g)].map Prod.fst).Nodup := List.nodup_singleton guarantorId
      refine expiries_turned hnodup (fun row hrow => ?_) hloop
      rw [List.mem_singleton.mp hrow]
      exact ⟨hg, of_decide_eq_true hst⟩
    | expirySweep now cutoff =>
      have hy := h
      simp only [Op.exec, expireTenantGuarantors, yields_bind, yields_get] at hy
      obtain ⟨_, _, ⟨rfl, rfl⟩, hy⟩ := hy
      refine expiries_turned Table.nodup_selectRows (fun row hrow => ?_) hy
      obtain ⟨hat, hp⟩ := Table.mem_selectRows.mp hrow
      exact ⟨hat, beq_iff_eq.mp (Bool.and_eq_true_iff.mp hp).1⟩
    | _ => cases hop
  · rw [hsame]

/-- A transaction that overlaps with none is one step. -/
theorem pollStep_alone {e : PollEvent} (h : e.alone = true) : pollStep db e = step db e.op := by
  obtain ⟨op, unseen, stale⟩ := e
  obtain ⟨hunseen, hstale⟩ := Bool.and_eq_true_iff.mp h
  obtain rfl := List.isEmpty_iff.mp hunseen
  obtain rfl := List.isEmpty_iff.mp hstale
  cases op <;> rfl

theorem orderly_answers {op : Op} (h : db.orderly op = true) : op.answers = true := by
  cases op with
  | respond | expireGuarantor | expirySweep => rfl
  | _ => cases h

theorem step_sound {start : Db} {op : Op} (hop : op.answers = true) (h : Sound start loanId db) :
    Sound start loanId (step db op) := by
  have hturns : Relation.ReflTransGen (Turned (db.orderly op = true)) db (step db op) :=
    step_turned hop
  generalize step db op = db' at hturns ⊢
  induction hturns with
  | refl => exact h
  | tail _ hturn ih =>
    obtain ⟨_, _, _, _, ht, -⟩ := hturn
    exact turn_sound ht ih

theorem step_polled {start : Db} {op : Op} (hop : op.answers = true) (ho : db.orderly op = true)
    (h : Polled start loanId db) : Polled start loanId (step db op) := by
  have hturns : Relation.ReflTransGen (Turned (db.orderly op = true)) db (step db op) :=
    step_turned hop
  generalize step db op = db' at hturns ⊢
  induction hturns with
  | refl => exact h
  | tail _ hturn ih =>
    obtain ⟨_, _, _, _, ht, horderly⟩ := hturn
    exact turn_polled ht (horderly ho) ih

end ConsensusLemmas

open ConsensusLemmas

/-- A loan that moves on is covered then, in every run of answers and expiries whose transactions do
not overlap. Two such runs with the same answers leave the loan in the same status with the same
active holds, when no guarantor accepts for a rejected loan and no late answer is the one after
which the others cover the loan. -/
theorem guarantor_consensus (start : Db) (loanId : Nat) :
    (∀ events : List PollEvent, (∀ e ∈ events, e.op.answers = true ∧ e.alone = true) →
      ∀ loan, (start.polled events).loans[loanId]? = some loan → loan.status = .pendingApproval →
        start.loanStatus loanId = some .pendingApproval ∨
          ∃ product, (start.polled events).HasLoan loanId loan product ∧
            (start.polled events).guarantorsOf loanId [.pending] = [] ∧
            (start.polled events).Covered loanId loan product) ∧
    (∀ events events' : List PollEvent,
      Machine.Guarded pollStep (fun db e => e.orderly db = true) start events →
      Machine.Guarded pollStep (fun db e => e.orderly db = true) start events' →
      (start.polled events).answers loanId = (start.polled events').answers loanId →
      (start.polled events).loanStatus loanId = (start.polled events').loanStatus loanId ∧
        (start.polled events).activeHolds loanId = (start.polled events').activeHolds loanId) := by
  constructor
  · intro events hevents loan hl hst
    have hsound : Sound start loanId (start.polled events) := by
      refine Machine.run_induct (fun db e h he => ?_) ?_ (Machine.guarded_of_mem hevents)
      · rw [pollStep_alone he.2]
        exact step_sound he.1 h
      intro loan hl hst
      exact .inl (by rw [Db.loanStatus, hl, Option.map_some, hst])
    rcases hsound loan hl hst with hstart | ⟨product, hproduct, hmet⟩
    · exact .inl hstart
    · exact .inr ⟨product, ⟨hl, hproduct⟩, covered_of_criteria hmet⟩
  · intro events events' h h' hanswers
    have hpolled : ∀ events : List PollEvent,
        Machine.Guarded pollStep (fun db e => e.orderly db = true) start events →
        Polled start loanId (start.polled events) := by
      intro events h
      refine Machine.run_induct (fun db e hp he => ?_) (polled_start start loanId) h
      obtain ⟨halone, ho⟩ := Bool.and_eq_true_iff.mp he
      rw [pollStep_alone halone]
      exact step_polled (orderly_answers ho) ho hp
    exact polled_agree (hpolled events h) (hpolled events' h') hanswers

/-! ### A late answer -/

/-- The loan of KES 100 waits for guarantors of half of it; member 1 was asked at the start and
member 2 two days later. -/
def exPolled : Db :=
  { exReplaceable with
    loanGuarantors :=
      [(⟨1, 500000⟩ : Nomination).invited 0 0,
        (⟨2, 500000⟩ : Nomination).invited (48 * 3600000) 0] }

/-- A guarantor answers `hours` hours after the start. -/
def exVote (hours : Int) (guarantorId : Nat) (action : GuarantorWorkflowAction) : PollEvent where
  op := .respond (hours * 3600000)
    { loanId := 0
      guarantorId := guarantorId
      action := action
      digitalAcknowledgment := true
      source := .member }
  unseen := []
  stale := []

/-- The delayed job of member 1. -/
def exLapse : PollEvent := ⟨.expireGuarantor (72 * 3600000) 0, [], []⟩

theorem guarantor_consensus_in_time :
    ((exPolled.polled [exVote 50 0 .decline, exVote 51 1 .accept]).guarantorsOf 0 [.pending] = []) ∧
    ((exPolled.polled [exVote 50 0 .decline, exVote 51 1 .accept]).loanStatus 0 =
      (exPolled.polled [exVote 50 1 .accept, exVote 51 0 .decline]).loanStatus 0) ∧
    ((exPolled.polled [exVote 50 0 .decline, exVote 51 1 .accept]).activeHolds 0 =
      (exPolled.polled [exVote 50 1 .accept, exVote 51 0 .decline]).activeHolds 0) := by
  obtain ⟨hsound, hagree⟩ := guarantor_consensus exPolled 0
  have hcovered := hsound [exVote 50 0 .decline, exVote 51 1 .accept] (by decide)
    { exLoan with status := .pendingApproval } (by decide +kernel) rfl
  refine ⟨?_, hagree _ _ (by decide +kernel) (by decide +kernel) (by decide +kernel)⟩
  obtain ⟨_, -, hpending, -⟩ := hcovered.resolve_left (by decide)
  exact hpending

/-- Member 1 answers late and member 2 accepts: the loan moves on when the late answer comes last,
and is rejected when it comes first. The invitation of member 1 runs out and member 2 accepts: the
hold is let go when the acceptance comes first, and stays on the rejected loan when it comes last.
Both accept in time: when neither sees the other, the loan waits with nobody left to answer. -/
theorem consensus_depends_on_order :
    ((exPolled.polled [exVote 73 1 .accept, exVote 74 0 .decline]).answers 0 =
      (exPolled.polled [exVote 73 0 .decline, exVote 74 1 .accept]).answers 0) ∧
    ((exPolled.polled [exVote 73 1 .accept, exVote 74 0 .decline]).loanStatus 0 =
      some .pendingApproval) ∧
    ((exPolled.polled [exVote 73 0 .decline, exVote 74 1 .accept]).loanStatus 0 =
      some .rejectedGuarantorDecline) ∧
    ((exPolled.polled [exVote 71 1 .accept, exLapse]).answers 0 =
      (exPolled.polled [exLapse, exVote 73 1 .accept]).answers 0) ∧
    ((exPolled.polled [exVote 71 1 .accept, exLapse]).activeHolds 0 = []) ∧
    ((exPolled.polled [exLapse, exVote 73 1 .accept]).activeHolds 0 = [(1, 2, 500000)]) ∧
    ((exPolled.polled [exVote 50 0 .accept, exVote 51 1 .accept]).loanStatus 0 =
      some .pendingApproval) ∧
    ((exPolled.polled [exVote 50 0 .accept, { exVote 51 1 .accept with unseen := [0] }]).answers 0 =
      [(0, .accepted), (1, .accepted)]) ∧
    ((exPolled.polled [exVote 50 0 .accept, { exVote 51 1 .accept with unseen := [0] }]).loanStatus 0 =
      some .pendingGuarantors) := by
  refine ⟨?_, ?_, ?_, ?_, ?_, ?_, ?_, ?_, ?_⟩ <;> decide +kernel

end BebaSacco
