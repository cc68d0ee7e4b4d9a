import BebaSacco.Guarantors

/-! # What the guarantee services write

The inversions of the functions that place, release and take holds: what a committed call
has checked, and the tables it leaves.

Results:
 1. `releaseAcceptedHold_cases`, `releaseRejected_cases`: the two ways of releasing a hold.
 2. `releaseOnFullRepayment_cases`: the third way, which reads the accounts before its loop,
    does what the second does.
 3. `applyDecision_cases`, `expireGuarantor_cases`, `reject_cases`: the operations.
 4. `recoverFromGuarantor_cases`, `forfeitGuarantor_cases`: savings taken from a guarantor.
-/

namespace BebaSacco

open Txn FootprintLemmas GuarantorLemmas

/-! ## 1. Placing and releasing one hold -/

/-- No account, loan, product or guarantee changed. -/
structure Db.SameHolds (db db' : Db) : Prop where
  accounts : db'.accounts = db.accounts
  loans : db'.loans = db.loans
  loanProducts : db'.loanProducts = db.loanProducts
  loanGuarantors : db'.loanGuarantors = db.loanGuarantors

/-- The statement row `t` and its leg were written, and nothing else that a hold depends on. -/
structure Db.Booked (db : Db) (t : Transaction) (db' : Db) : Prop where
  holds : db.SameHolds db'
  transactions : db'.transactions = db.transactions ++ [t]
  tenantId : db'.tenantId = db.tenantId

/-- Savings of the member were unfrozen: `amount`, or what was frozen when that is less. -/
def Db.Unfrozen (db : Db) (memberId amount : Nat) (accountType : AccountType) (db' : Db) : Prop :=
  (db' = db ∧
    ∀ r, db.activeAccount memberId accountType = some r → min r.2.frozenSavings amount = 0) ∨
  ∃ id a, db.activeAccount memberId accountType = some (id, a) ∧
    db' = db.updateAccount id (·.hold (-(min a.frozenSavings amount)))

/-- What a committed response has found, and the state in which the row is answered: the
hold was placed when the response is an acceptance. -/
structure Responded (now : Int) (args : DecisionArgs) (db : Db) (g : LoanGuarantor) (loan : Loan)
    (product : LoanProduct) (held : Db) : Prop where
  row : db.loanGuarantors[args.guarantorId]? = some g
  ofLoan : g.loanId = args.loanId
  pending : g.status = .pending
  loan_eq : db.loans[args.loanId]? = some loan
  product_eq : db.loanProducts[loan.loanProductId]? = some product
  placed : args.nextStatus now g.invitedAt = .accepted →
    Yields (placeGuarantorHolds g.memberId g.guaranteedAmount
      (product.requiredAccountType.getD .fosa)) db () held
  kept : args.nextStatus now g.invitedAt ≠ .accepted → held = db

namespace PledgeLemmas

theorem normalize_one {item : Nomination} (h : normalizeGuarantors [] [item] = .ok ()) :
    0 < item.guaranteedAmount :=
  ((normalizeGuarantors_ok h).2 item List.mem_cons_self).2

theorem placeGuarantorHolds_cases {memberId amount : Nat} {ty : AccountType} {u : Unit}
    {db db' : Db} (h : Yields (placeGuarantorHolds memberId amount ty) db u db') :
    0 < amount ∧ ∃ id a, db.activeAccount memberId ty = some (id, a) ∧
      (amount : Int) ≤ a.available ∧ db' = db.updateAccount id (·.hold amount) := by
  simp only [placeGuarantorHolds, yields_bind, yields_fromExcept, yields_get, yields_required,
    yields_ensure, yields_modify] at h
  obtain ⟨_, _, ⟨hn, rfl⟩, _, _, ⟨rfl, rfl⟩, r, _, ⟨hr, rfl⟩, _, _, ⟨hav, rfl⟩, _, _, ⟨_, rfl⟩,
    rfl⟩ := h
  exact ⟨normalize_one hn, r.1, r.2, hr, hav, rfl⟩

theorem releaseGuarantorHolds_cases {memberId amount : Nat} {ty : AccountType} {u : Unit}
    {db db' : Db} (h : Yields (releaseGuarantorHolds memberId amount ty) db u db') :
    0 < amount ∧ db.Unfrozen memberId amount ty db' := by
  simp only [releaseGuarantorHolds, yields_bind, yields_fromExcept, yields_get] at h
  obtain ⟨_, _, ⟨hn, rfl⟩, _, _, ⟨rfl, rfl⟩, h⟩ := h
  refine ⟨normalize_one hn, ?_⟩
  cases hacc : db.activeAccount memberId ty with
  | none =>
    simp only [hacc, yields_pure] at h
    refine .inl ⟨h.2.symm, fun r hr => ?_⟩
    rw [hacc] at hr
    cases hr
  | some r =>
    simp only [hacc, yields_ite, yields_pure, yields_modify] at h
    rcases h with ⟨hzero, _, rfl⟩ | ⟨_, rfl⟩
    · refine .inl ⟨rfl, fun r' hr' => ?_⟩
      rw [hacc] at hr'
      cases hr'
      exact hzero
    · exact .inr ⟨r.1, r.2, hacc, rfl⟩

theorem releaseAcceptedHold_cases {now : Int} {ty : AccountType} {row : Nat × LoanGuarantor}
    {u : Unit} {db db' : Db} (h : Yields (releaseAcceptedHold now ty row) db u db') :
    (row.2.holdReleasedAt.isSome = true ∧ db' = db) ∨
    (row.2.holdReleasedAt = none ∧ 0 < row.2.guaranteedAmount ∧
      ∃ mid, db.Unfrozen row.2.memberId row.2.guaranteedAmount ty mid ∧
        db' = mid.updateGuarantor row.1 (·.released now)) := by
  unfold releaseAcceptedHold at h
  rcases yields_ite.mp h with ⟨hrel, h⟩ | ⟨hrel, h⟩
  · exact .inl ⟨hrel, (yields_pure.mp h).2.symm⟩
  · simp only [yields_bind, yields_modify] at h
    obtain ⟨_, mid, hfree, rfl⟩ := h
    obtain ⟨hpos, hun⟩ := releaseGuarantorHolds_cases hfree
    exact .inr ⟨by simpa using hrel, hpos, mid, hun, rfl⟩

theorem releaseRejected_cases {now : Int} {ty : AccountType} {row : Nat × LoanGuarantor}
    {u : Unit} {db db' : Db} (h : Yields (releaseRejected now ty row) db u db') :
    (db' = db ∧ ∀ r, db.activeAccount row.2.memberId ty = some r →
      min r.2.frozenSavings row.2.guaranteedAmount ≤ 0) ∨
    ∃ id a, db.activeAccount row.2.memberId ty = some (id, a) ∧
      0 < min a.frozenSavings (row.2.guaranteedAmount : Int) ∧
      db' = (db.updateAccount id (·.hold (-(min a.frozenSavings row.2.guaranteedAmount)))).updateGuarantor
        row.1 (·.released now) := by
  simp only [releaseRejected, yields_bind, yields_get] at h
  obtain ⟨_, _, ⟨rfl, rfl⟩, h⟩ := h
  exact releaseFullyRepaid_cases h

/-! ## 2. The release on full repayment -/

theorem mem_unreleasedGuarantors {db : Db} {loanId : Nat} {r : Nat × LoanGuarantor} :
    r ∈ db.unreleasedGuarantors loanId ↔
      db.loanGuarantors[r.1]? = some r.2 ∧ r.2.loanId = loanId ∧ r.2.status = .accepted ∧
        r.2.holdReleasedAt = none := by
  rw [Db.unreleasedGuarantors, Table.mem_selectRows, Bool.and_eq_true, Bool.and_eq_true,
    beq_iff_eq, beq_iff_eq, Option.isNone_iff_eq_none, and_assoc]

/-- Two rows of one loan are of different members. -/
theorem member_ne {db : Db} (hk : Keyed db) {id id' : Nat} {g g' : LoanGuarantor}
    (hrow : db.loanGuarantors[id]? = some g) (hrow' : db.loanGuarantors[id']? = some g')
    (hne : id ≠ id') (hloan : g.loanId = g'.loanId) : g.memberId ≠ g'.memberId := by
  intro hmember
  have hkeys : (db.loanGuarantors.map LoanGuarantor.key)[id]? =
      (db.loanGuarantors.map LoanGuarantor.key)[id']? := by
    rw [List.getElem?_map, List.getElem?_map, hrow, hrow', Option.map_some, Option.map_some,
      LoanGuarantor.key, LoanGuarantor.key, hloan, hmember]
  have hlt : id < (db.loanGuarantors.map LoanGuarantor.key).length := by
    rw [List.length_map]
    exact Table.lt_length_of_getElem? hrow
  exact hne ((List.getElem?_inj hlt hk.unique).mp hkeys)

theorem activeAccount_other {db : Db} {i m m' : Nat} {ty ty' : AccountType} {a : Account}
    {f : Account → Account} (h : db.activeAccount m ty = some (i, a)) (hne : m ≠ m')
    (hf : (f a).memberId = a.memberId) :
    (db.updateAccount i f).activeAccount m' ty' = db.activeAccount m' ty' := by
  obtain ⟨hrow, hm, _⟩ := activeAccount_some h
  refine Table.findRow_modify_other hrow ?_ ?_
  · rw [beq_false_of_ne (hm ▸ hne), Bool.false_and, Bool.false_and]
  · rw [hf, beq_false_of_ne (hm ▸ hne), Bool.false_and, Bool.false_and]

/-- The guarantees of one loan are of different members. -/
theorem unreleased_members {db : Db} (hk : Keyed db) (loanId : Nat) :
    ((db.unreleasedGuarantors loanId).map (·.2.memberId)).Nodup := by
  have hkeys := hk.unique
  rw [show (fun r : Nat × LoanGuarantor => r.2.memberId) = LoanGuarantor.memberId ∘ Prod.snd from rfl,
    ← List.map_map, Db.unreleasedGuarantors, Table.map_snd_selectRows]
  have hsub : ((db.loanGuarantors.filter fun g => g.loanId == loanId && g.status == .accepted &&
      g.holdReleasedAt.isNone).map LoanGuarantor.key).Nodup :=
    (List.filter_sublist.map _).nodup hkeys
  refine List.Nodup.map_on (fun x hx y hy hxy => ?_) hsub.of_map
  have hloan : ∀ g ∈ db.loanGuarantors.filter fun g => g.loanId == loanId && g.status == .accepted &&
      g.holdReleasedAt.isNone, g.loanId = loanId := by
    intro g hg
    have hp := (List.mem_filter.mp hg).2
    simp only [Bool.and_eq_true, beq_iff_eq] at hp
    exact hp.1.1
  refine List.inj_on_of_nodup_map hsub hx hy ?_
  rw [LoanGuarantor.key, LoanGuarantor.key, hloan x hx, hloan y hy, hxy]

/-- The accounts were read before the loop; each of them is as it was read when its turn
comes, because the guarantees are of different members. -/
theorem releaseFullyRepaid_fresh {now : Int} {ty : AccountType}
    {accountOf : Nat → Option (Nat × Account)} {rows : List (Nat × LoanGuarantor)}
    (hnodup : (rows.map (·.2.memberId)).Nodup) {db db' : Db}
    (hread : ∀ r ∈ rows, db.activeAccount r.2.memberId ty = accountOf r.2.memberId)
    (h : Yields (rows.forM (releaseFullyRepaid now accountOf)) db () db') :
    Yields (rows.forM (releaseRejected now ty)) db () db' := by
  induction rows generalizing db with
  | nil => exact h
  | cons row rows ih =>
    obtain ⟨hnew, hnodup⟩ := List.nodup_cons.mp hnodup
    obtain ⟨_, mid, hrow, hrest⟩ := yields_bind.mp h
    have hfirst : Yields (releaseRejected now ty row) db () mid := by
      simp only [releaseRejected, yields_bind, yields_get]
      refine ⟨_, _, ⟨rfl, rfl⟩, ?_⟩
      have hsame := hread row List.mem_cons_self
      unfold releaseFullyRepaid at hrow ⊢
      dsimp only
      rw [hsame]
      exact hrow
    refine yields_bind.mpr ⟨(), mid, hfirst, ih hnodup (fun r hr => ?_) hrest⟩
    have hne : row.2.memberId ≠ r.2.memberId := by
      intro heq
      exact hnew (List.mem_map.mpr ⟨r, hr, heq.symm⟩)
    rw [← hread r (List.mem_cons_of_mem _ hr)]
    rcases releaseRejected_cases hfirst with ⟨rfl, _⟩ | ⟨id, a, hacc, _, rfl⟩
    · rfl
    · exact activeAccount_other hacc hne rfl

theorem releaseOnFullRepayment_cases {now : Int} {loanId : Nat} {u : Unit} {db db' : Db}
    (hk : Keyed db) (h : Yields (releaseGuarantorHoldsOnFullRepayment now loanId) db u db') :
    (db.loans[loanId]? = none ∧ db' = db) ∨
    Yields ((db.unreleasedGuarantors loanId).forM
      (releaseRejected now (db.collateralTypeOf loanId))) db () db' := by
  simp only [releaseGuarantorHoldsOnFullRepayment, yields_bind, yields_get] at h
  obtain ⟨_, _, ⟨rfl, rfl⟩, h⟩ := h
  cases hl : db.loans[loanId]? with
  | none =>
    simp only [hl, yields_pure] at h
    exact .inl ⟨rfl, h.2.symm⟩
  | some loan =>
    simp only [hl] at h
    have hty : db.collateralTypeOf loanId = db.collateralType loan := by
      rw [Db.collateralTypeOf, hl]
      rfl
    rw [hty]
    exact .inr (releaseFullyRepaid_fresh (unreleased_members hk loanId) (fun _ _ => rfl) h)

/-! ## 3. Responses, expiry and rejection -/

/-- A response has left the loan alone, completed its guarantors or closed it. -/
theorem applyLoanState_cases {now : Int} {loanId : Nat} {loan : Loan} {product : LoanProduct}
    {next : GuarantorStatus} {s : LoanStatus} {db db' : Db}
    (h : Yields (applyLoanState now loanId loan product next) db s db') :
    ((loan.status = .pendingGuarantors →
      (db.coverageTally loanId).criteriaMet loan product = false ∧
        (db.coverageTally loanId).shouldTerminallyReject product next = false) ∧ db' = db) ∨
    (loan.status = .pendingGuarantors ∧
      (db.coverageTally loanId).criteriaMet loan product = true ∧
      db' = db.updateLoan loanId fun l =>
        if l.status = .pendingGuarantors then { l with status := .pendingApproval } else l) ∨
    (loan.status = .pendingGuarantors ∧
      (db.coverageTally loanId).criteriaMet loan product = false ∧
      (db.coverageTally loanId).shouldTerminallyReject product next = true ∧ ∃ mid,
        Yields ((db.guarantorsOf loanId [.accepted]).forM
          (releaseAcceptedHold now (product.requiredAccountType.getD .fosa))) db () mid ∧
        db' = mid.updateLoan loanId fun l =>
          if l.status = .pendingGuarantors then { l with status := .rejectedGuarantorDecline }
          else l) := by
  unfold applyLoanState at h
  rcases yields_ite.mp h with ⟨hst, h⟩ | ⟨hst, h⟩
  · exact .inl ⟨fun hwaits => absurd hwaits hst, (yields_pure.mp h).2.symm⟩
  have hst := Decidable.not_not.mp hst
  simp only [yields_bind, yields_get] at h
  obtain ⟨_, _, ⟨rfl, rfl⟩, h⟩ := h
  rcases yields_ite.mp h with ⟨hmet, h⟩ | ⟨hmet, h⟩
  · simp only [yields_bind, yields_modify, yields_pure] at h
    obtain ⟨_, _, rfl, _, rfl⟩ := h
    exact .inr (.inl ⟨hst, hmet, rfl⟩)
  rw [Bool.not_eq_true] at hmet
  rcases yields_ite.mp h with ⟨hrej, h⟩ | ⟨hrej, h⟩
  · simp only [yields_bind, yields_modify, yields_pure] at h
    obtain ⟨_, mid, hloop, _, _, rfl, _, rfl⟩ := h
    exact .inr (.inr ⟨hst, hmet, hrej, mid, hloop, rfl⟩)
  · rw [Bool.not_eq_true] at hrej
    exact .inl ⟨fun _ => ⟨hmet, hrej⟩, (yields_pure.mp h).2.symm⟩

theorem applyDecision_cases {now : Int} {args : DecisionArgs} {s : LoanStatus} {db db' : Db}
    (h : Yields (applyDecision now args) db s db') :
    ∃ g loan product held, Responded now args db g loan product held ∧
      Yields (applyLoanState now args.loanId loan product (args.nextStatus now g.invitedAt))
        (held.updateGuarantor args.guarantorId
          (·.answered now (args.nextStatus now g.invitedAt))) s db' := by
  simp only [applyDecision, yields_bind, yields_get, yields_ensure, yields_required,
    Option.filter_eq_some_iff, decide_eq_true_eq] at h
  obtain ⟨_, _, ⟨_, rfl⟩, _, _, ⟨rfl, rfl⟩, g, _, ⟨⟨hrow, hloanId⟩, rfl⟩, _, _, ⟨hpend, rfl⟩,
    loan, _, ⟨hloan, rfl⟩, product, _, ⟨hprod, rfl⟩, h⟩ := h
  rcases yields_ite.mp h with ⟨hacc, h⟩ | ⟨hacc, h⟩
  · simp only [assertGuarantorCanAccept, yields_bind, yields_get, yields_required, yields_ensure,
      yields_modify] at h
    obtain ⟨_, _, ⟨_, _, ⟨rfl, rfl⟩, _, _, ⟨_, rfl⟩, _, rfl⟩, _, held, hplace, _, _, rfl, h⟩ := h
    exact ⟨g, loan, product, held, ⟨hrow, hloanId, hpend, hloan, hprod, fun _ => hplace,
      fun hne => absurd hacc hne⟩, h⟩
  · simp only [yields_bind, yields_modify] at h
    obtain ⟨_, _, rfl, h⟩ := h
    exact ⟨g, loan, product, db, ⟨hrow, hloanId, hpend, hloan, hprod, fun he => absurd he hacc,
      fun _ => rfl⟩, h⟩

theorem rejectForTimeout_cases {now : Int} {loanId : Nat} {ty : AccountType} {u : Unit}
    {db db' : Db} (h : Yields (rejectLoanForGuarantorTimeout now loanId ty) db u db') :
    (db.loans[loanId]?.filter (·.status = .pendingGuarantors) = none ∧ db' = db) ∨
    ∃ loan mid, db.loans[loanId]? = some loan ∧ loan.status = .pendingGuarantors ∧
      Yields ((db.guarantorsOf loanId [.accepted]).forM (releaseAcceptedHold now ty)) db () mid ∧
      db' = mid.updateLoan loanId fun l =>
        if l.status = .pendingGuarantors then { l with status := .rejectedGuarantorDecline }
        else l := by
  simp only [rejectLoanForGuarantorTimeout, yields_bind, yields_get] at h
  obtain ⟨_, _, ⟨rfl, rfl⟩, h⟩ := h
  cases hl : db.loans[loanId]?.filter (·.status = .pendingGuarantors) with
  | none =>
    simp only [hl, yields_pure] at h
    exact .inl ⟨rfl, h.2.symm⟩
  | some loan =>
    simp only [hl, yields_bind, yields_modify] at h
    obtain ⟨_, mid, hloop, rfl⟩ := h
    obtain ⟨hloan, hst⟩ := Option.filter_eq_some_iff.mp hl
    exact .inr ⟨loan, mid, hloan, of_decide_eq_true hst, hloop, rfl⟩

theorem expireGuarantor_cases {now : Int} {row : Nat × LoanGuarantor} {ty : AccountType} {u : Unit}
    {db db' : Db} (h : Yields (expireGuarantor now row ty) db u db') :
    ∃ freed, (row.2.holdPlacedAt.isSome = true →
        0 < row.2.guaranteedAmount ∧ db.Unfrozen row.2.memberId row.2.guaranteedAmount ty freed) ∧
      (row.2.holdPlacedAt = none → freed = db) ∧
      Yields (rejectLoanForGuarantorTimeout now row.2.loanId ty)
        (freed.updateGuarantor row.1 (·.expire now row.2.holdPlacedAt.isSome)) u db' := by
  unfold expireGuarantor at h
  rcases yields_ite.mp h with ⟨hheld, h⟩ | ⟨hheld, h⟩
  · simp only [yields_bind, yields_modify] at h
    obtain ⟨_, freed, hfree, _, _, rfl, h⟩ := h
    refine ⟨freed, fun _ => releaseGuarantorHolds_cases hfree, fun hnone => ?_, h⟩
    rw [hnone] at hheld
    cases hheld
  · simp only [yields_bind, yields_modify] at h
    obtain ⟨_, _, rfl, h⟩ := h
    exact ⟨db, fun he => absurd he hheld, fun _ => rfl, h⟩

theorem reject_cases {now : Int} {loanId : Nat} {u : Unit} {db db' : Db}
    (h : Yields (reject now loanId) db u db') :
    ∃ loan mid, db.loans[loanId]? = some loan ∧ loan.status.rejectable = true ∧
      Yields ((db.unreleasedGuarantors loanId).forM
        (releaseRejected now (db.collateralTypeOf loanId))) db () mid ∧
      db' = mid.updateLoan loanId fun loan => { loan with status := .rejected } := by
  simp only [reject, yields_bind, yields_get, yields_required, yields_ensure, yields_modify] at h
  obtain ⟨_, _, ⟨rfl, rfl⟩, loan, _, ⟨hloan, rfl⟩, _, _, ⟨hst, rfl⟩, _, mid, hloop, rfl⟩ := h
  refine ⟨loan, mid, hloan, hst, ?_, rfl⟩
  rw [Db.collateralTypeOf, hloan]
  exact hloop

/-! ## 4. Savings taken from a guarantor -/

theorem booked_of_leg {t : Transaction} {p : LegParams} {id : Nat} {r : LegResult}
    {db mid db' : Db} (ht : Yields (createTransaction t) db id mid)
    (hl : Yields (postGlOnlyLegEntry p) mid r db') : db.Booked t db' := by
  obtain ⟨_, _, rfl⟩ := yields_createTransaction.mp ht
  obtain ⟨_, ⟨rfl, _⟩ | ⟨_, _, rfl⟩⟩ := postGlOnlyLegEntry_cases hl
  · exact ⟨⟨rfl, rfl, rfl, rfl⟩, rfl, rfl⟩
  · exact ⟨⟨rfl, rfl, rfl, rfl⟩, rfl, rfl⟩

theorem recoverFromGuarantor_cases {now : Int} {loanId : Nat} {loanNumber attempt by' : String}
    {ty : AccountType} {allocation : RecoveryAllocation} {n : Nat} {db db' : Db}
    (h : Yields (recoverFromGuarantor now loanId loanNumber ty attempt by' allocation) db n db') :
    db' = db ∨ ∃ id r a taken t, allocation.account = some (id, r) ∧ db.accounts[id]? = some a ∧
      taken = min (min allocation.deduction a.balance) a.frozenSavings ∧ 0 < taken ∧
      (t : Transaction).amount = taken ∧
      ((db.updateAccount id (·.forfeit taken)).updateGuarantor allocation.guarantorId
        (·.recover taken (if a.frozenSavings - taken ≤ 0 then some now else none))).Booked t db' := by
  rcases recoverFromGuarantor_takes h with
    ⟨rfl, -⟩ | ⟨id, r, a, _, _, hacc, -, ha, rfl, hpos, -, rfl, _, _, _, _, _, _, _, htxn, hleg⟩
  · exact .inl rfl
  · exact .inr ⟨id, r, a, _, _, hacc, ha, rfl, hpos, rfl, booked_of_leg htxn hleg⟩

theorem forfeitGuarantor_cases {now : Int} {loanId : Nat} {loanNumber attempt : String}
    {row : Nat × LoanGuarantor} {n : Nat} {db db' : Db}
    (h : Yields (forfeitGuarantor now loanId loanNumber attempt row) db n db') :
    (db' = db ∧ n = 0 ∧ ∀ id a, db.activeAccount row.2.memberId .bosa = some (id, a) →
      0 < row.2.forfeitable a → ∃ t, db.transactionByReference
        (guarantorForfeitureReference db.tenantId loanId id attempt) = some t) ∨
    ∃ id a t, db.activeAccount row.2.memberId .bosa = some (id, a) ∧
      db.transactionByReference (guarantorForfeitureReference db.tenantId loanId id attempt) = none ∧
      0 < row.2.forfeitable a ∧ n = (row.2.forfeitable a).toNat ∧
      (t : Transaction).amount = row.2.forfeitable a ∧
      t.reference = guarantorForfeitureReference db.tenantId loanId id attempt ∧
      ((db.updateAccount id (·.forfeit (row.2.forfeitable a))).updateGuarantor row.1
        (·.recover (row.2.forfeitable a) (some now))).Booked t db' := by
  refine (forfeitGuarantor_takes h).imp_right ?_
  rintro ⟨id, a, hacc, hnew, hpos, hn, _, _, _, _, _, _, _, htxn, hleg⟩
  exact ⟨id, a, _, hacc, hnew, hpos, hn, rfl, rfl, booked_of_leg htxn hleg⟩

end PledgeLemmas

end BebaSacco
