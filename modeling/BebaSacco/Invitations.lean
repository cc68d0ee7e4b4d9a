import BebaSacco.Pledges

/-! # The window of an invitation

A guarantor has 72 hours to answer. Every invitation adds a delayed job that expires its row, and
a job carries the id of the row only, while asking the guarantor again resets the row. The hourly
sweep looks at the date of the invitation; the job does not. So the window is kept as long as no
job left over from an earlier invitation finds its row waiting for a later one.

Results:
 1. `serve_timely`, `sweep_timely`: what a request and a sweep can expire.
 2. `expiry_in_window`: in every run without such a job an invitation expires only when its
    window is over, and an answer inside the window never finds it expired.
 3. `stale_job_expires`: the job of the first invitation expires the second after an hour.
-/

namespace BebaSacco

open Txn FootprintLemmas PledgeLemmas

/-! ## 1. The calendar -/

/-- A delayed job, for the row that was invited when it was added. -/
structure ExpiryJob where
  guarantorId : Nat
  addedAt : Int
  deriving DecidableEq, Repr

def ExpiryJob.dueAt (job : ExpiryJob) : Int := job.addedAt + consentExpiryMs

/-- The database, the clock that all services read and the jobs that were added so far. A job
stays: it may be run again. -/
structure Calendar where
  db : Db
  clock : Int
  expiryQueue : List ExpiryJob
  deriving DecidableEq, Repr

/-- Time passes, a request is served, a delayed job runs, or the hourly sweep does, `delay` after
it worked out its cutoff. -/
inductive ConsentEvent
  | wait (ms : Nat)
  | serve (op : Op)
  | fire (job : Nat)
  | sweep (delay : Nat)
  deriving DecidableEq, Repr

/-- The operation as it is served when the clock shows `clock`. The expiry of guarantees is left to
the queue. -/
def Op.servedAt (clock : Int) : Op → Option Op
  | .repay params => some (.repay { params with now := clock })
  | .processRepayment _ input => some (.processRepayment clock input)
  | .createApplication _ loan requiresGuarantors guarantors =>
    some (.createApplication clock loan requiresGuarantors guarantors)
  | .inviteGuarantor seen _ loanId nominated item =>
    some (.inviteGuarantor seen clock loanId nominated item)
  | .respond _ args => some (.respond clock args)
  | .reject _ loanId => some (.reject clock loanId)
  | .updateStatus seen _ loanId targetStatus reason =>
    some (.updateStatus seen clock loanId targetStatus reason)
  | .recover _ loanId defaultAmount actorId => some (.recover clock loanId defaultAmount actorId)
  | .offset _ loanId jobId => some (.offset clock loanId jobId)
  | .expireGuarantor _ _ => none
  | .expirySweep _ _ => none
  | op => some op

/-- The jobs that are added once `op` has taken the tables from `db` to `db'`: one for each
guarantor that it invited. -/
def Op.expiryJobs (clock : Int) (db db' : Db) : Op → List ExpiryJob
  | .createApplication .. =>
    (List.range' db.loanGuarantors.length
      (db'.loanGuarantors.length - db.loanGuarantors.length)).map fun id => ⟨id, clock⟩
  | .inviteGuarantor seen _ loanId nominated item =>
    match seen.invitable loanId nominated with
    | .error _ => []
    | .ok loan =>
      if (seen.ineligible item loan.memberId (seen.collateralType loan)).isSome then []
      else (db'.guarantorRow loanId item.memberId).toList.map fun r => ⟨r.1, clock⟩
  | _ => []

def Calendar.step (w : Calendar) : ConsentEvent → Calendar
  | .wait ms => { w with clock := w.clock + ms }
  | .serve op =>
    match op.servedAt w.clock with
    | none => w
    | some op =>
      { w with
        db := BebaSacco.step w.db op
        expiryQueue := w.expiryQueue ++ op.expiryJobs w.clock w.db (BebaSacco.step w.db op) }
  | .fire job =>
    match w.expiryQueue[job]?.filter (·.dueAt ≤ w.clock) with
    | none => w
    | some job => { w with db := BebaSacco.step w.db (.expireGuarantor w.clock job.guarantorId) }
  | .sweep delay =>
    { w with db := BebaSacco.step w.db (.expirySweep w.clock (w.clock - delay - consentExpiryMs)) }

def Calendar.after (w : Calendar) (events : List ConsentEvent) : Calendar :=
  Machine.run Calendar.step w events

/-- The calendar of a tenant that has not invited anybody yet. -/
def Calendar.opening (db : Db) (clock : Int) : Calendar := ⟨db, clock, []⟩

/-! ## 2. The window -/

/-- The window of the invitation is over. -/
def LoanGuarantor.windowOver (guarantor : LoanGuarantor) (clock : Int) : Bool :=
  guarantor.invitedAt + consentExpiryMs ≤ clock

/-- A job that runs on a waiting guarantor was added by the latest invitation, or by an earlier one
and is so late that the window of the latest is over too. -/
def Calendar.timely (w : Calendar) : ConsentEvent → Bool
  | .fire job =>
    (w.expiryQueue[job]?.filter (·.dueAt ≤ w.clock)).all fun job =>
      (w.db.loanGuarantors[job.guarantorId]?.filter (·.status = .pending)).all fun g =>
        g.invitedAt ≤ job.addedAt || g.windowOver w.clock
  | _ => true

/-- What an event may do to an invitation: it expires one only when it was waiting and its window
was over, and an answer that is given inside the window finds it not expired and does not expire
it. -/
structure Calendar.WindowKept (w : Calendar) (e : ConsentEvent) : Prop where
  expires : ∀ (id : Nat) (g' : LoanGuarantor), (w.step e).db.loanGuarantors[id]? = some g' →
    g'.status = .expired → ∃ g, w.db.loanGuarantors[id]? = some g ∧
      (g.status = .expired ∨ (g.status = .pending ∧ g.windowOver w.clock = true))
  answers : ∀ (now : Int) (args : DecisionArgs) (g : LoanGuarantor), e = .serve (.respond now args) →
    w.db.loanGuarantors[args.guarantorId]? = some g → g.windowOver w.clock = false →
    g.status ≠ .expired ∧ ∀ g', (w.step e).db.loanGuarantors[args.guarantorId]? = some g' →
      g'.status ≠ .expired

/-- Every expired invitation is past its window. -/
def Calendar.Elapsed (w : Calendar) : Prop :=
  ∀ g ∈ w.db.loanGuarantors, g.status = .expired → g.windowOver w.clock = true

/-- A guarantee that expired from `db` to `db'` was waiting and past its window. -/
def Db.Timely (clock : Int) (db db' : Db) : Prop :=
  ∀ (id : Nat) (g' : LoanGuarantor), db'.loanGuarantors[id]? = some g' → g'.status = .expired →
    ∃ g, db.loanGuarantors[id]? = some g ∧ g'.invitedAt = g.invitedAt ∧
      (g.status = .expired ∨ (g.status = .pending ∧ g.windowOver clock = true))

/-- The guarantees kept their invitations; those that expired were waiting and past their
window. -/
def Db.OnlyExpires (clock : Int) (db db' : Db) : Prop :=
  ∀ (id : Nat) (g' : LoanGuarantor), db'.loanGuarantors[id]? = some g' →
    ∃ g, db.loanGuarantors[id]? = some g ∧ g'.invitedAt = g.invitedAt ∧
      (g'.status = g.status ∨
        (g.status = .pending ∧ g'.status = .expired ∧ g.windowOver clock = true))

/-- No invitation changed. -/
def Db.SameInvitations (db db' : Db) : Prop :=
  db'.loanGuarantors.map LoanGuarantor.invitation = db.loanGuarantors.map LoanGuarantor.invitation

namespace InvitationLemmas

instance : History Db.SameInvitations := ⟨fun _ => rfl, fun h k => Eq.trans k h⟩

instance : AdmitsBalance Db.SameInvitations := ⟨fun _ _ _ => rfl, fun _ _ _ => rfl⟩

instance : AdmitsHold Db.SameInvitations := ⟨fun _ _ _ => rfl⟩

instance : AdmitsForfeit Db.SameInvitations := ⟨fun _ _ _ => rfl⟩

instance : AdmitsTransaction Db.SameInvitations :=
  ⟨fun _ _ => rfl, fun _ _ _ => rfl, fun _ _ => rfl, fun _ _ => rfl⟩

instance : AdmitsEntry Db.SameInvitations := ⟨fun _ _ => rfl⟩

instance : AdmitsLoan Db.SameInvitations := ⟨fun _ _ _ _ => rfl⟩

instance : AdmitsRepayment Db.SameInvitations := ⟨fun _ _ _ => rfl, fun _ _ => rfl⟩

instance : AdmitsRelease Db.SameInvitations := ⟨fun _ _ _ hf => Table.map_modify_same hf⟩

instance : AdmitsMpesa Db.SameInvitations := ⟨fun _ _ _ => rfl⟩

instance : AdmitsChain Db.SameInvitations := ⟨fun _ _ => rfl⟩

/-! ## 3. What a request and a sweep can expire -/

theorem sameInvitations_row {db db' : Db} (h : db.SameInvitations db') {id : Nat}
    {g' : LoanGuarantor} (hg' : db'.loanGuarantors[id]? = some g') :
    ∃ g, db.loanGuarantors[id]? = some g ∧ g'.invitedAt = g.invitedAt ∧ g'.status = g.status := by
  have hmap : (db.loanGuarantors.map LoanGuarantor.invitation)[id]? = some g'.invitation := by
    rw [← h, List.getElem?_map, hg']
    rfl
  rw [List.getElem?_map] at hmap
  obtain ⟨g, hg, hinv⟩ := Option.map_eq_some_iff.mp hmap
  have hat : g.invitation.invitedAt = g'.invitation.invitedAt := by rw [hinv]
  have hst : g.invitation.status = g'.invitation.status := by rw [hinv]
  exact ⟨g, hg, hat.symm, hst.symm⟩

theorem onlyExpires_of_same {clock : Int} {db db' : Db} (h : db.SameInvitations db') :
    db.OnlyExpires clock db' := by
  intro id g' hg'
  obtain ⟨g, hg, hat, hst⟩ := sameInvitations_row h hg'
  exact ⟨g, hg, hat, .inl hst⟩

instance (clock : Int) : History (Db.OnlyExpires clock) where
  refl _ := onlyExpires_of_same rfl
  trans h k := by
    intro id g' hg'
    obtain ⟨m, hm, hat, hst⟩ := k id g' hg'
    obtain ⟨g, hg, hat', hst'⟩ := h id m hm
    refine ⟨g, hg, hat.trans hat', ?_⟩
    rcases hst with hsame | ⟨hpend, hexp, hover⟩
    · rw [hsame]
      exact hst'
    · rcases hst' with hsame' | ⟨_, hexp', _⟩
      · refine .inr ⟨hsame' ▸ hpend, hexp, ?_⟩
        unfold LoanGuarantor.windowOver at hover ⊢
        rwa [hat'] at hover
      · rw [hpend] at hexp'
        cases hexp'

theorem timely_of_onlyExpires {clock : Int} {db db' : Db} (h : db.OnlyExpires clock db') :
    db.Timely clock db' := by
  intro id g' hg' hexp
  obtain ⟨g, hg, hat, hst⟩ := h id g' hg'
  rcases hst with hsame | ⟨hpend, _, hover⟩
  · exact ⟨g, hg, hat, .inl (hsame ▸ hexp)⟩
  · exact ⟨g, hg, hat, .inr ⟨hpend, hover⟩⟩

theorem timely_same {clock : Int} {db mid db' : Db} (h : db.Timely clock mid)
    (hs : mid.SameInvitations db') : db.Timely clock db' := by
  intro id g' hg' hexp
  obtain ⟨m, hm, hat, hst⟩ := sameInvitations_row hs hg'
  obtain ⟨g, hg, hat', hor⟩ := h id m hm (hst ▸ hexp)
  exact ⟨g, hg, hat.trans hat', hor⟩

/-- A row is written; it must be as before, not expired, or waiting and past its window. -/
theorem timely_update {clock : Int} {db db' : Db} {id : Nat} {f : LoanGuarantor → LoanGuarantor}
    (hrows : db'.loanGuarantors = db.loanGuarantors.modify id f)
    (hf : ∀ g, db.loanGuarantors[id]? = some g → (f g).status = .expired →
      (f g).invitedAt = g.invitedAt ∧
        (g.status = .expired ∨ (g.status = .pending ∧ g.windowOver clock = true))) :
    db.Timely clock db' := by
  intro j g' hg' hexp
  rw [hrows] at hg'
  obtain ⟨g, hg, rfl⟩ := Table.getElem?_modify_some hg'
  by_cases hj : id = j
  · subst hj
    rw [if_pos rfl] at hexp ⊢
    obtain ⟨hat, hor⟩ := hf g hg hexp
    exact ⟨g, hg, hat, hor⟩
  · rw [if_neg hj] at hexp ⊢
    exact ⟨g, hg, rfl, .inl hexp⟩

theorem timely_append {clock : Int} {db db' : Db} {rows : List LoanGuarantor}
    (hrows : db'.loanGuarantors = db.loanGuarantors ++ rows)
    (hnew : ∀ g ∈ rows, g.status ≠ .expired) : db.Timely clock db' := by
  intro j g' hg' hexp
  rw [hrows] at hg'
  rcases Nat.lt_or_ge j db.loanGuarantors.length with hlt | hge
  · rw [List.getElem?_append_left hlt] at hg'
    exact ⟨g', hg', rfl, .inl hexp⟩
  · rw [List.getElem?_append_right hge] at hg'
    exact absurd hexp (hnew g' (List.mem_of_getElem? hg'))

theorem invite_timely {seen : Db} {clock : Int} {loanId nominated : Nat} {item : Nomination}
    {u : Unit} {db db' : Db}
    (h : Yields (inviteGuarantor seen clock loanId nominated item) db u db') :
    db.Timely clock db' := by
  simp only [inviteGuarantor, yields_bind, yields_fromExcept] at h
  obtain ⟨loan, _, ⟨_, rfl⟩, h⟩ := h
  cases hine : seen.ineligible item loan.memberId (seen.collateralType loan) with
  | some reason =>
    simp only [hine, yields_pure] at h
    rw [← h.2]
    exact timely_of_onlyExpires (History.refl db)
  | none =>
    simp only [hine, upsertGuarantor, yields_bind, yields_get] at h
    obtain ⟨_, _, ⟨rfl, rfl⟩, h⟩ := h
    cases hrow : db.guarantorRow loanId item.memberId with
    | some r =>
      simp only [hrow, yields_modify] at h
      subst h
      exact timely_update rfl fun g _ hexp => by cases hexp
    | none =>
      simp only [hrow, yields_bind, yields_ensure, yields_modify] at h
      obtain ⟨_, _, ⟨_, rfl⟩, rfl⟩ := h
      refine timely_append rfl fun g hg hexp => ?_
      rw [List.mem_singleton.mp hg] at hexp
      cases hexp

theorem createApplication_timely {clock : Int} {loan : Loan} {requiresGuarantors : Bool}
    {guarantors : List Nomination} {id : Nat} {db db' : Db}
    (h : Yields (createApplication clock loan requiresGuarantors guarantors) db id db') :
    db.Timely clock db' := by
  simp only [createApplication, yields_bind, yields_fromExcept, yields_get, yields_modify,
    yields_pure] at h
  obtain ⟨_, _, ⟨_, rfl⟩, _, _, ⟨rfl, rfl⟩, _, _, rfl, _, rfl⟩ := h
  refine timely_append rfl fun g hg hexp => ?_
  cases requiresGuarantors with
  | false => exact absurd hg List.not_mem_nil
  | true =>
    obtain ⟨item, _, rfl⟩ := List.mem_map.mp hg
    cases hexp

/-- A response expires the invitation it answers only when it comes too late. -/
theorem respond_timely {clock : Int} {args : DecisionArgs} {s : LoanStatus} {db db' : Db}
    (h : Yields (applyDecision clock args) db s db') : db.Timely clock db' := by
  obtain ⟨g, loan, product, held, hr, happly⟩ := applyDecision_cases h
  have hheld : db.SameInvitations held := by
    by_cases hacc : args.nextStatus clock g.invitedAt = .accepted
    · exact placeGuarantorHolds_moves _ _ _ (hr.placed hacc)
    · rw [hr.kept hacc]
      exact History.refl db
  have hanswer : held.Timely clock (held.updateGuarantor args.guarantorId
      (·.answered clock (args.nextStatus clock g.invitedAt))) := by
    refine timely_update rfl fun m hm hexp => ⟨rfl, .inr ?_⟩
    obtain ⟨g', hg', hat, hst⟩ := sameInvitations_row hheld hm
    rw [hr.row] at hg'
    cases hg'
    refine ⟨hst.trans hr.pending, ?_⟩
    have hnext : args.nextStatus clock g.invitedAt = .expired := hexp
    unfold DecisionArgs.nextStatus at hnext
    split at hnext
    · next hlate =>
      rw [LoanGuarantor.windowOver, hat]
      exact decide_eq_true (Int.le_of_lt hlate)
    · cases hact : args.action with
      | accept =>
        rw [hact] at hnext
        cases hnext
      | decline =>
        rw [hact] at hnext
        cases hnext
  have htail : Db.SameInvitations _ db' := applyLoanState_moves _ _ _ _ _ happly
  refine timely_same (fun j g' hg' hexp => ?_) htail
  obtain ⟨m, hm, hat, hor⟩ := hanswer j g' hg' hexp
  obtain ⟨g₀, hg₀, hat₀, hst₀⟩ := sameInvitations_row hheld hm
  refine ⟨g₀, hg₀, hat.trans hat₀, ?_⟩
  rwa [hst₀, LoanGuarantor.windowOver, hat₀] at hor

theorem expireGuarantor_expires {clock : Int} {id : Nat} {g : LoanGuarantor} {ty : AccountType}
    {u : Unit} {db db' : Db} (h : Yields (expireGuarantor clock (id, g) ty) db u db')
    (hover : ∀ m, db.loanGuarantors[id]? = some m → m.status = .pending →
      m.windowOver clock = true) : db.OnlyExpires clock db' := by
  obtain ⟨freed, hplaced, hunplaced, htail⟩ := expireGuarantor_cases h
  have hfreed : freed.loanGuarantors = db.loanGuarantors := by
    cases hp : g.holdPlacedAt with
    | none => rw [hunplaced hp]
    | some t =>
      obtain ⟨_, hun⟩ := hplaced (by rw [hp, Option.isSome_some])
      rcases hun with ⟨rfl, _⟩ | ⟨_, _, _, _, rfl⟩
      · rfl
      · rfl
  have hsame : Db.SameInvitations _ db' := rejectForTimeout_moves _ _ _ htail
  refine History.trans (t := freed.updateGuarantor id (·.expire clock g.holdPlacedAt.isSome)) ?_
    (onlyExpires_of_same hsame)
  intro j g' hg'
  have hg'' : (db.loanGuarantors.modify id (·.expire clock g.holdPlacedAt.isSome))[j]? =
      some g' := by
    rw [← hfreed]
    exact hg'
  obtain ⟨m, hm, rfl⟩ := Table.getElem?_modify_some hg''
  refine ⟨m, hm, ?_⟩
  by_cases hj : id = j
  · subst hj
    rw [if_pos rfl]
    unfold LoanGuarantor.expire
    split
    · next hpend => exact ⟨rfl, .inr ⟨hpend, rfl, hover m hm hpend⟩⟩
    · exact ⟨rfl, .inl rfl⟩
  · rw [if_neg hj]
    exact ⟨rfl, .inl rfl⟩

theorem fire_expires {clock : Int} {id : Nat} {u : Unit} {db db' : Db}
    (h : Yields (expireSpecificGuarantor clock id) db u db')
    (hover : ∀ g, db.loanGuarantors[id]? = some g → g.status = .pending →
      g.windowOver clock = true) : db.OnlyExpires clock db' := by
  simp only [expireSpecificGuarantor, yields_bind, yields_get] at h
  obtain ⟨_, _, ⟨rfl, rfl⟩, h⟩ := h
  cases hrow : db.loanGuarantors[id]?.filter (·.status = .pending) with
  | none =>
    simp only [hrow, yields_pure] at h
    rw [← h.2]
    exact History.refl db
  | some g =>
    simp only [hrow] at h
    exact expireGuarantor_expires h hover

/-- The rows that a sweep comes to were invited before its cutoff, and the rows before them in the
loop change no invitation but their own. -/
theorem sweep_expires {clock cutoff : Int} (hcut : cutoff + consentExpiryMs ≤ clock)
    {ty : Nat → AccountType} {rows : List (Nat × LoanGuarantor)} {u : Unit} {db db' : Db}
    (hrows : ∀ r ∈ rows, ∀ m, db.loanGuarantors[r.1]? = some m → m.invitedAt < cutoff)
    (h : Yields (rows.forM fun row => expireGuarantor clock row (ty row.2.loanId)) db u db') :
    db.OnlyExpires clock db' := by
  induction rows generalizing db with
  | nil =>
    obtain ⟨_, rfl⟩ := yields_pure.mp h
    exact History.refl db
  | cons r rows ih =>
    obtain ⟨_, mid, hrow, hrest⟩ := yields_bind.mp h
    have hfirst : db.OnlyExpires clock mid := by
      refine expireGuarantor_expires hrow fun m hm _ => ?_
      have hlt := hrows r List.mem_cons_self m hm
      exact decide_eq_true (by omega)
    refine History.trans hfirst (ih (fun r' hr' m' hm' => ?_) hrest)
    obtain ⟨m, hm, hat, _⟩ := hfirst r'.1 m' hm'
    rw [hat]
    exact hrows r' (List.mem_cons_of_mem _ hr') m hm

end InvitationLemmas

open InvitationLemmas

/-- A request expires only the invitation that it answers, and only when it is past its window. -/
theorem serve_timely {db : Db} {clock : Int} {op served : Op} (hop : op.servedAt clock = some served) :
    db.Timely clock (step db served) := by
  rcases step_cases db served with ⟨u, hy⟩ | hsame
  · cases hc : served.consents with
    | false => exact timely_of_onlyExpires (onlyExpires_of_same (exec_moves_settled hc hy))
    | true =>
      cases op with
      | createApplication now loan requiresGuarantors guarantors =>
        cases hop
        obtain ⟨_, _, happly, _, rfl⟩ := yields_bind.mp hy
        exact createApplication_timely happly
      | inviteGuarantor seen now loanId nominated item =>
        cases hop
        exact invite_timely hy
      | respond now args =>
        cases hop
        obtain ⟨_, _, hrespond, _, rfl⟩ := yields_bind.mp hy
        exact respond_timely hrespond
      | expireGuarantor now id => cases hop
      | expirySweep now cutoff => cases hop
      | _ =>
        cases hop
        cases hc
  · rw [hsame]
    exact timely_of_onlyExpires (History.refl db)

theorem sweep_timely (db : Db) (clock : Int) (delay : Nat) :
    db.Timely clock (step db (.expirySweep clock (clock - delay - consentExpiryMs))) := by
  rcases step_cases db (.expirySweep clock (clock - delay - consentExpiryMs)) with ⟨u, hy⟩ | hsame
  · have hsweep : Yields (expireTenantGuarantors clock (clock - delay - consentExpiryMs)) db u
        (step db (.expirySweep clock (clock - delay - consentExpiryMs))) := hy
    simp only [expireTenantGuarantors, yields_bind, yields_get] at hsweep
    obtain ⟨_, _, ⟨rfl, rfl⟩, hloop⟩ := hsweep
    have hcut : clock - delay - consentExpiryMs + consentExpiryMs ≤ clock := by omega
    refine timely_of_onlyExpires (sweep_expires hcut (fun r hr m hm => ?_) hloop)
    obtain ⟨hrow, hp⟩ := Table.mem_selectRows.mp hr
    rw [hm] at hrow
    cases hrow
    rw [Bool.and_eq_true, decide_eq_true_eq] at hp
    exact hp.2
  · rw [hsame]
    exact timely_of_onlyExpires (History.refl db)

namespace InvitationLemmas

/-- A job that runs in time finds its guarantor answered, or past the window. -/
theorem fire_timely {w : Calendar} {job : Nat} (h : w.timely (.fire job) = true) :
    w.db.Timely w.clock (w.step (.fire job)).db := by
  unfold Calendar.timely at h
  unfold Calendar.step
  dsimp only at h ⊢
  cases hjob : w.expiryQueue[job]?.filter (·.dueAt ≤ w.clock) with
  | none => exact timely_of_onlyExpires (History.refl w.db)
  | some j =>
    rw [hjob, Option.all_some] at h
    obtain ⟨_, hdue⟩ := Option.filter_eq_some_iff.mp hjob
    have hdue : j.addedAt + consentExpiryMs ≤ w.clock := of_decide_eq_true hdue
    rcases step_cases w.db (.expireGuarantor w.clock j.guarantorId) with ⟨u, hy⟩ | hsame
    · refine timely_of_onlyExpires (fire_expires hy fun g hg hpend => ?_)
      have hwaiting : (w.db.loanGuarantors[j.guarantorId]?.filter (·.status = .pending)) = some g := by
        rw [hg]
        exact Option.filter_some_pos (decide_eq_true hpend)
      rw [hwaiting, Option.all_some, Bool.or_eq_true] at h
      rcases h with hlatest | hover
      · -- the job was added by the latest invitation, 72 hours ago or more
        have hlatest := of_decide_eq_true hlatest
        exact decide_eq_true (by omega)
      · exact hover
    · show w.db.Timely w.clock (step w.db _)
      rw [hsame]
      exact timely_of_onlyExpires (History.refl w.db)

theorem event_timely {w : Calendar} {e : ConsentEvent} (h : w.timely e = true) :
    w.db.Timely w.clock (w.step e).db := by
  cases e with
  | wait ms => exact timely_of_onlyExpires (History.refl w.db)
  | serve op =>
    unfold Calendar.step
    dsimp only
    cases hop : op.servedAt w.clock with
    | none => exact timely_of_onlyExpires (History.refl w.db)
    | some served => exact serve_timely hop
  | fire job => exact fire_timely h
  | sweep delay => exact sweep_timely w.db w.clock delay

theorem clock_le (w : Calendar) (e : ConsentEvent) : w.clock ≤ (w.step e).clock := by
  unfold Calendar.step
  cases e with
  | wait ms => exact Int.le_add_of_nonneg_right (Int.natCast_nonneg ms)
  | serve op =>
    dsimp only
    split
    · exact Int.le_refl _
    · exact Int.le_refl _
  | fire job =>
    dsimp only
    split
    · exact Int.le_refl _
    · exact Int.le_refl _
  | sweep delay => exact Int.le_refl _

theorem step_elapsed {w : Calendar} {e : ConsentEvent} (hw : w.Elapsed) (h : w.timely e = true) :
    (w.step e).Elapsed := by
  intro g' hg' hexp
  obtain ⟨id, hid⟩ := List.mem_iff_getElem?.mp hg'
  obtain ⟨g, hg, hat, hor⟩ := event_timely h id g' hid hexp
  have hover : g.windowOver w.clock = true := by
    rcases hor with hold | ⟨_, hnew⟩
    · exact hw g (List.mem_of_getElem? hg) hold
    · exact hnew
  have hle := clock_le w e
  have hover := of_decide_eq_true hover
  rw [LoanGuarantor.windowOver, hat]
  exact decide_eq_true (by omega)

theorem windowKept {w : Calendar} {e : ConsentEvent} (hw : w.Elapsed) (h : w.timely e = true) :
    w.WindowKept e where
  expires id g' hg' hexp := by
    obtain ⟨g, hg, _, hor⟩ := event_timely h id g' hg' hexp
    exact ⟨g, hg, hor⟩
  answers now args g he hg hinside := by
    have hnot : g.status ≠ .expired := by
      intro hexp
      have hover := hw g (List.mem_of_getElem? hg) hexp
      rw [hinside] at hover
      cases hover
    refine ⟨hnot, fun g' hg' hexp => ?_⟩
    obtain ⟨m, hm, _, hor⟩ := event_timely h _ g' hg' hexp
    rw [hg] at hm
    cases hm
    rcases hor with hold | ⟨_, hover⟩
    · exact hnot hold
    · rw [hinside] at hover
      cases hover

end InvitationLemmas

/-- In every run in which no job left over from an earlier invitation runs on a guarantor that
waits inside the window of a later one, every event keeps the windows. -/
theorem expiry_in_window {db : Db} {clock : Int} {events : List ConsentEvent} {e : ConsentEvent}
    (hopen : ∀ g ∈ db.loanGuarantors, g.status ≠ .expired)
    (htimely : Machine.Guarded Calendar.step (fun w e => w.timely e = true)
      (Calendar.opening db clock) (events ++ [e])) :
    ((Calendar.opening db clock).after events).Elapsed ∧
      ((Calendar.opening db clock).after events).WindowKept e := by
  obtain ⟨hbefore, hlast, _⟩ := Machine.guarded_append.mp htimely
  have hstart : (Calendar.opening db clock).Elapsed := fun g hg hexp => absurd hexp (hopen g hg)
  have hrun : ((Calendar.opening db clock).after events).Elapsed :=
    Machine.run_induct (fun _ _ hw h => step_elapsed hw h) hstart hbefore
  exact ⟨hrun, windowKept hrun hlast⟩

def hour : Int := 60 * 60 * 1000

/-- The loan of the small tenant while it waits for its guarantors; member 1 has KES 100. -/
def exWaiting : Db :=
  { exSacco with
    accounts := exSacco.accounts.modify 2 (·.move 1000000)
    loans := [{ exLoan with status := .pendingGuarantors }] }

/-- Member 1 is asked to guarantee half of the loan. -/
def exInvite : ConsentEvent := .serve (.inviteGuarantor exWaiting 0 0 1 ⟨1, 500000⟩)

def exAnswer (action : GuarantorWorkflowAction) : DecisionArgs where
  loanId := 0
  guarantorId := 0
  action := action
  digitalAcknowledgment := true
  source := .member

/-- The invitation of a member who never answers is expired by its job when the 72 hours are
over. -/
theorem expiry_in_window_due :
    ∃ events, events = [exInvite, .wait (72 * 60 * 60 * 1000)] ∧
      ((Calendar.opening exWaiting 0).after events).Elapsed ∧
      ((Calendar.opening exWaiting 0).after events).WindowKept (.fire 0) :=
  ⟨_, rfl, expiry_in_window (by decide) (by decide +kernel)⟩

/-- The guarantor declines after ten hours and is asked again 71 hours after the first invitation. -/
def exReinvited : List ConsentEvent :=
  [exInvite, .wait (10 * 60 * 60 * 1000), .serve (.respond 0 (exAnswer .decline)),
    .wait (61 * 60 * 60 * 1000), exInvite, .wait (60 * 60 * 1000)]

/-- The job of the first invitation expires the second one after an hour, and an answer in its
second hour is refused. -/
theorem stale_job_expires :
    ¬ ((Calendar.opening exWaiting 0).after exReinvited).WindowKept (.fire 0) ∧
      ((Calendar.opening exWaiting 0).after (exReinvited ++ [.fire 0])).db.loanGuarantors.map
        (fun g => (g.status, g.invitedAt)) = [(.expired, 71 * hour)] ∧
      ((Calendar.opening exWaiting 0).after (exReinvited ++ [.fire 0])).clock = 72 * hour ∧
      (applyDecision (73 * hour) (exAnswer .accept)).run
        ((Calendar.opening exWaiting 0).after (exReinvited ++ [.fire 0])).db =
          .error (.conflict "Guarantor request already EXPIRED") := by
  have hbefore : ((Calendar.opening exWaiting 0).after exReinvited).db.loanGuarantors[0]?.map
      (fun g => (g.status, g.windowOver
        ((Calendar.opening exWaiting 0).after exReinvited).clock)) = some (.pending, false) := by
    decide +kernel
  have hafter : (((Calendar.opening exWaiting 0).after exReinvited).step
      (.fire 0)).db.loanGuarantors[0]?.map (·.status) = some .expired := by
    decide +kernel
  refine ⟨fun hkept => ?_, by decide +kernel, by decide +kernel, by decide +kernel⟩
  obtain ⟨g', hg', hexp⟩ := Option.map_eq_some_iff.mp hafter
  obtain ⟨g, hg, hor⟩ := hkept.expires 0 g' hg' hexp
  rw [hg, Option.map_some, Option.some.injEq, Prod.mk.injEq] at hbefore
  rcases hor with hold | ⟨_, hover⟩
  · rw [hbefore.1] at hold
    cases hold
  · rw [hbefore.2] at hover
    cases hover

end BebaSacco
