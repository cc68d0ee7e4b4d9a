import BebaSacco.History

/-! # Postings to one account

`postEntry` moves the balance of one account under a statement row and a journal entry. It runs in a
serializable transaction, its own or the caller's, so calls that overlap are served one after the
other or fail; a repeated call finds the row by its reference.

Results:
 1. `posting_result`: the row and the entry that a committed posting has found or written.
 2. `posting_once`: calls with one reference move the rounded amount once or change nothing, and
    after a posting every call with its reference finds that row and changes nothing.
 3. `posting_answers_another`: it does so for another amount and another account too.
-/

namespace BebaSacco

open Txn HistoryLemmas

/-! ## 1. What a posting does -/

/-- What is posted. -/
def PostEntryParams.units (p : PostEntryParams) : Int := toDecimalPlaces4 p.amount

/-- The row is the one that was asked for. -/
structure PostEntryParams.AskedFor (p : PostEntryParams) (t : Transaction) : Prop where
  account : t.accountId = p.accountId
  amount : t.amount = p.units
  direction : t.balanceAfter = t.balanceBefore + p.direction.signed p.units

instance (p : PostEntryParams) (t : Transaction) : Decidable (p.AskedFor t) :=
  decidable_of_iff
    (t.accountId = p.accountId ∧ t.amount = p.units ∧
      t.balanceAfter = t.balanceBefore + p.direction.signed p.units)
    ⟨fun h => ⟨h.1, h.2.1, h.2.2⟩, fun h => ⟨h.account, h.amount, h.direction⟩⟩

/-- The amount went to or from the account under one row and one entry, and nothing else changed. -/
structure PostEntryParams.Moved (p : PostEntryParams) (db db' : Db) : Prop where
  account : ∃ a : Account, db.accounts[p.accountId]? = some a ∧ a.isActive = true ∧
    db'.accounts[p.accountId]? = some (a.move (p.direction.signed p.units)) ∧
    (p.direction = .debit → debitFloor a p.units ≤ a.balance)
  others : ∀ id, id ≠ p.accountId → db'.accounts[id]? = db.accounts[id]?
  transaction : ∃ t, db'.transactions = db.transactions ++ [t] ∧ p.AskedFor t ∧
    t.reference = p.reference ∧ t.status = .completed
  entry : ∃ entry posting, db'.journalEntries = db.journalEntries ++ [entry] ∧
    entry.postings = [posting] ∧ entry.referenceId = db.transactions.length ∧
    entry.totalAmount = p.units ∧ posting.amount = p.units
  tables : { db' with
    accounts := db.accounts
    transactions := db.transactions
    journalEntries := db.journalEntries } = db

/-- The row and the entry of a posting, as a repeated call finds them. -/
structure Db.HoldsPosting (db : Db) (reference : String) (r : PostingResult) (t : Transaction) :
    Prop where
  transaction : ∃ t', db.transactionByReference reference = some (r.transaction, t') ∧
    t'.posted = t.posted
  entry : ∃ e, db.entryOfTransaction r.transaction = some e

namespace PostingLemmas

variable {p p' : PostEntryParams} {r r' : PostingResult} {db db' : Db} {reference : String}
  {t t' : Transaction}

theorem moved_of_posted (h : EntryPosted p db db') : p.Moved db db' := by
  obtain ⟨a, type, actor, description, debitCode, creditCode, ha, hactive, hfloor, -, -, rfl⟩ :=
    h.written
  refine ⟨⟨a, ha, hactive, Table.getElem?_modify_self ha, hfloor⟩,
    fun id hid => Table.getElem?_modify_other (Ne.symm hid), ⟨_, rfl, ⟨rfl, rfl, rfl⟩, rfl, rfl⟩,
    ⟨_, _, rfl, rfl, rfl, rfl, rfl⟩, rfl⟩

/-- A repeated call has found the row of the posting; a new one has found none and writes it. -/
theorem posting_result (h : Yields (postEntry p) db r db') :
    (db' = db ∧ r.replayed = true ∧ ∃ t, db.HoldsPosting p.reference r t) ∨
      r.replayed = false ∧ db.transactionByReference p.reference = none ∧ p.Moved db db' ∧
        ∃ t, p.AskedFor t ∧ db'.HoldsPosting p.reference r t := by
  have hcases := postEntry_cases h
  simp only [postEntry, yields_bind, yields_ensure] at h
  obtain ⟨_, _, hactor, _, _, ⟨_, rfl⟩, hbody⟩ := h
  cases resolveSystemActorId_state hactor
  simp only [postEntryBody, yields_bind, yields_get] at hbody
  obtain ⟨_, _, ⟨rfl, rfl⟩, hbody⟩ := hbody
  cases hfind : db.transactionByReference p.reference with
  | some row =>
    simp only [hfind, yields_bind, yields_required, yields_pure] at hbody
    obtain ⟨entry, _, ⟨hentry, rfl⟩, rfl, rfl⟩ := hbody
    exact .inl ⟨rfl, rfl, row.2, ⟨row.2, hfind, rfl⟩, entry, hentry⟩
  | none =>
    obtain ⟨-, -, _, hrow⟩ | ⟨hposted, hnew, hid⟩ := hcases
    · cases hfind.symm.trans hrow
    have hmoved := moved_of_posted hposted
    obtain ⟨t, hrows, hasked, href, -⟩ := hmoved.transaction
    obtain ⟨entry, _, hentries, -, hentry, -⟩ := hmoved.entry
    have htype : entry.referenceType = "TRANSACTION" := by
      obtain ⟨_, _, _, _, _, _, -, -, -, -, -, rfl⟩ := hposted.written
      cases List.append_cancel_left hentries
      rfl
    refine .inr ⟨hnew, rfl, hmoved, t, hasked, ⟨t, ?_, rfl⟩, ?_⟩
    · unfold Db.transactionByReference at hfind ⊢
      rw [hrows, Table.findRow_append_one, hfind, href, beq_self_eq_true, if_pos rfl, hid]
      rfl
    · rw [hid, ← hentry]
      exact entryOfTransaction_append hentries htype

theorem holds_extends (h : db.HoldsPosting reference r t) (hext : db.Extends db') :
    db'.HoldsPosting reference r t := by
  obtain ⟨_, hrow, hposted⟩ := h.transaction
  obtain ⟨e, hentry⟩ := h.entry
  obtain ⟨t', hrow', hposted'⟩ := transactionByReference_extends hext hrow
  exact ⟨⟨t', hrow', hposted'.trans hposted⟩, e, entryOfTransaction_extends hext hentry⟩

/-- A call that finds the row returns it and writes nothing. -/
theorem replayed_of_holds (h : db.HoldsPosting p.reference r t)
    (hy : Yields (postEntry p) db r' db') :
    db' = db ∧ r'.replayed = true ∧ r'.transaction = r.transaction := by
  obtain ⟨_, hrow, _⟩ := h.transaction
  rcases posting_result hy with ⟨rfl, hreplayed, _, ⟨_, hfound, _⟩, _⟩ | ⟨-, hnone, -⟩
  · exact ⟨rfl, hreplayed, (Prod.mk.inj (Option.some.inj (hfound.symm.trans hrow))).1⟩
  · cases hnone.symm.trans hrow

theorem exec_yields {u : Unit} (h : Yields (Op.postEntry p).exec db u db') :
    ∃ r, Yields (postEntry p) db r db' := by
  simp only [Op.exec, yields_bind, yields_pure] at h
  obtain ⟨r, _, hy, -, rfl⟩ := h
  exact ⟨r, hy⟩

theorem step_of_holds (h : db.HoldsPosting p.reference r t) : step db (.postEntry p) = db := by
  rcases step_cases db (.postEntry p) with ⟨u, hy⟩ | hsame
  · obtain ⟨r', hr'⟩ := exec_yields hy
    exact (replayed_of_holds h hr').1
  · exact hsame

theorem after_of_holds {calls : List PostEntryParams} (h : db.HoldsPosting reference r t)
    (hcalls : ∀ q ∈ calls, q.reference = reference) : db.after (calls.map .postEntry) = db := by
  induction calls with
  | nil => rfl
  | cons q calls ih =>
    have hstep : step db (.postEntry q) = db :=
      step_of_holds ((hcalls q List.mem_cons_self).symm ▸ h)
    rw [List.map_cons, Db.after, Machine.run_cons, hstep]
    exact ih fun q' hq' => hcalls q' (List.mem_cons_of_mem _ hq')

/-- Calls with one reference: one of them posts, or none. -/
theorem after_moved_once {calls : List PostEntryParams}
    (hcalls : ∀ q ∈ calls, q.reference = reference) :
    db.after (calls.map .postEntry) = db ∨
      ∃ q ∈ calls, q.Moved db (db.after (calls.map .postEntry)) := by
  induction calls with
  | nil => exact .inl rfl
  | cons q calls ih =>
    have hrest : ∀ q' ∈ calls, q'.reference = reference :=
      fun q' hq' => hcalls q' (List.mem_cons_of_mem _ hq')
    have hq : q.reference = reference := hcalls q List.mem_cons_self
    rw [List.map_cons, Db.after, Machine.run_cons]
    have hsame : step db (.postEntry q) = db →
        Machine.run step (step db (.postEntry q)) (calls.map .postEntry) = db ∨
          ∃ q' ∈ q :: calls,
            q'.Moved db (Machine.run step (step db (.postEntry q)) (calls.map .postEntry)) := by
      intro hstep
      rw [hstep]
      rcases ih hrest with hnone | ⟨q', hq', hmoved⟩
      · exact .inl hnone
      · exact .inr ⟨q', List.mem_cons_of_mem _ hq', hmoved⟩
    rcases step_cases db (.postEntry q) with ⟨u, hy⟩ | hstep
    · obtain ⟨r, hr⟩ := exec_yields hy
      rcases posting_result hr with ⟨hstep, -⟩ | ⟨-, -, hmoved, t, -, hholds⟩
      · exact hsame hstep
      · refine .inr ⟨q, List.mem_cons_self, ?_⟩
        have hstays := after_of_holds (hq ▸ hholds) hrest
        rw [Db.after] at hstays
        rw [hstays]
        exact hmoved
    · exact hsame hstep

end PostingLemmas

open PostingLemmas

/-! ## 2. A repeated posting -/

/-- A call that throws changes nothing, and any number of calls with one reference post once or not
at all. After a call has succeeded every call with its reference, whatever comes between and
whatever it asks for, changes nothing and at most answers with the same row. -/
theorem posting_once (p : PostEntryParams) (db : Db) :
    (Fails (postEntry p) db → step db (.postEntry p) = db) ∧
      (∀ calls : List PostEntryParams, (∀ q ∈ calls, q.reference = p.reference) →
        db.after (calls.map .postEntry) = db ∨
          ∃ q ∈ calls, q.Moved db (db.after (calls.map .postEntry))) ∧
      ∀ (r : PostingResult) (db' : Db), Yields (postEntry p) db r db' →
        ∃ t, db'.HoldsPosting p.reference r t ∧
          (db' = db ∧ r.replayed = true ∨ p.Moved db db' ∧ p.AskedFor t ∧ r.replayed = false) ∧
          ∀ (ops : List Op) (p' : PostEntryParams), p'.reference = p.reference →
            step (db'.after ops) (.postEntry p') = db'.after ops ∧
              (db'.after ops).HoldsPosting p'.reference r t ∧
              ∀ (r' : PostingResult) (db'' : Db), Yields (postEntry p') (db'.after ops) r' db'' →
                db'' = db'.after ops ∧ r'.replayed = true ∧ r'.transaction = r.transaction := by
  refine ⟨fun hfails => ?_, fun calls hcalls => after_moved_once hcalls, fun r db' hy => ?_⟩
  · rcases step_cases db (.postEntry p) with ⟨u, hy⟩ | hsame
    · obtain ⟨r, hr⟩ := exec_yields hy
      exact absurd hr (hfails r _)
    · exact hsame
  · have hholds : ∃ t, db'.HoldsPosting p.reference r t ∧
        (db' = db ∧ r.replayed = true ∨ p.Moved db db' ∧ p.AskedFor t ∧ r.replayed = false) := by
      rcases posting_result hy with ⟨rfl, hreplayed, t, hholds⟩ | ⟨hnew, -, hmoved, t, hasked, hholds⟩
      · exact ⟨t, hholds, .inl ⟨rfl, hreplayed⟩⟩
      · exact ⟨t, hholds, .inr ⟨hmoved, hasked, hnew⟩⟩
    obtain ⟨t, hholds, hdone⟩ := hholds
    refine ⟨t, hholds, hdone, fun ops p' hreference => ?_⟩
    have hlater : (db'.after ops).HoldsPosting p'.reference r t :=
      hreference ▸ holds_extends hholds (after_extends db' ops)
    exact ⟨step_of_holds hlater, hlater, fun r' db'' hy' => replayed_of_holds hlater hy'⟩

/-- A deposit under the reference of a teller's key. -/
def exCashMovement (accountId : Nat) (amount : ℚ) : PostEntryParams where
  reference := "DEP-t-key"
  journalType := .deposit
  accountId := accountId
  amount := amount
  direction := .credit

theorem posting_once_repeated :
    ∃ r db', Yields (postEntry (exCashMovement 0 100)) exSacco r db' ∧
      (exCashMovement 0 100).Moved exSacco db' ∧
      step (db'.after [exDeposit "D2" 2 50]) (.postEntry (exCashMovement 2 70)) =
        db'.after [exDeposit "D2" 2 50] := by
  obtain ⟨r, db', hy⟩ : ∃ r db', Yields (postEntry (exCashMovement 0 100)) exSacco r db' :=
    exists_yields (by decide +kernel)
  obtain ⟨t, -, hdone, hlater⟩ := (posting_once (exCashMovement 0 100) exSacco).2.2 r db' hy
  refine ⟨r, db', hy, ?_, (hlater [exDeposit "D2" 2 50] (exCashMovement 2 70) rfl).1⟩
  rcases hdone with ⟨hsame, hreplayed⟩ | ⟨hmoved, -⟩
  · have hnone : exSacco.transactionByReference "DEP-t-key" = none := by decide +kernel
    rcases PostingLemmas.posting_result hy with ⟨-, -, _, ⟨_, hfound, _⟩, _⟩ | ⟨-, -, hmoved, -⟩
    · cases hnone.symm.trans hfound
    · exact hmoved
  · exact hmoved

/-- A deposit of 70 to another account under the same reference succeeds with the row of the deposit
of 100. -/
theorem posting_answers_another :
    ∃ r db db', Yields (postEntry (exCashMovement 2 70)) db r db' ∧
      db = exSacco.after [.postEntry (exCashMovement 0 100)] ∧
      ∃ t, db'.transactions[r.transaction]? = some t ∧ ¬ (exCashMovement 2 70).AskedFor t :=
  ⟨⟨0, 0, true⟩, _, exSacco.after [.postEntry (exCashMovement 0 100)], by decide +kernel, rfl,
    (exSacco.after [.postEntry (exCashMovement 0 100)]).transactions.head (by decide +kernel),
    by decide +kernel, by decide +kernel⟩

end BebaSacco
