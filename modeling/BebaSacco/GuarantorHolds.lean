import BebaSacco.DeadLoans
import BebaSacco.RecoveryCaps
import Mathlib.Logic.Relation

/-! # The sum of the holds

The frozen savings of an account are one number for all guarantees that have a hold on it,
and every release works out again what to take off. The invariant `Held` says that this
number is the sum, over the active holds on the account, of what is left of the guarantee.

Results:
 1. `held_change`: what a write to one guarantee must do to the account of its hold.
 2. `held_step`: every operation keeps the sum, when the invitations it makes reset no active
    hold and the holds it releases have not been drawn on.
 3. `guarantor_holds_sum`: so does every run of such operations.
 4. `reinvitation_loses_hold`: a second invitation loses the hold, and a release takes more off
    than is left.
-/

namespace BebaSacco

open Txn FootprintLemmas InstallmentLemmas GuarantorLemmas PledgeLemmas HoldLemmas
open RecoveryLemmas (allocateRecovery_mem allocateRecovery_eq shareDebt_ids)

/-! ## 1. The invariant -/

/-- The savings of the guarantor are frozen for this guarantee. -/
def LoanGuarantor.holdActive (guarantor : LoanGuarantor) : Bool :=
  guarantor.status == .accepted && guarantor.holdPlacedAt.isSome && guarantor.holdReleasedAt.isNone

/-- What is left of the guarantee after what was recovered from it. -/
def LoanGuarantor.left (guarantor : LoanGuarantor) : Int :=
  (guarantor.guaranteedAmount : Int) - guarantor.recoveredAmount

/-- What the guarantee should keep frozen. -/
def LoanGuarantor.charge (guarantor : LoanGuarantor) : Int :=
  if guarantor.holdActive = true then guarantor.left else 0

/-- What the guarantee should keep frozen on the account `i`. -/
def Db.chargeOn (db : Db) (i : Nat) (guarantor : LoanGuarantor) : Int :=
  if db.accountOf guarantor = some i then guarantor.charge else 0

/-- The sum of the active holds on the account `i`. -/
def Db.heldOn (db : Db) (i : Nat) : Int := Table.sumOver (db.chargeOn i) db.loanGuarantors

/-- An accepted guarantee has had a hold, and nothing beyond it was recovered; any other has had
none. -/
structure LoanGuarantor.Regular (guarantor : LoanGuarantor) : Prop where
  placed : guarantor.status = .accepted → guarantor.holdPlacedAt.isSome = true
  within : guarantor.holdActive = true → guarantor.recoveredAmount ≤ guarantor.guaranteedAmount
  fresh : guarantor.status ≠ .accepted →
    guarantor.holdPlacedAt = none ∧ guarantor.holdReleasedAt = none ∧ guarantor.recoveredAmount = 0

/-- The frozen savings of every account are the sum of the active holds on it. -/
structure Held (db : Db) : Prop where
  frozen : ∀ (i : Nat) (a : Account), db.accounts[i]? = some a → a.frozenSavings = db.heldOn i
  regular : ∀ g ∈ db.loanGuarantors, g.Regular
  keyed : Keyed db

/-- The release of the hold takes off what the hold put on: nothing was recovered from the
guarantee, or the hold is all that is frozen on the account. -/
def Db.releasable (db : Db) (guarantor : LoanGuarantor) : Bool :=
  guarantor.recoveredAmount == 0 ||
    (db.accountOf guarantor).all fun i =>
      db.accounts[i]?.all fun account => account.frozenSavings == guarantor.left

/-- One hold of the loan `loanId` was released, and its account has what it kept frozen back. -/
structure Db.FreedOne (loanId : Nat) (db db' : Db) : Prop where
  freed : ∃ id g now, db.loanGuarantors[id]? = some g ∧ g.loanId = loanId ∧
    g.status = .accepted ∧ g.holdReleasedAt = none ∧
    db'.loanGuarantors = db.loanGuarantors.modify id (·.released now) ∧
    ∀ (i : Nat) (a' : Account), db'.accounts[i]? = some a' → ∃ a, db.accounts[i]? = some a ∧
      a'.frozenSavings = a.frozenSavings + if db.accountOf g = some i then -g.charge else 0
  terms : db.SameTerms db'
  loans : db'.loans = db.loans
  keyed : db.KeepsKeys db'

/-- Holds of the loan `loanId` were released, one after the other. -/
def Db.Freed (loanId : Nat) : Db → Db → Prop := Relation.ReflTransGen (Db.FreedOne loanId)

/-- A row that a release loop comes to: an accepted guarantee of the loan as the table has it,
which is released or may be. -/
structure Db.Due (loanId : Nat) (db : Db) (row : Nat × LoanGuarantor) : Prop where
  current : db.loanGuarantors[row.1]? = some row.2
  ofLoan : row.2.loanId = loanId
  accepted : row.2.status = .accepted
  releasable : row.2.holdReleasedAt = none → db.releasable row.2 = true

/-- The hold of every unreleased guarantee of the loan may be released. -/
def Db.allReleasable (db : Db) (loanId : Nat) : Bool :=
  (db.unreleasedGuarantors loanId).all fun row => db.releasable row.2

/-- What a release loop keeps: the holds of the rows that are left are still due. -/
structure Releasing (loanId : Nat) (ty : AccountType) (db₀ : Db) (rows : List (Nat × LoanGuarantor))
    (db : Db) : Prop where
  freed : db₀.Freed loanId db
  held : Held db
  nodup : (rows.map Prod.fst).Nodup
  due : ∀ r ∈ rows, db.Due loanId r
  collateral : db.collateralTypeOf loanId = ty

/-- The columns of an account that no posting writes. -/
def Account.pledge (account : Account) : Account :=
  { account with balance := 0, version := 0 }

/-- No guarantee, and no frozen savings, changed. -/
structure Db.SamePledges (db db' : Db) : Prop where
  pledges : db'.accounts.map Account.pledge = db.accounts.map Account.pledge
  loanGuarantors : db'.loanGuarantors = db.loanGuarantors
  terms : db.SameTerms db'

namespace HoldSumLemmas

instance : History Db.SamePledges where
  refl db := ⟨rfl, rfl, sameTerms_refl db⟩
  trans h k :=
    ⟨k.pledges.trans h.pledges, k.loanGuarantors.trans h.loanGuarantors,
      History.trans h.terms k.terms⟩

instance : AdmitsBalance Db.SamePledges where
  move _ _ _ := ⟨Table.map_modify_same fun _ => rfl, rfl, AdmitsBalance.move _ _ _⟩
  set _ _ _ := ⟨Table.map_modify_same fun _ => rfl, rfl, AdmitsBalance.set _ _ _⟩

instance : AdmitsTransaction Db.SamePledges where
  insert _ _ := ⟨rfl, rfl, AdmitsTransaction.insert _ _⟩
  link _ _ _ := ⟨rfl, rfl, AdmitsTransaction.link _ _ _⟩
  markReversed _ _ := ⟨rfl, rfl, AdmitsTransaction.markReversed _ _⟩
  uuid _ _ := ⟨rfl, rfl, AdmitsTransaction.uuid _ _⟩

instance : AdmitsEntry Db.SamePledges := ⟨fun _ _ => ⟨rfl, rfl, AdmitsEntry.insert _ _⟩⟩

instance : AdmitsLoan Db.SamePledges := ⟨fun _ _ _ hf => ⟨rfl, rfl, AdmitsLoan.update _ _ _ hf⟩⟩

instance : AdmitsRepayment Db.SamePledges :=
  ⟨fun _ _ _ => ⟨rfl, rfl, AdmitsRepayment.update _ _ _⟩,
    fun _ _ => ⟨rfl, rfl, AdmitsRepayment.append _ _⟩⟩

instance : AdmitsMpesa Db.SamePledges := ⟨fun _ _ _ => ⟨rfl, rfl, AdmitsMpesa.update _ _ _⟩⟩

instance : AdmitsChain Db.SamePledges := ⟨fun _ _ => ⟨rfl, rfl, AdmitsChain.update _ _⟩⟩

/-! ## 2. Sums over the holds -/

theorem charge_nonneg {db : Db} (h : Held db) {g : LoanGuarantor} (hg : g ∈ db.loanGuarantors) :
    0 ≤ g.charge := by
  unfold LoanGuarantor.charge
  split
  · next hactive =>
    have hle := (h.regular g hg).within hactive
    unfold LoanGuarantor.left
    omega
  · exact Int.le_refl 0

theorem chargeOn_nonneg {db : Db} (h : Held db) (i : Nat) :
    ∀ g ∈ db.loanGuarantors, 0 ≤ db.chargeOn i g := by
  intro g hg
  unfold Db.chargeOn
  split
  · exact charge_nonneg h hg
  · exact Int.le_refl 0

theorem chargeOn_self {db : Db} {g : LoanGuarantor} {i : Nat} (hi : db.accountOf g = some i) :
    db.chargeOn i g = g.charge := if_pos hi

theorem charge_le_frozen {db : Db} (h : Held db) {id i : Nat} {g : LoanGuarantor} {a : Account}
    (hrow : db.loanGuarantors[id]? = some g) (hi : db.accountOf g = some i)
    (ha : db.accounts[i]? = some a) : g.charge ≤ a.frozenSavings := by
  rw [h.frozen i a ha, ← chargeOn_self hi]
  exact Table.le_sumOver hrow (chargeOn_nonneg h i)

theorem charges_le_frozen {db : Db} (h : Held db) {id id' i : Nat} {g g' : LoanGuarantor}
    {a : Account} (hrow : db.loanGuarantors[id]? = some g)
    (hrow' : db.loanGuarantors[id']? = some g') (hne : id ≠ id')
    (hi : db.accountOf g = some i) (hi' : db.accountOf g' = some i)
    (ha : db.accounts[i]? = some a) : g.charge + g'.charge ≤ a.frozenSavings := by
  rw [h.frozen i a ha, ← chargeOn_self hi, ← chargeOn_self hi']
  exact Table.add_le_sumOver hrow hrow' hne (chargeOn_nonneg h i)

/-- The same guarantees ask for the same in a database with the same terms. -/
theorem sumOver_terms {db db' : Db} (ht : db.SameTerms db') (i : Nat) {l : List LoanGuarantor}
    (hl : ∀ g ∈ l, g.loanId < db.loans.length) :
    Table.sumOver (db'.chargeOn i) l = Table.sumOver (db.chargeOn i) l := by
  refine Table.sumOver_congr fun g hg => ?_
  rw [Db.chargeOn, Db.chargeOn, ht.accountOf (hl g hg)]

theorem held_same {db db' : Db} (hs : db.SamePledges db') (hk : Keyed db') (h : Held db) :
    Held db' where
  frozen i a' ha' := by
    have hmap : (db.accounts.map Account.pledge)[i]? = some a'.pledge := by
      rw [← hs.pledges, List.getElem?_map, ha']
      rfl
    rw [List.getElem?_map] at hmap
    obtain ⟨a, ha, hpledge⟩ := Option.map_eq_some_iff.mp hmap
    have hfrozen : a.pledge.frozenSavings = a'.pledge.frozenSavings := by rw [hpledge]
    have hsum : db'.heldOn i = db.heldOn i := by
      rw [Db.heldOn, hs.loanGuarantors]
      exact sumOver_terms hs.terms i h.keyed.loan
    rw [hsum, ← h.frozen i a ha]
    exact hfrozen.symm
  regular := by
    rw [hs.loanGuarantors]
    exact h.regular
  keyed := hk

/-- One guarantee is written: the account of its hold must gain what its charge gains, and
every other account must keep what it has frozen. -/
theorem held_change {db db' : Db} {id : Nat} {g : LoanGuarantor} {f : LoanGuarantor → LoanGuarantor}
    (h : Held db) (ht : db.SameTerms db') (hk : Keyed db')
    (hrow : db.loanGuarantors[id]? = some g) (hkey : (f g).key = g.key)
    (hrows : db'.loanGuarantors = db.loanGuarantors.modify id f)
    (hregular : (f g).Regular)
    (hacc : ∀ (i : Nat) (a' : Account), db'.accounts[i]? = some a' →
      ∃ a, db.accounts[i]? = some a ∧ a'.frozenSavings =
        a.frozenSavings + if db.accountOf g = some i then (f g).charge - g.charge else 0) :
    Held db' where
  frozen i a' ha' := by
    obtain ⟨a, ha, hfrozen⟩ := hacc i a' ha'
    have hlt : ∀ g' ∈ db'.loanGuarantors, g'.loanId < db.loans.length := by
      rw [hrows]
      refine Table.forall_modify_at h.keyed.loan fun b hb => ?_
      rw [hrow] at hb
      cases hb
      have hloan : (f g).loanId = g.loanId := congrArg Prod.fst hkey
      rw [hloan]
      exact h.keyed.loan g (List.mem_of_getElem? hrow)
    have haccount : db.accountOf (f g) = db.accountOf g := by
      have hloan : (f g).loanId = g.loanId := congrArg Prod.fst hkey
      have hmember : (f g).memberId = g.memberId := congrArg Prod.snd hkey
      rw [Db.accountOf, hloan, hmember, Db.accountOf]
    have hsum : db'.heldOn i = db.heldOn i - db.chargeOn i g + db.chargeOn i (f g) := by
      rw [Db.heldOn, sumOver_terms ht i hlt, hrows, Table.sumOver_modify hrow, Db.heldOn]
    rw [hfrozen, h.frozen i a ha, hsum, Db.chargeOn, Db.chargeOn, haccount]
    split
    · omega
    · omega
  regular := by
    rw [hrows]
    refine Table.forall_modify_at h.regular fun b hb => ?_
    rw [hrow] at hb
    cases hb
    exact hregular
  keyed := hk

theorem charge_of_not_accepted {g : LoanGuarantor} (h : g.status ≠ .accepted) : g.charge = 0 := by
  have hinactive : g.holdActive = false := by
    rw [LoanGuarantor.holdActive, beq_false_of_ne h, Bool.false_and, Bool.false_and]
  rw [LoanGuarantor.charge, hinactive]
  rfl

theorem regular_fresh {g : LoanGuarantor} (hst : g.status ≠ .accepted)
    (hfresh : g.holdPlacedAt = none ∧ g.holdReleasedAt = none ∧ g.recoveredAmount = 0) :
    g.Regular := by
  refine ⟨fun hacc => absurd hacc hst, fun hactive => ?_, fun _ => hfresh⟩
  rw [hfresh.2.2]
  exact Nat.zero_le _

theorem held_append {db db' : Db} {rows : List LoanGuarantor} (h : Held db) (ht : db.SameTerms db')
    (hk : Keyed db') (hrows : db'.loanGuarantors = db.loanGuarantors ++ rows)
    (hacc : db'.accounts = db.accounts)
    (hnew : ∀ g ∈ rows, g.Regular ∧ g.status ≠ .accepted) : Held db' := by
  refine ⟨fun i a ha => ?_, fun g hg => ?_, hk⟩
  · rw [hacc] at ha
    have hzero : Table.sumOver (db'.chargeOn i) rows = 0 := by
      refine Table.sumOver_zero fun g hg => ?_
      rw [Db.chargeOn, charge_of_not_accepted (hnew g hg).2]
      exact ite_self 0
    rw [h.frozen i a ha, Db.heldOn, Db.heldOn, hrows, Table.sumOver_append, hzero,
      sumOver_terms ht i h.keyed.loan, Int.add_zero]
  · rw [hrows] at hg
    rcases List.mem_append.mp hg with hg | hg
    · exact h.regular g hg
    · exact (hnew g hg).1

theorem accounts_frozen {db : Db} {id : Nat} {o : Option Nat} {f : Account → Account} {delta : Int}
    (hf : ∀ a, (f a).frozenSavings = a.frozenSavings + delta) (h : o = some id) :
    ∀ (i : Nat) (a' : Account), (db.updateAccount id f).accounts[i]? = some a' →
      ∃ a, db.accounts[i]? = some a ∧
        a'.frozenSavings = a.frozenSavings + if o = some i then delta else 0 := by
  intro i a' ha'
  obtain ⟨a, ha, rfl⟩ := Table.getElem?_modify_some ha'
  refine ⟨a, ha, ?_⟩
  rw [h]
  by_cases hi : id = i
  · rw [if_pos hi, if_pos (congrArg some hi)]
    exact hf a
  · rw [if_neg hi, if_neg fun he => hi (Option.some.inj he), Int.add_zero]

/-! ## 3. Releasing holds -/

theorem charge_released (g : LoanGuarantor) (now : Int) : (g.released now).charge = 0 := by
  have hinactive : (g.released now).holdActive = false := by
    rw [LoanGuarantor.holdActive, LoanGuarantor.released, Option.isNone_some, Bool.and_false]
  rw [LoanGuarantor.charge, hinactive]
  rfl

/-- An accepted guarantee that was not released keeps what is left of it frozen. -/
theorem charge_accepted {db : Db} (h : Held db) {id : Nat} {g : LoanGuarantor}
    (hrow : db.loanGuarantors[id]? = some g) (hst : g.status = .accepted)
    (hrel : g.holdReleasedAt = none) : g.charge = g.left := by
  have hplaced := (h.regular g (List.mem_of_getElem? hrow)).placed hst
  have hactive : g.holdActive = true := by
    rw [LoanGuarantor.holdActive, hst, hplaced, hrel]
    rfl
  rw [LoanGuarantor.charge, if_pos hactive]

/-- What a release takes off is what the hold put on. -/
theorem release_amount {db : Db} (h : Held db) {id i : Nat} {g : LoanGuarantor} {a : Account}
    (hrow : db.loanGuarantors[id]? = some g) (hst : g.status = .accepted)
    (hrel : g.holdReleasedAt = none) (hr : db.releasable g = true) (hi : db.accountOf g = some i)
    (ha : db.accounts[i]? = some a) :
    min a.frozenSavings (g.guaranteedAmount : Int) = g.charge := by
  have hle := charge_le_frozen h hrow hi ha
  have hcharge := charge_accepted h hrow hst hrel
  rw [hcharge] at hle ⊢
  unfold LoanGuarantor.left at hle ⊢
  unfold Db.releasable at hr
  rw [hi, Option.all_some, ha, Option.all_some, Bool.or_eq_true, beq_iff_eq, beq_iff_eq] at hr
  rcases hr with hr | hr
  · omega
  · unfold LoanGuarantor.left at hr
    omega

theorem held_freedOne {loanId : Nat} {db db' : Db} (hf : db.FreedOne loanId db') (h : Held db) :
    Held db' := by
  obtain ⟨id, g, now, hrow, _, hst, _, hrows, hacc⟩ := hf.freed
  refine held_change h hf.terms (hf.keyed h.keyed) hrow rfl hrows ⟨fun _ => ?_, fun ha => ?_,
    fun hne => absurd hst hne⟩ fun i a' ha' => ?_
  · exact (h.regular g (List.mem_of_getElem? hrow)).placed hst
  · rw [LoanGuarantor.holdActive, LoanGuarantor.released, Option.isNone_some, Bool.and_false] at ha
    cases ha
  · obtain ⟨a, ha, hfrozen⟩ := hacc i a' ha'
    refine ⟨a, ha, ?_⟩
    rw [charge_released, Int.zero_sub]
    exact hfrozen

theorem held_freed {loanId : Nat} {db db' : Db} (hf : db.Freed loanId db') (h : Held db) :
    Held db' := by
  induction hf with
  | refl => exact h
  | tail _ hone ih => exact held_freedOne hone ih

theorem freed_terms {loanId : Nat} {db db' : Db} (hf : db.Freed loanId db') : db.SameTerms db' := by
  induction hf with
  | refl => exact sameTerms_refl db
  | tail _ hone ih => exact History.trans ih hone.terms

theorem freed_loans {loanId : Nat} {db db' : Db} (hf : db.Freed loanId db') :
    db'.loans = db.loans := by
  induction hf with
  | refl => rfl
  | tail _ hone ih => rw [hone.loans, ih]

/-- A row that is not an unreleased hold of the loan stays as it is. -/
theorem freedOne_row {loanId : Nat} {db db' : Db} (hf : db.FreedOne loanId db') {id : Nat}
    {g : LoanGuarantor} (hrow : db.loanGuarantors[id]? = some g)
    (hne : g.loanId ≠ loanId ∨ g.status ≠ .accepted) : db'.loanGuarantors[id]? = some g := by
  obtain ⟨id₀, g₀, _, hrow₀, hloan₀, hst₀, _, hrows, _⟩ := hf.freed
  have hid : id₀ ≠ id := by
    intro he
    subst he
    rw [hrow] at hrow₀
    cases hrow₀
    rcases hne with hne | hne
    · exact hne hloan₀
    · exact hne hst₀
  rw [hrows, Table.getElem?_modify_other hid, hrow]

theorem freed_row {loanId : Nat} {db db' : Db} (hf : db.Freed loanId db') {id : Nat}
    {g : LoanGuarantor} (hrow : db.loanGuarantors[id]? = some g)
    (hne : g.loanId ≠ loanId ∨ g.status ≠ .accepted) : db'.loanGuarantors[id]? = some g := by
  induction hf with
  | refl => exact hrow
  | tail _ hone ih => exact freedOne_row hone ih hne

/-- Conversely a row of another loan was there before. -/
theorem freedOne_row_old {loanId : Nat} {db db' : Db} (hf : db.FreedOne loanId db') {id : Nat}
    {g : LoanGuarantor} (hrow : db'.loanGuarantors[id]? = some g) (hne : g.loanId ≠ loanId) :
    db.loanGuarantors[id]? = some g := by
  obtain ⟨id₀, g₀, _, hrow₀, hloan₀, _, _, hrows, _⟩ := hf.freed
  rw [hrows] at hrow
  obtain ⟨b, hb, hg⟩ := Table.getElem?_modify_some hrow
  split at hg
  · next hid =>
    subst hid
    rw [hrow₀] at hb
    cases hb
    subst hg
    exact absurd hloan₀ hne
  · rw [hg]
    exact hb

theorem freed_row_old {loanId : Nat} {db db' : Db} (hf : db.Freed loanId db') {id : Nat}
    {g : LoanGuarantor} (hrow : db'.loanGuarantors[id]? = some g) (hne : g.loanId ≠ loanId) :
    db.loanGuarantors[id]? = some g := by
  induction hf with
  | refl => exact hrow
  | tail _ hone ih => exact ih (freedOne_row_old hone hrow hne)

/-- The release of one hold leaves every other hold as releasable as it was. -/
theorem freedOne_releasable {loanId : Nat} {db db' : Db} (hf : db.FreedOne loanId db') (h : Held db)
    {id : Nat} {g : LoanGuarantor} (hrow : db.loanGuarantors[id]? = some g)
    (hrow' : db'.loanGuarantors[id]? = some g) (hst : g.status = .accepted)
    (hrel : g.holdReleasedAt = none) (hr : db.releasable g = true) : db'.releasable g = true := by
  obtain ⟨id₀, g₀, now, hrow₀, _, hst₀, hrel₀, hrows, hacc⟩ := hf.freed
  have hid : id₀ ≠ id := by
    intro he
    subst he
    rw [hrows, Table.getElem?_modify_self hrow₀] at hrow'
    cases hrow'
    cases hrel
  unfold Db.releasable at hr ⊢
  rw [Bool.or_eq_true] at hr ⊢
  rcases hr with hr | hr
  · exact .inl hr
  refine .inr ?_
  rw [hf.terms.accountOf (h.keyed.loan g (List.mem_of_getElem? hrow))]
  cases hi : db.accountOf g with
  | none => rfl
  | some i =>
    rw [Option.all_some]
    cases ha' : db'.accounts[i]? with
    | none => rfl
    | some a' =>
      obtain ⟨a, ha, hfrozen⟩ := hacc i a' ha'
      rw [hi, Option.all_some, ha, Option.all_some, beq_iff_eq] at hr
      rw [Option.all_some, beq_iff_eq, hfrozen, hr]
      -- the account cannot carry both holds unless the released one is empty
      split
      · next hi₀ =>
        have hle := charges_le_frozen h hrow₀ hrow hid hi₀ hi ha
        have hnonneg := charge_nonneg h (List.mem_of_getElem? hrow₀)
        rw [charge_accepted h hrow hst hrel, hr] at hle
        omega
      · exact Int.add_zero _

theorem freed_releasable {loanId : Nat} {db db' : Db} (hf : db.Freed loanId db') (h : Held db)
    {id : Nat} {g : LoanGuarantor} (hrow : db.loanGuarantors[id]? = some g)
    (hne : g.loanId ≠ loanId) (hst : g.status = .accepted)
    (hrel : g.holdReleasedAt = none) (hr : db.releasable g = true) : db'.releasable g = true := by
  induction hf with
  | refl => exact hr
  | tail hfs hone ih =>
    have hmid := freed_row hfs hrow (.inl hne)
    exact freedOne_releasable hone (held_freed hfs h) hmid (freedOne_row hone hmid (.inl hne)) hst
      hrel ih

theorem accountOf_eq {db : Db} {loanId : Nat} {row : Nat × LoanGuarantor} (h : db.Due loanId row) :
    db.accountOf row.2 = db.holdAccount row.2.memberId (db.collateralTypeOf loanId) := by
  rw [Db.accountOf, h.ofLoan]

theorem freedOne_write {db mid : Db} {loanId : Nat} {row : Nat × LoanGuarantor} (now : Int)
    (h : Held db) (hd : db.Due loanId row) (hrel : row.2.holdReleasedAt = none)
    (hmid : (mid = db ∧ ∀ i a, db.accountOf row.2 = some i → db.accounts[i]? = some a →
        min a.frozenSavings (row.2.guaranteedAmount : Int) = 0) ∨
      ∃ i a, db.accountOf row.2 = some i ∧ db.accounts[i]? = some a ∧
        mid = db.updateAccount i (·.hold (-(min a.frozenSavings row.2.guaranteedAmount)))) :
    db.FreedOne loanId (mid.updateGuarantor row.1 (·.released now)) := by
  have hr := hd.releasable hrel
  rcases hmid with ⟨rfl, hzero⟩ | ⟨i, a, hi, ha, rfl⟩
  · refine ⟨⟨row.1, row.2, now, hd.current, hd.ofLoan, hd.accepted, hrel, rfl, fun i a' ha' => ?_⟩,
      AdmitsGuarantor.update _ _ _ fun _ => rfl, rfl, AdmitsGuarantor.update _ _ _ fun _ => rfl⟩
    refine ⟨a', ha', ?_⟩
    split
    · next hi =>
      have hamount := release_amount h hd.current hd.accepted hrel hr hi ha'
      rw [hzero i a' hi ha'] at hamount
      rw [← hamount]
      exact (Int.add_zero _).symm
    · exact (Int.add_zero _).symm
  · have hamount := release_amount h hd.current hd.accepted hrel hr hi ha
    refine ⟨⟨row.1, row.2, now, hd.current, hd.ofLoan, hd.accepted, hrel, rfl, ?_⟩, ?_, rfl, ?_⟩
    · rw [hamount]
      exact accounts_frozen (fun _ => rfl) hi
    · exact History.trans (AdmitsHold.hold _ _ _) (AdmitsGuarantor.update _ _ _ fun _ => rfl)
    · exact History.trans (AdmitsHold.hold db i _) (AdmitsGuarantor.update _ _ _ fun _ => rfl)

theorem releaseAcceptedHold_freed {now : Int} {loanId : Nat} {ty : AccountType}
    {row : Nat × LoanGuarantor} {u : Unit} {db db' : Db} (h : Held db) (hd : db.Due loanId row)
    (hty : db.collateralTypeOf loanId = ty)
    (hy : Yields (releaseAcceptedHold now ty row) db u db') :
    db' = db ∨ (db.FreedOne loanId db' ∧
      db'.loanGuarantors = db.loanGuarantors.modify row.1 (·.released now)) := by
  rcases releaseAcceptedHold_cases hy with ⟨_, rfl⟩ | ⟨hrel, _, mid, hun, rfl⟩
  · exact .inl rfl
  have hrows : mid.loanGuarantors = db.loanGuarantors := by
    rcases hun with ⟨rfl, _⟩ | ⟨_, _, _, rfl⟩
    · rfl
    · rfl
  refine .inr ⟨freedOne_write now h hd hrel ?_, by rw [Db.updateGuarantor, hrows]⟩
  have hacc := accountOf_eq hd
  rw [hty] at hacc
  rcases hun with ⟨rfl, hzero⟩ | ⟨i, a, hactive, rfl⟩
  · refine .inl ⟨rfl, fun i a hi ha => ?_⟩
    rw [hacc] at hi
    obtain ⟨a₀, ha₀⟩ := holdAccount_iff.mp hi
    have hsame := (activeAccount_some ha₀).1
    rw [ha] at hsame
    cases hsame
    exact hzero _ ha₀
  · exact .inr ⟨i, a, hacc.trans (holdAccount_iff.mpr ⟨a, hactive⟩), (activeAccount_some hactive).1,
      rfl⟩

theorem releaseRejected_freed {now : Int} {loanId : Nat} {ty : AccountType}
    {row : Nat × LoanGuarantor} {u : Unit} {db db' : Db} (h : Held db) (hd : db.Due loanId row)
    (hrel : row.2.holdReleasedAt = none) (hty : db.collateralTypeOf loanId = ty)
    (hy : Yields (releaseRejected now ty row) db u db') :
    db' = db ∨ (db.FreedOne loanId db' ∧
      db'.loanGuarantors = db.loanGuarantors.modify row.1 (·.released now)) := by
  rcases releaseRejected_cases hy with ⟨rfl, _⟩ | ⟨i, a, hactive, _, rfl⟩
  · exact .inl rfl
  have hacc := accountOf_eq hd
  rw [hty] at hacc
  exact .inr ⟨freedOne_write now h hd hrel (.inr ⟨i, a,
    hacc.trans (holdAccount_iff.mpr ⟨a, hactive⟩), (activeAccount_some hactive).1, rfl⟩), rfl⟩

/-- The rows that are left stay due when one row of the loan is released. -/
theorem releasing_next {loanId : Nat} {ty : AccountType} {db₀ db db' : Db} {now : Int}
    {row : Nat × LoanGuarantor} {rows : List (Nat × LoanGuarantor)}
    (hinv : Releasing loanId ty db₀ (row :: rows) db)
    (hf : db' = db ∨ (db.FreedOne loanId db' ∧
      db'.loanGuarantors = db.loanGuarantors.modify row.1 (·.released now))) :
    Releasing loanId ty db₀ rows db' := by
  obtain ⟨hnew, hnodup⟩ := List.nodup_cons.mp hinv.nodup
  have hrest : ∀ r ∈ rows, db.Due loanId r := fun r hr => hinv.due r (List.mem_cons_of_mem _ hr)
  rcases hf with rfl | ⟨hone, hrows⟩
  · exact ⟨hinv.freed, hinv.held, hnodup, hrest, hinv.collateral⟩
  have hlen : loanId < db.loans.length := by
    have hd := hinv.due row List.mem_cons_self
    rw [← hd.ofLoan]
    exact hinv.held.keyed.loan _ (List.mem_of_getElem? hd.current)
  refine ⟨hinv.freed.tail hone, held_freedOne hone hinv.held, hnodup, fun r hr => ?_, ?_⟩
  · have hd := hrest r hr
    have hne : row.1 ≠ r.1 := fun he => hnew (he ▸ List.mem_map_of_mem hr)
    have hcurrent : db'.loanGuarantors[r.1]? = some r.2 := by
      rw [hrows, Table.getElem?_modify_other hne]
      exact hd.current
    exact ⟨hcurrent, hd.ofLoan, hd.accepted, fun hrel =>
      freedOne_releasable hone hinv.held hd.current hcurrent hd.accepted hrel (hd.releasable hrel)⟩
  · rw [hone.terms.collateralTypeOf hlen]
    exact hinv.collateral

/-- A loop whose body releases the hold it comes to, or does nothing. -/
theorem loop_releasing {now : Int} {loanId : Nat} {ty : AccountType} {db₀ : Db}
    {f : Nat × LoanGuarantor → Tx Unit} (rows : List (Nat × LoanGuarantor))
    (hstep : ∀ row ∈ rows, ∀ {db db' : Db} {u : Unit}, Held db → db.Due loanId row →
      db.collateralTypeOf loanId = ty → Yields (f row) db u db' →
      db' = db ∨ (db.FreedOne loanId db' ∧
        db'.loanGuarantors = db.loanGuarantors.modify row.1 (·.released now))) :
    Ensures (Releasing loanId ty db₀ rows) (rows.forM f) fun _ => Releasing loanId ty db₀ [] := by
  induction rows with
  | nil =>
    intro db u db' h hinv
    exact (yields_pure.mp h).2 ▸ hinv
  | cons row rows ih =>
    refine Ensures.bind' (fun db u db' hy hinv => ?_) fun _ =>
      ih fun r hr => hstep r (List.mem_cons_of_mem _ hr)
    exact releasing_next hinv (hstep row List.mem_cons_self hinv.held
      (hinv.due row List.mem_cons_self) hinv.collateral hy)

theorem allReleasable_row {db : Db} {loanId id : Nat} {g : LoanGuarantor}
    (hall : db.allReleasable loanId = true) (hrow : db.loanGuarantors[id]? = some g)
    (hloan : g.loanId = loanId) (hst : g.status = .accepted) (hrel : g.holdReleasedAt = none) :
    db.releasable g = true := by
  have hmem : (id, g) ∈ db.unreleasedGuarantors loanId :=
    mem_unreleasedGuarantors.mpr ⟨hrow, hloan, hst, hrel⟩
  exact List.all_eq_true.mp hall (id, g) hmem

/-- The release of the accepted guarantees of a loan. -/
theorem acceptedLoop_freed {now : Int} {loanId : Nat} {ty : AccountType} {u : Unit} {db db' : Db}
    (h : Held db) (hty : db.collateralTypeOf loanId = ty) (hall : db.allReleasable loanId = true)
    (hy : Yields ((db.guarantorsOf loanId [.accepted]).forM (releaseAcceptedHold now ty)) db u
      db') :
    db.Freed loanId db' := by
  have hinit : Releasing loanId ty db (db.guarantorsOf loanId [.accepted]) db := by
    refine ⟨.refl, h, Table.nodup_selectRows, fun r hr => ?_, hty⟩
    obtain ⟨hrow, hloan, hst⟩ := mem_guarantorsOf.mp hr
    have hst := List.mem_singleton.mp (List.contains_iff_mem.mp hst)
    exact ⟨hrow, hloan, hst, fun hrel =>
      allReleasable_row hall hrow hloan hst hrel⟩
  exact (loop_releasing _ (fun row _ {_ _ _} hd hdue hc hy' =>
    releaseAcceptedHold_freed hd hdue hc hy') hy hinit).freed

/-- The release of the unreleased guarantees of a loan. -/
theorem unreleasedLoop_freed {now : Int} {loanId : Nat} {u : Unit} {db db' : Db}
    (h : Held db) (hall : db.allReleasable loanId = true)
    (hy : Yields ((db.unreleasedGuarantors loanId).forM
      (releaseRejected now (db.collateralTypeOf loanId))) db u db') : db.Freed loanId db' := by
  have hinit : Releasing loanId (db.collateralTypeOf loanId) db (db.unreleasedGuarantors loanId)
      db := by
    refine ⟨.refl, h, Table.nodup_selectRows, fun r hr => ?_, rfl⟩
    obtain ⟨hrow, hloan, hst, _⟩ := mem_unreleasedGuarantors.mp hr
    exact ⟨hrow, hloan, hst, fun hrel =>
      allReleasable_row hall hrow hloan hst hrel⟩
  exact (loop_releasing _ (fun row hrow {_ _ _} hd hdue hc hy' => releaseRejected_freed hd hdue
    (mem_unreleasedGuarantors.mp hrow).2.2.2 hc hy') hy hinit).freed

end HoldSumLemmas

/-! ## 4. Operations that keep the sum -/

/-- The invitation is refused, or nobody is asked who has had a hold for the loan. -/
def Db.invitationKeeps (db seen : Db) (loanId nominated : Nat) (item : Nomination) : Bool :=
  match seen.invitable loanId nominated with
  | .error _ => true
  | .ok loan =>
    (seen.ineligible item loan.memberId (seen.collateralType loan)).isSome ||
      (db.guarantorRow loanId item.memberId).all fun row => row.2.holdPlacedAt.isNone

/-- The response closes the loan: what `applyLoanState` decides on the row as answered. -/
def Db.rejectedBy (db : Db) (now : Int) (args : DecisionArgs) : Bool :=
  db.loanGuarantors[args.guarantorId]?.any fun g =>
    g.loanId == args.loanId && g.status == .pending &&
      db.loans[args.loanId]?.any fun loan => loan.status == .pendingGuarantors &&
        db.loanProducts[loan.loanProductId]?.any fun product =>
          let nextStatus := args.nextStatus now g.invitedAt
          let tally := (db.updateGuarantor args.guarantorId
            (·.answered now nextStatus)).coverageTally args.loanId
          !tally.criteriaMet loan product && tally.shouldTerminallyReject product nextStatus

/-- The response is refused, or closes no loan whose holds have been drawn on. -/
def Db.responseKeeps (db : Db) (now : Int) (args : DecisionArgs) : Bool :=
  !db.rejectedBy now args || db.allReleasable args.loanId

/-- The expiry closes no loan whose holds have been drawn on. -/
def Db.expirable (db : Db) (guarantor : LoanGuarantor) : Bool :=
  db.loans[guarantor.loanId]?.all fun loan =>
    loan.status != .pendingGuarantors || db.allReleasable guarantor.loanId

/-- The repayment is new and pays the principal off. -/
def Db.clearsLoan (db : Db) (p : RepayParams) : Bool :=
  (db.transactionByReference (p.reference db.tenantId)).isNone &&
    (db.loans[p.loanId]?.filter (·.status = .active)).any fun loan => p.newStatus loan == .fullyPaid

/-- What the guarantor forfeits is all that is left of the guarantee, and is on the account of the
hold. -/
def Db.forfeitsAll (db : Db) (guarantor : LoanGuarantor) : Bool :=
  (db.activeAccount guarantor.memberId .bosa).all fun r =>
    guarantor.forfeitable r.2 ≤ 0 ||
      (db.accountOf guarantor == some r.1 && guarantor.forfeitable r.2 == guarantor.left)

/-- The offset takes nothing, or all of the hold, of every guarantor. -/
def Db.offsetKeeps (db : Db) (loanId : Nat) : Bool :=
  (db.loans[loanId]?.filter (·.offsettable)).isNone ||
    (db.unreleasedGuarantors loanId).all fun row => db.forfeitsAll row.2

/-- The operation resets no active hold, and takes off every hold it releases exactly what the
hold put on. -/
def keepsHolds (db : Db) : Op → Bool
  | .inviteGuarantor seen _ loanId nominated item => db.invitationKeeps seen loanId nominated item
  | .respond now args => db.responseKeeps now args
  | .expireGuarantor _ guarantorId =>
    (db.loanGuarantors[guarantorId]?.filter (·.status = .pending)).all db.expirable
  | .expirySweep _ cutoff =>
    (Table.selectRows (fun g => g.status == .pending && g.invitedAt < cutoff)
      db.loanGuarantors).all fun row => db.expirable row.2
  | .reject _ loanId =>
    db.loans[loanId]?.all fun loan => !loan.status.rejectable || db.allReleasable loanId
  | .updateStatus _ _ loanId targetStatus _ =>
    targetStatus != .rejected ||
      db.loans[loanId]?.all fun loan => !loan.status.rejectable || db.allReleasable loanId
  | .repay p => !db.clearsLoan p || db.allReleasable p.loanId
  | .offset _ loanId _ => db.offsetKeeps loanId
  | _ => true

namespace HoldSumLemmas

/-- A row that is not accepted is written and is not accepted then; no account changes. -/
theorem held_idle {db : Db} {id : Nat} {g : LoanGuarantor} {f : LoanGuarantor → LoanGuarantor}
    (h : Held db) (hrow : db.loanGuarantors[id]? = some g) (hkey : ∀ g, (f g).key = g.key)
    (hcharge : g.charge = 0) (hst : (f g).status ≠ .accepted)
    (hfresh : (f g).holdPlacedAt = none ∧ (f g).holdReleasedAt = none ∧
      (f g).recoveredAmount = 0) : Held (db.updateGuarantor id f) := by
  refine held_change h (AdmitsGuarantor.update _ _ _ hkey) (keyed_updateGuarantor hkey h.keyed) hrow
    (hkey g) rfl (regular_fresh hst hfresh) fun i a ha => ⟨a, ha, ?_⟩
  rw [charge_of_not_accepted hst, hcharge, Int.sub_zero, ite_self, Int.add_zero]

theorem held_updateLoan {db : Db} {id : Nat} {f : Loan → Loan} (h : Held db)
    (hf : ∀ l, (f l).terms = l.terms) : Held (db.updateLoan id f) :=
  held_same (AdmitsLoan.update _ _ _ hf) (keyed_updateLoan _ _ h.keyed) h

theorem invite_held {seen : Db} {now : Int} {loanId nominated : Nat} {item : Nomination} {u : Unit}
    {db db' : Db} (hy : Yields (inviteGuarantor seen now loanId nominated item) db u db')
    (hg : db.invitationKeeps seen loanId nominated item = true) (h : Held db) : Held db' := by
  have hterms : db.SameTerms db' := inviteGuarantor_moves _ _ _ _ _ hy
  have hkeys : db.KeepsKeys db' := inviteGuarantor_moves _ _ _ _ _ hy
  simp only [inviteGuarantor, yields_bind, yields_fromExcept] at hy
  obtain ⟨loan, _, ⟨hinv, rfl⟩, hy⟩ := hy
  rw [Db.invitationKeeps, hinv] at hg
  dsimp only at hg
  cases hine : seen.ineligible item loan.memberId (seen.collateralType loan) with
  | some reason =>
    simp only [hine, yields_pure] at hy
    exact hy.2 ▸ h
  | none =>
    rw [hine, Option.isSome_none, Bool.false_or] at hg
    simp only [hine, upsertGuarantor, yields_bind, yields_get] at hy
    obtain ⟨_, _, ⟨rfl, rfl⟩, hy⟩ := hy
    cases hrow : db.guarantorRow loanId item.memberId with
    | some r =>
      rw [hrow, Option.all_some, Option.isNone_iff_eq_none] at hg
      simp only [hrow, yields_modify] at hy
      subst hy
      have hfound := (Table.findRow_some hrow).1
      have hregular := h.regular _ (List.mem_of_getElem? hfound)
      -- an accepted guarantor has had a hold
      have hst : r.2.status ≠ .accepted := fun hacc => by
        have hplaced := hregular.placed hacc
        rw [hg] at hplaced
        cases hplaced
      exact held_idle h hfound (fun _ => rfl) (charge_of_not_accepted hst) (fun he => by cases he)
        (hregular.fresh hst)
    | none =>
      simp only [hrow, yields_bind, yields_ensure, yields_modify] at hy
      obtain ⟨_, _, ⟨_, rfl⟩, rfl⟩ := hy
      refine held_append h hterms (hkeys h.keyed) rfl rfl fun g hg => ?_
      rw [List.mem_singleton.mp hg]
      have hst : (item.invited now loanId).status ≠ .accepted := fun he => by cases he
      exact ⟨regular_fresh hst ⟨rfl, rfl, rfl⟩, hst⟩

theorem createApplication_held {now : Int} {loan : Loan} {requiresGuarantors : Bool}
    {guarantors : List Nomination} {id : Nat} {db db' : Db}
    (hy : Yields (createApplication now loan requiresGuarantors guarantors) db id db')
    (h : Held db) : Held db' := by
  have hterms : db.SameTerms db' := AdmitsNomination.apply _ _ _ _ hy
  have hkeys : db.KeepsKeys db' := AdmitsNomination.apply _ _ _ _ hy
  simp only [createApplication, yields_bind, yields_fromExcept, yields_get, yields_modify,
    yields_pure] at hy
  obtain ⟨_, _, ⟨_, rfl⟩, _, _, ⟨rfl, rfl⟩, _, _, rfl, _, rfl⟩ := hy
  refine held_append h hterms (hkeys h.keyed) rfl rfl fun g hg => ?_
  cases requiresGuarantors with
  | false => exact absurd hg List.not_mem_nil
  | true =>
    obtain ⟨item, _, rfl⟩ := List.mem_map.mp hg
    have hst : (item.invited now db.loans.length).status ≠ .accepted := fun he => by cases he
    exact ⟨regular_fresh hst ⟨rfl, rfl, rfl⟩, hst⟩

/-! ### Responses -/

theorem releasable_congr {db db' : Db} {g : LoanGuarantor} (ht : db.SameTerms db')
    (hl : g.loanId < db.loans.length)
    (hacc : ∀ i, db.accountOf g = some i → db'.accounts[i]? = db.accounts[i]?) :
    db'.releasable g = db.releasable g := by
  rw [Db.releasable, Db.releasable, ht.accountOf hl]
  cases hi : db.accountOf g with
  | none => rfl
  | some i => rw [Option.all_some, Option.all_some, hacc i hi]

theorem allReleasable_of_rows {db : Db} {loanId : Nat}
    (h : ∀ (id : Nat) (g : LoanGuarantor), db.loanGuarantors[id]? = some g → g.loanId = loanId →
      g.status = .accepted → g.holdReleasedAt = none → db.releasable g = true) :
    db.allReleasable loanId = true := by
  refine List.all_eq_true.mpr fun r hr => ?_
  obtain ⟨hrow, hloan, hst, hrel⟩ := mem_unreleasedGuarantors.mp hr
  exact h r.1 r.2 hrow hloan hst hrel

/-- The account of a hold belongs to the guarantor. -/
theorem accountOf_member {db : Db} {g : LoanGuarantor} {i : Nat} (h : db.accountOf g = some i) :
    ∃ a, db.accounts[i]? = some a ∧ a.memberId = g.memberId := by
  obtain ⟨a, ha⟩ := holdAccount_iff.mp h
  exact ⟨a, (activeAccount_some ha).1, (activeAccount_some ha).2.1⟩

/-- The holds of two guarantors of one loan are on different accounts. -/
theorem accountOf_ne {db : Db} (hk : Keyed db) {id id' i : Nat} {g g' : LoanGuarantor}
    (hrow : db.loanGuarantors[id]? = some g) (hrow' : db.loanGuarantors[id']? = some g')
    (hne : id ≠ id') (hloan : g.loanId = g'.loanId) (hi : db.accountOf g = some i) :
    db.accountOf g' ≠ some i := by
  intro hi'
  obtain ⟨a, ha, hm⟩ := accountOf_member hi
  obtain ⟨a', ha', hm'⟩ := accountOf_member hi'
  cases ha.symm.trans ha'
  exact member_ne hk hrow hrow' hne hloan (hm.symm.trans hm')

theorem accept_held {db : Db} {now : Int} {id i : Nat} {g : LoanGuarantor}
    (h : Held db) (hrow : db.loanGuarantors[id]? = some g) (hst : g.status = .pending)
    (hi : db.accountOf g = some i) (hrec : g.recoveredAmount = 0) (hrel : g.holdReleasedAt = none) :
    Held ((db.updateAccount i (·.hold g.guaranteedAmount)).updateGuarantor id
      (·.answered now .accepted)) := by
  have hold : g.charge = 0 := charge_of_not_accepted fun he => by rw [hst] at he; cases he
  have hactive : (g.answered now .accepted).holdActive = true := by
    rw [LoanGuarantor.holdActive, LoanGuarantor.answered, if_pos rfl, hrel]
    rfl
  have hnew : (g.answered now .accepted).charge = g.guaranteedAmount := by
    rw [LoanGuarantor.charge, if_pos hactive]
    show (g.guaranteedAmount : Int) - g.recoveredAmount = _
    rw [hrec]
    exact Int.sub_zero _
  have hregular : (g.answered now .accepted).Regular := by
    refine ⟨fun _ => rfl, fun _ => ?_, fun hne => absurd rfl hne⟩
    show g.recoveredAmount ≤ g.guaranteedAmount
    rw [hrec]
    exact Nat.zero_le _
  refine held_change h ?_ ?_ hrow rfl rfl hregular fun j a' ha' => ?_
  · exact History.trans (AdmitsHold.hold _ _ _) (AdmitsGuarantor.update _ _ _ fun _ => rfl)
  · exact keyed_updateGuarantor (fun _ => rfl) ⟨h.keyed.unique, h.keyed.loan⟩
  · rw [hnew, hold, Int.sub_zero]
    exact accounts_frozen (fun _ => rfl) hi j a' ha'

theorem answered_held {now : Int} {args : DecisionArgs} {g : LoanGuarantor} {loan : Loan}
    {product : LoanProduct} {db held : Db} (h : Held db)
    (hr : Responded now args db g loan product held)
    (hty : product.requiredAccountType.getD .fosa = db.collateralTypeOf args.loanId) :
    Held (held.updateGuarantor args.guarantorId
      (·.answered now (args.nextStatus now g.invitedAt))) ∧
    ∀ (i : Nat), db.accountOf g ≠ some i → held.accounts[i]? = db.accounts[i]? := by
  have hst : g.status ≠ .accepted := by
    rw [hr.pending]
    decide
  obtain ⟨hnone, hrel, hrec⟩ := (h.regular g (List.mem_of_getElem? hr.row)).fresh hst
  by_cases hacc : args.nextStatus now g.invitedAt = .accepted
  · rw [hacc]
    obtain ⟨-, i, a, hactive, -, rfl⟩ := placeGuarantorHolds_cases (hr.placed hacc)
    have hi : db.accountOf g = some i := by
      rw [Db.accountOf, hr.ofLoan, ← hty]
      exact holdAccount_iff.mpr ⟨a, hactive⟩
    refine ⟨accept_held h hr.row hr.pending hi hrec hrel, fun j hj => ?_⟩
    exact Table.getElem?_modify_other fun heq => hj (heq ▸ hi)
  · rw [hr.kept hacc]
    have hnew : (g.answered now (args.nextStatus now g.invitedAt)).holdPlacedAt = none := by
      rw [LoanGuarantor.answered, if_neg hacc]
      exact hnone
    exact ⟨held_idle h hr.row (fun _ => rfl) (charge_of_not_accepted hst) hacc
      ⟨hnew, hrel, hrec⟩, fun _ _ => rfl⟩

theorem respond_held {now : Int} {args : DecisionArgs} {s : LoanStatus} {db db' : Db}
    (hy : Yields (applyDecision now args) db s db') (hg : db.responseKeeps now args = true)
    (h : Held db) : Held db' := by
  obtain ⟨g, loan, product, held, hr, happly⟩ := applyDecision_cases hy
  have hty : product.requiredAccountType.getD .fosa = db.collateralTypeOf args.loanId := by
    rw [Db.collateralTypeOf, hr.loan_eq, Option.map_some, Option.getD_some, Db.collateralType,
      hr.product_eq]
    rfl
  obtain ⟨hheld, hother⟩ := answered_held h hr hty
  have hlen : args.loanId < db.loans.length := Table.lt_length_of_getElem? hr.loan_eq
  obtain ⟨hrows, hterms⟩ : held.loanGuarantors = db.loanGuarantors ∧ db.SameTerms held := by
    by_cases hacc : args.nextStatus now g.invitedAt = .accepted
    · obtain ⟨-, i, a, -, -, rfl⟩ := placeGuarantorHolds_cases (hr.placed hacc)
      exact ⟨rfl, AdmitsHold.hold _ _ _⟩
    · rw [hr.kept hacc]
      exact ⟨rfl, sameTerms_refl db⟩
  have hanswered : (held.updateGuarantor args.guarantorId
      (·.answered now (args.nextStatus now g.invitedAt))).loanGuarantors =
      (db.updateGuarantor args.guarantorId
        (·.answered now (args.nextStatus now g.invitedAt))).loanGuarantors := by
    rw [Db.updateGuarantor, Db.updateGuarantor, hrows]
  rcases applyLoanState_cases happly with ⟨-, rfl⟩ | ⟨-, -, rfl⟩ |
    ⟨hst, hmet, hrej, mid, hloop, rfl⟩
  · exact hheld
  · exact held_updateLoan hheld (terms_ite _)
  · have hrejected : db.rejectedBy now args = true := by
      have htally : (db.updateGuarantor args.guarantorId
          (·.answered now (args.nextStatus now g.invitedAt))).coverageTally args.loanId =
          (held.updateGuarantor args.guarantorId
            (·.answered now (args.nextStatus now g.invitedAt))).coverageTally args.loanId := by
        unfold Db.coverageTally Db.guarantorsOf
        rw [hanswered]
      rw [Db.rejectedBy, hr.row, Option.any_some, hr.ofLoan, hr.pending, hr.loan_eq,
        Option.any_some, hst, hr.product_eq, Option.any_some]
      dsimp only
      rw [htally, hmet, hrej]
      simp
    rw [Db.responseKeeps, hrejected, Bool.not_true, Bool.false_or] at hg
    have hterms' : db.SameTerms (held.updateGuarantor args.guarantorId
        (·.answered now (args.nextStatus now g.invitedAt))) :=
      History.trans hterms (AdmitsGuarantor.update _ _ _ fun _ => rfl)
    -- the holds of the others are on other accounts, and the new one has not been drawn on
    have hall : (held.updateGuarantor args.guarantorId
        (·.answered now (args.nextStatus now g.invitedAt))).allReleasable args.loanId = true := by
      refine allReleasable_of_rows fun k m hm hof hacc hrel => ?_
      rw [hanswered] at hm
      obtain ⟨m₀, hm₀, rfl⟩ := Table.getElem?_modify_some hm
      by_cases hk : args.guarantorId = k
      · subst hk
        cases hr.row.symm.trans hm₀
        have hpending : g.status ≠ .accepted := by
          rw [hr.pending]
          decide
        have hrec := ((h.regular g (List.mem_of_getElem? hr.row)).fresh hpending).2.2
        rw [if_pos rfl, Db.releasable]
        refine Bool.or_eq_true_iff.mpr (.inl (beq_iff_eq.mpr hrec))
      · rw [if_neg hk] at hof hacc hrel ⊢
        rw [releasable_congr hterms' (h.keyed.loan _ (List.mem_of_getElem? hm₀)) fun i hi =>
          hother i (accountOf_ne h.keyed hm₀ hr.row (Ne.symm hk) (hof.trans hr.ofLoan.symm) hi)]
        exact allReleasable_row hg hm₀ hof hacc hrel
    have hfreed := acceptedLoop_freed hheld ((hterms'.collateralTypeOf hlen).trans hty.symm) hall
      hloop
    exact held_updateLoan (held_freed hfreed hheld) (terms_ite _)

/-! ### Expiries -/

/-- The accepted guarantees of a loan are as releasable as they were, when their accounts and they
themselves are as they were. -/
theorem allReleasable_kept {db db' : Db} {loanId : Nat} (h : Held db) (ht : db.SameTerms db')
    (hrows : ∀ (k : Nat) (m : LoanGuarantor), db'.loanGuarantors[k]? = some m →
      m.loanId = loanId → m.status = .accepted → db.loanGuarantors[k]? = some m)
    (hacc : db'.accounts = db.accounts) (hall : db.allReleasable loanId = true) :
    db'.allReleasable loanId = true := by
  refine allReleasable_of_rows fun k m hm hof hst hrel => ?_
  have hold := hrows k m hm hof hst
  rw [releasable_congr ht (h.keyed.loan _ (List.mem_of_getElem? hold)) fun i _ => by rw [hacc]]
  exact allReleasable_row hall hold hof hst hrel

/-- What an expiry leaves: the sum, the other rows that wait, and what they may do in turn. -/
structure Lapses (row : Nat × LoanGuarantor) (db db' : Db) : Prop where
  held : Held db'
  waiting : ∀ (k : Nat) (m : LoanGuarantor), k ≠ row.1 → db.loanGuarantors[k]? = some m →
    m.status = .pending → db'.loanGuarantors[k]? = some m
  terms : db.SameTerms db'
  expirable : ∀ m : LoanGuarantor, db.expirable m = true → db'.expirable m = true

theorem expirable_of {db : Db} {m : LoanGuarantor}
    (h : ∀ loan, db.loans[m.loanId]? = some loan → loan.status = .pendingGuarantors →
      db.allReleasable m.loanId = true) : db.expirable m = true := by
  unfold Db.expirable
  cases hl : db.loans[m.loanId]? with
  | none => rfl
  | some loan =>
    rw [Option.all_some, Bool.or_eq_true, bne_iff_ne]
    by_cases hwaits : loan.status = .pendingGuarantors
    · exact .inr (h loan hl hwaits)
    · exact .inl hwaits

theorem expirable_row {db : Db} {m : LoanGuarantor} {loan : Loan} (h : db.expirable m = true)
    (hl : db.loans[m.loanId]? = some loan) (hwaits : loan.status = .pendingGuarantors) :
    db.allReleasable m.loanId = true := by
  rw [Db.expirable, hl, Option.all_some, hwaits, bne_self_eq_false, Bool.false_or] at h
  exact h

/-- The write of the row itself: a guarantee that waits has no hold, so only its status changes. -/
theorem expired_lapses (now : Int) {row : Nat × LoanGuarantor} {db : Db} (h : Held db)
    (hrow : db.loanGuarantors[row.1]? = some row.2) (hpending : row.2.status = .pending) :
    Lapses row db (db.updateGuarantor row.1 (·.expire now false)) ∧
      ∀ loanId, db.allReleasable loanId = true →
        (db.updateGuarantor row.1 (·.expire now false)).allReleasable loanId = true := by
  have hst : row.2.status ≠ .accepted := by
    rw [hpending]
    decide
  have hexpired : (row.2.expire now false).status = .expired := by
    rw [LoanGuarantor.expire, if_pos hpending]
  have hkey : ∀ g : LoanGuarantor, (g.expire now false).key = g.key := fun g => by
    unfold LoanGuarantor.expire
    split <;> rfl
  have hterms : db.SameTerms (db.updateGuarantor row.1 (·.expire now false)) :=
    AdmitsGuarantor.update _ _ _ hkey
  have hheld : Held (db.updateGuarantor row.1 (·.expire now false)) := by
    refine held_idle h hrow hkey (charge_of_not_accepted hst) ?_ ?_
    · rw [hexpired]
      decide
    · rw [LoanGuarantor.expire, if_pos hpending]
      exact (h.regular _ (List.mem_of_getElem? hrow)).fresh hst
  have hback : ∀ (k : Nat) (m : LoanGuarantor),
      (db.updateGuarantor row.1 (·.expire now false)).loanGuarantors[k]? = some m →
      m.status = .accepted → db.loanGuarantors[k]? = some m := by
    intro k m hm hacc
    obtain ⟨m₀, hm₀, rfl⟩ := Table.getElem?_modify_some hm
    by_cases hk : row.1 = k
    · subst hk
      cases hrow.symm.trans hm₀
      rw [if_pos rfl, hexpired] at hacc
      cases hacc
    · rw [if_neg hk]
      exact hm₀
  have hkept : ∀ loanId, db.allReleasable loanId = true →
      (db.updateGuarantor row.1 (·.expire now false)).allReleasable loanId = true :=
    fun loanId => allReleasable_kept h hterms (fun k m hm _ hacc => hback k m hm hacc) rfl
  refine ⟨⟨hheld, fun k m hk hm _ => ?_, hterms, fun m hm => ?_⟩, hkept⟩
  · rw [Db.updateGuarantor, Table.getElem?_modify_other (Ne.symm hk), hm]
  · exact expirable_of fun l hl hwaits => hkept _ (expirable_row hm hl hwaits)

/-- The loan that is closed by it: its holds are freed, and the other loans' are left alone. -/
theorem closed_lapses {now : Int} {row : Nat × LoanGuarantor} {db mid : Db} (h : Held db)
    (hall : db.allReleasable row.2.loanId = true)
    (hloop : Yields ((db.guarantorsOf row.2.loanId [.accepted]).forM
      (releaseAcceptedHold now (db.collateralTypeOf row.2.loanId))) db () mid) :
    Lapses row db (mid.updateLoan row.2.loanId fun l =>
      if l.status = .pendingGuarantors then { l with status := .rejectedGuarantorDecline }
      else l) := by
  have hfreed := acceptedLoop_freed h rfl hall hloop
  have hmid : Held mid := held_freed hfreed h
  refine ⟨held_updateLoan hmid (terms_ite _), fun k m _ hm hst => ?_,
    History.trans (freed_terms hfreed) (AdmitsLoan.update _ _ _ (terms_ite _)),
    fun m hm => expirable_of fun l hl hwaits => ?_⟩
  · refine freed_row hfreed hm (.inr ?_)
    rw [hst]
    decide
  · rw [Db.updateLoan, freed_loans hfreed] at hl
    obtain ⟨l₀, hl₀, rfl⟩ := Table.getElem?_modify_some hl
    by_cases hof : row.2.loanId = m.loanId
    · -- the loan itself does not wait any more
      rw [if_pos hof] at hwaits
      split at hwaits
      · cases hwaits
      · next hne => exact absurd hwaits hne
    · rw [if_neg hof] at hwaits
      have hothers := expirable_row hm hl₀ hwaits
      refine allReleasable_of_rows fun k g hg hgof hgst hgrel => ?_
      have hne : g.loanId ≠ row.2.loanId := fun heq => hof (heq.symm.trans hgof)
      have hgrow := freed_row_old hfreed hg hne
      have hgall := allReleasable_row hothers hgrow hgof hgst hgrel
      rw [releasable_congr (AdmitsLoan.update mid _ _ (terms_ite _))
        (hmid.keyed.loan _ (List.mem_of_getElem? hg)) fun _ _ => rfl]
      exact freed_releasable hfreed h hgrow hne hgst hgrel hgall

theorem expire_lapses {now : Int} {row : Nat × LoanGuarantor} {u : Unit} {db db' : Db}
    (h : Held db) (hrow : db.loanGuarantors[row.1]? = some row.2)
    (hpending : row.2.status = .pending)
    (hg : db.expirable row.2 = true)
    (hy : Yields (expireGuarantor now row (db.collateralTypeOf row.2.loanId)) db u db') :
    Lapses row db db' := by
  have hst : row.2.status ≠ .accepted := by
    rw [hpending]
    decide
  have hfresh := (h.regular _ (List.mem_of_getElem? hrow)).fresh hst
  obtain ⟨freed, -, hfreed, htail⟩ := expireGuarantor_cases hy
  rw [hfreed hfresh.1, hfresh.1, Option.isSome_none] at htail
  obtain ⟨hwritten, hkept⟩ := expired_lapses now h hrow hpending
  rcases rejectForTimeout_cases htail with ⟨-, rfl⟩ | ⟨loan, mid, hloan, hwaits, hloop, rfl⟩
  · exact hwritten
  have hloan' : db.loans[row.2.loanId]? = some loan := hloan
  rw [← hwritten.terms.collateralTypeOf (Table.lt_length_of_getElem? hloan')] at hloop
  have hclosed := closed_lapses hwritten.held (hkept _ (expirable_row hg hloan hwaits)) hloop
  exact ⟨hclosed.held,
    fun k m hk hm hm' => hclosed.waiting k m hk (hwritten.waiting k m hk hm hm') hm',
    History.trans hwritten.terms hclosed.terms,
    fun m hm => hclosed.expirable m (hwritten.expirable m hm)⟩

theorem lapse_held {now : Int} (ty : Nat → AccountType) {rows : List (Nat × LoanGuarantor)}
    {db db' : Db} (hnodup : (rows.map Prod.fst).Nodup)
    (hrows : ∀ row ∈ rows, db.loanGuarantors[row.1]? = some row.2 ∧ row.2.status = .pending ∧
      db.expirable row.2 = true ∧ db.collateralTypeOf row.2.loanId = ty row.2.loanId)
    (hy : Yields (rows.forM fun row => expireGuarantor now row (ty row.2.loanId)) db () db')
    (h : Held db) : Held db' := by
  induction rows generalizing db with
  | nil =>
    rw [← (yields_pure.mp hy).2]
    exact h
  | cons row rows ih =>
    obtain ⟨hnew, hnodup⟩ := List.nodup_cons.mp hnodup
    obtain ⟨_, mid, hfirst, hrest⟩ := yields_bind.mp hy
    obtain ⟨hrow, hpending, hexpirable, hty⟩ := hrows row List.mem_cons_self
    dsimp only at hfirst
    rw [← hty] at hfirst
    have hlapses := expire_lapses h hrow hpending hexpirable hfirst
    refine ih hnodup (fun later hlater => ?_) hrest hlapses.held
    obtain ⟨hat, hst, hmay, hlaterTy⟩ := hrows later (List.mem_cons_of_mem _ hlater)
    have hne : later.1 ≠ row.1 := fun heq => hnew (heq ▸ List.mem_map_of_mem hlater)
    refine ⟨hlapses.waiting _ _ hne hat hst, hst, hlapses.expirable _ hmay, ?_⟩
    rw [hlapses.terms.collateralTypeOf (h.keyed.loan _ (List.mem_of_getElem? hat)), hlaterTy]

theorem expireSpecific_held {now : Int} {guarantorId : Nat} {u : Unit} {db db' : Db}
    (hy : Yields (expireSpecificGuarantor now guarantorId) db u db')
    (hg : keepsHolds db (.expireGuarantor now guarantorId) = true) (h : Held db) : Held db' := by
  simp only [expireSpecificGuarantor, yields_bind, yields_get] at hy
  obtain ⟨_, _, ⟨rfl, rfl⟩, hy⟩ := hy
  split at hy
  · rw [← (yields_pure.mp hy).2]
    exact h
  next g hfound =>
  obtain ⟨hrow, hst⟩ := Option.filter_eq_some_iff.mp hfound
  have hexpirable : (db.loanGuarantors[guarantorId]?.filter (·.status = .pending)).all
      db.expirable = true := hg
  rw [hfound, Option.all_some] at hexpirable
  have hrow' : db.loanGuarantors[(guarantorId, g).1]? = some g := hrow
  exact (expire_lapses h hrow' (of_decide_eq_true hst) hexpirable hy).held

theorem sweep_held {now cutoff : Int} {u : Unit} {db db' : Db}
    (hy : Yields (expireTenantGuarantors now cutoff) db u db')
    (hg : keepsHolds db (.expirySweep now cutoff) = true) (h : Held db) : Held db' := by
  simp only [expireTenantGuarantors, yields_bind, yields_get] at hy
  obtain ⟨_, _, ⟨rfl, rfl⟩, hy⟩ := hy
  refine lapse_held db.collateralTypeOf Table.nodup_selectRows (fun row hrow => ?_) hy h
  obtain ⟨hat, hp⟩ := Table.mem_selectRows.mp hrow
  exact ⟨hat, beq_iff_eq.mp (Bool.and_eq_true_iff.mp hp).1, List.all_eq_true.mp hg row hrow, rfl⟩

/-! ### Rejections and repayments -/

theorem releasable_same {db db' : Db} {g : LoanGuarantor} (hs : db.SamePledges db')
    (hl : g.loanId < db.loans.length) (h : db.releasable g = true) : db'.releasable g = true := by
  unfold Db.releasable at h ⊢
  rw [hs.terms.accountOf hl]
  cases hi : db.accountOf g with
  | none => rw [Option.all_none, Bool.or_true]
  | some i =>
    have hmap : (db'.accounts.map Account.pledge)[i]? = (db.accounts.map Account.pledge)[i]? := by
      rw [hs.pledges]
    rw [List.getElem?_map, List.getElem?_map] at hmap
    rw [hi, Option.all_some] at h
    rw [Option.all_some]
    cases ha' : db'.accounts[i]? with
    | none => rw [Option.all_none, Bool.or_true]
    | some a' =>
      rw [ha'] at hmap
      obtain ⟨a, ha, hpledge⟩ := Option.map_eq_some_iff.mp hmap.symm
      have hfrozen : a.pledge.frozenSavings = a'.pledge.frozenSavings := by rw [hpledge]
      have hsame : a'.frozenSavings = a.frozenSavings := hfrozen.symm
      rw [ha, Option.all_some] at h
      rw [Option.all_some, hsame]
      exact h

theorem allReleasable_same {db db' : Db} {loanId : Nat} (hk : Keyed db) (hs : db.SamePledges db')
    (h : db.allReleasable loanId = true) : db'.allReleasable loanId = true := by
  refine allReleasable_of_rows fun id g hg hof hst hrel => ?_
  rw [hs.loanGuarantors] at hg
  exact releasable_same hs (hk.loan g (List.mem_of_getElem? hg))
    (allReleasable_row h hg hof hst hrel)

theorem repay_held {p : RepayParams} {r : RepayResult} {db db' : Db}
    (hy : Yields (repay p) db r db') (hg : keepsHolds db (.repay p) = true) (h : Held db) :
    Held db' := by
  rcases repay_cases hy with rfl | ⟨i, account, loan, mid, hposted, hrest⟩
  · exact h
  have hsame : db.SamePledges mid := repayPosted_moves hposted
  have hkept : db.KeepsKeys mid := repayPosted_moves hposted
  have hmid : Held mid := held_same hsame (hkept h.keyed) h
  rcases hrest with ⟨hclosed, hrelease⟩ | ⟨-, rfl⟩
  · have hclears : db.clearsLoan p = true := by
      rw [Db.clearsLoan, hposted.fresh, Option.isNone_none, Bool.true_and, Option.any_eq_true]
      exact ⟨loan, Option.filter_eq_some_iff.mpr ⟨hposted.loan_eq, decide_eq_true hposted.active⟩,
        beq_iff_eq.mpr hclosed⟩
    have hguard : (!db.clearsLoan p || db.allReleasable p.loanId) = true := hg
    rw [hclears, Bool.not_true, Bool.false_or] at hguard
    rcases releaseOnFullRepayment_cases (hkept h.keyed) hrelease with ⟨-, rfl⟩ | hloop
    · exact hmid
    · exact held_freed (unreleasedLoop_freed hmid (allReleasable_same h.keyed hsame hguard) hloop)
        hmid
  · exact hmid

theorem reject_held {now : Int} {loanId : Nat} {u : Unit} {db db' : Db}
    (hy : Yields (reject now loanId) db u db')
    (hg : (db.loans[loanId]?.all fun loan =>
      !loan.status.rejectable || db.allReleasable loanId) = true) (h : Held db) : Held db' := by
  obtain ⟨loan, mid, hloan, hrejectable, hloop, rfl⟩ := reject_cases hy
  rw [hloan, Option.all_some, hrejectable, Bool.not_true, Bool.false_or] at hg
  exact held_updateLoan (held_freed (unreleasedLoop_freed h hg hloop) h) fun _ => rfl

theorem updateStatus_held {seen : Db} {now : Int} {loanId : Nat} {target : LoanStatus}
    {reason : Option String} {u : Unit} {db db' : Db}
    (hy : Yields (updateStatus seen now loanId target reason) db u db')
    (hg : keepsHolds db (.updateStatus seen now loanId target reason) = true) (h : Held db) :
    Held db' := by
  have hsame : ∀ {x : Tx Unit}, Moves Db.SamePledges x → Moves Db.KeepsKeys x →
      Yields x db u db' → Held db' := fun hpledges hkeys hx =>
    held_same (hpledges hx) (hkeys hx h.keyed) h
  simp only [updateStatus, yields_bind, yields_required, yields_ensure] at hy
  obtain ⟨found, _, ⟨hfound, rfl⟩, _, _, ⟨-, rfl⟩, _, _, ⟨-, rfl⟩, hy⟩ := hy
  rcases yields_ite.mp hy with ⟨-, hy⟩ | ⟨-, hy⟩
  · exact hsame (approve_moves seen loanId) (approve_moves seen loanId) hy
  rcases yields_ite.mp hy with ⟨htarget, hreject⟩ | ⟨-, hy⟩
  · simp only [yields_bind, yields_ensure] at hreject
    obtain ⟨_, _, ⟨-, rfl⟩, hreject⟩ := hreject
    have hguard : (target != .rejected || db.loans[loanId]?.all fun loan =>
        !loan.status.rejectable || db.allReleasable loanId) = true := hg
    rw [htarget, bne_self_eq_false, Bool.false_or] at hguard
    exact reject_held hreject hguard h
  · simp only [yields_bind, yields_ensure, yields_get, yields_required, yields_modify] at hy
    obtain ⟨_, _, ⟨-, rfl⟩, _, _, ⟨rfl, rfl⟩, _, _, ⟨-, rfl⟩, rfl⟩ := hy
    exact held_updateLoan h fun _ => rfl

/-! ### Recoveries -/

theorem samePledges_of_holds {db db' : Db} (h : db.SameHolds db') : db.SamePledges db' := by
  refine ⟨by rw [h.accounts], h.loanGuarantors, by rw [h.accounts], h.loanProducts, ?_⟩
  rw [h.loans]

theorem keyed_of_holds {db db' : Db} (h : db.SameHolds db') (hk : Keyed db) : Keyed db' := by
  refine ⟨?_, ?_⟩
  · rw [h.loanGuarantors]
    exact hk.unique
  · rw [h.loanGuarantors, h.loans]
    exact hk.loan

/-- What is taken of a hold comes off the account and the guarantee alike. When the hold counts as
released then, nothing is left of it. -/
theorem held_taken {db db' : Db} {id accountId : Nat} {g : LoanGuarantor} {taken : Int}
    {releasedAt : Option Int} {t : Transaction} (h : Held db)
    (hrow : db.loanGuarantors[id]? = some g) (hst : g.status = .accepted)
    (hrel : g.holdReleasedAt = none) (hi : db.accountOf g = some accountId)
    (hpos : 0 < taken) (hle : taken ≤ g.left)
    (hall : releasedAt ≠ none → taken = g.left)
    (hbooked : ((db.updateAccount accountId (·.forfeit taken)).updateGuarantor id
      (·.recover taken releasedAt)).Booked t db') : Held db' ∧ db.SameTerms db' := by
  have hplaced := (h.regular g (List.mem_of_getElem? hrow)).placed hst
  have hnat : ((taken.toNat : Nat) : Int) = taken := Int.toNat_of_nonneg (Int.le_of_lt hpos)
  have hleft : (g.recover taken releasedAt).left = g.left - taken := by
    unfold LoanGuarantor.left LoanGuarantor.recover
    dsimp only
    omega
  -- the row gives up as much of its charge as the account loses of its frozen savings
  have hcharge : (g.recover taken releasedAt).charge - g.charge = -taken := by
    rw [charge_accepted h hrow hst hrel, LoanGuarantor.charge, hleft]
    have hactive : (g.recover taken releasedAt).holdActive = releasedAt.isNone := by
      unfold LoanGuarantor.holdActive LoanGuarantor.recover
      rw [hst, hplaced, hrel, Option.or_none]
      rfl
    rw [hactive]
    cases releasedAt with
    | none =>
      rw [Option.isNone_none, if_pos rfl]
      omega
    | some now =>
      rw [Option.isNone_some, if_neg Bool.false_ne_true, hall (fun he => by cases he)]
      omega
  have hregular : (g.recover taken releasedAt).Regular := by
    refine ⟨fun _ => hplaced, fun _ => ?_, fun hne => absurd hst hne⟩
    unfold LoanGuarantor.left at hle
    unfold LoanGuarantor.recover
    dsimp only
    omega
  have hterms : db.SameTerms ((db.updateAccount accountId (·.forfeit taken)).updateGuarantor id
      (·.recover taken releasedAt)) :=
    History.trans (AdmitsForfeit.forfeit _ _ _) (AdmitsGuarantor.update _ _ _ fun _ => rfl)
  have hkeyed : Keyed ((db.updateAccount accountId (·.forfeit taken)).updateGuarantor id
      (·.recover taken releasedAt)) :=
    keyed_updateGuarantor (fun _ => rfl) ⟨h.keyed.unique, h.keyed.loan⟩
  have hheld : Held ((db.updateAccount accountId (·.forfeit taken)).updateGuarantor id
      (·.recover taken releasedAt)) := by
    refine held_change h hterms hkeyed hrow rfl rfl hregular ?_
    rw [hcharge]
    exact accounts_frozen (fun _ => Int.sub_eq_add_neg) hi
  have hsame := samePledges_of_holds hbooked.holds
  exact ⟨held_same hsame (keyed_of_holds hbooked.holds hkeyed) hheld,
    History.trans hterms hsame.terms⟩

/-- An allocation that the loop of a recovery comes to: the guarantee is as it was read, and the
account is the one of its hold. -/
structure Drawable (loanId : Nat) (db : Db) (al : RecoveryAllocation) : Prop where
  current : db.loanGuarantors[al.guarantorId]? = some al.guarantor
  accepted : al.guarantor.status = .accepted
  unreleased : al.guarantor.holdReleasedAt = none
  account : ∀ id r, al.account = some (id, r) → db.accountOf al.guarantor = some id
  within : 0 < al.deduction → al.deduction ≤ al.guarantor.left

theorem recoverFrom_held {now : Int} {loanId : Nat} {loanNumber attempt by' : String}
    {ty : AccountType} {al : RecoveryAllocation} {n : Nat} {db db' : Db} (h : Held db)
    (hd : Drawable loanId db al)
    (hy : Yields (recoverFromGuarantor now loanId loanNumber ty attempt by' al) db n db') :
    Held db' ∧ db.SameTerms db' ∧ ∀ k, k ≠ al.guarantorId →
      db'.loanGuarantors[k]? = db.loanGuarantors[k]? := by
  rcases recoverFromGuarantor_cases hy with rfl | ⟨id, r, a, taken, t, hacc, ha, htaken, hpos, -,
    hbooked⟩
  · exact ⟨h, sameTerms_refl db', fun _ _ => rfl⟩
  have hi := hd.account id r hacc
  have hwithin := hd.within (by omega)
  have hfrozen := charge_le_frozen h hd.current hi ha
  rw [charge_accepted h hd.current hd.accepted hd.unreleased] at hfrozen
  have hall : (if a.frozenSavings - taken ≤ 0 then some now else none) ≠ none →
      taken = al.guarantor.left := by
    intro hne
    split at hne
    · omega
    · exact absurd rfl hne
  obtain ⟨hheld, hterms⟩ := held_taken h hd.current hd.accepted hd.unreleased hi hpos
    (by omega) hall hbooked
  refine ⟨hheld, hterms, fun k hk => ?_⟩
  rw [hbooked.holds.loanGuarantors]
  exact Table.getElem?_modify_other (Ne.symm hk)

theorem recoverLoop_held {now : Int} {loanId : Nat} {loanNumber attempt by' : String}
    {ty : AccountType} {items : List RecoveryAllocation} {n : Nat} {db db' : Db} (h : Held db)
    (hnodup : (items.map (·.guarantorId)).Nodup) (hitems : ∀ al ∈ items, Drawable loanId db al)
    (hy : Yields (sumM (recoverFromGuarantor now loanId loanNumber ty attempt by') items) db n
      db') :
    Held db' := by
  induction items generalizing db n with
  | nil =>
    rw [← (yields_pure.mp hy).2]
    exact h
  | cons al items ih =>
    obtain ⟨hnew, hnodup⟩ := List.nodup_cons.mp hnodup
    simp only [sumM, yields_bind, yields_pure] at hy
    obtain ⟨_, mid, hfirst, _, _, hrest, -, rfl⟩ := hy
    obtain ⟨hmid, hterms, hothers⟩ := recoverFrom_held h (hitems al List.mem_cons_self) hfirst
    refine ih hmid hnodup (fun later hlater => ?_) hrest
    have hd := hitems later (List.mem_cons_of_mem _ hlater)
    have hne : later.guarantorId ≠ al.guarantorId := fun heq =>
      hnew (List.mem_map.mpr ⟨later, hlater, heq⟩)
    refine ⟨(hothers _ hne).trans hd.current, hd.accepted, hd.unreleased, fun id r hacc => ?_,
      hd.within⟩
    rw [hterms.accountOf (h.keyed.loan _ (List.mem_of_getElem? hd.current))]
    exact hd.account id r hacc

theorem held_uuid {db : Db} (h : Held db) : Held { db with uuid := db.uuid + 1 } :=
  held_same (AdmitsTransaction.uuid _ _) ⟨h.keyed.unique, h.keyed.loan⟩ h

theorem recover_held {now : Int} {loanId : Nat} {amount : ℚ} {actorId : String} {n : Nat}
    {db db' : Db} (hy : Yields (recoverFromGuarantors now loanId amount actorId) db n db')
    (h : Held db) : Held db' := by
  simp only [recoverFromGuarantors, yields_bind, yields_ensure, yields_get, yields_required,
    yields_uuidv4] at hy
  obtain ⟨_, _, ⟨-, rfl⟩, _, _, ⟨rfl, rfl⟩, _, _, ⟨rfl, rfl⟩, loan, _, ⟨hloan, rfl⟩, _, _, ⟨-, rfl⟩,
    total, mid, hsum, hy⟩ := hy
  have hids : ((db.allocateRecovery (db.unreleasedGuarantors loanId) (db.collateralType loan)
      (toDecimalPlaces4 amount) loan.outstandingBalance).map (·.guarantorId)).Nodup := by
    rw [allocateRecovery_eq, shareDebt_ids, RecoveryLemmas.capacities, List.map_map]
    exact Table.nodup_selectRows
  have hmid : Held mid := by
    refine recoverLoop_held (held_uuid h) hids (fun al hal => ?_) hsum
    obtain ⟨hmem, hacc, hwithin⟩ := allocateRecovery_mem hal
    obtain ⟨hrow, hof, hst, hrel⟩ := mem_unreleasedGuarantors.mp hmem
    refine ⟨hrow, hst, hrel, fun id r hfound => ?_, hwithin⟩
    have hty : db.collateralTypeOf loanId = db.collateralType loan := by
      have hloan' : db.loans[loanId]? = some loan := hloan
      rw [Db.collateralTypeOf, hloan', Option.map_some, Option.getD_some]
    show db.holdAccount al.guarantor.memberId (db.collateralTypeOf al.guarantor.loanId) = some id
    rw [hof, hty]
    exact holdAccount_iff.mpr ⟨r, hacc.symm.trans hfound⟩
  rcases yields_ite.mp hy with ⟨-, hy⟩ | ⟨-, hy⟩
  · simp only [yields_bind, yields_modify, yields_pure] at hy
    obtain ⟨_, _, rfl, -, rfl⟩ := hy
    exact held_updateLoan hmid fun _ => rfl
  · rw [← (yields_pure.mp hy).2]
    exact hmid

/-! ### Offsets -/

/-- A row that the loop of an offset comes to: it is as it was read, and what it forfeits is all of
its hold. -/
structure Spendable (loanId : Nat) (db : Db) (row : Nat × LoanGuarantor) : Prop where
  current : db.loanGuarantors[row.1]? = some row.2
  ofLoan : row.2.loanId = loanId
  accepted : row.2.status = .accepted
  unreleased : row.2.holdReleasedAt = none
  forfeits : db.forfeitsAll row.2 = true

theorem forfeitFrom_held {now : Int} {loanId : Nat} {loanNumber attempt : String}
    {row : Nat × LoanGuarantor} {n : Nat} {db db' : Db} (h : Held db) (hd : Spendable loanId db row)
    (hy : Yields (forfeitGuarantor now loanId loanNumber attempt row) db n db') :
    Held db' ∧ ∀ later, later.1 ≠ row.1 → Spendable loanId db later →
      Spendable loanId db' later := by
  rcases forfeitGuarantor_cases hy with ⟨rfl, -, -⟩ | ⟨id, a, t, hacc, -, hpos, -, -, -, hbooked⟩
  · exact ⟨h, fun _ _ hlater => hlater⟩
  have hforfeits := hd.forfeits
  rw [Db.forfeitsAll, hacc, Option.all_some, Bool.or_eq_true, Bool.and_eq_true,
    decide_eq_true_eq, beq_iff_eq, beq_iff_eq] at hforfeits
  obtain ⟨hi, hall⟩ := hforfeits.resolve_left (Int.not_le.mpr hpos)
  obtain ⟨hheld, hterms⟩ := held_taken h hd.current hd.accepted hd.unreleased hi hpos
    (Int.le_of_eq hall) (fun _ => hall) hbooked
  refine ⟨hheld, fun later hne hl => ?_⟩
  have hmember : row.2.memberId ≠ later.2.memberId :=
    member_ne h.keyed hd.current hl.current (Ne.symm hne) (hd.ofLoan.trans hl.ofLoan.symm)
  have hactive : db'.activeAccount later.2.memberId .bosa =
      db.activeAccount later.2.memberId .bosa := by
    rw [← activeAccount_other hacc hmember (f := (·.forfeit (row.2.forfeitable a))) rfl]
    unfold Db.activeAccount
    rw [hbooked.holds.accounts]
    rfl
  refine ⟨?_, hl.ofLoan, hl.accepted, hl.unreleased, ?_⟩
  · rw [hbooked.holds.loanGuarantors, ← hl.current]
    exact Table.getElem?_modify_other (Ne.symm hne)
  · rw [Db.forfeitsAll, hactive,
      hterms.accountOf (h.keyed.loan _ (List.mem_of_getElem? hl.current))]
    exact hl.forfeits

theorem forfeitLoop_held {now : Int} {loanId : Nat} {loanNumber attempt : String}
    {rows : List (Nat × LoanGuarantor)} {n : Nat} {db db' : Db} (h : Held db)
    (hnodup : (rows.map Prod.fst).Nodup) (hrows : ∀ row ∈ rows, Spendable loanId db row)
    (hy : Yields (sumM (forfeitGuarantor now loanId loanNumber attempt) rows) db n db') :
    Held db' := by
  induction rows generalizing db n with
  | nil =>
    rw [← (yields_pure.mp hy).2]
    exact h
  | cons row rows ih =>
    obtain ⟨hnew, hnodup⟩ := List.nodup_cons.mp hnodup
    simp only [sumM, yields_bind, yields_pure] at hy
    obtain ⟨_, mid, hfirst, _, _, hrest, -, rfl⟩ := hy
    obtain ⟨hmid, hothers⟩ := forfeitFrom_held h (hrows row List.mem_cons_self) hfirst
    refine ih hmid hnodup (fun later hlater => hothers later (fun heq => ?_)
      (hrows later (List.mem_cons_of_mem _ hlater))) hrest
    exact hnew (List.mem_map.mpr ⟨later, hlater, heq⟩)

theorem offset_held {now : Int} {loanId : Nat} {jobId : Option String} {n : Nat} {db db' : Db}
    (hy : Yields (offsetLoan now loanId jobId) db n db') (hg : db.offsetKeeps loanId = true)
    (h : Held db) : Held db' := by
  simp only [offsetLoan, yields_bind, yields_get, yields_uuidv4] at hy
  obtain ⟨_, _, ⟨rfl, rfl⟩, _, _, ⟨rfl, rfl⟩, hy⟩ := hy
  split at hy
  · rw [← (yields_pure.mp hy).2]
    exact held_uuid h
  next loan hfound =>
  obtain ⟨total, mid, hsum, hy⟩ := yields_bind.mp hy
  have hfound' : db.loans[loanId]?.filter (·.offsettable) = some loan := hfound
  rw [Db.offsetKeeps, hfound', Option.isNone_some, Bool.false_or] at hg
  have hmid : Held mid := by
    refine forfeitLoop_held (held_uuid h) Table.nodup_selectRows (fun row hrow => ?_) hsum
    obtain ⟨hat, hof, hst, hrel⟩ := mem_unreleasedGuarantors.mp hrow
    exact ⟨hat, hof, hst, hrel, List.all_eq_true.mp hg row hrow⟩
  rcases yields_ite.mp hy with ⟨-, hy⟩ | ⟨-, hy⟩
  · simp only [yields_bind, yields_modify, yields_pure] at hy
    obtain ⟨_, _, rfl, -, rfl⟩ := hy
    exact held_updateLoan hmid fun _ => rfl
  · rw [← (yields_pure.mp hy).2]
    exact hmid

/-! ## 5. Runs -/

theorem held_step {db : Db} {op : Op} (hg : keepsHolds db op = true) (h : Held db) :
    Held (step db op) := by
  have hkeyed := step_keyed db op h.keyed
  rcases step_cases db op with ⟨u, hy⟩ | hsame
  · -- an operation that moves no pledge keeps the holds as they were
    have hidle : Moves Db.SamePledges op.exec → Held (step db op) := fun hmoves =>
      held_same (hmoves hy) hkeyed h
    cases op with
    | postEntry p => exact hidle (Moves.bind' (postEntry_moves p) fun _ => Moves.pure' ())
    | transfer p =>
      exact hidle (Moves.bind' (postInternalTransfer_moves p) fun _ => Moves.pure' ())
    | reverse id reason actorId =>
      exact hidle (Moves.bind' (reverseTransaction_moves id reason actorId) fun _ =>
        Moves.pure' ())
    | leg p => exact hidle (Moves.bind' (postGlOnlyLegEntry_moves p) fun _ => Moves.pure' ())
    | repay p =>
      obtain ⟨r, mid, hrepaid, hend⟩ := yields_bind.mp hy
      rw [← (yields_pure.mp hend).2]
      exact repay_held hrepaid hg h
    | processRepayment now input =>
      exact hidle (Moves.bind' (processRepayment_moves now input) fun _ => Moves.pure' ())
    | accrue seen loanId date => exact hidle (accrueInterestForLoan_moves seen loanId date)
    | createApplication now loan requires guarantors =>
      obtain ⟨r, mid, hcreated, hend⟩ := yields_bind.mp hy
      rw [← (yields_pure.mp hend).2]
      exact createApplication_held hcreated h
    | inviteGuarantor seen now loanId nominated item => exact invite_held hy hg h
    | finishInvite seen loanId nominated => exact hidle (finishInvite_moves seen loanId nominated)
    | respond now args =>
      obtain ⟨r, mid, hanswered, hend⟩ := yields_bind.mp hy
      rw [← (yields_pure.mp hend).2]
      exact respond_held hanswered hg h
    | expireGuarantor now guarantorId => exact expireSpecific_held hy hg h
    | expirySweep now cutoff => exact sweep_held hy hg h
    | reject now loanId => exact reject_held hy hg h
    | approve seen loanId => exact hidle (approve_moves seen loanId)
    | updateStatus seen now loanId target reason => exact updateStatus_held hy hg h
    | signOff loanId approverId role approved =>
      exact hidle (signOff_moves loanId approverId role approved)
    | disburse seen params => exact hidle (disburse_moves seen params)
    | recover now loanId amount actorId =>
      obtain ⟨r, mid, hrecovered, hend⟩ := yields_bind.mp hy
      rw [← (yields_pure.mp hend).2]
      exact recover_held hrecovered h
    | offset now loanId jobId =>
      obtain ⟨r, mid, hoffset, hend⟩ := yields_bind.mp hy
      rw [← (yields_pure.mp hend).2]
      exact offset_held hoffset hg h
    | b2cTimeout mpesaTxId => exact hidle (b2cTimeout_moves mpesaTxId)
  · rw [hsame]
    exact h

theorem held_opening {db : Db} (hguarantors : db.loanGuarantors = [])
    (hfrozen : ∀ a ∈ db.accounts, a.frozenSavings = 0) : Held db := by
  refine ⟨fun i a ha => ?_, fun g hg => ?_, ?_, fun g hg => ?_⟩
  · rw [hfrozen a (List.mem_of_getElem? ha), Db.heldOn, hguarantors]
    rfl
  · rw [hguarantors] at hg
    exact absurd hg List.not_mem_nil
  · rw [hguarantors]
    exact List.nodup_nil
  · rw [hguarantors] at hg
    exact absurd hg List.not_mem_nil

end HoldSumLemmas

open HoldSumLemmas

/-- From a tenant without guarantees: in every state of a run the frozen savings of each account are
the sum of the active holds on it, when no operation of the run resets a hold or releases one for
another amount than it still keeps frozen. -/
theorem guarantor_holds_sum {db : Db} {ops : List Op} (hguarantors : db.loanGuarantors = [])
    (hfrozen : ∀ a ∈ db.accounts, a.frozenSavings = 0)
    (h : Machine.Guarded step (fun db op => keepsHolds db op = true) db ops) :
    ∀ (i : Nat) (a : Account), (db.after ops).accounts[i]? = some a →
      a.frozenSavings = (db.after ops).heldOn i :=
  (Machine.run_induct (I := Held) (fun _ _ hheld hguard => held_step hguard hheld)
    (held_opening hguarantors hfrozen) h).frozen

/-- KES 10 of the hold of KES 50 were recovered. -/
def exRecovered : List Op := exGuaranteedLoan ++ [.recover 0 0 10 "A"]

theorem guarantor_holds_sum_recovered :
    (exCollateral.after exRecovered).accounts.map (·.frozenSavings) = [0, 0, 400000, 0, 0] ∧
      ∀ (i : Nat) (a : Account), (exCollateral.after exRecovered).accounts[i]? = some a →
        a.frozenSavings = (exCollateral.after exRecovered).heldOn i :=
  ⟨by decide +kernel, guarantor_holds_sum rfl (by decide) (by decide +kernel)⟩

/-- The tenant of `exCollateral`, with a product that takes three guarantors. -/
def exRoomy : Db :=
  { exCollateral with
    loanProducts := exCollateral.loanProducts.map fun p => { p with maxGuarantors := 3 } }

/-- Member 1 accepts for KES 20 and is asked again while member 2 still thinks it over. -/
def exAskedAgain : List Op :=
  let accepted := [.createApplication 0 exLoan true [⟨1, 200000⟩, ⟨2, 300000⟩], exAccepts]
  accepted ++ [.inviteGuarantor (exRoomy.after accepted) 0 0 1 ⟨1, 200000⟩]

/-- After the recovery member 1 guarantees KES 20 of another loan; then the first one is paid
off. -/
def exSharedAccount : List Op :=
  exRecovered ++
    [exDeposit "D-1" 2 20,
      .createApplication 0
        { exLoan with memberId := 2, loanNumber := "LN-2", principalAmount := 400000 } true
        [⟨1, 200000⟩],
      .respond 0
        { loanId := 1
          guarantorId := 1
          action := .accept
          digitalAcknowledgment := true
          source := .member },
      exSavingsRepayment]

/-- The invitation resets the row of the hold, whose KES 20 stay frozen for no hold; and the
repayment takes KES 50 off where KES 40 were left, KES 10 of them from the hold of the other
loan. -/
theorem reinvitation_loses_hold :
    (exRoomy.after exAskedAgain).accounts[2]?.map (·.frozenSavings) = some 200000 ∧
      (exRoomy.after exAskedAgain).heldOn 2 = 0 ∧
      (exCollateral.after exSharedAccount).accounts[2]?.map (·.frozenSavings) = some 100000 ∧
      (exCollateral.after exSharedAccount).heldOn 2 = 200000 := by
  decide +kernel

end BebaSacco
