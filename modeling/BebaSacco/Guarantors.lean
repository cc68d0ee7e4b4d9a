import BebaSacco.History

/-! # The guarantees and their holds

What the services rely on when they look for a hold: a loan has at most one guarantee of a
member, and the account a hold was placed on is found again, because no service changes
the owner of an account, the product of a loan or the collateral of a product.

Results:
 1. `after_keyed`: the guarantees keep their keys apart in every run.
 2. `after_sameTerms`: the account of a hold is the same in every later state.
-/

namespace BebaSacco

open Txn FootprintLemmas

/-! ## 1. Keys -/

/-- A loan has at most one guarantee of a member, and every guarantee is of a loan. -/
structure Keyed (db : Db) : Prop where
  unique : (db.loanGuarantors.map LoanGuarantor.key).Nodup
  loan : ∀ g ∈ db.loanGuarantors, g.loanId < db.loans.length

/-- The keys stay apart. -/
def Db.KeepsKeys (db db' : Db) : Prop := Keyed db → Keyed db'

namespace GuarantorLemmas

instance : History Db.KeepsKeys := ⟨fun _ h => h, fun h k hs => k (h hs)⟩

instance : AdmitsBalance Db.KeepsKeys := ⟨fun _ _ _ h => ⟨h.1, h.2⟩, fun _ _ _ h => ⟨h.1, h.2⟩⟩

instance : AdmitsHold Db.KeepsKeys := ⟨fun _ _ _ h => ⟨h.1, h.2⟩⟩

instance : AdmitsForfeit Db.KeepsKeys := ⟨fun _ _ _ h => ⟨h.1, h.2⟩⟩

instance : AdmitsTransaction Db.KeepsKeys where
  insert _ _ h := ⟨h.1, h.2⟩
  link _ _ _ h := ⟨h.1, h.2⟩
  markReversed _ _ h := ⟨h.1, h.2⟩
  uuid _ _ h := ⟨h.1, h.2⟩

instance : AdmitsEntry Db.KeepsKeys := ⟨fun _ _ h => ⟨h.1, h.2⟩⟩

instance : AdmitsRepayment Db.KeepsKeys := ⟨fun _ _ _ h => ⟨h.1, h.2⟩, fun _ _ h => ⟨h.1, h.2⟩⟩

instance : AdmitsMpesa Db.KeepsKeys := ⟨fun _ _ _ h => ⟨h.1, h.2⟩⟩

instance : AdmitsChain Db.KeepsKeys := ⟨fun _ _ h => ⟨h.1, h.2⟩⟩

theorem keyed_updateLoan {db : Db} (id : Nat) (f : Loan → Loan) (h : Keyed db) :
    Keyed (db.updateLoan id f) where
  unique := h.unique
  loan g hg := by
    rw [Db.updateLoan, List.length_modify]
    exact h.loan g hg

theorem keyed_updateGuarantor {db : Db} {id : Nat} {f : LoanGuarantor → LoanGuarantor}
    (hf : ∀ g, (f g).key = g.key) (h : Keyed db) : Keyed (db.updateGuarantor id f) where
  unique := by
    rw [Db.updateGuarantor, Table.map_modify_same hf]
    exact h.unique
  loan := Table.forall_modify h.loan fun g hg => by
    have hkey := congrArg Prod.fst (hf g)
    exact lt_of_eq_of_lt hkey hg

instance : AdmitsLoan Db.KeepsKeys := ⟨fun _ _ _ _ h => keyed_updateLoan _ _ h⟩

instance : AdmitsGuarantor Db.KeepsKeys := ⟨fun _ _ _ hf h => keyed_updateGuarantor hf h⟩

/-- Nominations that passed the check are of different members. -/
theorem normalizeGuarantors_ok {guarantors : List Nomination} :
    ∀ {seen : List Nat}, normalizeGuarantors seen guarantors = .ok () →
      (guarantors.map (·.memberId)).Nodup ∧
        ∀ g ∈ guarantors, g.memberId ∉ seen ∧ 0 < g.guaranteedAmount := by
  induction guarantors with
  | nil => exact fun _ => ⟨List.nodup_nil, fun g hg => absurd hg List.not_mem_nil⟩
  | cons item guarantors ih =>
    intro seen h
    unfold normalizeGuarantors at h
    split at h
    · cases h
    split at h
    · cases h
    next hseen hpos =>
    obtain ⟨hnodup, hrest⟩ := ih h
    have hnew : item.memberId ∉ seen := fun hm => hseen (List.contains_iff_mem.mpr hm)
    refine ⟨List.nodup_cons.mpr ⟨fun hm => ?_, hnodup⟩, fun g hg => ?_⟩
    · obtain ⟨g, hg, heq⟩ := List.mem_map.mp hm
      exact (hrest g hg).1 (heq ▸ List.mem_cons_self)
    · rcases List.mem_cons.mp hg with rfl | hg
      · exact ⟨hnew, Nat.pos_of_ne_zero hpos⟩
      · exact ⟨fun hm => (hrest g hg).1 (List.mem_cons_of_mem _ hm), (hrest g hg).2⟩

theorem guarantorRow_none {db : Db} {loanId memberId : Nat}
    (h : db.guarantorRow loanId memberId = none) :
    (loanId, memberId) ∉ db.loanGuarantors.map LoanGuarantor.key := by
  intro hm
  obtain ⟨g, hg, hkey⟩ := List.mem_map.mp hm
  have hno := Table.findRow_none.mp h g hg
  obtain ⟨rfl, rfl⟩ := Prod.mk.inj hkey
  simp only [beq_self_eq_true, Bool.and_self, Bool.true_eq_false] at hno

theorem upsertGuarantor_keyed (now : Int) (loanId : Nat) (item : Nomination) :
    Moves Db.KeepsKeys (upsertGuarantor now loanId item) := by
  intro db u db' h hk
  simp only [upsertGuarantor, yields_bind, yields_get] at h
  obtain ⟨_, _, ⟨rfl, rfl⟩, h⟩ := h
  cases hrow : db.guarantorRow loanId item.memberId with
  | some r =>
    simp only [hrow, yields_modify] at h
    exact h ▸ keyed_updateGuarantor (fun _ => rfl) hk
  | none =>
    simp only [hrow, yields_bind, yields_ensure, yields_modify] at h
    obtain ⟨_, _, ⟨hloan, rfl⟩, rfl⟩ := h
    refine ⟨?_, Table.forall_append_one hk.loan hloan⟩
    rw [List.map_append, List.nodup_append]
    refine ⟨hk.unique, List.nodup_singleton _, fun k hmem k' hk' heq => ?_⟩
    rw [List.map_singleton, List.mem_singleton] at hk'
    have hkey : k = (loanId, item.memberId) := heq.trans hk'
    exact guarantorRow_none hrow (hkey ▸ hmem)

theorem createApplication_keyed (now : Int) (loan : Loan) (requiresGuarantors : Bool)
    (guarantors : List Nomination) :
    Moves Db.KeepsKeys (createApplication now loan requiresGuarantors guarantors) := by
  intro db id db' h hk
  simp only [createApplication, yields_bind, yields_fromExcept, yields_get, yields_modify,
    yields_pure] at h
  obtain ⟨_, _, ⟨hnorm, rfl⟩, _, _, ⟨rfl, rfl⟩, _, _, rfl, _, rfl⟩ := h
  obtain ⟨hnodup, _⟩ := normalizeGuarantors_ok hnorm
  -- the rows added are of the new loan, and of different members
  have hrows : ∀ g ∈ (if requiresGuarantors then guarantors.map (·.invited now db.loans.length)
      else []), g.loanId = db.loans.length := by
    intro g hg
    cases requiresGuarantors with
    | false => exact absurd hg List.not_mem_nil
    | true =>
      obtain ⟨item, _, rfl⟩ := List.mem_map.mp hg
      rfl
  constructor
  · rw [List.map_append, List.nodup_append]
    refine ⟨hk.unique, ?_, fun k hmem k' hmem' heq => ?_⟩
    · cases requiresGuarantors with
      | false => exact List.nodup_nil
      | true =>
        rw [if_pos rfl, List.map_map]
        refine List.Nodup.of_map Prod.snd ?_
        rw [List.map_map]
        exact hnodup
    · obtain ⟨g, hg, rfl⟩ := List.mem_map.mp hmem
      obtain ⟨g', hg', rfl⟩ := List.mem_map.mp hmem'
      have hsame : g.loanId = g'.loanId := congrArg Prod.fst heq
      have hlt := hk.loan g hg
      rw [hsame, hrows g' hg'] at hlt
      exact absurd hlt (Nat.lt_irrefl _)
  · intro g hg
    rw [List.length_append, List.length_singleton]
    rcases List.mem_append.mp hg with hg | hg
    · exact Nat.lt_succ_of_lt (hk.loan g hg)
    · rw [hrows g hg]
      exact Nat.lt_succ_self _

instance : AdmitsNomination Db.KeepsKeys := ⟨upsertGuarantor_keyed, createApplication_keyed⟩

end GuarantorLemmas

open GuarantorLemmas

theorem step_keyed (db : Db) (op : Op) : db.KeepsKeys (step db op) :=
  Moves.commit' (exec_moves op) db

theorem after_keyed (db : Db) (ops : List Op) : db.KeepsKeys (db.after ops) :=
  Machine.run_related (fun _ h => h) (fun _ _ _ h k hs => k (h hs)) step_keyed

/-! ## 2. The account of a hold -/

/-- The accounts kept their owners, the loans their terms and the products their rules. -/
structure Db.SameTerms (db db' : Db) : Prop where
  accounts : db'.accounts.map Account.identity = db.accounts.map Account.identity
  loanProducts : db'.loanProducts = db.loanProducts
  loans : db.loans.map Loan.terms <+: db'.loans.map Loan.terms

/-- The id of the first active account of a member of the given type. -/
def Db.holdAccount (db : Db) (memberId : Nat) (accountType : AccountType) : Option Nat :=
  (db.activeAccount memberId accountType).map Prod.fst

/-- The account that the hold of a guarantee is on. -/
def Db.accountOf (db : Db) (guarantor : LoanGuarantor) : Option Nat :=
  db.holdAccount guarantor.memberId (db.collateralTypeOf guarantor.loanId)

namespace GuarantorLemmas

theorem sameTerms_refl (db : Db) : db.SameTerms db := ⟨rfl, rfl, List.prefix_refl _⟩

theorem sameTerms_of_eq {db db' : Db}
    (ha : db'.accounts.map Account.identity = db.accounts.map Account.identity)
    (hp : db'.loanProducts = db.loanProducts) (hl : db'.loans = db.loans) : db.SameTerms db' := by
  refine ⟨ha, hp, ?_⟩
  rw [hl]

instance : History Db.SameTerms where
  refl := sameTerms_refl
  trans h k :=
    ⟨k.accounts.trans h.accounts, k.loanProducts.trans h.loanProducts, h.loans.trans k.loans⟩

instance : AdmitsBalance Db.SameTerms where
  move _ _ _ := sameTerms_of_eq (Table.map_modify_same fun _ => rfl) rfl rfl
  set _ _ _ := sameTerms_of_eq (Table.map_modify_same fun _ => rfl) rfl rfl

instance : AdmitsHold Db.SameTerms :=
  ⟨fun _ _ _ => sameTerms_of_eq (Table.map_modify_same fun _ => rfl) rfl rfl⟩

instance : AdmitsForfeit Db.SameTerms :=
  ⟨fun _ _ _ => sameTerms_of_eq (Table.map_modify_same fun _ => rfl) rfl rfl⟩

instance : AdmitsTransaction Db.SameTerms where
  insert _ _ := sameTerms_of_eq rfl rfl rfl
  link _ _ _ := sameTerms_of_eq rfl rfl rfl
  markReversed _ _ := sameTerms_of_eq rfl rfl rfl
  uuid _ _ := sameTerms_of_eq rfl rfl rfl

instance : AdmitsEntry Db.SameTerms := ⟨fun _ _ => sameTerms_of_eq rfl rfl rfl⟩

instance : AdmitsRepayment Db.SameTerms :=
  ⟨fun _ _ _ => sameTerms_of_eq rfl rfl rfl, fun _ _ => sameTerms_of_eq rfl rfl rfl⟩

instance : AdmitsMpesa Db.SameTerms := ⟨fun _ _ _ => sameTerms_of_eq rfl rfl rfl⟩

instance : AdmitsChain Db.SameTerms := ⟨fun _ _ => sameTerms_of_eq rfl rfl rfl⟩

instance : AdmitsLoan Db.SameTerms where
  update _ _ _ hf := by
    refine ⟨rfl, rfl, ?_⟩
    rw [Db.updateLoan, Table.map_modify_same hf]

instance : AdmitsGuarantor Db.SameTerms := ⟨fun _ _ _ _ => sameTerms_of_eq rfl rfl rfl⟩

instance : AdmitsNomination Db.SameTerms := by
  refine admitsNomination (fun _ _ => sameTerms_of_eq rfl rfl rfl) fun db l => ⟨rfl, rfl, ?_⟩
  rw [List.map_append]
  exact List.prefix_append _ _

theorem holdAccount_iff {db : Db} {memberId i : Nat} {ty : AccountType} :
    db.holdAccount memberId ty = some i ↔ ∃ a, db.activeAccount memberId ty = some (i, a) := by
  unfold Db.holdAccount
  constructor
  · intro h
    obtain ⟨⟨j, a⟩, hr, rfl⟩ := Option.map_eq_some_iff.mp h
    exact ⟨a, hr⟩
  · rintro ⟨a, h⟩
    rw [h]
    rfl

end GuarantorLemmas

open GuarantorLemmas

theorem Db.SameTerms.holdAccount {db db' : Db} (h : db.SameTerms db') (memberId : Nat)
    (accountType : AccountType) :
    db'.holdAccount memberId accountType = db.holdAccount memberId accountType :=
  Table.findRow_map_same
    (fun a : Account => a.memberId == memberId && a.accountType == accountType && a.isActive)
    Account.identity (fun _ => rfl) h.accounts

theorem Db.SameTerms.collateralTypeOf {db db' : Db} (h : db.SameTerms db') {loanId : Nat}
    (hl : loanId < db.loans.length) : db'.collateralTypeOf loanId = db.collateralTypeOf loanId := by
  have hterms : (db.loans.map Loan.terms)[loanId]? = some db.loans[loanId].terms := by
    rw [List.getElem?_map, List.getElem?_eq_getElem hl]
    rfl
  have hnew := Table.getElem?_of_prefix h.loans hterms
  rw [List.getElem?_map] at hnew
  obtain ⟨l', hl', heq⟩ := Option.map_eq_some_iff.mp hnew
  have hproduct : l'.terms.loanProductId = db.loans[loanId].terms.loanProductId := by rw [heq]
  have hproduct' : l'.loanProductId = db.loans[loanId].loanProductId := hproduct
  rw [Db.collateralTypeOf, hl', Db.collateralTypeOf, List.getElem?_eq_getElem hl]
  simp only [Option.map_some, Option.getD_some, Db.collateralType, h.loanProducts, hproduct']

/-- The account of a hold is found again in every later state. -/
theorem Db.SameTerms.accountOf {db db' : Db} (h : db.SameTerms db') {g : LoanGuarantor}
    (hl : g.loanId < db.loans.length) : db'.accountOf g = db.accountOf g := by
  rw [Db.accountOf, h.collateralTypeOf hl, h.holdAccount, Db.accountOf]

/-! ## 3. Runs -/

theorem step_sameTerms (db : Db) (op : Op) : db.SameTerms (step db op) :=
  Moves.commit' (exec_moves op) db

/-- No run changes the account that a hold is on. -/
theorem after_sameTerms (db : Db) (ops : List Op) : db.SameTerms (db.after ops) :=
  Machine.run_related sameTerms_refl (fun _ _ _ h k => History.trans h k) step_sameTerms

end BebaSacco
