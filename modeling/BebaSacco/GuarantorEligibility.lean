import BebaSacco.Guarantees
import BebaSacco.KycDocuments
import BebaSacco.Lib.Grouped
import BebaSacco.Users

/-! # Who can guarantee a loan

An invitation checks one candidate after another, with queries of its own for each. An application
checks all candidates over rows that it reads at once.

Results:
 1. `fetched_check`: the rules over the rows read at once are those of the queries.
 2. `batch_agrees`: the batch has the verdicts of the checks one by one, and the same first refusal,
    when guarantees and accounts belong to the tenant of their loan and of their member.
 3. `batch_differs`: a guarantee of a loan of another tenant counts in one of them only.
-/

namespace BebaSacco

/-! ## 1. The tables of all tenants -/

structure MemberFile where
  tenantId : Nat
  isActive : Bool
  kycStatus : KycStatus
  isBlacklisted : Bool
  role : UserRole
  accountStatus : AccountStatus
  deriving DecidableEq, Repr

structure SavingsFile where
  tenantId : Nat
  memberId : Nat
  accountType : AccountType
  isActive : Bool
  balance : Int
  lockedBalance : Option Int
  frozenSavings : Option Int
  deriving DecidableEq, Repr

structure LoanFile where
  tenantId : Nat
  memberId : Nat
  status : LoanStatus
  deriving DecidableEq, Repr

structure GuaranteeFile where
  tenantId : Nat
  loanId : Nat
  memberId : Nat
  status : GuarantorStatus
  deriving DecidableEq, Repr

/-- `settings` holds the value of `maxConcurrentGuarantees` when it is a number. -/
structure TenantFile where
  settings : Option ℚ
  deriving DecidableEq, Repr

structure EligibilityDb where
  tenants : List TenantFile
  members : List MemberFile
  accounts : List SavingsFile
  loans : List LoanFile
  loanGuarantors : List GuaranteeFile
  deriving DecidableEq, Repr

/-- The amount is in shillings. -/
structure Candidate where
  memberId : Nat
  guaranteedAmount : ℚ
  deriving DecidableEq, Repr

/-- The rule that refuses a candidate. -/
inductive Ineligibility
  | ownLoan
  | notFound
  | notActiveMember
  | kycNotApproved
  | blacklisted
  | circular
  | noAccount
  | insufficient (available : Int) (committing : ℚ)
  | defaulted
  | limitReached (maxGuarantees : Nat)
  deriving DecidableEq, Repr

def resolveMaxConcurrentGuarantees (settings : Option ℚ) : Nat :=
  match settings with
  | some value => if value.isInt && decide (0 < value) then value.num.toNat else 3
  | none => 3

def EligibilityDb.maxConcurrentGuarantees (db : EligibilityDb) (tenantId : Nat) : Nat :=
  resolveMaxConcurrentGuarantees (db.tenants[tenantId]?.bind (·.settings))

/-- `where: { loan: p }` -/
def EligibilityDb.loanHas (db : EligibilityDb) (p : LoanFile → Bool) (g : GuaranteeFile) : Bool :=
  db.loans[g.loanId]?.any p

/-! ## 2. One candidate -/

def EligibilityDb.validateGuarantorEligibility (db : EligibilityDb) (tenantId borrowerMemberId : Nat)
    (accountType : AccountType) (candidate : Candidate) : Option Ineligibility :=
  let guarantorMemberId := candidate.memberId
  if guarantorMemberId = borrowerMemberId then some .ownLoan
  else
    match db.members[guarantorMemberId]?.filter fun m => m.tenantId == tenantId && m.isActive with
    | none => some .notFound
    | some guarantor =>
      if guarantor.role ≠ .member ∨ guarantor.accountStatus ≠ .active then some .notActiveMember
      else if guarantor.kycStatus ≠ .approved then some .kycNotApproved
      else if guarantor.isBlacklisted then some .blacklisted
      else if db.loanGuarantors.any fun g =>
          g.tenantId == tenantId && g.memberId == borrowerMemberId &&
            (g.status == .pending || g.status == .accepted) &&
            db.loanHas (fun l => l.tenantId == tenantId && l.memberId == guarantorMemberId &&
              l.status.circularGuarantee) g then
        some .circular
      else
        match db.accounts.find? fun a => a.memberId == guarantorMemberId &&
            a.tenantId == tenantId && a.accountType == accountType && a.isActive with
        | none => some .noAccount
        | some account =>
          let availableBalance :=
            account.balance - account.lockedBalance.getD 0 - account.frozenSavings.getD 0
          if ofUnits availableBalance < candidate.guaranteedAmount then
            some (.insufficient availableBalance candidate.guaranteedAmount)
          else if db.loans.any fun l =>
              l.memberId == guarantorMemberId && l.tenantId == tenantId &&
                l.status == .defaulted then
            some .defaulted
          else
            let maxGuarantees := db.maxConcurrentGuarantees tenantId
            -- the tenant of the loan is not asked for
            let activeGuarantees := db.loanGuarantors.countP fun g =>
              g.memberId == guarantorMemberId && g.tenantId == tenantId &&
                g.status == .accepted && db.loanHas (·.status.guaranteesCount) g
            if maxGuarantees ≤ activeGuarantees then some (.limitReached maxGuarantees) else none

/-! ## 3. All candidates at once -/

/-- A member with its accounts of the type that is asked for. -/
structure FetchedMember where
  member : MemberFile
  accounts : List SavingsFile
  deriving DecidableEq, Repr

/-- What the five queries of the batch return. -/
structure Fetched where
  memberById : List (Nat × FetchedMember)
  circularGuarantorIds : List Nat
  defaultedGuarantorIds : List Nat
  activeGuaranteesByMember : List (Nat × Nat)
  maxGuarantees : Nat
  deriving DecidableEq, Repr

def EligibilityDb.fetch (db : EligibilityDb) (tenantId borrowerMemberId : Nat)
    (accountType : AccountType) (guarantorIds : List Nat) : Fetched where
  memberById :=
    ((Table.selectRows (fun m => m.tenantId == tenantId && m.isActive) db.members).filter
      fun row => guarantorIds.contains row.1).map fun row =>
        (row.1, ⟨row.2, db.accounts.filter fun a =>
          a.memberId == row.1 && a.accountType == accountType && a.isActive⟩)
  circularGuarantorIds :=
    (db.loanGuarantors.filter fun g => g.tenantId == tenantId && g.memberId == borrowerMemberId &&
      (g.status == .pending || g.status == .accepted) &&
      db.loanHas (fun l => l.tenantId == tenantId && guarantorIds.contains l.memberId &&
        l.status.circularGuarantee) g).filterMap fun g => db.loans[g.loanId]?.map (·.memberId)
  defaultedGuarantorIds :=
    (db.loans.filter fun l => guarantorIds.contains l.memberId && l.tenantId == tenantId &&
      l.status == .defaulted).map (·.memberId)
  activeGuaranteesByMember :=
    Grouped.groupCount (·.memberId) (db.loanGuarantors.filter fun g =>
      guarantorIds.contains g.memberId && g.tenantId == tenantId && g.status == .accepted &&
        db.loanHas (fun l => l.tenantId == tenantId && l.status.guaranteesCount) g)
  maxGuarantees := db.maxConcurrentGuarantees tenantId

def Fetched.check (fetched : Fetched) (borrowerMemberId : Nat) (candidate : Candidate) :
    Option Ineligibility :=
  let guarantorMemberId := candidate.memberId
  if guarantorMemberId = borrowerMemberId then some .ownLoan
  else
    match Grouped.get fetched.memberById guarantorMemberId with
    | none => some .notFound
    | some guarantor =>
      if guarantor.member.role ≠ .member ∨ guarantor.member.accountStatus ≠ .active then
        some .notActiveMember
      else if guarantor.member.kycStatus ≠ .approved then some .kycNotApproved
      else if guarantor.member.isBlacklisted then some .blacklisted
      else if fetched.circularGuarantorIds.contains guarantorMemberId then some .circular
      else
        match guarantor.accounts[0]? with
        | none => some .noAccount
        | some account =>
          let availableBalance :=
            account.balance - (account.lockedBalance.getD 0 + account.frozenSavings.getD 0)
          if ofUnits availableBalance < candidate.guaranteedAmount then
            some (.insufficient availableBalance candidate.guaranteedAmount)
          else if fetched.defaultedGuarantorIds.contains guarantorMemberId then some .defaulted
          else
            let activeGuarantees :=
              (Grouped.get fetched.activeGuaranteesByMember guarantorMemberId).getD 0
            if fetched.maxGuarantees ≤ activeGuarantees then
              some (.limitReached fetched.maxGuarantees)
            else none

/-- The verdict of each candidate; without a reason it is eligible. -/
def EligibilityDb.validateGuarantorsEligibilityBatch (db : EligibilityDb)
    (tenantId borrowerMemberId : Nat) (accountType : AccountType) (guarantors : List Candidate) :
    List (Nat × Option Ineligibility) :=
  let fetched := db.fetch tenantId borrowerMemberId accountType (guarantors.map (·.memberId))
  guarantors.map fun candidate =>
    (candidate.memberId, fetched.check borrowerMemberId candidate)

/-- The guarantees of the tenant are of its own loans, and the accounts of its members its own. -/
structure EligibilityDb.OwnRows (db : EligibilityDb) (tenantId : Nat) : Prop where
  guarantees : ∀ g ∈ db.loanGuarantors, g.tenantId = tenantId →
    db.loanHas (·.tenantId != tenantId) g = false
  accounts : ∀ a ∈ db.accounts, (db.members[a.memberId]?.any (·.tenantId == tenantId)) = true →
    a.tenantId = tenantId

namespace EligibilityLemmas

variable {db : EligibilityDb} {tenantId borrowerMemberId memberId : Nat} {accountType : AccountType}
  {guarantorIds : List Nat}

/-! ## 4. What the queries of the batch return for one candidate -/

theorem member_fetched (h : memberId ∈ guarantorIds) :
    Grouped.get (db.fetch tenantId borrowerMemberId accountType guarantorIds).memberById memberId =
      (db.members[memberId]?.filter fun m => m.tenantId == tenantId && m.isActive).map fun m =>
        ⟨m, db.accounts.filter fun a =>
          a.memberId == memberId && a.accountType == accountType && a.isActive⟩ := by
  have hrows : ∀ fetched, (memberId, fetched) ∈
      (db.fetch tenantId borrowerMemberId accountType guarantorIds).memberById ↔
        ∃ m, db.members[memberId]? = some m ∧ (m.tenantId == tenantId && m.isActive) = true ∧
          fetched = ⟨m, db.accounts.filter fun a =>
            a.memberId == memberId && a.accountType == accountType && a.isActive⟩ := by
    intro fetched
    unfold EligibilityDb.fetch
    rw [List.mem_map]
    constructor
    · rintro ⟨⟨id, m⟩, hrow, heq⟩
      cases heq
      obtain ⟨hm, hp⟩ := Table.mem_selectRows.mp (List.mem_filter.mp hrow).1
      exact ⟨m, hm, hp, rfl⟩
    · rintro ⟨m, hm, hp, rfl⟩
      exact ⟨(memberId, m), List.mem_filter.mpr
        ⟨Table.mem_selectRows.mpr ⟨hm, hp⟩, List.contains_iff_mem.mpr h⟩, rfl⟩
  cases hm : db.members[memberId]? with
  | none =>
    refine Grouped.get_none fun fetched hmem => ?_
    obtain ⟨m, hrow, -⟩ := (hrows fetched).mp hmem
    cases hm.symm.trans hrow
  | some m =>
    cases hp : m.tenantId == tenantId && m.isActive with
    | false =>
      rw [Option.filter_some, hp]
      refine Grouped.get_none fun fetched hmem => ?_
      obtain ⟨m', hrow, hp', -⟩ := (hrows fetched).mp hmem
      cases hm.symm.trans hrow
      cases hp.symm.trans hp'
    | true =>
      rw [Option.filter_some, hp]
      refine Grouped.get_some ((hrows _).mpr ⟨m, hm, hp, rfl⟩) fun fetched hmem => ?_
      obtain ⟨m', hrow, -, heq⟩ := (hrows fetched).mp hmem
      cases hm.symm.trans hrow
      exact heq

theorem circular_fetched (h : memberId ∈ guarantorIds) :
    (db.fetch tenantId borrowerMemberId accountType guarantorIds).circularGuarantorIds.contains
        memberId =
      db.loanGuarantors.any fun g => g.tenantId == tenantId && g.memberId == borrowerMemberId &&
        (g.status == .pending || g.status == .accepted) &&
        db.loanHas (fun l => l.tenantId == tenantId && l.memberId == memberId &&
          l.status.circularGuarantee) g := by
  rw [Bool.eq_iff_iff, List.contains_iff_mem, List.any_eq_true]
  unfold EligibilityDb.fetch EligibilityDb.loanHas
  simp only [List.mem_filterMap, List.mem_filter, Bool.and_eq_true, Option.any_eq_true]
  constructor
  · rintro ⟨g, ⟨hg, hrow, loan, hloan, ⟨htenant, -⟩, hstatus⟩, hmember⟩
    rw [hloan, Option.map_some, Option.some.injEq] at hmember
    exact ⟨g, hg, hrow, loan, hloan, ⟨htenant, beq_iff_eq.mpr hmember⟩, hstatus⟩
  · rintro ⟨g, hg, hrow, loan, hloan, ⟨htenant, hmember⟩, hstatus⟩
    rw [beq_iff_eq] at hmember
    refine ⟨g, ⟨hg, hrow, loan, hloan, ⟨htenant, ?_⟩, hstatus⟩, ?_⟩
    · rw [hmember]
      exact List.contains_iff_mem.mpr h
    · rw [hloan, Option.map_some, hmember]

theorem defaulted_fetched (h : memberId ∈ guarantorIds) :
    (db.fetch tenantId borrowerMemberId accountType guarantorIds).defaultedGuarantorIds.contains
        memberId =
      db.loans.any fun l => l.memberId == memberId && l.tenantId == tenantId &&
        l.status == .defaulted := by
  rw [Bool.eq_iff_iff, List.contains_iff_mem, List.any_eq_true]
  unfold EligibilityDb.fetch
  simp only [List.mem_map, List.mem_filter, Bool.and_eq_true]
  constructor
  · rintro ⟨loan, ⟨hloan, ⟨-, htenant⟩, hstatus⟩, hmember⟩
    exact ⟨loan, hloan, ⟨beq_iff_eq.mpr hmember, htenant⟩, hstatus⟩
  · rintro ⟨loan, hloan, ⟨hmember, htenant⟩, hstatus⟩
    rw [beq_iff_eq] at hmember
    refine ⟨loan, ⟨hloan, ⟨?_, htenant⟩, hstatus⟩, hmember⟩
    rw [hmember]
    exact List.contains_iff_mem.mpr h

/-- A guarantee of the tenant counts whether or not the tenant of its loan is asked for. -/
theorem guarantees_fetched (hown : db.OwnRows tenantId) (h : memberId ∈ guarantorIds) :
    (Grouped.get (db.fetch tenantId borrowerMemberId accountType
        guarantorIds).activeGuaranteesByMember memberId).getD 0 =
      db.loanGuarantors.countP fun g => g.memberId == memberId && g.tenantId == tenantId &&
        g.status == .accepted && db.loanHas (·.status.guaranteesCount) g := by
  unfold EligibilityDb.fetch
  rw [Grouped.get_groupCount, List.countP_filter]
  refine List.countP_congr fun g hg => ?_
  unfold EligibilityDb.loanHas
  simp only [Bool.and_eq_true, Option.any_eq_true]
  constructor
  · rintro ⟨hmember, ⟨⟨-, htenant⟩, hstatus⟩, loan, hloan, -, hcounts⟩
    exact ⟨⟨⟨hmember, htenant⟩, hstatus⟩, loan, hloan, hcounts⟩
  · rintro ⟨⟨⟨hmember, htenant⟩, hstatus⟩, loan, hloan, hcounts⟩
    have hloanTenant := hown.guarantees g hg (beq_iff_eq.mp htenant)
    unfold EligibilityDb.loanHas at hloanTenant
    rw [hloan, Option.any_some, bne_eq_false_iff_eq] at hloanTenant
    refine ⟨hmember, ⟨⟨?_, htenant⟩, hstatus⟩, loan, hloan, beq_iff_eq.mpr hloanTenant, hcounts⟩
    rw [beq_iff_eq.mp hmember]
    exact List.contains_iff_mem.mpr h

/-- The account of a member of the tenant is the first of the ones that came with the member. -/
theorem account_fetched (hown : db.OwnRows tenantId) {m : MemberFile}
    (hm : db.members[memberId]? = some m) (htenant : m.tenantId = tenantId) :
    (db.accounts.filter fun a =>
        a.memberId == memberId && a.accountType == accountType && a.isActive)[0]? =
      db.accounts.find? fun a => a.memberId == memberId && a.tenantId == tenantId &&
        a.accountType == accountType && a.isActive := by
  rw [← List.head?_eq_getElem?, ← List.head?_filter]
  refine congrArg List.head? (List.filter_congr fun a ha => ?_)
  rw [Bool.eq_iff_iff]
  simp only [Bool.and_eq_true, beq_iff_eq]
  constructor
  · rintro ⟨⟨rfl, htype⟩, hactive⟩
    refine ⟨⟨⟨rfl, hown.accounts a ha ?_⟩, htype⟩, hactive⟩
    rw [hm, Option.any_some, htenant, beq_self_eq_true]
  · rintro ⟨⟨⟨hmember, -⟩, htype⟩, hactive⟩
    exact ⟨⟨hmember, htype⟩, hactive⟩

/-- Each rule over the fetched rows is the one of its query. -/
theorem fetched_check (hown : db.OwnRows tenantId) {candidate : Candidate}
    (h : candidate.memberId ∈ guarantorIds) :
    (db.fetch tenantId borrowerMemberId accountType guarantorIds).check borrowerMemberId
        candidate =
      db.validateGuarantorEligibility tenantId borrowerMemberId accountType candidate := by
  unfold Fetched.check EligibilityDb.validateGuarantorEligibility
  dsimp only
  rw [member_fetched h, circular_fetched h, defaulted_fetched h, guarantees_fetched hown h]
  cases hm : db.members[candidate.memberId]?.filter
      fun m => m.tenantId == tenantId && m.isActive with
  | none => rfl
  | some m =>
    obtain ⟨hrow, hp⟩ := Option.filter_eq_some_iff.mp hm
    rw [Bool.and_eq_true, beq_iff_eq] at hp
    dsimp only [Option.map_some]
    rw [account_fetched hown hrow hp.1]
    simp only [Int.sub_sub]
    rfl

end EligibilityLemmas

open EligibilityLemmas

/-! ## 5. The batch and the checks one by one -/

/-- The batch has the verdict of each check, and refuses the first candidate that they refuse. -/
theorem batch_agrees (db : EligibilityDb) (tenantId borrowerMemberId : Nat)
    (accountType : AccountType) (guarantors : List Candidate) (h : db.OwnRows tenantId) :
    let batch := db.validateGuarantorsEligibilityBatch tenantId borrowerMemberId accountType
      guarantors
    let check := db.validateGuarantorEligibility tenantId borrowerMemberId accountType
    (batch = guarantors.map fun candidate => (candidate.memberId, check candidate)) ∧
      (batch.find? (·.2.isSome) = none ↔ ∀ candidate ∈ guarantors, check candidate = none) ∧
      batch.find? (·.2.isSome) =
        (Grouped.firstRefused check guarantors).map fun r => (r.1.memberId, some r.2) := by
  intro batch check
  have hbatch : batch = guarantors.map fun candidate => (candidate.memberId, check candidate) :=
    List.map_congr_left fun candidate hcandidate =>
      congrArg (candidate.memberId, ·) (fetched_check h (List.mem_map_of_mem hcandidate))
  have hfirst := Grouped.find_map Candidate.memberId check guarantors
  refine ⟨hbatch, ?_, hbatch ▸ hfirst⟩
  rw [hbatch, hfirst, Option.map_eq_none_iff, Grouped.firstRefused_none]

/-- Member 1 guarantees a loan and has 500 in its account; member 0 borrows. -/
def exEligibilityDb (loanTenant accountTenant : Nat) : EligibilityDb where
  tenants := [⟨some 1⟩]
  members := [⟨0, true, .approved, false, .member, .active⟩,
    ⟨0, true, .approved, false, .member, .active⟩]
  accounts := [⟨accountTenant, 1, .bosa, true, 5000000, none, none⟩]
  loans := [⟨loanTenant, 2, .active⟩]
  loanGuarantors := [⟨0, 0, 1, .accepted⟩]

theorem batch_agrees_limit :
    (exEligibilityDb 0 0).validateGuarantorsEligibilityBatch 0 0 .bosa [⟨1, 100⟩, ⟨0, 100⟩] =
        [(1, some (.limitReached 1)), (0, some .ownLoan)] ∧
      Grouped.firstRefused ((exEligibilityDb 0 0).validateGuarantorEligibility 0 0 .bosa)
        [⟨1, 100⟩, ⟨0, 100⟩] = some (⟨1, 100⟩, .limitReached 1) ∧
      ((exEligibilityDb 0 0).validateGuarantorsEligibilityBatch 0 0 .bosa [⟨1, 100⟩, ⟨0, 100⟩]).find?
          (·.2.isSome) =
        (Grouped.firstRefused ((exEligibilityDb 0 0).validateGuarantorEligibility 0 0 .bosa)
          [⟨1, 100⟩, ⟨0, 100⟩]).map fun r => (r.1.memberId, some r.2) :=
  ⟨by decide +kernel, by decide +kernel,
    (batch_agrees (exEligibilityDb 0 0) 0 0 .bosa [⟨1, 100⟩, ⟨0, 100⟩]
      ⟨by decide, by decide⟩).2.2⟩

/-- The loan of the guarantee belongs to another tenant, or the account does. -/
theorem batch_differs :
    ((exEligibilityDb 1 0).validateGuarantorsEligibilityBatch 0 0 .bosa [⟨1, 100⟩] = [(1, none)] ∧
        (exEligibilityDb 1 0).validateGuarantorEligibility 0 0 .bosa ⟨1, 100⟩ =
          some (.limitReached 1)) ∧
      (exEligibilityDb 0 1).validateGuarantorsEligibilityBatch 0 0 .bosa [⟨1, 100⟩] =
          [(1, some (.limitReached 1))] ∧
        (exEligibilityDb 0 1).validateGuarantorEligibility 0 0 .bosa ⟨1, 100⟩ = some .noAccount := by
  decide +kernel

end BebaSacco
