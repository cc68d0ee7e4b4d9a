import BebaSacco.AccountProvisioning
import BebaSacco.Lib.Process

/-! # Decisions about applications

An officer approves an application, which makes a user, a member and two accounts in one transaction,
or rejects it, or marks it for review. Each call reads the application first and writes its status by
id later. The statements of all calls interleave; a transaction that only creates rows and sets one
by id is one of them.

Results:
 1. `createMember_does`: what the transaction of an approval creates.
 2. `decision_does`: what one statement does.
 3. `membership_decision_final`: an application is decided once, has one member and one account of
    each type, and a member only when it is approved, when no decision is taken between the read of
    a call and its write.
 4. `decision_overwritten`: an approval and a rejection that cross, both ways round.
-/

namespace BebaSacco

open Txn Process

/-! ## 1. The tables -/

inductive ApplicationStatus where
  | submitted
  | pendingReview
  | approved
  | rejected
  deriving DecidableEq, Repr

/-- An application in this status waits for a decision. -/
def ApplicationStatus.isOpen : ApplicationStatus → Bool
  | .submitted | .pendingReview => true
  | _ => false

inductive StagePosition where
  | chairman
  | secretary
  | treasurer
  | member
  deriving DecidableEq, Repr

/-- `past`: the statuses that the application had before; the code does not keep them. -/
structure MemberApplication where
  firstName : String
  lastName : String
  idNumber : String
  phoneNumber : String
  position : StagePosition
  status : ApplicationStatus
  reviewedBy : Option Nat
  reviewNotes : Option String
  past : List ApplicationStatus
  deriving DecidableEq, Repr

def MemberApplication.history (app : MemberApplication) : List ApplicationStatus :=
  app.past ++ [app.status]

structure ApplicantUser where
  email : String
  firstName : String
  lastName : String
  phoneNumber : Option String
  idNumber : Option String
  deriving DecidableEq, Repr

structure OnboardedMember where
  userId : Nat
  memberNumber : String
  nationalId : Option String
  memberApplicationId : Option Nat
  deriving DecidableEq, Repr

/-- The tables of a tenant; ids are positions. -/
structure OnboardingDesk where
  tenantId : String
  applications : List MemberApplication
  users : List ApplicantUser
  members : List OnboardedMember
  accounts : List Account

/-- What the services throw; `uniqueViolation` is the error `P2002` with the column it names. -/
inductive OnboardingErr where
  | notFound (message : String)
  | badRequest (message : String)
  | conflict (message : String)
  | uniqueViolation (field : String)
  | internal (message : String)
  deriving DecidableEq, Repr

/-- An update of `status` and of the columns of the review; without notes these stay. -/
def MemberApplication.decide (status : ApplicationStatus) (reviewedBy : Nat)
    (reviewNotes : Option String) (app : MemberApplication) : MemberApplication :=
  { app with
    status, reviewedBy := some reviewedBy, reviewNotes := reviewNotes.or app.reviewNotes
    past := app.past ++ [app.status] }

def OnboardingDesk.decide (desk : OnboardingDesk) (id : Nat) (status : ApplicationStatus)
    (reviewedBy : Nat) (reviewNotes : Option String) : OnboardingDesk :=
  { desk with applications := desk.applications.modify id (·.decide status reviewedBy reviewNotes) }

/-! ## 2. The calls -/

structure ApproveApplicationDto where
  email : Option String
  reviewNotes : Option String
  deriving DecidableEq, Repr

inductive OnboardingCall where
  | approve (id actorId : Nat) (dto : ApproveApplicationDto)
  | reject (id actorId : Nat) (reviewNotes : String)
  | markPendingReview (id actorId : Nat)
  deriving DecidableEq, Repr

/-- An approval under way, with the application as it was read. -/
structure Approval where
  id : Nat
  actorId : Nat
  dto : ApproveApplicationDto
  app : MemberApplication
  deriving DecidableEq, Repr

/-- The next statement of a call. -/
inductive OnboardingPoint where
  | findApplication (call : OnboardingCall)
  | findApprovedMember (a : Approval)
  | findPreExistingMember (a : Approval)
  | updateApproved (a : Approval)
  | findDupUser (a : Approval)
  | findDupEmail (a : Approval)
  | createMember (a : Approval) (attempt : Nat)
  /-- `app` is what was read. -/
  | updateRejected (id actorId : Nat) (reviewNotes : String) (app : MemberApplication)
  | updatePendingReview (id actorId : Nat) (app : MemberApplication)
  deriving DecidableEq, Repr

/-- The random numbers of an attempt, of six digits each. -/
structure GeneratedNumbers where
  member : Nat
  fosa : Nat
  bosa : Nat
  deriving DecidableEq, Repr

def MAX_ATTEMPTS : Nat := 3

def StagePosition.memberPrefix : StagePosition → String
  | .chairman => "CHM"
  | .secretary => "SEC"
  | .treasurer => "TRS"
  | .member => "MBR"

def Approval.email (a : Approval) (tenantId : String) : String :=
  match a.dto.email with
  | some email => email.toLower
  | none => s!"member.{a.app.idNumber}@{String.ofList (tenantId.toList.take 8)}.beba.local"

/-- `user.create`; three columns are unique. -/
def createUser (row : ApplicantUser) : Txn OnboardingDesk OnboardingErr Nat := do
  let desk ← get
  ensure (desk.users.any (fun u => u.idNumber == row.idNumber && u.idNumber.isSome) = false)
    (.uniqueViolation "idNumber")
  ensure (desk.users.any (fun u => u.phoneNumber == row.phoneNumber && u.phoneNumber.isSome) = false)
    (.uniqueViolation "phoneNumber")
  ensure (desk.users.any (·.email == row.email) = false) (.uniqueViolation "email")
  modify fun desk => { desk with users := desk.users ++ [row] }
  return desk.users.length

/-- `member.create`. -/
def createMemberRow (row : OnboardedMember) : Txn OnboardingDesk OnboardingErr Nat := do
  let desk ← get
  ensure (desk.members.any
      (fun m => m.memberApplicationId == row.memberApplicationId && m.memberApplicationId.isSome) =
    false) (.uniqueViolation "memberApplicationId")
  ensure (desk.members.any (·.memberNumber == row.memberNumber) = false)
    (.uniqueViolation "memberNumber")
  modify fun desk => { desk with members := desk.members ++ [row] }
  return desk.members.length

/-- `account.create`, with the columns' own defaults. -/
def createAccountRow (memberId : Nat) (accountType : AccountType) (accountNumber : String) :
    Txn OnboardingDesk OnboardingErr Unit := do
  let desk ← get
  ensure (desk.accounts.any (·.accountNumber == accountNumber) = false)
    (.uniqueViolation "accountNumber")
  let row : Account := { newAccount memberId accountType none 0 with accountNumber }
  modify fun desk => { desk with accounts := desk.accounts ++ [row] }

/-- The transaction of an attempt. -/
def Approval.createMember (a : Approval) (numbers : GeneratedNumbers) :
    Txn OnboardingDesk OnboardingErr Unit := do
  let desk ← get
  let userId ← createUser
    { email := a.email desk.tenantId
      firstName := a.app.firstName
      lastName := a.app.lastName
      phoneNumber := some a.app.phoneNumber
      idNumber := some a.app.idNumber }
  let memberId ← createMemberRow
    { userId
      memberNumber := s!"{a.app.position.memberPrefix}-{numbers.member}"
      nationalId := some a.app.idNumber
      memberApplicationId := some a.id }
  createAccountRow memberId .fosa s!"FOSA-{numbers.fosa}"
  createAccountRow memberId .bosa s!"BOSA-{numbers.bosa}"
  modify (·.decide a.id .approved a.actorId (some (a.dto.reviewNotes.getD "Approved")))

/-- What the loop does with the error of an attempt: another attempt, or the error of the call. -/
def Approval.failed (a : Approval) (attempt : Nat) (tenantId : String) :
    OnboardingErr → Except OnboardingErr OnboardingPoint
  | .uniqueViolation field =>
    if attempt < MAX_ATTEMPTS - 1 ∧ (field = "memberNumber" ∨ field = "accountNumber") then
      .ok (.createMember a (attempt + 1))
    else if field = "phoneNumber" then
      .error (.conflict "A user with this phone number already exists.")
    else if field = "idNumber" then
      .error (.conflict "A user with this ID number already exists.")
    else if field = "email" then
      .error (.conflict
        s!"Email {a.email tenantId} is already registered. Provide a different email.")
    else .error (.conflict s!"A member with this {field} already exists.")
  | err => .error err

def ApplicationStatus.name : ApplicationStatus → String
  | .submitted => "SUBMITTED"
  | .pendingReview => "PENDING_REVIEW"
  | .approved => "APPROVED"
  | .rejected => "REJECTED"

/-- One statement of a call. -/
def OnboardingPoint.statement (numbers : GeneratedNumbers) :
    OnboardingPoint → Txn OnboardingDesk OnboardingErr (Option OnboardingPoint)
  | .findApplication (.approve id actorId dto) => do
    let desk ← get
    let app ← required desk.applications[id]? (.notFound "Application not found")
    let a : Approval := { id, actorId, dto, app }
    if app.status = .approved then return some (.findApprovedMember a)
    else do
      ensure (app.status.isOpen = true)
        (.badRequest (s!"Cannot approve application in status: {app.status.name}. " ++
          "Only SUBMITTED or PENDING_REVIEW applications can be approved."))
      return some (.findPreExistingMember a)
  | .findApplication (.reject id actorId reviewNotes) => do
    let desk ← get
    let app ← required desk.applications[id]? (.notFound "Application not found")
    ensure (app.status.isOpen = true)
      (.badRequest s!"Cannot reject application in status: {app.status.name}")
    return some (.updateRejected id actorId reviewNotes app)
  | .findApplication (.markPendingReview id actorId) => do
    let desk ← get
    let app ← required desk.applications[id]? (.notFound "Application not found")
    ensure (app.status = .submitted)
      (.badRequest s!"Application is already in status: {app.status.name}")
    return some (.updatePendingReview id actorId app)
  -- the member of an approved application is the answer; without one the call fails as above
  | .findApprovedMember a => do
    let desk ← get
    ensure (desk.members.any (·.nationalId == some a.app.idNumber) = true)
      (.badRequest ("Cannot approve application in status: APPROVED. " ++
        "Only SUBMITTED or PENDING_REVIEW applications can be approved."))
    return none
  | .findPreExistingMember a => do
    let desk ← get
    if desk.members.any (·.nationalId == some a.app.idNumber) then return some (.updateApproved a)
    else return some (.findDupUser a)
  | .updateApproved a => do
    modify (·.decide a.id .approved a.actorId none)
    return none
  | .findDupUser a => do
    let desk ← get
    match desk.users.find? fun u =>
        u.idNumber == some a.app.idNumber || u.phoneNumber == some a.app.phoneNumber with
    | none => return some (.findDupEmail a)
    | some dupUser =>
      let field := if dupUser.idNumber = some a.app.idNumber then "ID number" else "phone number"
      throw (.conflict s!"A user with this {field} already exists.")
  | .findDupEmail a => do
    let desk ← get
    ensure (desk.users.any (·.email == a.email desk.tenantId) = false)
      (.conflict (s!"Email {a.email desk.tenantId} is already registered. " ++
        "Provide a different email in the approval request."))
    return some (.createMember a 0)
  | .createMember a attempt => do
    let desk ← get
    let outcome ← rescue (do a.createMember numbers; return .ok none) fun err =>
      (a.failed attempt desk.tenantId err).map some
    fromExcept outcome
  | .updateRejected id actorId reviewNotes _ => do
    modify (·.decide id .rejected actorId (some reviewNotes))
    return none
  | .updatePendingReview id actorId _ => do
    modify (·.decide id .pendingReview actorId none)
    return none

def onboarding : Program OnboardingDesk OnboardingErr OnboardingCall GeneratedNumbers
    OnboardingPoint where
  entry := .findApplication
  next t numbers := t.statement numbers

abbrev OnboardingWorld := World OnboardingDesk OnboardingPoint

abbrev OnboardingEvent := Event OnboardingCall GeneratedNumbers

/-- The desk after the events, with no call under way at their start. -/
def OnboardingDesk.afterCalls (desk : OnboardingDesk) (events : List OnboardingEvent) :
    OnboardingDesk :=
  (Machine.run onboarding.step ⟨desk, []⟩ events).state

/-! ## 3. Steps in good order -/

/-- The status that a statement writes, and the application it writes it to. -/
def OnboardingPoint.writes : OnboardingPoint → Option (Nat × ApplicationStatus)
  | .updateApproved a | .createMember a _ => some (a.id, .approved)
  | .updateRejected id _ _ _ => some (id, .rejected)
  | .updatePendingReview id _ _ => some (id, .pendingReview)
  | _ => none

/-- The application as a call that goes on to write it has read it. -/
def OnboardingPoint.read : OnboardingPoint → Option MemberApplication
  | .findPreExistingMember a | .updateApproved a | .findDupUser a | .findDupEmail a
  | .createMember a _ => some a.app
  | .updateRejected _ _ _ app | .updatePendingReview _ _ app => some app
  | .findApplication _ | .findApprovedMember _ => none

/-- The application waits for a decision as it did when it was read, or does not as it did not then;
or it has the status already. -/
def OnboardingDesk.asRead (desk : OnboardingDesk) (id : Nat) (read : MemberApplication)
    (status : ApplicationStatus) : Bool :=
  desk.applications[id]?.all fun app =>
    app.status.isOpen == read.status.isOpen || app.status == status

/-- No other decision was taken between a call's look at the application and its write. -/
def OnboardingWorld.orderly (w : OnboardingWorld) : OnboardingEvent → Bool
  | .advance i _ =>
    (w.task i).all fun t =>
      match t.writes, t.read with
      | some (id, status), some read => w.state.asRead id read status
      | _, _ => true
  | _ => true

/-! ## 4. What a statement does -/

/-- The transaction of an approval: the first member of its application, with two accounts. -/
structure MemberCreated (a : Approval) (desk desk' : OnboardingDesk) : Prop where
  fresh : ∀ m ∈ desk.members, m.memberApplicationId ≠ some a.id
  members : ∃ m, m.memberApplicationId = some a.id ∧ desk'.members = desk.members ++ [m]
  accounts : ∃ fosa bosa : Account, (fosa.memberId = desk.members.length ∧ fosa.accountType = .fosa) ∧
    (bosa.memberId = desk.members.length ∧ bosa.accountType = .bosa) ∧
    desk'.accounts = desk.accounts ++ [fosa, bosa]
  applications : ∃ reviewNotes,
    desk'.applications = (desk.decide a.id .approved a.actorId reviewNotes).applications

/-- What a statement does: nothing, a decision, or a member with a decision. -/
inductive OnboardingDoes (t : OnboardingPoint) (desk : OnboardingDesk) : OnboardingDesk → Prop where
  | nothing : OnboardingDoes t desk desk
  | decides {id actorId : Nat} {status : ApplicationStatus} {reviewNotes : Option String}
      (hwrites : t.writes = some (id, status)) :
      OnboardingDoes t desk (desk.decide id status actorId reviewNotes)
  | creates {a : Approval} {desk' : OnboardingDesk} (hwrites : t.writes = some (a.id, .approved))
      (hcreated : MemberCreated a desk desk') : OnboardingDoes t desk desk'

/-- What was read to be written waited for a decision. -/
def OnboardingPoint.Checked (t : OnboardingPoint) : Prop :=
  ∀ app, t.read = some app → app.status.isOpen = true

section does

variable {desk desk' : OnboardingDesk} {a : Approval} {numbers : GeneratedNumbers}

theorem createUser_does {row : ApplicantUser} {id : Nat}
    (h : Yields (createUser row) desk id desk') :
    desk' = { desk with users := desk.users ++ [row] } := by
  unfold createUser at h
  simp only [yields_bind, yields_get, yields_ensure, yields_modify, yields_pure] at h
  obtain ⟨_, _, ⟨rfl, rfl⟩, _, _, ⟨-, rfl⟩, _, _, ⟨-, rfl⟩, _, _, ⟨-, rfl⟩, _, _, hmodify, -, rfl⟩ := h
  exact hmodify.symm

theorem createMemberRow_does {row : OnboardedMember} {memberId id : Nat}
    (hrow : row.memberApplicationId = some id) (h : Yields (createMemberRow row) desk memberId desk') :
    (∀ m ∈ desk.members, m.memberApplicationId ≠ some id) ∧ memberId = desk.members.length ∧
      desk' = { desk with members := desk.members ++ [row] } := by
  unfold createMemberRow at h
  simp only [yields_bind, yields_get, yields_ensure, yields_modify, yields_pure] at h
  obtain ⟨_, _, ⟨rfl, rfl⟩, _, _, ⟨hfresh, rfl⟩, _, _, ⟨-, rfl⟩, _, _, hmodify, hid, rfl⟩ := h
  refine ⟨fun m hm happ => ?_, hid.symm, hmodify.symm⟩
  refine Bool.false_ne_true (hfresh.symm.trans (List.any_eq_true.mpr ⟨m, hm, ?_⟩))
  rw [happ, hrow, beq_self_eq_true]
  rfl

theorem createAccountRow_does {memberId : Nat} {accountType : AccountType} {accountNumber : String}
    (h : Yields (createAccountRow memberId accountType accountNumber) desk () desk') :
    ∃ row : Account, (row.memberId = memberId ∧ row.accountType = accountType) ∧
      desk' = { desk with accounts := desk.accounts ++ [row] } := by
  unfold createAccountRow at h
  simp only [yields_bind, yields_get, yields_ensure, yields_modify] at h
  obtain ⟨_, _, ⟨rfl, rfl⟩, _, _, ⟨-, rfl⟩, hmodify⟩ := h
  exact ⟨_, ⟨rfl, rfl⟩, hmodify.symm⟩

theorem createMember_does (h : Yields (a.createMember numbers) desk () desk') :
    MemberCreated a desk desk' := by
  unfold Approval.createMember at h
  simp only [yields_bind, yields_get, yields_modify] at h
  obtain ⟨_, _, ⟨rfl, rfl⟩, userId, _, huser, memberId, _, hmember, _, _, hfosa, _, _, hbosa, rfl⟩ := h
  have husers := createUser_does huser
  subst husers
  obtain ⟨hfresh, rfl, hmembers⟩ := createMemberRow_does rfl hmember
  subst hmembers
  obtain ⟨fosa, hfosaRow, rfl⟩ := createAccountRow_does hfosa
  obtain ⟨bosa, hbosaRow, rfl⟩ := createAccountRow_does hbosa
  exact ⟨hfresh, ⟨_, rfl, rfl⟩, ⟨fosa, bosa, hfosaRow, hbosaRow, List.append_assoc _ _ _⟩, _, rfl⟩

theorem failed_ok {attempt : Nat} {tenantId : String} {err : OnboardingErr} {u : OnboardingPoint}
    (h : a.failed attempt tenantId err = .ok u) : u = .createMember a (attempt + 1) := by
  unfold Approval.failed at h
  repeat' split at h
  all_goals cases h
  rfl

theorem decision_does {t : OnboardingPoint} {t' : Option OnboardingPoint}
    (h : Yields (t.statement numbers) desk t' desk') :
    OnboardingDoes t desk desk' ∧ (t.Checked → ∀ u, t' = some u → u.Checked) := by
  have hends : t.Checked → ∀ u : OnboardingPoint, none = some u → u.Checked := fun _ _ hu => by cases hu
  cases t with
  | findApplication call =>
    cases call with
    | approve id actorId dto =>
      simp only [OnboardingPoint.statement, yields_bind, yields_get, yields_required, yields_ite,
        yields_ensure, yields_pure] at h
      obtain ⟨_, _, ⟨rfl, rfl⟩, app, _, ⟨-, rfl⟩, ⟨-, rfl, rfl⟩ | ⟨-, _, _, ⟨hopen, rfl⟩, rfl, rfl⟩⟩ := h
      · exact ⟨.nothing, fun _ _ hu _ hread => by cases hu; cases hread⟩
      · exact ⟨.nothing, fun _ _ hu _ hread => by cases hu; cases hread; exact hopen⟩
    | reject id actorId reviewNotes =>
      simp only [OnboardingPoint.statement, yields_bind, yields_get, yields_required, yields_ensure,
        yields_pure] at h
      obtain ⟨_, _, ⟨rfl, rfl⟩, _, _, ⟨-, rfl⟩, _, _, ⟨hopen, rfl⟩, rfl, rfl⟩ := h
      exact ⟨.nothing, fun _ _ hu _ hread => by cases hu; cases hread; exact hopen⟩
    | markPendingReview id actorId =>
      simp only [OnboardingPoint.statement, yields_bind, yields_get, yields_required, yields_ensure,
        yields_pure] at h
      obtain ⟨_, _, ⟨rfl, rfl⟩, _, _, ⟨-, rfl⟩, _, _, ⟨hsubmitted, rfl⟩, rfl, rfl⟩ := h
      refine ⟨.nothing, fun _ _ hu _ hread => ?_⟩
      cases hu
      cases hread
      rw [hsubmitted]
      rfl
  | findApprovedMember a =>
    simp only [OnboardingPoint.statement, yields_bind, yields_get, yields_ensure, yields_pure] at h
    obtain ⟨_, _, ⟨rfl, rfl⟩, _, _, ⟨-, rfl⟩, rfl, rfl⟩ := h
    exact ⟨.nothing, hends⟩
  | findPreExistingMember a =>
    simp only [OnboardingPoint.statement, yields_bind, yields_get, yields_ite, yields_pure] at h
    obtain ⟨_, _, ⟨rfl, rfl⟩, ⟨-, rfl, rfl⟩ | ⟨-, rfl, rfl⟩⟩ := h
    · exact ⟨.nothing, fun ht _ hu => Option.some.inj hu ▸ ht⟩
    · exact ⟨.nothing, fun ht _ hu => Option.some.inj hu ▸ ht⟩
  | updateApproved a =>
    simp only [OnboardingPoint.statement, yields_bind, yields_modify, yields_pure] at h
    obtain ⟨_, _, rfl, rfl, rfl⟩ := h
    exact ⟨.decides rfl, hends⟩
  | findDupUser a =>
    simp only [OnboardingPoint.statement, yields_bind, yields_get] at h
    obtain ⟨_, _, ⟨rfl, rfl⟩, h⟩ := h
    split at h
    · obtain ⟨rfl, rfl⟩ := yields_pure.mp h
      exact ⟨.nothing, fun ht _ hu => Option.some.inj hu ▸ ht⟩
    · exact (yields_throw.mp h).elim
  | findDupEmail a =>
    simp only [OnboardingPoint.statement, yields_bind, yields_get, yields_ensure, yields_pure] at h
    obtain ⟨_, _, ⟨rfl, rfl⟩, _, _, ⟨-, rfl⟩, rfl, rfl⟩ := h
    exact ⟨.nothing, fun ht _ hu => Option.some.inj hu ▸ ht⟩
  | createMember a attempt =>
    simp only [OnboardingPoint.statement, yields_bind, yields_get, yields_rescue, yields_fromExcept,
      yields_pure] at h
    obtain ⟨_, _, ⟨rfl, rfl⟩, outcome, _, ⟨_, _, hcreated, rfl, rfl⟩ |
      ⟨-, rfl, err, hfailed, -⟩, hout, rfl⟩ := h
    · cases hout
      exact ⟨.creates rfl (createMember_does hcreated), hends⟩
    · refine ⟨.nothing, fun ht u hu => ?_⟩
      subst hu
      -- the call goes on to another attempt with the same application
      have hnext := hfailed.trans hout
      cases hretry : a.failed attempt _ err with
      | error message =>
        rw [hretry] at hnext
        cases hnext
      | ok point =>
        rw [hretry] at hnext
        cases hnext
        rw [failed_ok hretry]
        exact ht
  | updateRejected id actorId reviewNotes app =>
    simp only [OnboardingPoint.statement, yields_bind, yields_modify, yields_pure] at h
    obtain ⟨_, _, rfl, rfl, rfl⟩ := h
    exact ⟨.decides rfl, hends⟩
  | updatePendingReview id actorId app =>
    simp only [OnboardingPoint.statement, yields_bind, yields_modify, yields_pure] at h
    obtain ⟨_, _, rfl, rfl, rfl⟩ := h
    exact ⟨.decides rfl, hends⟩

end does

/-! ## 5. Runs -/

/-- Every application was decided at most once and for good, has at most one member with at most one
account of each type, and a member only when it is approved; every account belongs to a member. -/
structure OnboardingDesk.Decided (desk : OnboardingDesk) : Prop where
  final : ∀ app ∈ desk.applications,
    app.history.Pairwise fun earlier later => earlier.isOpen = true ∨ later = earlier
  oneMember : ∀ id, desk.members.countP (·.memberApplicationId == some id) ≤ 1
  oneAccount : ∀ memberId m id, desk.members[memberId]? = some m →
    m.memberApplicationId = some id → ∀ t, desk.accounts.countP (·.isFor memberId t) ≤ 1
  approved : ∀ id app m, desk.applications[id]? = some app → m ∈ desk.members →
    m.memberApplicationId = some id → app.status = .approved
  owned : ∀ a ∈ desk.accounts, a.memberId < desk.members.length

/-- The application still waits for a decision, or it has the status already. -/
def OnboardingDesk.mayBecome (desk : OnboardingDesk) (id : Nat) (status : ApplicationStatus) : Bool :=
  desk.applications[id]?.all fun app => app.status.isOpen || app.status == status

namespace DecisionLemmas

variable {desk desk' : OnboardingDesk} {id actorId : Nat} {status : ApplicationStatus}
  {reviewNotes : Option String} {app : MemberApplication}

theorem history_decide
    (h : app.history.Pairwise fun earlier later => earlier.isOpen = true ∨ later = earlier)
    (hmay : (app.status.isOpen || app.status == status) = true) :
    (app.decide status actorId reviewNotes).history.Pairwise
      fun earlier later => earlier.isOpen = true ∨ later = earlier := by
  have hnext : app.status.isOpen = true ∨ status = app.status :=
    (Bool.or_eq_true_iff.mp hmay).imp_right fun heq => (beq_iff_eq.mp heq).symm
  show ((app.past ++ [app.status]) ++ [status]).Pairwise _
  rw [List.pairwise_append]
  refine ⟨h, List.pairwise_singleton _ _, fun earlier hearlier later hlater => ?_⟩
  rw [List.mem_singleton.mp hlater]
  rcases List.mem_append.mp hearlier with hpast | hlast
  · -- an earlier decision is the status, which the write keeps
    have hstatus := (List.pairwise_append.mp h).2.2 earlier hpast app.status
      (List.mem_singleton_self _)
    rcases hstatus with hopen | heq
    · exact .inl hopen
    · rw [heq] at hnext
      exact hnext
  · rw [List.mem_singleton.mp hlast]
    exact hnext

theorem decide_applications (h : desk.Decided) (hmay : desk.mayBecome id status = true) :
    ∀ app ∈ (desk.decide id status actorId reviewNotes).applications,
      app.history.Pairwise fun earlier later => earlier.isOpen = true ∨ later = earlier := by
  intro app hmem
  obtain ⟨i, hi⟩ := List.getElem?_of_mem hmem
  obtain ⟨old, hold, happ⟩ := Table.getElem?_modify_some hi
  have hfinal := h.final old (List.mem_of_getElem? hold)
  rw [happ]
  split
  · next heq =>
    subst heq
    unfold OnboardingDesk.mayBecome at hmay
    rw [hold] at hmay
    exact history_decide hfinal hmay
  · exact hfinal

/-- The applications that have a member stay approved. -/
theorem decide_approved (hmay : desk.mayBecome id status = true)
    {i : Nat} (happ : (desk.decide id status actorId reviewNotes).applications[i]? = some app)
    (hold : ∀ old, desk.applications[i]? = some old → old.status = .approved) :
    app.status = .approved := by
  obtain ⟨old, hi, hrow⟩ := Table.getElem?_modify_some happ
  have hstatus := hold old hi
  rw [hrow]
  split
  · next heq =>
    subst heq
    unfold OnboardingDesk.mayBecome at hmay
    rw [hi] at hmay
    have hkept : (ApplicationStatus.approved.isOpen || ApplicationStatus.approved == status) = true := by
      rw [← hstatus]
      exact hmay
    exact (beq_iff_eq.mp hkept).symm
  · exact hstatus

theorem decided_decide (h : desk.Decided) (hmay : desk.mayBecome id status = true) :
    (desk.decide id status actorId reviewNotes).Decided :=
  ⟨decide_applications h hmay, h.oneMember, h.oneAccount,
    fun i _ m happ hm hid => decide_approved hmay happ fun old hold => h.approved i old m hold hm hid,
    h.owned⟩

theorem decided_created {a : Approval} (h : desk.Decided)
    (hmay : desk.mayBecome a.id .approved = true) (hcreated : MemberCreated a desk desk') :
    desk'.Decided := by
  obtain ⟨m, hm, hmembers⟩ := hcreated.members
  obtain ⟨fosa, bosa, ⟨hfosa, hfosaType⟩, ⟨hbosa, hbosaType⟩, haccounts⟩ := hcreated.accounts
  obtain ⟨notes, happlications⟩ := hcreated.applications
  -- the two accounts belong to the new member, and no older one does
  have hnew : ∀ memberId t, memberId ≠ desk.members.length →
      [fosa, bosa].countP (·.isFor memberId t) = 0 := by
    intro memberId t hne
    rw [List.countP_eq_zero]
    intro x hx hfor
    have howner : x.memberId = desk.members.length := by
      rcases List.mem_cons.mp hx with rfl | hx
      · exact hfosa
      · rw [List.mem_singleton.mp hx]
        exact hbosa
    exact hne ((beq_iff_eq.mp (Bool.and_eq_true_iff.mp hfor).1).symm.trans howner)
  have hold : ∀ t, desk.accounts.countP (·.isFor desk.members.length t) = 0 := by
    intro t
    rw [List.countP_eq_zero]
    intro x hx hfor
    have howner := beq_iff_eq.mp (Bool.and_eq_true_iff.mp hfor).1
    exact absurd (h.owned x hx) (Nat.not_lt_of_ge (Nat.le_of_eq howner.symm))
  refine ⟨fun app happ => ?_, fun id => ?_, fun memberId row id hrow hid t => ?_,
    fun id app row happ hrow hid => ?_, fun x hx => ?_⟩
  · rw [happlications] at happ
    exact decide_applications h hmay app happ
  · rw [hmembers, List.countP_append, List.countP_singleton]
    split
    · next heq =>
      have hid := Option.some.inj (hm.symm.trans (beq_iff_eq.mp heq))
      have hnone : desk.members.countP (·.memberApplicationId == some id) = 0 := by
        rw [List.countP_eq_zero]
        intro x hx happ
        exact hcreated.fresh x hx ((beq_iff_eq.mp happ).trans (congrArg some hid.symm))
      exact Nat.le_of_eq (congrArg Nat.succ hnone)
    · exact h.oneMember id
  · rw [hmembers] at hrow
    rw [haccounts, List.countP_append]
    rcases Table.getElem?_append_one_some hrow with hprev | ⟨hlast, -⟩
    · have hlt := (List.getElem?_eq_some_iff.mp hprev).1
      rw [hnew memberId t (Nat.ne_of_lt hlt)]
      exact h.oneAccount memberId row id hprev hid t
    · rw [hlast, hold t, Nat.zero_add]
      unfold Account.isFor
      simp only [List.countP_cons, List.countP_nil, hfosa, hfosaType, hbosa, hbosaType]
      cases t <;> simp
  · rw [happlications] at happ
    rw [hmembers] at hrow
    rcases List.mem_append.mp hrow with hprev | hlast
    · exact decide_approved hmay happ fun old hold => h.approved id old row hold hprev hid
    · rw [List.mem_singleton.mp hlast] at hid
      have heq := Option.some.inj (hm.symm.trans hid)
      obtain ⟨old, -, happRow⟩ := Table.getElem?_modify_some happ
      rw [happRow, if_pos heq]
      rfl
  · rw [haccounts] at hx
    rw [hmembers, List.length_append]
    rcases List.mem_append.mp hx with hprev | hlast
    · exact Nat.lt_add_right _ (h.owned x hprev)
    · rcases List.mem_cons.mp hlast with rfl | hlast
      · rw [hfosa]
        exact Nat.lt_succ_self _
      · rw [List.mem_singleton.mp hlast, hbosa]
        exact Nat.lt_succ_self _

end DecisionLemmas

open DecisionLemmas

/-- What was open when it was read may be decided when nothing was decided since. -/
theorem mayBecome_of_asRead {desk : OnboardingDesk} {id : Nat} {read : MemberApplication}
    {status : ApplicationStatus} (hopen : read.status.isOpen = true)
    (h : desk.asRead id read status = true) : desk.mayBecome id status = true := by
  unfold OnboardingDesk.asRead at h
  unfold OnboardingDesk.mayBecome
  simpa only [hopen, beq_true] using h

theorem decided_step {w : OnboardingWorld} {e : OnboardingEvent}
    (h : Upheld OnboardingDesk.Decided (fun _ t => t.Checked) w) (hguard : w.orderly e = true) :
    Upheld OnboardingDesk.Decided (fun _ t => t.Checked) (onboarding.step w e) := by
  refine upheld_step h (fun call _ app hread => (by cases hread)) fun i numbers t t' desk he hat hy => ?_
  subst he
  obtain ⟨hdoes, hnext⟩ := decision_does hy
  have hmay : ∀ id status, t.writes = some (id, status) → w.state.mayBecome id status = true := by
    intro id status hwrites
    obtain ⟨read, hread⟩ : ∃ read, t.read = some read := by
      cases t <;> first | exact ⟨_, rfl⟩ | cases hwrites
    unfold OnboardingWorld.orderly at hguard
    simp only [task_some.mpr hat, Option.all_some, hwrites, hread] at hguard
    exact mayBecome_of_asRead (h.tasks i t hat read hread) hguard
  refine ⟨?_, hnext (h.tasks i t hat), fun _ _ _ _ hu => hu⟩
  cases hdoes with
  | nothing => exact h.state
  | decides hwrites => exact decided_decide h.state (hmay _ _ hwrites)
  | creates hwrites hcreated => exact decided_created h.state (hmay _ _ hwrites) hcreated

/-- When no decision is taken between the read of a call and its write, an application is decided once,
and it has at most one member, only when it is approved, with one account of each type at most. -/
theorem membership_decision_final {desk : OnboardingDesk} {events : List OnboardingEvent}
    (hopening : desk.Decided)
    (hrun : Machine.Guarded onboarding.step
      (fun w e => OnboardingWorld.orderly w e = true) ⟨desk, []⟩ events) :
    (desk.afterCalls events).Decided :=
  (Machine.run_induct (I := Upheld OnboardingDesk.Decided fun _ t => t.Checked)
    (fun _ _ h hguard => decided_step h hguard) ⟨hopening, fun _ _ hat => by cases hat⟩ hrun).state

/-- An application that was sent in. -/
def exApplication : MemberApplication where
  firstName := "Amina"
  lastName := "Otieno"
  idNumber := "30112233"
  phoneNumber := "254700000001"
  position := .member
  status := .submitted
  reviewedBy := none
  reviewNotes := none
  past := []

def exOnboarding : OnboardingDesk where
  tenantId := "beba-sacco"
  applications := [exApplication]
  users := []
  members := []
  accounts := []

theorem exOnboarding_decided : exOnboarding.Decided where
  final app happ := by
    rw [List.mem_singleton.mp happ]
    exact List.pairwise_singleton _ _
  oneMember _ := Nat.zero_le 1
  oneAccount _ _ _ hm := by cases hm
  approved _ _ _ _ hm := absurd hm List.not_mem_nil
  owned _ ha := absurd ha List.not_mem_nil

/-- Two officers approve the application, and a third one tries to reject it. -/
theorem membership_decision_final_witness :
    (exOnboarding.afterCalls
      [.start (.markPendingReview 0 1), .advance 0 ⟨0, 0, 0⟩, .advance 0 ⟨0, 0, 0⟩,
        .start (.approve 0 2 ⟨none, none⟩), .start (.approve 0 3 ⟨none, none⟩),
        .advance 1 ⟨0, 0, 0⟩, .advance 1 ⟨0, 0, 0⟩, .advance 1 ⟨0, 0, 0⟩, .advance 1 ⟨0, 0, 0⟩,
        .advance 2 ⟨0, 0, 0⟩, .advance 1 ⟨271828, 314159, 141421⟩, .advance 2 ⟨0, 0, 0⟩,
        .advance 2 ⟨0, 0, 0⟩, .start (.reject 0 4 "Incomplete"), .advance 3 ⟨0, 0, 0⟩]).Decided :=
  membership_decision_final exOnboarding_decided (by decide +kernel)

/-- An approval has looked at the application and at the users; a rejection commits before its
transaction does. -/
def exRejectedFirst : OnboardingDesk :=
  exOnboarding.afterCalls
    [.start (.approve 0 2 ⟨none, none⟩), .advance 0 ⟨0, 0, 0⟩, .advance 0 ⟨0, 0, 0⟩,
      .advance 0 ⟨0, 0, 0⟩, .advance 0 ⟨0, 0, 0⟩, .start (.reject 0 4 "Incomplete"),
      .advance 1 ⟨0, 0, 0⟩, .advance 1 ⟨0, 0, 0⟩, .advance 0 ⟨271828, 314159, 141421⟩]

/-- The same calls; the rejection looks at the application before the approval commits. -/
def exRejectedLast : OnboardingDesk :=
  exOnboarding.afterCalls
    [.start (.approve 0 2 ⟨none, none⟩), .advance 0 ⟨0, 0, 0⟩, .advance 0 ⟨0, 0, 0⟩,
      .advance 0 ⟨0, 0, 0⟩, .advance 0 ⟨0, 0, 0⟩, .start (.reject 0 4 "Incomplete"),
      .advance 1 ⟨0, 0, 0⟩, .advance 0 ⟨271828, 314159, 141421⟩, .advance 1 ⟨0, 0, 0⟩]

theorem decision_overwritten :
    (exRejectedFirst.applications.map (·.history) = [[.submitted, .rejected, .approved]] ∧
      exRejectedFirst.members.map (·.memberApplicationId) = [some 0] ∧
      ¬ exRejectedFirst.Decided) ∧
    exRejectedLast.applications.map (·.history) = [[.submitted, .approved, .rejected]] ∧
      exRejectedLast.members.map (·.memberApplicationId) = [some 0] ∧ ¬ exRejectedLast.Decided := by
  have hfirst : exRejectedFirst.applications.map (·.history) =
      [[.submitted, .rejected, .approved]] := by decide +kernel
  have hlast : exRejectedLast.applications.map (·.history) =
      [[.submitted, .approved, .rejected]] := by decide +kernel
  refine ⟨⟨hfirst, by decide +kernel, fun h => ?_⟩, hlast, by decide +kernel, fun h => ?_⟩
  · obtain ⟨app, hmem, hhistory⟩ := List.map_eq_singleton_iff.mp hfirst
    have hfinal := h.final app (by rw [hmem]; exact List.mem_cons_self)
    rw [hhistory] at hfinal
    exact absurd hfinal (by decide)
  · obtain ⟨app, hmem, hhistory⟩ := List.map_eq_singleton_iff.mp hlast
    have hfinal := h.final app (by rw [hmem]; exact List.mem_cons_self)
    rw [hhistory] at hfinal
    exact absurd hfinal (by decide)

end BebaSacco
