import BebaSacco.Users
import BebaSacco.Lib.Process
import BebaSacco.Lib.Table

/-! # Administration of users

An administrator creates users, changes their rows and statuses, and hands out passwords and PINs; a
nightly job deletes accounts that nobody has approved. A call reads the row, decides for itself what
it checks, and writes by id; the statements of all calls interleave.

Results:
 1. `check_managed`: what a call that checks the hierarchy has checked.
 2. `admin_does`: what one statement changes.
 3. `users_administered`: every change is within the hierarchy and along the transitions, and only
    accounts that wait are deleted, when no write meets a row that has left its call behind.
 4. `administration_escapes`: a manager suspends an administrator, two decisions overlap, and the
    job deletes an account that was approved.
-/

namespace BebaSacco

open Txn Process

/-! ## 1. The tables and the calls -/

structure AdminUser where
  email : String
  firstName : String
  lastName : String
  phone : Option String
  role : UserRole
  accountStatus : AccountStatus
  passwordHash : String
  tempPasswordEncrypted : Option String
  tempPasswordExpiresAt : Option Int
  mustChangePassword : Bool
  phoneVerified : Bool
  pinLoginRequired : Bool
  twoFactorEnabled : Bool
  totpSecret : Option String
  backupCodes : List String
  refreshToken : Option String
  lastPasswordChangeAt : Int
  createdAt : Int
  createdById : Option Nat
  approvedById : Option Nat
  approvedAt : Option Int
  approvalReason : Option String
  deriving DecidableEq, Repr

structure PinVerification where
  userId : Nat
  codeHash : String
  isActive : Bool
  deriving DecidableEq, Repr

structure Actor where
  id : Nat
  role : UserRole
  deriving DecidableEq, Repr

/-- A change of a user's row or credentials, by an actor or by the nightly job: the row before, if it
was there, and after. -/
structure UserChange where
  actor : Option Actor
  before : Option AdminUser
  after : Option AdminUser
  deriving DecidableEq, Repr

/-- The users of a tenant (`none` for one that was deleted), their PINs, the tenant's policy, and the
changes in their order, which the code does not keep. -/
structure AdminDesk where
  users : List (Option AdminUser)
  pins : List PinVerification
  require2FA : Bool
  changes : List UserChange
  deriving DecidableEq, Repr

structure CreateUserDto where
  email : String
  firstName : String
  lastName : String
  phone : Option String
  role : UserRole
  deriving DecidableEq, Repr

structure UpdateUserDto where
  firstName : Option String
  lastName : Option String
  phone : Option String
  role : Option UserRole
  deriving DecidableEq, Repr

/-- What the Redis key of a status change answers. -/
inductive IdempotencyAnswer where
  | reserved
  | completed
  | processing
  deriving DecidableEq, Repr

/-- What a statement takes from outside: the time, the rate limit, the answer of the idempotency
store, and the secrets that were made for it. -/
structure AdminInput where
  now : Int
  withinRateLimit : Bool
  idempotency : IdempotencyAnswer
  passwordHash : String
  encryptedPayload : String
  codeHash : String
  deriving DecidableEq, Repr

/-- A call about the user `id`. -/
inductive UserCall where
  | update (dto : UpdateUserDto)
  | updateStatus (status : AccountStatus) (reason : Option String)
  | deactivate
  | forcePasswordReset
  | revealPin
  | resendPin
  | generateTemporaryPassword
  | revealTemporaryPassword
  | disableUser2fa
  deriving DecidableEq, Repr

inductive AdminCall where
  | create (actor : Actor) (dto : CreateUserDto)
  | user (actor : Actor) (id : Nat) (call : UserCall)
  | cleanupStalePendingAccounts
  deriving DecidableEq, Repr

/-- The next statement of a call; `target` is the row as it was read. -/
inductive AdminPoint where
  | findEmail (actor : Actor) (dto : CreateUserDto)
  | createUser (actor : Actor) (dto : CreateUserDto)
  | findTarget (actor : Actor) (id : Nat) (call : UserCall)
  | findTenant (actor : Actor) (id : Nat) (target : AdminUser)
  | updateUser (actor : Actor) (id : Nat) (call : UserCall) (target : AdminUser)
  | findPhone (actor : Actor) (id : Nat) (target : AdminUser)
  | invalidateActivePins (actor : Actor) (id : Nat) (target : AdminUser)
  | createPin (actor : Actor) (id : Nat) (target : AdminUser)
  | findStale
  | deleteStale (found : List (Nat × AdminUser))
  deriving DecidableEq, Repr

def UserRole.name : UserRole → String
  | .superAdmin => "SUPER_ADMIN"
  | .tenantAdmin => "TENANT_ADMIN"
  | .manager => "MANAGER"
  | .teller => "TELLER"
  | .member => "MEMBER"
  | .auditor => "AUDITOR"
  | .loanOfficer => "LOAN_OFFICER"
  | .chairman => "CHAIRMAN"
  | .accountant => "ACCOUNTANT"
  | .system => "SYSTEM"

def AccountStatus.name : AccountStatus → String
  | .pending => "PENDING"
  | .active => "ACTIVE"
  | .rejected => "REJECTED"
  | .suspended => "SUSPENDED"

/-- The roles of a call's route; `SUPER_ADMIN` may use all of them. -/
def UserCall.roles : UserCall → List UserRole
  | .revealPin | .revealTemporaryPassword | .disableUser2fa => [.tenantAdmin]
  | _ => [.tenantAdmin, .manager]

def canActivate (roles : List UserRole) (actor : Actor) : Bool :=
  actor.role == .superAdmin || roles.contains actor.role

def AccountStatus.validTransitions : AccountStatus → List AccountStatus
  | .pending => [.active, .rejected]
  | .active => [.suspended]
  | .rejected => []
  | .suspended => [.active]

def TEMP_PASSWORD_TTL_MS : Int := 24 * 60 * 60 * 1000

def STALE_ACCOUNT_MS : Int := 30 * 24 * 60 * 60 * 1000

/-! ## 2. What the calls check and write -/

/-- The refusal of a call whose actor may not manage the target. -/
def UserCall.cannot (actor target : UserRole) : UserCall → String
  | .update _ => s!"{actor.name} cannot modify a {target.name} account"
  | .deactivate => s!"{actor.name} cannot deactivate a {target.name} account"
  | .forcePasswordReset => s!"{actor.name} cannot force a password reset for a {target.name} account"
  | .revealPin => s!"{actor.name} cannot reveal a PIN for a {target.name} account"
  | .resendPin => s!"{actor.name} cannot resend a PIN for a {target.name} account"
  | .generateTemporaryPassword =>
    s!"{actor.name} cannot generate a temporary password for a {target.name} account"
  | .revealTemporaryPassword =>
    s!"{actor.name} cannot reveal a temporary password for a {target.name} account"
  -- these two do not look at the hierarchy
  | .updateStatus _ _ | .disableUser2fa => ""

/-- The hierarchy, as most calls check it. -/
def UserCall.manages (call : UserCall) (actor : Actor) (target : AdminUser) : Except AuthErr Unit :=
  if canManageRole actor.role target.role then return ()
  else throw (.forbidden (call.cannot actor.role target.role))

def failUnless (condition : Bool) (err : AuthErr) : Except AuthErr Unit :=
  if condition then return () else throw err

/-- What a call checks of the row it has read, and the statement that follows. -/
def UserCall.check (call : UserCall) (actor : Actor) (id : Nat) (target : AdminUser)
    (input : AdminInput) : Except AuthErr (Option AdminPoint) :=
  match call with
  | .update dto => do
    failUnless (dto.role != some .superAdmin)
      (.forbidden "SUPER_ADMIN cannot be assigned via this endpoint")
    call.manages actor target
    failUnless (dto.role.all (canManageRole actor.role))
      (.forbidden s!"{actor.role.name} cannot assign role {(dto.role.getD .member).name}")
    return some (.updateUser actor id call target)
  | .updateStatus status _ => do
    failUnless (target.accountStatus.validTransitions.contains status)
      (.badRequest (s!"Invalid status transition: {target.accountStatus.name} → {status.name}. " ++
        "Allowed: [" ++
        ", ".intercalate (target.accountStatus.validTransitions.map AccountStatus.name) ++ "]"))
    match input.idempotency with
    | .reserved => return some (.updateUser actor id call target)
    | .completed => return none
    | .processing => throw (.badRequest "Request is already being processed")
  | .deactivate => do
    failUnless (target.accountStatus == .active) (.badRequest "User is not active")
    failUnless (id != actor.id) (.forbidden "Cannot deactivate your own account")
    call.manages actor target
    return some (.updateUser actor id call target)
  | .forcePasswordReset => do
    failUnless (id != actor.id)
      (.forbidden ("Cannot force-reset your own password via this endpoint — " ++
        "use PATCH /auth/change-password"))
    call.manages actor target
    return some (.updateUser actor id call target)
  | .generateTemporaryPassword => do
    failUnless (id != actor.id)
      (.forbidden ("Cannot generate a temporary password for your own account. " ++
        "Use PATCH /auth/change-password."))
    call.manages actor target
    return some (.updateUser actor id call target)
  | .revealTemporaryPassword => do
    failUnless target.tempPasswordEncrypted.isSome
      (.badRequest ("This user has already set their own password. " ++
        "No temporary password is available to reveal."))
    failUnless (target.tempPasswordExpiresAt.all (input.now < ·))
      (.badRequest ("This temporary password has expired. " ++
        "Generate a new temporary password for this user."))
    call.manages actor target
    failUnless input.withinRateLimit
      (.tooManyRequests "Too many PIN requests. Please try again later.")
    return none
  | .revealPin | .resendPin => do
    failUnless target.pinLoginRequired
      (.badRequest ("User has already completed PIN onboarding. " ++
        "Use force-password-reset instead."))
    call.manages actor target
    failUnless input.withinRateLimit
      (.tooManyRequests "Too many PIN requests. Please try again later.")
    return some (.findPhone actor id target)
  | .disableUser2fa => return some (.findTenant actor id target)

/-- The row that the update of a call writes. -/
def UserCall.apply (actor : Actor) (input : AdminInput) (call : UserCall) (u : AdminUser) : AdminUser :=
  match call with
  | .update dto =>
    { u with
      firstName := dto.firstName.getD u.firstName
      lastName := dto.lastName.getD u.lastName
      phone := dto.phone.or u.phone
      role := dto.role.getD u.role }
  | .updateStatus status reason =>
    { u with
      accountStatus := status
      approvedById := some actor.id
      approvedAt := some input.now
      approvalReason := reason }
  | .deactivate => { u with accountStatus := .suspended, refreshToken := none }
  | .forcePasswordReset =>
    { u with mustChangePassword := true, lastPasswordChangeAt := input.now, refreshToken := none }
  | .generateTemporaryPassword =>
    { u with
      passwordHash := input.passwordHash
      tempPasswordEncrypted := some input.encryptedPayload
      tempPasswordExpiresAt := some (input.now + TEMP_PASSWORD_TTL_MS)
      mustChangePassword := true
      phoneVerified := true
      lastPasswordChangeAt := input.now
      refreshToken := none }
  | .disableUser2fa =>
    { u with twoFactorEnabled := false, totpSecret := none, backupCodes := [] }
  | .revealPin | .resendPin | .revealTemporaryPassword => u

/-- The row that `create` writes. -/
def CreateUserDto.row (dto : CreateUserDto) (actor : Actor) (input : AdminInput) : AdminUser where
  email := dto.email.toLower
  firstName := dto.firstName
  lastName := dto.lastName
  phone := dto.phone
  role := dto.role
  accountStatus := .active
  passwordHash := input.passwordHash
  tempPasswordEncrypted := some input.encryptedPayload
  tempPasswordExpiresAt := some (input.now + TEMP_PASSWORD_TTL_MS)
  mustChangePassword := true
  phoneVerified := true
  pinLoginRequired := false
  twoFactorEnabled := false
  totpSecret := none
  backupCodes := []
  refreshToken := none
  lastPasswordChangeAt := input.now
  createdAt := input.now
  createdById := some actor.id
  approvedById := none
  approvedAt := none
  approvalReason := none

/-- What `create` checks before its first statement. -/
def CreateUserDto.check (dto : CreateUserDto) (actor : Actor) : Except AuthErr Unit := do
  failUnless (dto.role != .superAdmin)
    (.forbidden "SUPER_ADMIN cannot be assigned via this endpoint")
  failUnless (dto.role != .member && dto.role != .chairman)
    (.badRequest ("Members and Chairmen must be created via the Members Management flow, " ++
      "not the Staff Users endpoint."))
  failUnless (canCreateUserWithRole actor.role dto.role)
    (.forbidden s!"{actor.role.name} cannot create accounts with role {dto.role.name}")

/-! ## 3. The statements -/

def AdminDesk.user (desk : AdminDesk) (id : Nat) : Option AdminUser := desk.users[id]?.join

def AdminDesk.log (desk : AdminDesk) (actor : Option Actor) (before after : Option AdminUser) :
    AdminDesk :=
  { desk with changes := desk.changes ++ [⟨actor, before, after⟩] }

/-- The row of a user is written. -/
def AdminDesk.write (desk : AdminDesk) (actor : Actor) (id : Nat) (u u' : AdminUser) : AdminDesk :=
  { desk with users := desk.users.set id (some u') }.log (some actor) (some u) (some u')

/-- The PINs of a user are written. -/
def AdminDesk.writePins (desk : AdminDesk) (actor : Actor) (u : AdminUser)
    (pins : List PinVerification) : AdminDesk :=
  { desk with pins }.log (some actor) (some u) (some u)

/-- The accounts that the job has found; those of them that are still there go. -/
def AdminDesk.deleteMany (desk : AdminDesk) : List Nat → AdminDesk
  | [] => desk
  | id :: ids =>
    match desk.user id with
    | none => desk.deleteMany ids
    | some u => ({ desk with users := desk.users.set id none }.log none (some u) none).deleteMany ids

/-- Accounts that nobody has approved for thirty days. -/
def AdminUser.stale (now : Int) (u : AdminUser) : Bool :=
  u.accountStatus == .pending && u.createdAt < now - STALE_ACCOUNT_MS

def AdminDesk.staleUsers (desk : AdminDesk) (now : Int) : List (Nat × AdminUser) :=
  (Table.selectRows (fun (o : Option AdminUser) => o.any (·.stale now)) desk.users).filterMap
    fun row => row.2.map (row.1, ·)

def AdminPoint.statement (input : AdminInput) :
    AdminPoint → Txn AdminDesk AuthErr (Option AdminPoint)
  | .findEmail actor dto => do
    ensure (canActivate [.tenantAdmin, .manager] actor = true)
      (.forbidden s!"Access denied. Your role: {actor.role.name}")
    fromExcept (dto.check actor)
    let desk ← get
    ensure (desk.users.all (fun o => o.all (·.email != dto.email.toLower)) = true)
      (.conflict "Email already registered")
    return some (.createUser actor dto)
  | .createUser actor dto => do
    let desk ← get
    ensure (desk.users.all (fun o => o.all (·.email != dto.email.toLower)) = true)
      (.conflict "Unique constraint failed on the fields: (tenantId, email)")
    modify fun desk =>
      { desk with users := desk.users ++ [some (dto.row actor input)] }.log (some actor) none
        (some (dto.row actor input))
    return none
  | .findTarget actor id call => do
    ensure (canActivate call.roles actor = true)
      (.forbidden s!"Access denied. Your role: {actor.role.name}")
    let desk ← get
    let target ← required (desk.user id) (.notFound "User not found")
    fromExcept (call.check actor id target input)
  | .findTenant actor id target => do
    let desk ← get
    ensure (desk.require2FA = false)
      (.forbidden "Tenant policy requires 2FA. You cannot disable it.")
    return some (.updateUser actor id .disableUser2fa target)
  | .updateUser actor id call _ => do
    let desk ← get
    let u ← required (desk.user id) (.notFound "Record to update not found.")
    modify (·.write actor id u (call.apply actor input u))
    return none
  | .findPhone actor id target => do
    let desk ← get
    let u ← required (desk.user id) (.notFound "No User found")
    ensure (u.phone.isSome = true) (.badRequest s!"Cannot issue PIN — no phone number on file")
    return some (.invalidateActivePins actor id target)
  | .invalidateActivePins actor id target => do
    modify fun desk =>
      match desk.user id with
      | none => desk
      | some u =>
        desk.writePins actor u
          (desk.pins.map fun p => if p.userId = id then { p with isActive := false } else p)
    return some (.createPin actor id target)
  | .createPin actor id _ => do
    let desk ← get
    let u ← required (desk.user id) (.notFound "Foreign key constraint violated: userId")
    modify fun desk => desk.writePins actor u (desk.pins ++ [⟨id, input.codeHash, true⟩])
    return none
  | .findStale => do
    let desk ← get
    let found := desk.staleUsers input.now
    return if found.isEmpty then none else some (.deleteStale found)
  | .deleteStale found => do
    modify (·.deleteMany (found.map Prod.fst))
    return none

def AdminCall.entry : AdminCall → AdminPoint
  | .create actor dto => .findEmail actor dto
  | .user actor id call => .findTarget actor id call
  | .cleanupStalePendingAccounts => .findStale

def administration : Program AdminDesk AuthErr AdminCall AdminInput AdminPoint where
  entry := AdminCall.entry
  next t input := t.statement input

abbrev AdminWorld := World AdminDesk AdminPoint

abbrev AdminEvent := Event AdminCall AdminInput

/-- The desk after the events, with no call under way at their start. -/
def AdminDesk.afterCalls (desk : AdminDesk) (events : List AdminEvent) : AdminDesk :=
  (Machine.run administration.step ⟨desk, []⟩ events).state

/-! ## 4. Steps in good order -/

/-- The two calls that do not look at the hierarchy. -/
def UserCall.unchecked : UserCall → Bool
  | .updateStatus _ _ | .disableUser2fa => true
  | _ => false

/-- The status that a call writes. -/
def UserCall.status : UserCall → Option AccountStatus
  | .updateStatus status _ => some status
  | .deactivate => some .suspended
  | _ => none

/-- The row has the role that the call read, or one that the actor may manage too. -/
def AdminUser.stillManaged (u target : AdminUser) (actor : Actor) : Bool :=
  u.role == target.role || canManageRole actor.role u.role

/-- The row has the status that the call read, or one that may become the status it writes. -/
def AdminUser.stillMoves (u target : AdminUser) (call : UserCall) : Bool :=
  call.status.all fun status =>
    u.accountStatus == target.accountStatus || u.accountStatus == status ||
      u.accountStatus.validTransitions.contains status

/-- A write does not meet a row that has left its call behind; a call that does not look at the
hierarchy is within it all the same. -/
def AdminPoint.inOrder (desk : AdminDesk) : AdminPoint → Bool
  | .updateUser actor id call target =>
    (desk.user id).all fun u =>
      (if call.unchecked then canManageRole actor.role u.role else u.stillManaged target actor) &&
        u.stillMoves target call
  | .invalidateActivePins actor id target | .createPin actor id target =>
    (desk.user id).all fun u => u.stillManaged target actor
  | .deleteStale found =>
    found.all fun row => (desk.user row.1).all (·.accountStatus == row.2.accountStatus)
  | _ => true

def AdminWorld.orderly (w : AdminWorld) : AdminEvent → Bool
  | .advance i _ => (w.task i).all (·.inOrder w.state)
  | _ => true

/-! ## 5. What a statement does -/

/-- What the calls under way have checked of the rows they have read. -/
def AdminPoint.Checked : AdminPoint → Prop
  | .createUser actor dto => canManageRole actor.role dto.role = true
  | .updateUser actor _ call target =>
    (call.unchecked = false → canManageRole actor.role target.role = true) ∧
      (∀ dto, call = .update dto → dto.role.all (canManageRole actor.role) = true) ∧
      (∀ status, call.status = some status →
        target.accountStatus.validTransitions.contains status = true)
  | .findPhone actor _ target | .invalidateActivePins actor _ target | .createPin actor _ target =>
    canManageRole actor.role target.role = true
  | .deleteStale found => ∀ row ∈ found, row.2.accountStatus = .pending
  | _ => True

/-- What a statement changes: nothing, a new user, a row, the PINs of a user, or the accounts that
the job deletes. -/
inductive AdminDoes (t : AdminPoint) (desk : AdminDesk) : AdminDesk → Prop where
  | nothing : AdminDoes t desk desk
  | creates {actor : Actor} {dto : CreateUserDto} {u : AdminUser}
      (hpoint : t = .createUser actor dto) (hrole : u.role = dto.role) :
      AdminDoes t desk ({ desk with users := desk.users ++ [some u] }.log (some actor) none (some u))
  | updates {actor : Actor} {id : Nat} {call : UserCall} {target u : AdminUser} {input : AdminInput}
      (hpoint : t = .updateUser actor id call target) (hrow : desk.user id = some u) :
      AdminDoes t desk (desk.write actor id u (call.apply actor input u))
  | pins {actor : Actor} {id : Nat} {target u : AdminUser} {pins : List PinVerification}
      (hpoint : t = .invalidateActivePins actor id target ∨ t = .createPin actor id target)
      (hrow : desk.user id = some u) : AdminDoes t desk (desk.writePins actor u pins)
  | deletes {found : List (Nat × AdminUser)} (hpoint : t = .deleteStale found) :
      AdminDoes t desk (desk.deleteMany (found.map Prod.fst))

namespace AdminLemmas

variable {desk desk' : AdminDesk} {t : AdminPoint} {t' : Option AdminPoint} {input : AdminInput}

theorem failUnless_ok {condition : Bool} {err : AuthErr} {u : Unit}
    (h : failUnless condition err = .ok u) : condition = true := by
  cases condition with
  | true => rfl
  | false => cases h

theorem manages_ok {call : UserCall} {actor : Actor} {target : AdminUser} {u : Unit}
    (h : call.manages actor target = .ok u) : canManageRole actor.role target.role = true := by
  unfold UserCall.manages at h
  split at h
  · next hmanages => exact hmanages
  · cases h

theorem except_bind_ok {ε α β : Type} {x : Except ε α} {f : α → Except ε β} {b : β}
    (h : (x >>= f) = .ok b) : ∃ a, x = .ok a ∧ f a = .ok b := by
  cases x with
  | error _ => cases h
  | ok a => exact ⟨a, rfl, h⟩

theorem dto_check_ok {dto : CreateUserDto} {actor : Actor} {u : Unit}
    (h : dto.check actor = .ok u) : canManageRole actor.role dto.role = true := by
  unfold CreateUserDto.check at h
  obtain ⟨_, -, h⟩ := except_bind_ok h
  obtain ⟨_, -, h⟩ := except_bind_ok h
  exact failUnless_ok h

theorem staleUsers_pending {now : Int} {row : Nat × AdminUser} (h : row ∈ desk.staleUsers now) :
    row.2.accountStatus = .pending := by
  obtain ⟨⟨id, o⟩, hrow, hmap⟩ := List.mem_filterMap.mp h
  obtain ⟨_, hstale⟩ := Table.mem_selectRows.mp hrow
  cases o with
  | none => cases hmap
  | some u =>
    cases hmap
    exact beq_iff_eq.mp (Bool.and_eq_true_iff.mp hstale).1

/-- A call goes on to a statement for which it has checked enough. -/
theorem check_managed {call : UserCall} {actor : Actor} {id : Nat} {target : AdminUser}
    {next : AdminPoint} (h : call.check actor id target input = .ok (some next)) : next.Checked := by
  cases call with
  | update dto =>
    obtain ⟨_, -, h⟩ := except_bind_ok h
    obtain ⟨_, hmanages, h⟩ := except_bind_ok h
    obtain ⟨_, hrole, h⟩ := except_bind_ok h
    cases h
    refine ⟨fun _ => manages_ok hmanages, fun dto' heq => ?_, fun _ hnone => (by cases hnone)⟩
    cases heq
    exact failUnless_ok hrole
  | updateStatus status reason =>
    obtain ⟨_, hvalid, h⟩ := except_bind_ok h
    cases hanswer : input.idempotency with
    | reserved =>
      rw [hanswer] at h
      cases h
      refine ⟨fun hchecked => (by cases hchecked), fun _ heq => (by cases heq), fun s hs => ?_⟩
      cases hs
      exact failUnless_ok hvalid
    | completed | processing =>
      rw [hanswer] at h
      cases h
  | deactivate =>
    obtain ⟨_, hactive, h⟩ := except_bind_ok h
    obtain ⟨_, -, h⟩ := except_bind_ok h
    obtain ⟨_, hmanages, h⟩ := except_bind_ok h
    cases h
    refine ⟨fun _ => manages_ok hmanages, fun _ heq => (by cases heq), fun s hs => ?_⟩
    cases hs
    rw [beq_iff_eq.mp (failUnless_ok hactive)]
    rfl
  | forcePasswordReset | generateTemporaryPassword =>
    obtain ⟨_, -, h⟩ := except_bind_ok h
    obtain ⟨_, hmanages, h⟩ := except_bind_ok h
    cases h
    exact ⟨fun _ => manages_ok hmanages, fun _ heq => (by cases heq), fun _ hs => (by cases hs)⟩
  | revealTemporaryPassword =>
    obtain ⟨_, -, h⟩ := except_bind_ok h
    obtain ⟨_, -, h⟩ := except_bind_ok h
    obtain ⟨_, -, h⟩ := except_bind_ok h
    obtain ⟨_, -, h⟩ := except_bind_ok h
    cases h
  | revealPin | resendPin =>
    obtain ⟨_, -, h⟩ := except_bind_ok h
    obtain ⟨_, hmanages, h⟩ := except_bind_ok h
    obtain ⟨_, -, h⟩ := except_bind_ok h
    cases h
    exact manages_ok hmanages
  | disableUser2fa =>
    cases h
    trivial

/-- What a statement changes, and that its call has checked enough to go on. -/
theorem admin_does (hchecked : t.Checked) (h : Yields (t.statement input) desk t' desk') :
    AdminDoes t desk desk' ∧ ∀ u, t' = some u → u.Checked := by
  cases t with
  | findEmail actor dto =>
    simp only [AdminPoint.statement, yields_bind, yields_ensure, yields_fromExcept, yields_get,
      yields_pure] at h
    obtain ⟨_, _, ⟨-, rfl⟩, _, _, ⟨hcheck, rfl⟩, _, _, ⟨rfl, rfl⟩, _, _, ⟨-, rfl⟩, rfl, rfl⟩ := h
    refine ⟨.nothing, fun u hu => ?_⟩
    cases hu
    exact dto_check_ok hcheck
  | createUser actor dto =>
    simp only [AdminPoint.statement, yields_bind, yields_ensure, yields_modify, yields_get,
      yields_pure] at h
    obtain ⟨_, _, ⟨rfl, rfl⟩, _, _, ⟨-, rfl⟩, _, _, rfl, rfl, rfl⟩ := h
    exact ⟨.creates rfl rfl, fun u hu => (by cases hu)⟩
  | findTarget actor id call =>
    simp only [AdminPoint.statement, yields_bind, yields_ensure, yields_fromExcept, yields_get,
      yields_required] at h
    obtain ⟨_, _, ⟨-, rfl⟩, _, _, ⟨rfl, rfl⟩, target, _, ⟨-, rfl⟩, hcheck, rfl⟩ := h
    refine ⟨.nothing, fun u hu => ?_⟩
    subst hu
    exact check_managed hcheck
  | findTenant actor id target =>
    simp only [AdminPoint.statement, yields_bind, yields_ensure, yields_get, yields_pure] at h
    obtain ⟨_, _, ⟨rfl, rfl⟩, _, _, ⟨-, rfl⟩, rfl, rfl⟩ := h
    refine ⟨.nothing, fun u hu => ?_⟩
    cases hu
    exact ⟨fun hno => (by cases hno), fun _ heq => (by cases heq), fun _ hs => (by cases hs)⟩
  | updateUser actor id call target =>
    simp only [AdminPoint.statement, yields_bind, yields_required, yields_modify, yields_get,
      yields_pure] at h
    obtain ⟨_, _, ⟨rfl, rfl⟩, u, _, ⟨hrow, rfl⟩, _, _, rfl, rfl, rfl⟩ := h
    exact ⟨.updates rfl hrow, fun u hu => (by cases hu)⟩
  | findPhone actor id target =>
    simp only [AdminPoint.statement, yields_bind, yields_required, yields_ensure, yields_get,
      yields_pure] at h
    obtain ⟨_, _, ⟨rfl, rfl⟩, _, _, ⟨-, rfl⟩, _, _, ⟨-, rfl⟩, rfl, rfl⟩ := h
    refine ⟨.nothing, fun u hu => ?_⟩
    cases hu
    exact hchecked
  | invalidateActivePins actor id target =>
    simp only [AdminPoint.statement, yields_bind, yields_modify, yields_pure] at h
    obtain ⟨_, _, rfl, rfl, rfl⟩ := h
    refine ⟨?_, fun u hu => (by cases hu; exact hchecked)⟩
    cases hrow : desk.user id with
    | none => exact .nothing
    | some u => exact .pins (.inl rfl) hrow
  | createPin actor id target =>
    simp only [AdminPoint.statement, yields_bind, yields_required, yields_modify, yields_get,
      yields_pure] at h
    obtain ⟨_, _, ⟨rfl, rfl⟩, u, _, ⟨hrow, rfl⟩, _, _, rfl, rfl, rfl⟩ := h
    exact ⟨.pins (.inr rfl) hrow, fun u hu => (by cases hu)⟩
  | findStale =>
    simp only [AdminPoint.statement, yields_bind, yields_get, yields_pure] at h
    obtain ⟨_, _, ⟨rfl, rfl⟩, rfl, rfl⟩ := h
    refine ⟨.nothing, fun u hu => ?_⟩
    split at hu
    · cases hu
    · cases hu
      exact fun _ => staleUsers_pending
  | deleteStale found =>
    simp only [AdminPoint.statement, yields_bind, yields_modify, yields_pure] at h
    obtain ⟨_, _, rfl, rfl, rfl⟩ := h
    exact ⟨.deletes rfl, fun u hu => (by cases hu)⟩

/-! ## 6. Runs -/

theorem apply_role {actor : Actor} (call : UserCall) (u : AdminUser) :
    (call.apply actor input u).role = u.role ∨
      ∃ dto, call = .update dto ∧ dto.role = some (call.apply actor input u).role := by
  cases call with
  | update dto =>
    cases hrole : dto.role with
    | none => exact .inl (congrArg (·.getD u.role) hrole)
    | some role =>
      exact .inr ⟨dto, rfl, hrole.trans (congrArg (fun o => some (o.getD u.role)) hrole.symm)⟩
  | _ => exact .inl rfl

theorem apply_status {actor : Actor} (call : UserCall) (u : AdminUser) :
    (call.apply actor input u).accountStatus = call.status.getD u.accountStatus := by
  cases call with
  | _ => rfl

end AdminLemmas

/-- A change is within the hierarchy, before and after; it leaves the administrators to
administrators, moves the status along the transitions, and deletes only an account that waits. -/
structure UserChange.Administered (c : UserChange) : Prop where
  managed : ∀ actor, c.actor = some actor → ∀ u, c.before = some u ∨ c.after = some u →
    canManageRole actor.role u.role = true
  administrators : ∀ actor, c.actor = some actor → actor.role.administers = false →
    ∀ u, c.before = some u ∨ c.after = some u → u.role.administers = false
  transitions : ∀ u u', c.before = some u → c.after = some u' →
    u'.accountStatus = u.accountStatus ∨
      u.accountStatus.validTransitions.contains u'.accountStatus = true
  deletions : ∀ u, c.before = some u → c.after = none → u.accountStatus = .pending

def AdminDesk.Administered (desk : AdminDesk) : Prop := ∀ c ∈ desk.changes, c.Administered

namespace AdminLemmas

section runs

variable {desk : AdminDesk} {actor : Actor} {input : AdminInput}

/-- A change by an actor who may manage the row before and after. -/
theorem administered_of {before after : Option AdminUser}
    (hmanaged : ∀ u, before = some u ∨ after = some u → canManageRole actor.role u.role = true)
    (htransitions : ∀ u u', before = some u → after = some u' →
      u'.accountStatus = u.accountStatus ∨
        u.accountStatus.validTransitions.contains u'.accountStatus = true)
    (hafter : after ≠ none) : UserChange.Administered ⟨some actor, before, after⟩ := by
  refine ⟨fun a ha u hu => ?_, fun a ha hbelow u hu => ?_, htransitions,
    fun _ _ hnone => absurd hnone hafter⟩
  · cases ha
    exact hmanaged u hu
  · cases ha
    rw [Bool.eq_false_iff]
    intro hadmin
    cases hbelow.symm.trans (manages_below_admin (hmanaged u hu) hadmin)

theorem administered_log {c : UserChange} {users : List (Option AdminUser)}
    {pins : List PinVerification} (h : desk.Administered) (hc : c.Administered) :
    ({ desk with users, pins }.log c.actor c.before c.after).Administered := by
  intro c' hc'
  rcases List.mem_append.mp hc' with hold | hnew
  · exact h c' hold
  · rw [List.mem_singleton.mp hnew]
    exact hc

theorem stillManaged_manages {u target : AdminUser} (hstill : u.stillManaged target actor = true)
    (htarget : canManageRole actor.role target.role = true) :
    canManageRole actor.role u.role = true := by
  rcases Bool.or_eq_true_iff.mp hstill with hsame | hmanages
  · rw [beq_iff_eq.mp hsame]
    exact htarget
  · exact hmanages

theorem administered_write {id : Nat} {call : UserCall} {target u : AdminUser}
    (hchecked : (AdminPoint.updateUser actor id call target).Checked) (hrow : desk.user id = some u)
    (horder : (AdminPoint.updateUser actor id call target).inOrder desk = true) :
    UserChange.Administered ⟨some actor, some u, some (call.apply actor input u)⟩ := by
  obtain ⟨htarget, hassigned, hmoves⟩ := hchecked
  dsimp only [AdminPoint.inOrder] at horder
  rw [hrow] at horder
  obtain ⟨hmanaged, hstill⟩ := Bool.and_eq_true_iff.mp horder
  have hbefore : canManageRole actor.role u.role = true := by
    split at hmanaged
    · exact hmanaged
    · next hlooks => exact stillManaged_manages hmanaged (htarget (Bool.eq_false_iff.mpr hlooks))
  refine administered_of (fun v hv => ?_) (fun v v' hv hv' => ?_) (fun hnone => (by cases hnone))
  · rcases hv with hv | hv
    · cases hv
      exact hbefore
    · cases hv
      rcases apply_role call u with hsame | ⟨dto, hcall, hrole⟩
      · rw [hsame]
        exact hbefore
      · have hall := hassigned dto hcall
        rw [hrole] at hall
        exact hall
  · cases hv
    cases hv'
    rw [apply_status]
    cases hstatus : call.status with
    | none => exact .inl rfl
    | some status =>
      unfold AdminUser.stillMoves at hstill
      rw [hstatus] at hstill
      rcases Bool.or_eq_true_iff.mp hstill with hstill | hvalid
      · rcases Bool.or_eq_true_iff.mp hstill with hread | hthere
        · rw [beq_iff_eq.mp hread]
          exact .inr (hmoves status hstatus)
        · exact .inl (beq_iff_eq.mp hthere).symm
      · exact .inr hvalid

/-- The job deletes accounts that have the status it found, one by one. -/
theorem administered_deleteMany {found : List (Nat × AdminUser)} (h : desk.Administered)
    (hchecked : (AdminPoint.deleteStale found).Checked)
    (horder : (AdminPoint.deleteStale found).inOrder desk = true) :
    (desk.deleteMany (found.map Prod.fst)).Administered := by
  induction found generalizing desk with
  | nil => exact h
  | cons row found ih =>
    have hrest : (AdminPoint.deleteStale found).Checked := fun r hr =>
      hchecked r (List.mem_cons_of_mem row hr)
    dsimp only [AdminPoint.inOrder] at horder
    rw [List.all_cons, Bool.and_eq_true] at horder
    rw [List.map_cons, AdminDesk.deleteMany]
    split
    · exact ih h hrest horder.2
    · next u hrow =>
      rw [hrow] at horder
      refine ih (administered_log (c := ⟨none, some u, none⟩) h ?_) hrest ?_
      · refine ⟨fun _ ha => (by cases ha), fun _ ha => (by cases ha),
          fun _ _ _ hafter => (by cases hafter), fun v hv _ => ?_⟩
        cases hv
        exact (beq_iff_eq.mp horder.1).trans (hchecked row List.mem_cons_self)
      · refine List.all_eq_true.mpr fun other hother => ?_
        have hold := List.all_eq_true.mp horder.2 other hother
        unfold AdminDesk.user AdminDesk.log
        rw [List.getElem?_set]
        split
        · split
          · rfl
          · rfl
        · exact hold

end runs

theorem administered_step {w : AdminWorld} {e : AdminEvent}
    (h : Upheld AdminDesk.Administered (fun _ t => t.Checked) w)
    (hguard : AdminWorld.orderly w e = true) :
    Upheld AdminDesk.Administered (fun _ t => t.Checked) (administration.step w e) := by
  refine upheld_step h (fun a _ => ?_) fun i input t t' s' he hat hy => ?_
  · cases a with
    | create actor dto => trivial
    | user actor id call => trivial
    | cleanupStalePendingAccounts => trivial
  · have hchecked := h.tasks i t hat
    have horder : t.inOrder w.state = true := by
      subst he
      dsimp only [AdminWorld.orderly] at hguard
      rw [task_some.mpr hat] at hguard
      exact hguard
    -- the actor was checked when the call began, and the guard keeps the role of the row until it
    -- is written
    obtain ⟨hdoes, hnext⟩ := admin_does hchecked hy
    refine ⟨?_, hnext, fun _ _ _ _ hu => hu⟩
    cases hdoes with
    | nothing => exact h.state
    | @creates actor dto u hpoint hrole =>
      subst hpoint
      refine administered_log (c := ⟨some actor, none, some u⟩) h.state (administered_of ?_ ?_ ?_)
      · intro v hv
        rcases hv with hv | hv
        · cases hv
        · cases hv
          rw [hrole]
          exact hchecked
      · intro _ _ hnone
        cases hnone
      · intro hnone
        cases hnone
    | @updates actor id call target u input hpoint hrow =>
      subst hpoint
      exact administered_log (c := ⟨some actor, some u, some (call.apply actor input u)⟩) h.state
        (administered_write hchecked hrow horder)
    | @pins actor id target u pins hpoint hrow =>
      refine administered_log (c := ⟨some actor, some u, some u⟩) h.state (administered_of ?_ ?_ ?_)
      · have hmanages : canManageRole actor.role u.role = true := by
          rcases hpoint with rfl | rfl
          · dsimp only [AdminPoint.inOrder] at horder
            rw [hrow] at horder
            exact stillManaged_manages horder hchecked
          · dsimp only [AdminPoint.inOrder] at horder
            rw [hrow] at horder
            exact stillManaged_manages horder hchecked
        intro v hv
        rcases hv with hv | hv
        · cases hv
          exact hmanages
        · cases hv
          exact hmanages
      · intro v v' hv hv'
        cases hv
        cases hv'
        exact .inl rfl
      · intro hnone
        cases hnone
    | deletes hpoint =>
      subst hpoint
      exact administered_deleteMany h.state hchecked horder

end AdminLemmas

open AdminLemmas

/-- Every change of a user in a run is within the hierarchy, leaves the administrators to
administrators, moves the status along the transitions, and deletes only an account that waits. -/
theorem users_administered (desk : AdminDesk) (hopening : desk.changes = [])
    (events : List AdminEvent)
    (h : Machine.Guarded administration.step (fun w e => AdminWorld.orderly w e = true) ⟨desk, []⟩
      events) : (desk.afterCalls events).Administered := by
  refine (Machine.run_induct (I := Upheld AdminDesk.Administered fun _ t => t.Checked)
    (fun _ _ => administered_step) ⟨fun c hc => ?_, fun i t hat => ?_⟩ h).state
  · rw [hopening] at hc
    cases hc
  · cases hat

def exUser (email : String) (role : UserRole) (accountStatus : AccountStatus) : AdminUser where
  email := email
  firstName := "Amina"
  lastName := "Otieno"
  phone := some "254700000001"
  role := role
  accountStatus := accountStatus
  passwordHash := "argon2"
  tempPasswordEncrypted := none
  tempPasswordExpiresAt := none
  mustChangePassword := false
  phoneVerified := true
  pinLoginRequired := true
  twoFactorEnabled := false
  totpSecret := none
  backupCodes := []
  refreshToken := none
  lastPasswordChangeAt := 0
  createdAt := 0
  createdById := none
  approvedById := none
  approvedAt := none
  approvalReason := none

/-- A manager, an administrator, and a member that nobody has approved. -/
def exStaff : AdminDesk where
  users := [some (exUser "m@beba.ke" .manager .active), some (exUser "a@beba.ke" .tenantAdmin .active),
    some (exUser "o@beba.ke" .member .pending)]
  pins := []
  require2FA := false
  changes := []

def exManager : Actor := ⟨0, .manager⟩

/-- A statement of the thirty-first day. -/
def exTurn : AdminInput where
  now := 31 * 24 * 60 * 60 * 1000
  withinRateLimit := true
  idempotency := .reserved
  passwordHash := "argon2"
  encryptedPayload := "sealed"
  codeHash := "argon2"

/-- A manager approves the member and hands out a PIN, and the job finds nobody to delete. -/
def exApproved : List AdminEvent :=
  [.start (.user exManager 2 (.updateStatus .active none)), .advance 0 exTurn, .advance 0 exTurn,
    .start (.user exManager 2 .resendPin), .advance 1 exTurn, .advance 1 exTurn, .advance 1 exTurn,
    .advance 1 exTurn, .start .cleanupStalePendingAccounts, .advance 2 exTurn]

theorem users_administered_approved :
    (exStaff.afterCalls exApproved).changes.length = 3 ∧
      (exStaff.afterCalls exApproved).Administered :=
  ⟨by decide +kernel, users_administered exStaff rfl exApproved (by decide +kernel)⟩

/-- A manager suspends the administrator. -/
def exSuspended : List AdminEvent :=
  [.start (.user exManager 1 (.updateStatus .suspended none)), .advance 0 exTurn, .advance 0 exTurn]

/-- Two decisions on the member overlap: a rejection, and then an approval. -/
def exRevived : List AdminEvent :=
  [.start (.user exManager 2 (.updateStatus .rejected none)),
    .start (.user exManager 2 (.updateStatus .active none)),
    .advance 0 exTurn, .advance 1 exTurn, .advance 0 exTurn, .advance 1 exTurn]

/-- The member is approved after the job has found the account, and before it deletes it. -/
def exCleaned : List AdminEvent :=
  [.start .cleanupStalePendingAccounts, .advance 0 exTurn,
    .start (.user exManager 2 (.updateStatus .active none)), .advance 1 exTurn, .advance 1 exTurn,
    .advance 0 exTurn]

def exDecided (status : AccountStatus) : AdminUser :=
  (UserCall.updateStatus status none).apply exManager exTurn (exUser "o@beba.ke" .member .pending)

theorem administration_escapes :
    ¬ (exStaff.afterCalls exSuspended).Administered ∧ ¬ (exStaff.afterCalls exRevived).Administered ∧
      ¬ (exStaff.afterCalls exCleaned).Administered := by
  refine ⟨fun h => ?_, fun h => ?_, fun h => ?_⟩
  · have hchange : ⟨some exManager, some (exUser "a@beba.ke" .tenantAdmin .active),
        some ((UserCall.updateStatus .suspended none).apply exManager exTurn
          (exUser "a@beba.ke" .tenantAdmin .active))⟩ ∈ (exStaff.afterCalls exSuspended).changes := by
      decide +kernel
    exact absurd ((h _ hchange).managed _ rfl _ (.inl rfl)) (by decide)
  · have hchange : ⟨some exManager, some (exDecided .rejected),
        some ((UserCall.updateStatus .active none).apply exManager exTurn (exDecided .rejected))⟩ ∈
          (exStaff.afterCalls exRevived).changes := by
      decide +kernel
    exact absurd ((h _ hchange).transitions _ _ rfl rfl) (by decide)
  · have hchange : ⟨none, some (exDecided .active), none⟩ ∈ (exStaff.afterCalls exCleaned).changes := by
      decide +kernel
    exact absurd ((h _ hchange).deletions _ rfl rfl) (by decide)

end BebaSacco
