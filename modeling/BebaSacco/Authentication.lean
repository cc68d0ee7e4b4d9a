import BebaSacco.OneTimeCodes
import BebaSacco.Withdrawals
import Mathlib.Logic.Function.Basic

/-! # Authentication

Four calls end in a pair of an access and a refresh token: `login` asks for the password and, of a
user who has set it up, for a second factor; `verifyPin` for the PIN of a new account;
`verifyLoginOtp` for a code sent to the phone, which `resendLoginOtp` sends to anybody who asks; and
`refreshToken` for the last refresh token. The rest of the calls change passwords and set the second
factor up and off. A call is taken as one step, at its time.

`verify` of the library for the codes of authenticators answers with an object that says whether the
token is right, and the service asks for the truth of the object.

Results:
 1. `Quiet`: what the calls that issue nothing leave alone.
 2. `sound_step`: one call keeps every pair backed by what the user's row asked for, when it is no way
    around.
 3. `pairs_vouched`: so does every such run.
 4. `second_factor_bypassed`: three ways around.
-/

namespace BebaSacco

open Txn ExpiringKey

/-! ## 1. The tables and the calls -/

inductive TenantStatus where
  | active
  | suspended
  | inactive
  deriving DecidableEq, Repr

inductive PinPurpose where
  | firstLogin
  | passwordReset
  deriving DecidableEq, Repr

structure AuthTenant where
  id : String
  status : TenantStatus
  require2FA : Bool
  minLength : Option ℚ
  requireComplexity : Bool
  expiryDays : Option ℚ
  deriving DecidableEq, Repr

/-- The columns that the calls read; the token is the one whose hash the row holds, and the secret of
the authenticator is encrypted. -/
structure AuthUser where
  tenantId : String
  email : String
  phone : Option String
  phoneNumber : Option String
  role : UserRole
  accountStatus : AccountStatus
  passwordHash : String
  tempPasswordEncrypted : Option String
  tempPasswordExpiresAt : Option Nat
  mustChangePassword : Bool
  pinLoginRequired : Bool
  phoneVerified : Bool
  emailVerified : Bool
  lastPasswordChangeAt : Nat
  twoFactorEnabled : Bool
  totpSecret : Option String
  backupCodes : List String
  refreshToken : Option Nat
  deriving DecidableEq, Repr

/-- What a call presented of the two factors. -/
structure Presented where
  password : Bool
  secondFactor : Bool
  deriving DecidableEq, Repr

/-- A pair of tokens. The last two fields are no part of it: the row of the user when the pair was
issued, and what was presented for it or, if it was rotated, for the pair that it goes back to. -/
structure TokenPair where
  userId : Nat
  tenantId : String
  issuedAt : Nat
  row : AuthUser
  presented : Presented
  deriving DecidableEq, Repr

/-- A token of the scope `2fa_setup`. -/
structure SetupToken where
  userId : Nat
  expiresAt : Nat
  deriving DecidableEq, Repr

structure PinKey where
  tenantId : String
  userId : Nat
  purpose : PinPurpose
  deriving DecidableEq, Repr

structure AuthDesk where
  now : Nat
  tenants : List AuthTenant
  users : List AuthUser
  pins : PinKey → Slot CodeRecord
  otps : String → Slot CodeRecord
  blocklist : Nat → Slot Unit
  setupTokens : List SetupToken
  pairs : List TokenPair

/-- What `verify` of the library resolves to. -/
structure VerifyResult where
  valid : Bool
  deriving DecidableEq, Repr

/-- An object is true as a condition, whatever it holds. -/
def VerifyResult.truthy (_ : VerifyResult) : Bool := true

structure AuthServices where
  argon2Hash : String → String → String
  argon2Verify : String → String → Bool
  sha256 : String → String
  verify : (now : Nat) → (token secret : String) → VerifyResult

structure AuthConfig where
  smsOtpBypassAdminCreated : Bool
  emailVerificationEnforced : Bool
  accessExpirationMs : Nat
  refreshExpirationMs : Nat
  deriving DecidableEq, Repr

structure LoginDto where
  email : Option String
  phone : Option String
  password : String
  totpToken : Option String
  backupCode : Option String
  deriving DecidableEq, Repr

/-- What a call draws at random: a code, the codes to back up an authenticator with, and a salt. -/
structure AuthRandom where
  code : String
  backupCodes : List String
  salt : String
  deriving DecidableEq, Repr

/-- A call with its tenant's header; an access token or a refresh token is the number of its pair. -/
inductive AuthCall where
  | login (dto : LoginDto) (tenantId : String)
  | verifyPin (phone pin tenantId : String)
  | verifyLoginOtp (phone otp tenantId : String)
  | resendLoginOtp (phone tenantId : String)
  | refreshToken (token : Nat) (tenantId : String) (deviceAccepted : Bool)
  | logout (accessToken : Nat)
  | requestPasswordResetPin (phone tenantId : String) (withinRateLimit : Bool)
  | confirmPasswordResetPin (phone pin newPassword tenantId : String)
  | changePassword (accessToken : Nat) (currentPassword : Option String) (newPassword : String)
      (accessTokenJti : Option Nat) (tenantId : String)
  | verifyAndEnable (setupToken : Nat) (secret token : String)
  | regenerateBackupCodes (accessToken : Nat) (password token : Option String)
  | disable (accessToken : Nat) (password token : Option String)
  deriving DecidableEq, Repr

structure AuthEvent where
  time : Nat
  random : AuthRandom
  call : AuthCall
  deriving DecidableEq, Repr

/-- What a call answers; `refused` is what it throws once it has written something. -/
inductive AuthAnswer where
  | tokens (pair : Nat)
  | phoneVerificationRequired (phone : String)
  | setupRequired (setupToken : Nat)
  | done
  | refused (e : AuthErr)
  deriving DecidableEq, Repr

abbrev AuthTx (α : Type) := Txn AuthDesk AuthErr α

/-- A text that is true as a condition. -/
def given (s : Option String) : Option String := s.filter (· ≠ "")

/-- `s.replace(/^\+/, '')` -/
def dropPlus (s : String) : String := (afterPrefix "+" s).getD s

/-! ## 2. Reading the rows -/

def AuthDesk.tenant (d : AuthDesk) (tenantId : String) : Option AuthTenant :=
  d.tenants.find? (·.id = tenantId)

def AuthDesk.acceptsLogin (d : AuthDesk) (tenantId : String) : Bool :=
  (d.tenant tenantId).any (·.status = .active)

def assertTenantAcceptsLogin (tenantId : String) : AuthTx Unit := do
  let d ← get
  ensure (d.acceptsLogin tenantId = true) (.unauthorized "Invalid credentials")

/-- A user of the tenant or an administrator of the platform. -/
def AuthUser.reachable (u : AuthUser) (tenantId : String) : Bool :=
  u.tenantId = tenantId || u.role = .superAdmin

def AuthUser.hasPhone (u : AuthUser) (phones : List String) : Bool :=
  u.phone.any (phones.contains ·) || u.phoneNumber.any (phones.contains ·)

def LoginDto.normalizedEmail (dto : LoginDto) : Option String :=
  given (dto.email.map fun email => (jsTrim email).toLower)

def LoginDto.normalizedPhone (dto : LoginDto) : Option String :=
  given (dto.phone.map fun phone => dropPlus (jsTrim phone))

def LoginDto.finds (dto : LoginDto) (u : AuthUser) : Bool :=
  match dto.normalizedEmail with
  | some email => u.email = email
  | none => dto.normalizedPhone.any fun phone => u.hasPhone [phone]

def AuthDesk.findLogin (d : AuthDesk) (dto : LoginDto) (tenantId : String) :
    Option (Nat × AuthUser) :=
  Table.findRow (fun u => dto.finds u && u.reachable tenantId) d.users

def AuthDesk.findPin (d : AuthDesk) (phone tenantId : String) : Option (Nat × AuthUser) :=
  Table.findRow (fun u => u.hasPhone [dropPlus (jsTrim phone)] && u.reachable tenantId) d.users

def loginOtpPhone (phone : String) : String := (normalizePhone phone).getD (dropPlus (jsTrim phone))

def phoneLookupVariants (canonicalPhone : String) : List String :=
  match afterPrefix "254" canonicalPhone with
  | some tail => if canonicalPhone.length = 12 then [canonicalPhone, "0" ++ tail] else [canonicalPhone]
  | none => [canonicalPhone]

def AuthDesk.findLoginOtp (d : AuthDesk) (phone tenantId : String) : Option (Nat × AuthUser) :=
  Table.findRow
    (fun u => u.hasPhone (phoneLookupVariants (loginOtpPhone phone)) && u.reachable tenantId) d.users

def formatPhoneForOtp (phone : String) : String :=
  let trimmed := jsTrim phone
  if trimmed = "" then ""
  else if (afterPrefix "+" trimmed).isSome = true then trimmed
  else "+" ++ trimmed

def AuthDesk.findUserByPasswordResetIdentifier (d : AuthDesk) (identifier tenantId : String) :
    Option (Nat × AuthUser) :=
  Table.findRow
    (fun u =>
      u.tenantId = tenantId && u.accountStatus = .active &&
        u.hasPhone [identifier, dropPlus identifier])
    d.users

/-- The age of a password is above the days of the tenant, if it has set any. -/
def AuthDesk.passwordExpired (d : AuthDesk) (tenantId : String) (lastChange : Nat) : Bool :=
  (((d.tenant tenantId).bind (·.expiryDays)).filter (0 < ·)).any fun expiryDays =>
    expiryDays < ((d.now : ℚ) - lastChange) / (1000 * 60 * 60 * 24)

/-- `s.length` -/
def utf16Length (s : String) : Nat := (s.toList.map fun c => if c.toNat < 0x10000 then 1 else 2).sum

def validatePassword (tenantId password : String) : AuthTx Unit := do
  let d ← get
  let minLength := ((d.tenant tenantId).bind (·.minLength)).getD 8
  ensure (minLength ≤ utf16Length password)
    (.badRequest s!"Password must be at least {minLength} characters long")
  let complex := password.toList.any (·.isUpper) && password.toList.any (·.isLower) &&
    password.toList.any (·.isDigit) && password.toList.any (!·.isAlphanum)
  ensure ((d.tenant tenantId).any (·.requireComplexity) = true → complex = true)
    (.badRequest ("Password must contain at least one uppercase letter, one lowercase letter, " ++
      "one digit, and one special character"))

/-! ## 3. The codes and the tokens -/

/-- What was submitted is the code, and the code is still there. -/
def CodePolicy.accepts (policy : CodePolicy) (slot : Slot CodeRecord) (now : Nat) (guess : String) :
    Bool :=
  (read slot now).any fun record => policy.submitted guess = record.code

/-- What is left of a code once something was submitted for it. -/
def CodePolicy.remains (policy : CodePolicy) (slot : Slot CodeRecord) (now : Nat) (guess : String) :
    Slot CodeRecord :=
  match read slot now with
  | none => slot
  | some record =>
    if policy.submitted guess = record.code ∨ record.attempts + 1 ≥ policy.maxAttempts then none
    else setex { record with attempts := record.attempts + 1 } now policy.ttlMs

def generateOtp (phone code : String) : AuthTx Unit :=
  modify fun d =>
    { d with otps := Function.update d.otps (jsTrim phone) (setex ⟨code, 0⟩ d.now otpPolicy.ttlMs) }

def validateOtp (phone code : String) : AuthTx Bool := do
  let d ← get
  let slot := d.otps (jsTrim phone)
  modify fun d =>
    { d with
      otps := Function.update d.otps (jsTrim phone) (otpPolicy.remains slot d.now code) }
  return otpPolicy.accepts slot d.now code

def AuthDesk.modifyUser (d : AuthDesk) (userId : Nat) (f : AuthUser → AuthUser) : AuthDesk :=
  { d with users := d.users.modify userId f }

section

variable (svc : AuthServices) (config : AuthConfig)

def generateAndIssuePin (key : PinKey) (pin : String) : AuthTx Unit := do
  let d ← get
  let user ← required d.users[key.userId]? (.notFound "No User found")
  ensure ((given (user.phone <|> user.phoneNumber)).isSome = true)
    (.badRequest s!"Cannot issue PIN — user {key.userId} has no phone number on file")
  modify fun d =>
    { d with
      pins := Function.update d.pins key
        (setex (CodeRecord.mk (svc.sha256 pin) 0) d.now (pinPolicy svc.sha256).ttlMs) }

def markConsumed (userId : Nat) (valid : Bool) : AuthTx Unit :=
  if valid then modify fun d => d.modifyUser userId fun u => { u with phoneVerified := true }
  else return ()

def validatePin (key : PinKey) (plainPin : String) : AuthTx Bool := do
  let d ← get
  let policy := pinPolicy svc.sha256
  let slot := d.pins key
  let valid := policy.accepts slot d.now plainPin
  modify fun d => { d with pins := Function.update d.pins key (policy.remains slot d.now plainPin) }
  markConsumed key.userId valid
  return valid

/-- `generateTokens` and the update of the row with the hash of the refresh token. -/
def issuePair (userId : Nat) (presented : Presented) : AuthTx AuthAnswer := do
  let d ← get
  let row ← required d.users[userId]? (.notFound "Record to update not found.")
  modify fun d =>
    { d with
      users := d.users.modify userId fun u => { u with refreshToken := some d.pairs.length }
      pairs := d.pairs ++ [TokenPair.mk userId row.tenantId d.now row presented] }
  return .tokens d.pairs.length

/-- `verifyToken` -/
def verifyToken (userId : Nat) (token tenantId : String) : AuthTx Unit := do
  let d ← get
  let user ← required (d.users[userId]?.filter (·.tenantId = tenantId))
    (.badRequest "2FA not enabled for this user")
  ensure (user.twoFactorEnabled = true) (.badRequest "2FA not enabled for this user")
  let secret ← required user.totpSecret (.badRequest "2FA not enabled for this user")
  let isValid := svc.verify d.now token secret
  ensure (isValid.truthy = true) (.badRequest "Invalid TOTP token")

/-- `verifyBackupCode` -/
def verifyBackupCode (userId : Nat) (code : String) : AuthTx Unit := do
  let d ← get
  let user ← required d.users[userId]? (.badRequest "Invalid backup code")
  let i ← required (user.backupCodes.findIdx? (svc.argon2Verify · code))
    (.badRequest "Invalid backup code")
  modify fun d =>
    d.modifyUser userId fun u => { u with backupCodes := user.backupCodes.eraseIdx i }

/-! ## 4. The calls -/

def AuthUser.tempPasswordExpired (u : AuthUser) (now : Nat) : Bool :=
  u.mustChangePassword && (given u.tempPasswordEncrypted).isSome &&
    u.tempPasswordExpiresAt.any (· ≤ now)

def AuthUser.emailOnlyStaffTempPassword (u : AuthUser) : Bool :=
  u.mustChangePassword && (given u.tempPasswordEncrypted).isSome && u.role != .member &&
    u.role != .chairman

/-- The phone of the user is still to be verified. -/
def AuthUser.awaitsPhone (u : AuthUser) : Bool :=
  u.mustChangePassword && !u.phoneVerified && !config.smsOtpBypassAdminCreated &&
    !u.emailOnlyStaffTempPassword

def AuthUser.awaitsEmail (u : AuthUser) : Bool :=
  config.emailVerificationEnforced && !u.emailVerified

/-- The token of the request matches the user's secret, and the code is one that the user has left. -/
def AuthUser.presentedBy (u : AuthUser) (now : Nat) (dto : LoginDto) : Presented where
  password := svc.argon2Verify u.passwordHash dto.password
  secondFactor :=
    (given dto.totpToken).any (fun token =>
      u.totpSecret.any fun secret => (svc.verify now token secret).valid) ||
    (given dto.backupCode).any fun code => u.backupCodes.any (svc.argon2Verify · code)

def presentFactor (userId : Nat) (dto : LoginDto) (tenantId : String) : AuthTx Unit :=
  match given dto.backupCode, given dto.totpToken with
  | some code, _ => verifyBackupCode svc userId code
  | none, some token => verifyToken svc userId token tenantId
  | none, none => throw (.forbidden "2FA token required")

/-- The end of `login`, once the password has been accepted. -/
def finishLogin (userId : Nat) (dto : LoginDto) (tenantId : String) (presented : Presented) :
    AuthTx AuthAnswer := do
  let d ← get
  let user ← required d.users[userId]? (.unauthorized "Invalid credentials")
  if user.twoFactorEnabled then
    presentFactor svc userId dto tenantId
    issuePair userId presented
  else if (d.tenant tenantId).any (·.require2FA) then
    modify fun d =>
      { d with setupTokens := d.setupTokens ++ [SetupToken.mk userId (d.now + 15 * 60 * 1000)] }
    return .setupRequired d.setupTokens.length
  else
    issuePair userId presented

/-- A first login with a phone that is still to be verified. -/
def sendLoginOtp (user : AuthUser) (otp : String) : AuthTx AuthAnswer := do
  let rawPhone ← required (given (user.phone <|> user.phoneNumber))
    (.unauthorized "No phone number on file for verification")
  let phone := (normalizePhone rawPhone).getD rawPhone
  generateOtp phone otp
  return .phoneVerificationRequired phone

def expirePassword (userId : Nat) (user : AuthUser) (tenantId : String) : AuthTx Unit := do
  let d ← get
  if d.passwordExpired tenantId user.lastPasswordChangeAt then
    modify fun d => d.modifyUser userId fun u => { u with mustChangePassword := true }

def login (dto : LoginDto) (tenantId otp : String) : AuthTx AuthAnswer := do
  assertTenantAcceptsLogin tenantId
  let d ← get
  ensure ((dto.normalizedEmail <|> dto.normalizedPhone).isSome = true)
    (.unauthorized "Provide email or phone")
  let (userId, user) ← required (d.findLogin dto tenantId) (.unauthorized "Invalid credentials")
  ensure (user.accountStatus = .active) (.unauthorized "Invalid credentials")
  ensure (user.pinLoginRequired = false)
    (.unauthorized ("This account has not been activated yet. " ++
      "Verify your PIN via POST /auth/verify-pin first."))
  ensure (svc.argon2Verify user.passwordHash dto.password = true)
    (.unauthorized "Invalid credentials")
  ensure (user.tempPasswordExpired d.now = false)
    (.unauthorized ("Temporary password has expired. " ++
      "Ask an administrator to generate a new temporary password."))
  if user.awaitsPhone config then
    sendLoginOtp user otp
  else
    ensure (user.awaitsEmail config = false)
      (.unauthorized ("Email not verified. " ++
        "Please check your inbox or request a new verification link."))
    expirePassword userId user tenantId
    rescue (finishLogin svc userId dto tenantId (user.presentedBy svc d.now dto)) .refused

def verifyPin (phone pin tenantId : String) : AuthTx AuthAnswer := do
  assertTenantAcceptsLogin tenantId
  let d ← get
  let (userId, candidate) ← required (d.findPin phone tenantId)
    (.unauthorized "Invalid phone number or PIN")
  ensure (candidate.accountStatus = .active) (.unauthorized "Invalid phone number or PIN")
  let valid ← validatePin svc ⟨candidate.tenantId, userId, .firstLogin⟩ pin
  if valid then issuePair userId ⟨false, false⟩
  else return .refused (.unauthorized "Invalid or expired PIN")

def verifyLoginOtp (phone otp tenantId : String) : AuthTx AuthAnswer := do
  assertTenantAcceptsLogin tenantId
  let d ← get
  let (userId, candidate) ← required (d.findLoginOtp phone tenantId)
    (.unauthorized "Invalid phone number or code")
  ensure (candidate.accountStatus = .active) (.unauthorized "Invalid phone number or code")
  let valid ← validateOtp (loginOtpPhone phone) otp
  if valid then
    modify fun d => d.modifyUser userId fun u => { u with phoneVerified := true }
    issuePair userId ⟨false, false⟩
  else return .refused (.unauthorized "Invalid or expired code")

def resendLoginOtp (phone tenantId otp : String) : AuthTx AuthAnswer := do
  let d ← get
  if (d.findLoginOtp phone tenantId).isSome then
    generateOtp (loginOtpPhone phone) otp
    return .done
  else return .done

def refreshToken (token : Nat) (tenantId : String) (deviceAccepted : Bool) : AuthTx AuthAnswer := do
  let d ← get
  let pair ← required d.pairs[token]? (.unauthorized "Invalid or expired refresh token")
  ensure (d.now < pair.issuedAt + config.refreshExpirationMs)
    (.unauthorized "Invalid or expired refresh token")
  let user ← required d.users[pair.userId]? (.unauthorized "Invalid refresh token")
  ensure (user.accountStatus = .active ∧ user.refreshToken ≠ none)
    (.unauthorized "Invalid refresh token")
  ensure (d.passwordExpired user.tenantId user.lastPasswordChangeAt = false)
    (.badRequest "Password expired. Please change your password.")
  ensure (user.role = .superAdmin ∨ user.tenantId = tenantId)
    (.unauthorized "Token/tenant mismatch")
  if user.refreshToken = some token then
    ensure (deviceAccepted = true) (.forbidden "Device fingerprint mismatch")
    issuePair pair.userId pair.presented
  else
    modify fun d => d.modifyUser pair.userId fun u => { u with refreshToken := none }
    return .refused (.unauthorized "Invalid refresh token")

/-- The guard in front of the calls of a user who is logged in. -/
def authenticate (accessToken : Nat) (skipPasswordCheck : Bool) : AuthTx (Nat × AuthUser) := do
  let d ← get
  let pair ← required d.pairs[accessToken]? (.unauthorized "Malformed access token")
  ensure (d.now < pair.issuedAt + config.accessExpirationMs)
    (.unauthorized "Access token has expired — please refresh")
  ensure (read (d.blocklist accessToken) d.now = none) (.unauthorized "Token has been revoked")
  let user ← required d.users[pair.userId]? (.unauthorized "User no longer exists")
  ensure (user.tenantId = pair.tenantId ∨ user.role = .superAdmin)
    (.unauthorized "Token tenant mismatch")
  ensure (user.accountStatus = .active) (.unauthorized "Account has been deactivated")
  ensure (skipPasswordCheck = true ∨ user.mustChangePassword = false)
    (.forbidden ("Password change required — " ++
      "please update your password via PATCH /auth/change-password"))
  return (pair.userId, user)

def blocklistAdd (jti : Nat) : AuthTx Unit :=
  modify fun d =>
    { d with blocklist := Function.update d.blocklist jti (setex () d.now (15 * 60 * 1000)) }

def logout (accessToken : Nat) : AuthTx AuthAnswer := do
  let (userId, _) ← authenticate config accessToken true
  modify fun d => d.modifyUser userId fun u => { u with refreshToken := none }
  blocklistAdd accessToken
  return .done

def requestPasswordResetPin (phone tenantId pin : String) (withinRateLimit : Bool) :
    AuthTx AuthAnswer := do
  ensure (withinRateLimit = true)
    (.tooManyRequests "Too many PIN requests. Please try again later.")
  let d ← get
  match d.findUserByPasswordResetIdentifier (formatPhoneForOtp phone) tenantId with
  | none => return .done
  | some (userId, _) =>
    generateAndIssuePin svc ⟨tenantId, userId, .passwordReset⟩ pin
    return .done

def confirmPasswordResetPin (phone pin newPassword tenantId salt : String) : AuthTx AuthAnswer := do
  let d ← get
  let (userId, _) ← required
    (d.findUserByPasswordResetIdentifier (formatPhoneForOtp phone) tenantId)
    (.badRequest "Invalid or expired PIN")
  let valid ← validatePin svc ⟨tenantId, userId, .passwordReset⟩ pin
  if valid then
    rescue (do
      validatePassword tenantId newPassword
      modify fun d => d.modifyUser userId fun u =>
        { u with
          passwordHash := svc.argon2Hash salt newPassword
          mustChangePassword := false
          pinLoginRequired := false
          phoneVerified := true
          lastPasswordChangeAt := d.now
          refreshToken := none }
      return .done) .refused
  else return .refused (.badRequest "Invalid or expired PIN")

def checkCurrentPassword (user : AuthUser) (currentPassword : Option String) : AuthTx Unit :=
  if user.pinLoginRequired then return ()
  else do
    let current ← required (given currentPassword) (.badRequest "currentPassword is required")
    ensure (svc.argon2Verify user.passwordHash current = true)
      (.unauthorized "Current password is incorrect")

def changePassword (accessToken : Nat) (currentPassword : Option String) (newPassword : String)
    (accessTokenJti : Option Nat) (tenantId salt : String) : AuthTx AuthAnswer := do
  let (userId, user) ← authenticate config accessToken true
  ensure (user.role = .superAdmin ∨ user.tenantId = tenantId) (.unauthorized "User not found")
  checkCurrentPassword svc user currentPassword
  validatePassword tenantId newPassword
  modify fun d => d.modifyUser userId fun u =>
    { u with
      passwordHash := svc.argon2Hash salt newPassword
      mustChangePassword := false
      tempPasswordEncrypted := none
      tempPasswordExpiresAt := none
      lastPasswordChangeAt := d.now
      refreshToken := none
      pinLoginRequired := false
      phoneVerified := user.pinLoginRequired || u.phoneVerified }
  blocklistAdd (accessTokenJti.getD accessToken)
  return .done

def AuthDesk.findSetup (d : AuthDesk) (setupToken : Nat) : Option Nat :=
  (d.setupTokens[setupToken]?.filter fun t => d.now < t.expiresAt).map (·.userId)

/-- The guard for set-up tokens, and `verifyAndEnable`. -/
def verifyAndEnable (setupToken : Nat) (secret token : String) (backupCodes : List String)
    (salt : String) : AuthTx AuthAnswer := do
  let d ← get
  let userId ← required (d.findSetup setupToken) (.unauthorized "Authentication required")
  ensure (userId < d.users.length) (.unauthorized "User no longer exists")
  let isValid := svc.verify d.now token secret
  ensure (isValid.truthy = true) (.badRequest "Invalid TOTP token")
  modify fun d => d.modifyUser userId fun u =>
    { u with
      totpSecret := some secret
      twoFactorEnabled := true
      backupCodes := backupCodes.map (svc.argon2Hash salt) }
  return .done

/-- A user who is logged in presents the password or else a token. -/
def confirmFactor (userId : Nat) (user : AuthUser) (password token : Option String) :
    AuthTx Unit :=
  match given password, given token with
  | some password, _ =>
    ensure (svc.argon2Verify user.passwordHash password = true) (.forbidden "Invalid password")
  | none, some token => verifyToken svc userId token user.tenantId
  | none, none => throw (.forbidden "Password or TOTP token required")

def regenerateBackupCodes (accessToken : Nat) (password token : Option String)
    (backupCodes : List String) (salt : String) : AuthTx AuthAnswer := do
  let (userId, user) ← authenticate config accessToken false
  confirmFactor svc userId user password token
  modify fun d => d.modifyUser userId fun u =>
    { u with backupCodes := backupCodes.map (svc.argon2Hash salt) }
  return .done

def disable (accessToken : Nat) (password token : Option String) : AuthTx AuthAnswer := do
  let (userId, user) ← authenticate config accessToken false
  let d ← get
  ensure ((d.tenant user.tenantId).any (·.require2FA) = false)
    (.forbidden "Tenant policy requires 2FA. You cannot disable it.")
  confirmFactor svc userId user password token
  modify fun d => d.modifyUser userId fun u =>
    { u with twoFactorEnabled := false, totpSecret := none, backupCodes := [] }
  return .done

def AuthEvent.run (e : AuthEvent) : AuthTx AuthAnswer :=
  match e.call with
  | .login dto tenantId => login svc config dto tenantId e.random.code
  | .verifyPin phone pin tenantId => verifyPin svc phone pin tenantId
  | .verifyLoginOtp phone otp tenantId => verifyLoginOtp phone otp tenantId
  | .resendLoginOtp phone tenantId => resendLoginOtp phone tenantId e.random.code
  | .refreshToken token tenantId deviceAccepted =>
    refreshToken config token tenantId deviceAccepted
  | .logout accessToken => logout config accessToken
  | .requestPasswordResetPin phone tenantId withinRateLimit =>
    requestPasswordResetPin svc phone tenantId e.random.code withinRateLimit
  | .confirmPasswordResetPin phone pin newPassword tenantId =>
    confirmPasswordResetPin svc phone pin newPassword tenantId e.random.salt
  | .changePassword accessToken currentPassword newPassword accessTokenJti tenantId =>
    changePassword svc config accessToken currentPassword newPassword accessTokenJti tenantId
      e.random.salt
  | .verifyAndEnable setupToken secret token =>
    verifyAndEnable svc setupToken secret token e.random.backupCodes e.random.salt
  | .regenerateBackupCodes accessToken password token =>
    regenerateBackupCodes svc config accessToken password token e.random.backupCodes e.random.salt
  | .disable accessToken password token => disable svc config accessToken password token

def AuthDesk.clock (d : AuthDesk) (time : Nat) : AuthDesk := { d with now := max d.now time }

/-- The time goes on, and then the call. -/
def AuthDesk.step (d : AuthDesk) (e : AuthEvent) : AuthDesk :=
  commit (e.run svc config) (d.clock e.time)

def AuthDesk.after (d : AuthDesk) (events : List AuthEvent) : AuthDesk :=
  Machine.run (AuthDesk.step svc config) d events

/-! ## 5. The property and the condition -/

def AuthUser.permanentPassword (u : AuthUser) : Bool := !u.mustChangePassword && !u.pinLoginRequired

/-- What was presented is all that the user's row asks for. -/
structure Presented.Suffices (p : Presented) (row : AuthUser) : Prop where
  secondFactor : row.twoFactorEnabled = true → p.secondFactor = true
  password : row.permanentPassword = true → p.password = true

instance (p : Presented) (row : AuthUser) : Decidable (p.Suffices row) :=
  decidable_of_iff
    ((row.twoFactorEnabled = true → p.secondFactor = true) ∧
      (row.permanentPassword = true → p.password = true))
    ⟨fun h => ⟨h.1, h.2⟩, fun h => ⟨h.1, h.2⟩⟩

/-- Every pair was issued for what the user's row asked for at the time. -/
def AuthDesk.Vouched (d : AuthDesk) : Prop := ∀ pair ∈ d.pairs, pair.presented.Suffices pair.row

instance (d : AuthDesk) : Decidable d.Vouched :=
  inferInstanceAs (Decidable (∀ pair ∈ d.pairs, pair.presented.Suffices pair.row))

/-- A login with the right password that nothing else holds up before the second factor. -/
def AuthUser.passwordAccepted (u : AuthUser) (now : Nat) (dto : LoginDto) : Bool :=
  u.accountStatus = .active && !u.pinLoginRequired && svc.argon2Verify u.passwordHash dto.password &&
    !u.tempPasswordExpired now && !u.awaitsPhone config && !u.awaitsEmail config

/-- A token, if it is what such a login of the user is decided by, matches the secret. -/
def AuthUser.tokenMatches (u : AuthUser) (now : Nat) (dto : LoginDto) (tenantId : String) : Bool :=
  !u.twoFactorEnabled || u.tenantId != tenantId || (given dto.backupCode).isSome ||
    (given dto.totpToken).all fun token =>
      u.totpSecret.all fun secret => (svc.verify now token secret).valid

/-- Without a password and a second factor. -/
def AuthUser.asksForNeither (u : AuthUser) : Bool := !u.twoFactorEnabled && !u.permanentPassword

/-- The pair that the user's row holds, if it is still alive, goes back to a second factor. -/
def AuthDesk.holdsNoOlderPair (d : AuthDesk) (userId : Nat) : Bool :=
  (d.users[userId]?.bind (·.refreshToken)).all fun token =>
    d.pairs[token]?.all fun pair =>
      pair.presented.secondFactor || pair.issuedAt + config.refreshExpirationMs ≤ d.now

/-- The condition on a call: a token that a login comes with matches, nobody logs in by PIN or by
phone who has a password of his own or a second factor, and who sets one up holds no older pair. -/
def AuthDesk.noWayAround (d : AuthDesk) : AuthCall → Bool
  | .login dto tenantId =>
    !d.acceptsLogin tenantId || (d.findLogin dto tenantId).all fun found =>
      !found.2.passwordAccepted svc config d.now dto || found.2.tokenMatches svc d.now dto tenantId
  | .verifyPin phone pin tenantId =>
    !d.acceptsLogin tenantId || (d.findPin phone tenantId).all fun found =>
      found.2.accountStatus != .active ||
        !(pinPolicy svc.sha256).accepts (d.pins ⟨found.2.tenantId, found.1, .firstLogin⟩) d.now pin ||
        found.2.asksForNeither
  | .verifyLoginOtp phone otp tenantId =>
    !d.acceptsLogin tenantId || (d.findLoginOtp phone tenantId).all fun found =>
      found.2.accountStatus != .active ||
        !otpPolicy.accepts (d.otps (jsTrim (loginOtpPhone phone))) d.now otp ||
        found.2.asksForNeither
  | .verifyAndEnable setupToken _ _ => (d.findSetup setupToken).all (d.holdsNoOlderPair config)
  | _ => true

def AuthDesk.orderly (d : AuthDesk) (e : AuthEvent) : Bool :=
  (d.clock e.time).noWayAround svc config e.call

end

namespace AuthLemmas

variable {svc : AuthServices} {config : AuthConfig} {d d' d'' : AuthDesk} {u u' user : AuthUser}
  {userId : Nat} {dto : LoginDto} {tenantId : String} {presented : Presented} {a : AuthAnswer}

/-! ## 6. Calls that issue nothing -/

/-- The row holds no pair, or the same as before and asks for nothing more. -/
def Eases (u u' : AuthUser) : Prop :=
  u'.refreshToken = none ∨
    (u'.refreshToken = u.refreshToken ∧
      (u'.twoFactorEnabled = true → u.twoFactorEnabled = true) ∧
      (u'.permanentPassword = true → u.permanentPassword = true))

structure Quiet (d d' : AuthDesk) : Prop where
  pairs : d'.pairs = d.pairs
  now : d'.now = d.now
  users : ∀ (i : Nat) (u' : AuthUser), d'.users[i]? = some u' →
    ∃ u, d.users[i]? = some u ∧ Eases u u'

theorem eases_refl : Eases u u := .inr ⟨rfl, id, id⟩

theorem eases_trans {u'' : AuthUser} (h : Eases u u') (h' : Eases u' u'') : Eases u u'' := by
  rcases h' with h' | ⟨htoken, htwo, hperm⟩
  · exact .inl h'
  · rcases h with h | ⟨htoken', htwo', hperm'⟩
    · exact .inl (htoken.trans h)
    · exact .inr ⟨htoken.trans htoken', htwo' ∘ htwo, hperm' ∘ hperm⟩

theorem quiet_of_same (hpairs : d'.pairs = d.pairs) (hnow : d'.now = d.now)
    (husers : d'.users = d.users) : Quiet d d' where
  pairs := hpairs
  now := hnow
  users _ u hu := ⟨u, husers ▸ hu, eases_refl⟩

instance quietHistory : History Quiet where
  refl _ := quiet_of_same rfl rfl rfl
  trans h h' :=
    { pairs := h'.pairs.trans h.pairs
      now := h'.now.trans h.now
      users := by
        intro i u'' hu''
        obtain ⟨u', hu', heases'⟩ := h'.users i u'' hu''
        obtain ⟨u, hu, heases⟩ := h.users i u' hu'
        exact ⟨u, hu, eases_trans heases heases'⟩ }

theorem quiet_modifyUser {f : AuthUser → AuthUser} (hf : ∀ u, Eases u (f u)) :
    Quiet d (d.modifyUser userId f) where
  pairs := rfl
  now := rfl
  users := by
    intro i u' hu'
    obtain ⟨u, hu, rfl⟩ := Table.getElem?_modify_some hu'
    refine ⟨u, hu, ?_⟩
    split
    · exact hf u
    · exact eases_refl

theorem eases_none (h : u'.refreshToken = none) : Eases u u' := .inl h

theorem eases_kept (htoken : u'.refreshToken = u.refreshToken)
    (htwo : u'.twoFactorEnabled = u.twoFactorEnabled)
    (hmust : u'.mustChangePassword = u.mustChangePassword)
    (hpin : u'.pinLoginRequired = u.pinLoginRequired) : Eases u u' := by
  refine .inr ⟨htoken, fun h => htwo ▸ h, fun h => ?_⟩
  unfold AuthUser.permanentPassword at h ⊢
  rw [← hmust, ← hpin]
  exact h

theorem validatePassword_moves {password : String} :
    Moves Quiet (validatePassword tenantId password) := by
  refine .bind' .get' fun _ => .bind' .ensure' fun _ => .ensure'

theorem generateOtp_moves {phone code : String} : Moves Quiet (generateOtp phone code) :=
  .modify' fun _ => quiet_of_same rfl rfl rfl

theorem validateOtp_moves {phone code : String} : Moves Quiet (validateOtp phone code) := by
  refine .bind' .get' fun _ => .bind' (.modify' fun _ => ?_) fun _ => .pure' _
  exact quiet_of_same rfl rfl rfl

theorem verified_moves : Moves Quiet (modify fun d : AuthDesk =>
    d.modifyUser userId fun u => { u with phoneVerified := true } : AuthTx Unit) :=
  .modify' fun _ => quiet_modifyUser fun _ => eases_kept rfl rfl rfl rfl

theorem generateAndIssuePin_moves {key : PinKey} {pin : String} :
    Moves Quiet (generateAndIssuePin svc key pin) := by
  refine .bind' .get' fun _ => .bind' .required' fun _ => .bind' .ensure' fun _ => .modify' fun _ => ?_
  exact quiet_of_same rfl rfl rfl

theorem markConsumed_moves {valid : Bool} : Moves Quiet (markConsumed userId valid) :=
  .ite' verified_moves (.pure' _)

theorem validatePin_moves {key : PinKey} {plainPin : String} :
    Moves Quiet (validatePin svc key plainPin) := by
  refine .bind' .get' fun _ => .bind' (.modify' fun _ => quiet_of_same rfl rfl rfl) fun _ => ?_
  exact .bind' markConsumed_moves fun _ => .pure' _

theorem verifyToken_moves {token : String} : Moves Quiet (verifyToken svc userId token tenantId) := by
  refine .bind' .get' fun _ => .bind' .required' fun _ => .bind' .ensure' fun _ => ?_
  exact .bind' .required' fun _ => .ensure'

theorem verifyBackupCode_moves {code : String} : Moves Quiet (verifyBackupCode svc userId code) := by
  refine .bind' .get' fun _ => .bind' .required' fun _ => .bind' .required' fun _ => ?_
  exact .modify' fun _ => quiet_modifyUser fun _ => eases_kept rfl rfl rfl rfl

theorem presentFactor_moves : Moves Quiet (presentFactor svc userId dto tenantId) := by
  unfold presentFactor
  split
  · exact verifyBackupCode_moves
  · exact verifyToken_moves
  · exact .throw' _

theorem sendLoginOtp_moves {otp : String} : Moves Quiet (sendLoginOtp user otp) :=
  .bind' .required' fun _ => .bind' generateOtp_moves fun _ => .pure' _

theorem expirePassword_moves : Moves Quiet (expirePassword userId user tenantId) := by
  refine .bind' .get' fun _ => .ite' (.modify' fun _ => quiet_modifyUser fun _ => ?_) (.pure' _)
  exact .inr ⟨rfl, id, fun h => by cases h⟩

theorem resendLoginOtp_moves {phone otp : String} :
    Moves Quiet (resendLoginOtp phone tenantId otp) :=
  .bind' .get' fun _ => .ite' (.bind' generateOtp_moves fun _ => .pure' _) (.pure' _)

theorem authenticate_moves {accessToken : Nat} {skip : Bool} :
    Moves Quiet (authenticate config accessToken skip) := by
  refine .bind' .get' fun _ => .bind' .required' fun _ => .bind' .ensure' fun _ => ?_
  refine .bind' .ensure' fun _ => .bind' .required' fun _ => .bind' .ensure' fun _ => ?_
  exact .bind' .ensure' fun _ => .bind' .ensure' fun _ => .pure' _

theorem blocklistAdd_moves {jti : Nat} : Moves Quiet (blocklistAdd jti) :=
  .modify' fun _ => quiet_of_same rfl rfl rfl

theorem logout_moves {accessToken : Nat} : Moves Quiet (logout config accessToken) := by
  refine .bind' authenticate_moves fun _ => .bind' (.modify' fun _ => ?_) fun _ =>
    .bind' blocklistAdd_moves fun _ => .pure' _
  exact quiet_modifyUser fun _ => eases_none rfl

theorem requestPasswordResetPin_moves {phone pin : String} {withinRateLimit : Bool} :
    Moves Quiet (requestPasswordResetPin svc phone tenantId pin withinRateLimit) := by
  refine .bind' .ensure' fun _ => .bind' .get' fun _ => ?_
  split
  · exact .pure' _
  · exact .bind' generateAndIssuePin_moves fun _ => .pure' _

theorem confirmPasswordResetPin_moves {phone pin newPassword salt : String} :
    Moves Quiet (confirmPasswordResetPin svc phone pin newPassword tenantId salt) := by
  refine .bind' .get' fun _ => .bind' .required' fun _ => .bind' validatePin_moves fun _ => ?_
  split
  · refine .rescue' (.bind' validatePassword_moves fun _ => .bind' (.modify' fun _ => ?_) fun _ =>
      .pure' _)
    exact quiet_modifyUser fun _ => eases_none rfl
  · exact .pure' _

theorem checkCurrentPassword_moves {currentPassword : Option String} :
    Moves Quiet (checkCurrentPassword svc user currentPassword) :=
  .ite' (.pure' _) (.bind' .required' fun _ => .ensure')

theorem changePassword_moves {accessToken : Nat} {currentPassword : Option String}
    {newPassword salt : String} {accessTokenJti : Option Nat} :
    Moves Quiet
      (changePassword svc config accessToken currentPassword newPassword accessTokenJti tenantId
        salt) := by
  refine .bind' authenticate_moves fun _ => .bind' .ensure' fun _ => ?_
  refine .bind' checkCurrentPassword_moves fun _ => .bind' validatePassword_moves fun _ => ?_
  refine .bind' (.modify' fun _ => ?_) fun _ => .bind' blocklistAdd_moves fun _ => .pure' _
  exact quiet_modifyUser fun _ => eases_none rfl

theorem confirmFactor_moves {password token : Option String} :
    Moves Quiet (confirmFactor svc userId user password token) := by
  unfold confirmFactor
  split
  · exact .ensure'
  · exact verifyToken_moves
  · exact .throw' _

theorem regenerateBackupCodes_moves {accessToken : Nat} {password token : Option String}
    {backupCodes : List String} {salt : String} :
    Moves Quiet (regenerateBackupCodes svc config accessToken password token backupCodes salt) := by
  refine .bind' authenticate_moves fun _ => .bind' confirmFactor_moves fun _ => ?_
  refine .bind' (.modify' fun _ => ?_) fun _ => .pure' _
  exact quiet_modifyUser fun _ => eases_kept rfl rfl rfl rfl

theorem disable_moves {accessToken : Nat} {password token : Option String} :
    Moves Quiet (disable svc config accessToken password token) := by
  refine .bind' authenticate_moves fun _ => .bind' .get' fun _ => .bind' .ensure' fun _ => ?_
  refine .bind' confirmFactor_moves fun _ => .bind' (.modify' fun _ => ?_) fun _ => .pure' _
  exact quiet_modifyUser fun _ => .inr ⟨rfl, fun h => (by cases h), id⟩

/-! ## 7. The pair that a row holds -/

/-- The pair was issued for what the row asks for, or is no longer alive. -/
def Backs (config : AuthConfig) (now : Nat) (pair : TokenPair) (u : AuthUser) : Prop :=
  pair.issuedAt + config.refreshExpirationMs ≤ now ∨ pair.presented.Suffices u

structure Sound (config : AuthConfig) (d : AuthDesk) : Prop where
  vouched : d.Vouched
  held : ∀ (userId : Nat) (u : AuthUser) (token : Nat), d.users[userId]? = some u →
    u.refreshToken = some token → ∃ pair, d.pairs[token]? = some pair ∧ Backs config d.now pair u

theorem suffices_eases {token : Nat} (h : Eases u u') (htoken : u'.refreshToken = some token)
    (hs : presented.Suffices u) : presented.Suffices u' ∧ u.refreshToken = some token := by
  rcases h with h | ⟨hsame, htwo, hperm⟩
  · rw [h] at htoken
    cases htoken
  · exact ⟨⟨hs.secondFactor ∘ htwo, hs.password ∘ hperm⟩, hsame ▸ htoken⟩

theorem sound_clock {time : Nat} (h : Sound config d) : Sound config (d.clock time) where
  vouched := h.vouched
  held userId u token hu htoken := by
    obtain ⟨pair, hpair, hback⟩ := h.held userId u token hu htoken
    refine ⟨pair, hpair, hback.imp_left fun hexp => ?_⟩
    exact hexp.trans (Nat.le_max_left d.now time)

theorem sound_quiet (hq : Quiet d d') (h : Sound config d) : Sound config d' where
  vouched := by
    unfold AuthDesk.Vouched
    rw [hq.pairs]
    exact h.vouched
  held userId u' token hu' htoken := by
    obtain ⟨u, hu, heases⟩ := hq.users userId u' hu'
    have hu_token : u.refreshToken = some token := by
      rcases heases with hnone | ⟨hsame, _⟩
      · rw [hnone] at htoken
        cases htoken
      · exact hsame ▸ htoken
    obtain ⟨pair, hpair, hback⟩ := h.held userId u token hu hu_token
    refine ⟨pair, hq.pairs ▸ hpair, ?_⟩
    rw [hq.now]
    exact hback.imp_right fun hs => (suffices_eases heases htoken hs).1

theorem issuePair_sound (h : Yields (issuePair userId presented) d a d')
    (hrow : ∀ row, d.users[userId]? = some row → presented.Suffices row) (hd : Sound config d) :
    Sound config d' := by
  simp only [issuePair, yields_bind, yields_get, yields_required, yields_modify, yields_pure] at h
  obtain ⟨_, _, ⟨rfl, rfl⟩, row, _, ⟨hget, rfl⟩, _, _, rfl, _, rfl⟩ := h
  refine ⟨Table.forall_append_one hd.vouched (hrow row hget), ?_⟩
  intro i u' token hu' htoken
  obtain ⟨u, hu, rfl⟩ := Table.getElem?_modify_some hu'
  split at htoken
  · next hi =>
    subst hi
    cases hget.symm.trans hu
    cases htoken
    refine ⟨_, Table.getElem?_append_one_self, .inr ?_⟩
    rw [if_pos rfl]
    exact ⟨(hrow row hget).secondFactor, (hrow row hget).password⟩
  · next hi =>
    obtain ⟨pair, hpair, hback⟩ := hd.held i u token hu htoken
    rw [if_neg hi]
    exact ⟨pair, Table.getElem?_append_one_old hpair, hback⟩

/-! ## 8. Calls that issue a pair -/

theorem verifyBackupCode_presents {code : String} {v : Unit}
    (h : Yields (verifyBackupCode svc userId code) d v d') (hu : d.users[userId]? = some u) :
    u.backupCodes.any (svc.argon2Verify · code) = true := by
  simp only [verifyBackupCode, yields_bind, yields_get, yields_required, yields_modify] at h
  obtain ⟨_, _, ⟨rfl, rfl⟩, _, _, ⟨hget, rfl⟩, i, _, ⟨hfind, rfl⟩, _⟩ := h
  cases hget.symm.trans hu
  obtain ⟨hi, hverify, _⟩ := List.findIdx?_eq_some_iff_getElem.mp hfind
  exact List.any_eq_true.mpr ⟨_, List.getElem_mem hi, hverify⟩

theorem verifyToken_secret {token : String} {v : Unit}
    (h : Yields (verifyToken svc userId token tenantId) d v d') (hu : d.users[userId]? = some u) :
    u.tenantId = tenantId ∧ u.totpSecret.isSome = true := by
  simp only [verifyToken, yields_bind, yields_get, yields_required, yields_ensure] at h
  obtain ⟨_, _, ⟨rfl, rfl⟩, _, _, ⟨hget, rfl⟩, _, _, _, secret, _, ⟨hsecret, _⟩, _⟩ := h
  obtain ⟨hget, htenant⟩ := Option.filter_eq_some_iff.mp hget
  cases hget.symm.trans hu
  exact ⟨of_decide_eq_true htenant, Option.isSome_iff_exists.mpr ⟨secret, hsecret⟩⟩

/-- A second factor that was let pass was one, if the token that decided matches. -/
theorem presentFactor_presents {v : Unit}
    (h : Yields (presentFactor svc userId dto tenantId) d v d') (hu : d.users[userId]? = some u)
    (htwo : u.twoFactorEnabled = true) (hmatch : u.tokenMatches svc d.now dto tenantId = true) :
    (u.presentedBy svc d.now dto).secondFactor = true := by
  unfold AuthUser.presentedBy
  rw [Bool.or_eq_true]
  unfold presentFactor at h
  split at h
  · next code hcode =>
    refine .inr ?_
    rw [hcode]
    exact verifyBackupCode_presents h hu
  · next token hcode htoken =>
    obtain ⟨htenant, hsecret⟩ := verifyToken_secret h hu
    obtain ⟨secret, hsecret⟩ := Option.isSome_iff_exists.mp hsecret
    refine .inl ?_
    simpa [AuthUser.tokenMatches, htwo, htenant, hcode, htoken, hsecret] using hmatch
  · exact (yields_throw.mp h).elim

theorem finishLogin_sound (h : Yields (finishLogin svc userId dto tenantId presented) d a d')
    (hpassword : presented.password = true)
    (hfactor : ∀ u, d.users[userId]? = some u → u.twoFactorEnabled = true →
      u.tokenMatches svc d.now dto tenantId = true ∧ presented = u.presentedBy svc d.now dto)
    (hd : Sound config d) : Sound config d' := by
  simp only [finishLogin, yields_bind, yields_get, yields_required] at h
  obtain ⟨_, _, ⟨rfl, rfl⟩, u, _, ⟨hu, rfl⟩, h⟩ := h
  rcases yields_ite.mp h with ⟨htwo, h⟩ | ⟨htwo, h⟩
  · obtain ⟨_, d₁, hpresent, hissue⟩ := yields_bind.mp h
    obtain ⟨hmatch, hpresented⟩ := hfactor u hu htwo
    refine issuePair_sound hissue (fun row _ => ⟨fun _ => ?_, fun _ => hpassword⟩)
      (sound_quiet (presentFactor_moves hpresent) hd)
    rw [hpresented]
    exact presentFactor_presents hpresent hu htwo hmatch
  · rcases yields_ite.mp h with ⟨_, h⟩ | ⟨_, h⟩
    · simp only [yields_bind, yields_modify, yields_pure] at h
      obtain ⟨_, _, rfl, _, rfl⟩ := h
      exact sound_quiet (d := d) (quiet_of_same rfl rfl rfl) hd
    · refine issuePair_sound h (fun row hrow => ⟨fun hrow_two => ?_, fun _ => hpassword⟩) hd
      cases hu.symm.trans hrow
      exact absurd hrow_two htwo

/-- The row after its password was found to have expired, or not. -/
theorem expirePassword_row {v : Unit} (h : Yields (expirePassword userId user tenantId) d v d')
    (hu : d.users[userId]? = some u) :
    d'.now = d.now ∧ ∃ mustChangePassword,
      d'.users[userId]? = some { u with mustChangePassword } := by
  simp only [expirePassword, yields_bind, yields_get] at h
  obtain ⟨_, _, ⟨rfl, rfl⟩, h⟩ := h
  rcases yields_ite.mp h with ⟨_, h⟩ | ⟨_, h⟩
  · rw [yields_modify] at h
    subst h
    exact ⟨rfl, true, Table.getElem?_modify_self hu⟩
  · obtain ⟨_, rfl⟩ := yields_pure.mp h
    exact ⟨rfl, u.mustChangePassword, hu⟩

theorem login_sound {otp : String} (h : Yields (login svc config dto tenantId otp) d a d')
    (hway : d.noWayAround svc config (.login dto tenantId) = true) (hd : Sound config d) :
    Sound config d' := by
  simp only [login, assertTenantAcceptsLogin, yields_bind, yields_get, yields_ensure,
    yields_required] at h
  obtain ⟨_, _, ⟨_, _, ⟨rfl, rfl⟩, haccepts, rfl⟩, _, _, ⟨rfl, rfl⟩, _, _, ⟨_, rfl⟩,
    ⟨userId, user⟩, _, ⟨hfind, rfl⟩, _, _, ⟨hactive, rfl⟩, _, _, ⟨hpin, rfl⟩, _, _,
    ⟨hpassword, rfl⟩, _, _, ⟨htemp, rfl⟩, h⟩ := h
  dsimp only at hactive hpin hpassword htemp
  have hu : d.users[userId]? = some user := (Table.findRow_some hfind).1
  rcases yields_ite.mp h with ⟨_, h⟩ | ⟨hphone, h⟩
  · exact sound_quiet (sendLoginOtp_moves h) hd
  simp only [yields_bind, yields_ensure] at h
  obtain ⟨_, _, ⟨hemail, rfl⟩, _, d₁, hexpire, h⟩ := h
  have hd₁ : Sound config d₁ := sound_quiet (expirePassword_moves hexpire) hd
  obtain ⟨hnow, mustChange, hu₁⟩ := expirePassword_row hexpire hu
  have haccepted : user.passwordAccepted svc config d.now dto = true := by
    dsimp only at hphone
    simp [AuthUser.passwordAccepted, hactive, hpin, hpassword, htemp, hphone, hemail]
  have hmatch : user.tokenMatches svc d.now dto tenantId = true := by
    simpa [AuthDesk.noWayAround, haccepts, hfind, haccepted] using hway
  rcases yields_rescue.mp h with h | ⟨_, rfl, _⟩
  · refine finishLogin_sound h hpassword (fun u hget _ => ?_) hd₁
    cases hu₁.symm.trans hget
    rw [hnow]
    exact ⟨hmatch, rfl⟩
  · exact hd₁

theorem asksForNeither_suffices (h : u.asksForNeither = true) : presented.Suffices u := by
  unfold AuthUser.asksForNeither at h
  rw [Bool.and_eq_true, Bool.not_eq_true', Bool.not_eq_true'] at h
  constructor
  · rw [h.1]
    exact fun htwo => by cases htwo
  · rw [h.2]
    exact fun hperm => by cases hperm

theorem validatePin_accepts {key : PinKey} {plainPin : String} {valid : Bool}
    (h : Yields (validatePin svc key plainPin) d valid d') :
    valid = (pinPolicy svc.sha256).accepts (d.pins key) d.now plainPin := by
  simp only [validatePin, yields_bind, yields_get, yields_modify, yields_pure] at h
  obtain ⟨_, _, ⟨rfl, rfl⟩, _, _, rfl, _, _, _, rfl, _⟩ := h
  rfl

theorem validateOtp_accepts {phone code : String} {valid : Bool}
    (h : Yields (validateOtp phone code) d valid d') :
    valid = otpPolicy.accepts (d.otps (jsTrim phone)) d.now code := by
  simp only [validateOtp, yields_bind, yields_get, yields_modify, yields_pure] at h
  obtain ⟨_, _, ⟨rfl, rfl⟩, _, _, rfl, rfl, _⟩ := h
  rfl

/-- A verified phone changes nothing of what a row asks for. -/
theorem verified_asks (hu : (d.modifyUser userId fun u => { u with phoneVerified := true }).users[userId]?
      = some u') :
    ∃ u, d.users[userId]? = some u ∧ u'.asksForNeither = u.asksForNeither := by
  obtain ⟨u, hget, rfl⟩ := Table.getElem?_modify_some hu
  refine ⟨u, hget, ?_⟩
  rw [if_pos rfl]
  rfl

theorem markConsumed_asks {valid : Bool} {v : Unit} (h : Yields (markConsumed userId valid) d v d')
    (hu : d'.users[userId]? = some u') :
    ∃ u, d.users[userId]? = some u ∧ u'.asksForNeither = u.asksForNeither := by
  rcases yields_ite.mp h with ⟨_, h⟩ | ⟨_, h⟩
  · rw [yields_modify] at h
    subst h
    exact verified_asks hu
  · obtain ⟨_, rfl⟩ := yields_pure.mp h
    exact ⟨u', hu, rfl⟩

theorem validatePin_asks {key : PinKey} {plainPin : String} {valid : Bool}
    (h : Yields (validatePin svc key plainPin) d valid d') (hu : d'.users[key.userId]? = some u') :
    ∃ u, d.users[key.userId]? = some u ∧ u'.asksForNeither = u.asksForNeither := by
  simp only [validatePin, yields_bind, yields_get, yields_modify, yields_pure] at h
  obtain ⟨_, _, ⟨rfl, rfl⟩, _, _, rfl, _, _, hmark, _, rfl⟩ := h
  obtain ⟨u, hu, hasks⟩ := markConsumed_asks hmark hu
  exact ⟨u, hu, hasks⟩

theorem verifyPin_sound {phone pin : String} (h : Yields (verifyPin svc phone pin tenantId) d a d')
    (hway : d.noWayAround svc config (.verifyPin phone pin tenantId) = true)
    (hd : Sound config d) : Sound config d' := by
  simp only [verifyPin, assertTenantAcceptsLogin, yields_bind, yields_get, yields_ensure,
    yields_required] at h
  obtain ⟨_, _, ⟨_, _, ⟨rfl, rfl⟩, haccepts, rfl⟩, _, _, ⟨rfl, rfl⟩, ⟨userId, candidate⟩, _,
    ⟨hfind, rfl⟩, _, _, ⟨hactive, rfl⟩, valid, d₁, hvalidate, h⟩ := h
  dsimp only at hactive hvalidate
  have hd₁ : Sound config d₁ := sound_quiet (validatePin_moves hvalidate) hd
  rcases yields_ite.mp h with ⟨hvalid, h⟩ | ⟨_, h⟩
  · have hneither : candidate.asksForNeither = true := by
      rw [validatePin_accepts hvalidate] at hvalid
      simpa [AuthDesk.noWayAround, haccepts, hfind, hactive, hvalid] using hway
    refine issuePair_sound h (fun row hrow => asksForNeither_suffices ?_) hd₁
    obtain ⟨u, hu, hasks⟩ := validatePin_asks hvalidate hrow
    cases (Table.findRow_some hfind).1.symm.trans hu
    exact hasks.trans hneither
  · obtain ⟨_, rfl⟩ := yields_pure.mp h
    exact hd₁

theorem validateOtp_users {phone code : String} {valid : Bool}
    (h : Yields (validateOtp phone code) d valid d') : d'.users = d.users := by
  simp only [validateOtp, yields_bind, yields_get, yields_modify, yields_pure] at h
  obtain ⟨_, _, ⟨rfl, rfl⟩, _, _, rfl, _, rfl⟩ := h
  rfl

theorem verifyLoginOtp_sound {phone otp : String}
    (h : Yields (verifyLoginOtp phone otp tenantId) d a d')
    (hway : d.noWayAround svc config (.verifyLoginOtp phone otp tenantId) = true)
    (hd : Sound config d) : Sound config d' := by
  simp only [verifyLoginOtp, assertTenantAcceptsLogin, yields_bind, yields_get, yields_ensure,
    yields_required] at h
  obtain ⟨_, _, ⟨_, _, ⟨rfl, rfl⟩, haccepts, rfl⟩, _, _, ⟨rfl, rfl⟩, ⟨userId, candidate⟩, _,
    ⟨hfind, rfl⟩, _, _, ⟨hactive, rfl⟩, valid, d₁, hvalidate, h⟩ := h
  dsimp only at hactive
  have hd₁ : Sound config d₁ := sound_quiet (validateOtp_moves hvalidate) hd
  rcases yields_ite.mp h with ⟨hvalid, h⟩ | ⟨_, h⟩
  · have hneither : candidate.asksForNeither = true := by
      rw [validateOtp_accepts hvalidate] at hvalid
      simpa [AuthDesk.noWayAround, haccepts, hfind, hactive, hvalid] using hway
    obtain ⟨_, d₂, hverified, hissue⟩ := yields_bind.mp h
    refine issuePair_sound hissue (fun row hrow => asksForNeither_suffices ?_)
      (sound_quiet (verified_moves hverified) hd₁)
    rw [yields_modify] at hverified
    subst hverified
    obtain ⟨u, hu, hasks⟩ := verified_asks hrow
    rw [validateOtp_users hvalidate] at hu
    cases (Table.findRow_some hfind).1.symm.trans hu
    exact hasks.trans hneither
  · obtain ⟨_, rfl⟩ := yields_pure.mp h
    exact hd₁

theorem refreshToken_sound {token : Nat} {deviceAccepted : Bool}
    (h : Yields (refreshToken config token tenantId deviceAccepted) d a d')
    (hd : Sound config d) : Sound config d' := by
  simp only [refreshToken, yields_bind, yields_get, yields_ensure, yields_required] at h
  obtain ⟨_, _, ⟨rfl, rfl⟩, pair, _, ⟨hpair, rfl⟩, _, _, ⟨halive, rfl⟩, user, _, ⟨hu, rfl⟩, _, _,
    ⟨_, rfl⟩, _, _, ⟨_, rfl⟩, _, _, ⟨_, rfl⟩, h⟩ := h
  rcases yields_ite.mp h with ⟨htoken, h⟩ | ⟨_, h⟩
  · simp only [yields_bind, yields_ensure] at h
    obtain ⟨_, _, ⟨_, rfl⟩, h⟩ := h
    refine issuePair_sound h (fun row hrow => ?_) hd
    cases hu.symm.trans hrow
    obtain ⟨held, hheld, hback⟩ := hd.held pair.userId user token hu htoken
    cases hpair.symm.trans hheld
    exact hback.resolve_left (Nat.not_le_of_lt halive)
  · simp only [yields_bind, yields_modify, yields_pure] at h
    obtain ⟨_, _, rfl, _, rfl⟩ := h
    exact sound_quiet (quiet_modifyUser fun _ => eases_none rfl) hd

theorem verifyAndEnable_sound {setupToken : Nat} {secret token salt : String}
    {backupCodes : List String}
    (h : Yields (verifyAndEnable svc setupToken secret token backupCodes salt) d a d')
    (hway : d.noWayAround svc config (.verifyAndEnable setupToken secret token) = true)
    (hd : Sound config d) : Sound config d' := by
  simp only [verifyAndEnable, yields_bind, yields_get, yields_ensure, yields_required, yields_modify,
    yields_pure] at h
  obtain ⟨_, _, ⟨rfl, rfl⟩, userId, _, ⟨hsetup, rfl⟩, _, _, ⟨_, rfl⟩, _, _, ⟨_, rfl⟩, _, _, rfl, _,
    rfl⟩ := h
  refine ⟨hd.vouched, ?_⟩
  intro i u' t hu' htoken
  obtain ⟨u, hu, rfl⟩ := Table.getElem?_modify_some hu'
  split at htoken
  · next hi =>
    subst hi
    have hheld : u.refreshToken = some t := htoken
    obtain ⟨pair, hpair, hback⟩ := hd.held userId u t hu hheld
    refine ⟨pair, hpair, ?_⟩
    rw [if_pos rfl]
    have hfactor : pair.presented.secondFactor = true ∨
        pair.issuedAt + config.refreshExpirationMs ≤ d.now := by
      simpa [AuthDesk.noWayAround, AuthDesk.holdsNoOlderPair, hsetup, hu, hheld, hpair] using hway
    rcases hfactor with hfactor | hexpired
    · exact hback.imp_right fun hs => ⟨fun _ => hfactor, hs.password⟩
    · exact .inl hexpired
  · next hi =>
    rw [if_neg hi]
    exact hd.held i u t hu htoken

/-! ## 9. One call -/

theorem run_sound {e : AuthEvent} (h : Yields (e.run svc config) d a d')
    (hway : d.noWayAround svc config e.call = true) (hd : Sound config d) : Sound config d' := by
  unfold AuthEvent.run at h
  split at h
  · next hcall => exact login_sound h (hcall ▸ hway) hd
  · next hcall => exact verifyPin_sound h (hcall ▸ hway) hd
  · next hcall => exact verifyLoginOtp_sound h (hcall ▸ hway) hd
  · exact sound_quiet (resendLoginOtp_moves h) hd
  · exact refreshToken_sound h hd
  · exact sound_quiet (logout_moves h) hd
  · exact sound_quiet (requestPasswordResetPin_moves h) hd
  · exact sound_quiet (confirmPasswordResetPin_moves h) hd
  · exact sound_quiet (changePassword_moves h) hd
  · next hcall => exact verifyAndEnable_sound h (hcall ▸ hway) hd
  · exact sound_quiet (regenerateBackupCodes_moves h) hd
  · exact sound_quiet (disable_moves h) hd

theorem sound_step {e : AuthEvent} (hd : Sound config d)
    (horderly : d.orderly svc config e = true) : Sound config (d.step svc config e) := by
  unfold AuthDesk.step
  rcases yields_or_fails (e.run svc config) (d.clock e.time) with ⟨a, d', h⟩ | h
  · rw [commit_of_yields h]
    exact run_sound h horderly (sound_clock hd)
  · rw [commit_of_fails h]
    exact sound_clock hd

end AuthLemmas

open AuthLemmas

/-! ## 10. Every run -/

/-- The users before any pair was issued. -/
def AuthDesk.opening (tenants : List AuthTenant) (users : List AuthUser)
    (pins : PinKey → Slot CodeRecord) (otps : String → Slot CodeRecord) : AuthDesk where
  now := 0
  tenants := tenants
  users := users.map fun u => { u with refreshToken := none }
  pins := pins
  otps := otps
  blocklist := fun _ => none
  setupTokens := []
  pairs := []

namespace AuthLemmas

theorem sound_opening {config : AuthConfig} {tenants : List AuthTenant} {users : List AuthUser}
    {pins : PinKey → Slot CodeRecord} {otps : String → Slot CodeRecord} :
    Sound config (.opening tenants users pins otps) where
  vouched pair hpair := by cases hpair
  held userId u token hu htoken := by
    have hmem := List.mem_of_getElem? hu
    obtain ⟨_, _, rfl⟩ := List.mem_map.mp hmem
    cases htoken

end AuthLemmas

/-- Whoever gets a pair has presented what the user's row asks for, or rotates the pair of somebody
who has, in every run without a way around. -/
theorem pairs_vouched (svc : AuthServices) (config : AuthConfig) (tenants : List AuthTenant)
    (users : List AuthUser) (pins : PinKey → Slot CodeRecord) (otps : String → Slot CodeRecord)
    (events : List AuthEvent)
    (h : Machine.Guarded (AuthDesk.step svc config)
      (fun d e => d.orderly svc config e = true) (.opening tenants users pins otps) events) :
    ((AuthDesk.opening tenants users pins otps).after svc config events).Vouched :=
  (Machine.run_induct (I := Sound config) (fun _ _ hd he => sound_step hd he) sound_opening
    h).vouched

/-! ## 11. Examples -/

/-- Hashes that can be read, and authenticators that show the secret in capitals. -/
def exServices : AuthServices where
  argon2Hash _ password := "hash of " ++ password
  argon2Verify hash password := hash == "hash of " ++ password
  sha256 text := "digest of " ++ text
  verify _ token secret := ⟨token == secret.toUpper⟩

def exAuthConfig : AuthConfig := ⟨false, false, 15 * 60 * 1000, 7 * 24 * 60 * 60 * 1000⟩

/-- A member with a password of his own and an authenticator. -/
def exEnrolled : AuthUser where
  tenantId := "t1"
  email := "asha@example.com"
  phone := some "254700000001"
  phoneNumber := none
  role := .member
  accountStatus := .active
  passwordHash := "hash of Secret-1"
  tempPasswordEncrypted := none
  tempPasswordExpiresAt := none
  mustChangePassword := false
  pinLoginRequired := false
  phoneVerified := true
  emailVerified := true
  lastPasswordChangeAt := 0
  twoFactorEnabled := true
  totpSecret := some "secret"
  backupCodes := []
  refreshToken := none

/-- A tenant where everybody sets up a second factor, and one of its users. -/
def exAuthDesk (u : AuthUser) : AuthDesk :=
  .opening [⟨"t1", .active, true, none, false, none⟩] [u] (fun _ => none) (fun _ => none)

def exAuthEvent (call : AuthCall) : AuthEvent := ⟨0, ⟨"482913", ["abcdef12"], "salt"⟩, call⟩

def exAuthLogin (totpToken : Option String) : AuthEvent :=
  exAuthEvent (.login ⟨some "asha@example.com", none, "Secret-1", totpToken, none⟩ "t1")

theorem pairs_vouched_refreshed :
    ((exAuthDesk exEnrolled).after exServices exAuthConfig
      [exAuthLogin (some "SECRET"), exAuthEvent (.refreshToken 0 "t1" true)]).Vouched :=
  pairs_vouched exServices exAuthConfig [⟨"t1", .active, true, none, false, none⟩] [exEnrolled]
    (fun _ => none) (fun _ => none)
    [exAuthLogin (some "SECRET"), exAuthEvent (.refreshToken 0 "t1" true)] (by decide +kernel)

example : ((exAuthDesk exEnrolled).after exServices exAuthConfig
    [exAuthLogin (some "SECRET"), exAuthEvent (.refreshToken 0 "t1" true)]).pairs.map (·.presented) =
      [⟨true, true⟩, ⟨true, true⟩] := by decide +kernel

/-- Any token logs in; so does a code that was sent to the phone, without a password; and a pair from
before the second factor was set up is refreshed after it. -/
theorem second_factor_bypassed :
    ¬ ((exAuthDesk exEnrolled).after exServices exAuthConfig
      [exAuthLogin (some "000000")]).Vouched ∧
    ¬ ((exAuthDesk { exEnrolled with twoFactorEnabled := false }).after exServices exAuthConfig
      [exAuthEvent (.resendLoginOtp "254700000001" "t1"),
        exAuthEvent (.verifyLoginOtp "254700000001" "482913" "t1")]).Vouched ∧
    ¬ ((exAuthDesk { exEnrolled with twoFactorEnabled := false, mustChangePassword := true }).after
      exServices exAuthConfig
      [exAuthEvent (.resendLoginOtp "254700000001" "t1"),
        exAuthEvent (.verifyLoginOtp "254700000001" "482913" "t1"), exAuthLogin none,
        exAuthEvent (.verifyAndEnable 0 "secret" "SECRET"),
        exAuthEvent (.refreshToken 0 "t1" true)]).Vouched := by
  decide +kernel

end BebaSacco
