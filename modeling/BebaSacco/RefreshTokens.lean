import BebaSacco.Lib.Process
import BebaSacco.Lib.Table
import BebaSacco.Users
import Mathlib.Data.List.Nodup

/-! # Refresh tokens

A user row holds the hash of one refresh token. A login writes the hash of a new one, `refreshToken`
reads the hash, compares it with the token that is presented and writes the hash of the next one,
and a logout, a change of password and a reset clear it. The statements of all calls interleave.

A token is known by the order of issue and the column holds the token that its hash was made of: a
hash matches no other. What a call checks besides is decided by its input.

Results:
 1. `TokenWrite`: what a statement can write.
 2. `sound_step`: one event keeps the tokens single-use if an exchange writes over the hash that it
    compared.
 3. `refresh_tokens_single_use`: in every such run a token is exchanged once, and none that was
    issued before a revocation is exchanged after it, nor any that descends from one.
 4. `refresh_token_survives`: two exchanges at once, and an exchange that crosses a logout.
-/

namespace BebaSacco

open Txn Process

/-- The columns that the calls read; the last one is no column: how many tokens had been issued at
the last logout, change of password or reset. -/
structure TokenUser where
  role : UserRole
  tenantId : String
  accountStatus : AccountStatus
  refreshToken : Option Nat
  revokedBefore : Nat
  deriving DecidableEq, Repr

/-- Whose token it is, and the login it goes back to. -/
structure IssuedToken where
  userId : Nat
  root : Nat
  deriving DecidableEq, Repr

/-- A token that was exchanged, the login it goes back to, and how many tokens had been issued at
the last revocation of its user. -/
structure Exchange where
  token : Nat
  root : Nat
  revokedBefore : Nat
  deriving DecidableEq, Repr

structure TokenDesk where
  users : List TokenUser
  tokens : List IssuedToken
  exchanges : List Exchange
  deriving DecidableEq, Repr

inductive TokenCall where
  | login (userId : Nat)
  | refreshToken (token : Nat) (tenantId : String) (deviceInfo : Bool)
  | logout (userId : Nat)
  | changePassword (userId : Nat) (tenantId : String)
  | confirmPasswordResetPin (userId : Nat)
  deriving DecidableEq, Repr

/-- A call of `refreshToken` past its read of the user. -/
structure Refreshing where
  token : Nat
  tenantId : String
  deviceInfo : Bool
  userId : Nat
  user : TokenUser
  deriving DecidableEq, Repr

inductive TokenTask where
  | findUser (userId : Nat)
  | checkLogin (userId : Nat)
  | writeLogin (userId : Nat)
  | findRefreshed (token : Nat) (tenantId : String) (deviceInfo : Bool)
  | validatePasswordAge (r : Refreshing)
  | revokeSessions (userId : Nat)
  | clearReused (userId : Nat)
  | rotateSession (r : Refreshing)
  | writeRefresh (r : Refreshing)
  | clearLogout (userId : Nat)
  | findChanged (userId : Nat) (tenantId : String)
  | clearChanged (userId : Nat)
  | findReset (userId : Nat)
  | validatePin (userId : Nat)
  | clearReset (userId : Nat)
  deriving DecidableEq, Repr

/-- Whether the checks of the statement that the model leaves open let the call go on: the password,
the second factor and the PIN, the signature and the life of a token, the age of the password and
the device. -/
structure TokenInput where
  allowed : Bool
  deriving DecidableEq, Repr

abbrev TokenWorld := World TokenDesk TokenTask

abbrev TokenEvent := Event TokenCall TokenInput

abbrev TokenTx (α : Type) := Txn TokenDesk AuthErr α

/-- `generateTokens` and the update of the row with the hash. -/
def issueToken (userId root : Nat) : TokenTx Unit :=
  modify fun d =>
    { d with
      users := d.users.modify userId fun u => { u with refreshToken := some d.tokens.length }
      tokens := d.tokens ++ [⟨userId, root⟩] }

/-- The update that a logout, a change of password and a reset make. -/
def revokeToken (userId : Nat) : TokenTx Unit :=
  modify fun d =>
    { d with
      users := d.users.modify userId fun u =>
        { u with refreshToken := none, revokedBefore := d.tokens.length } }

def TokenTask.next : TokenTask → TokenInput → TokenTx (Option TokenTask)
  | .findUser userId, _ => do
    let d ← get
    let user ← required d.users[userId]? (.unauthorized "Invalid credentials")
    ensure (user.accountStatus = .active) (.unauthorized "Invalid credentials")
    return some (.checkLogin userId)
  | .checkLogin userId, input => do
    ensure (input.allowed = true) (.unauthorized "Invalid credentials")
    return some (.writeLogin userId)
  | .writeLogin userId, _ => do
    let d ← get
    issueToken userId d.tokens.length
    return none
  | .findRefreshed token tenantId deviceInfo, input => do
    ensure (input.allowed = true) (.unauthorized "Invalid or expired refresh token")
    let d ← get
    let issued ← required d.tokens[token]? (.unauthorized "Invalid or expired refresh token")
    let user ← required d.users[issued.userId]? (.unauthorized "Invalid refresh token")
    ensure (user.accountStatus = .active ∧ user.refreshToken ≠ none)
      (.unauthorized "Invalid refresh token")
    return some (.validatePasswordAge ⟨token, tenantId, deviceInfo, issued.userId, user⟩)
  | .validatePasswordAge r, input => do
    ensure (input.allowed = true) (.badRequest "Password expired. Please change your password.")
    ensure (r.user.role = .superAdmin ∨ r.user.tenantId = r.tenantId)
      (.unauthorized "Token/tenant mismatch")
    if r.user.refreshToken ≠ some r.token then
      return some (.revokeSessions r.userId)
    else if r.deviceInfo then
      return some (.rotateSession r)
    else
      return some (.writeRefresh r)
  | .revokeSessions userId, _ => return some (.clearReused userId)
  | .clearReused userId, _ => do
    modify fun d =>
      { d with users := d.users.modify userId fun u => { u with refreshToken := none } }
    return none
  | .rotateSession r, input => do
    ensure (input.allowed = true) (.forbidden "Device fingerprint mismatch")
    return some (.writeRefresh r)
  | .writeRefresh r, _ => do
    let d ← get
    let issued ← required d.tokens[r.token]? (.unauthorized "Invalid refresh token")
    let user ← required d.users[r.userId]? (.notFound "Record to update not found.")
    issueToken r.userId issued.root
    modify fun d =>
      { d with exchanges := ⟨r.token, issued.root, user.revokedBefore⟩ :: d.exchanges }
    return none
  | .clearLogout userId, _ => do
    revokeToken userId
    return none
  | .findChanged userId tenantId, input => do
    let d ← get
    let user ← required d.users[userId]? (.unauthorized "User not found")
    ensure (user.role = .superAdmin ∨ user.tenantId = tenantId) (.unauthorized "User not found")
    ensure (input.allowed = true) (.unauthorized "Current password is incorrect")
    return some (.clearChanged userId)
  | .clearChanged userId, _ => do
    revokeToken userId
    return none
  | .findReset userId, input => do
    let d ← get
    let _ ← required d.users[userId]? (.badRequest "Invalid or expired PIN")
    ensure (input.allowed = true) (.badRequest "Invalid or expired PIN")
    return some (.validatePin userId)
  | .validatePin userId, input => do
    ensure (input.allowed = true) (.badRequest "Invalid or expired PIN")
    return some (.clearReset userId)
  | .clearReset userId, _ => do
    revokeToken userId
    return none

def TokenCall.entry : TokenCall → TokenTask
  | .login userId => .findUser userId
  | .refreshToken token tenantId deviceInfo => .findRefreshed token tenantId deviceInfo
  | .logout userId => .clearLogout userId
  | .changePassword userId tenantId => .findChanged userId tenantId
  | .confirmPasswordResetPin userId => .findReset userId

def tokenProgram : Program TokenDesk AuthErr TokenCall TokenInput TokenTask :=
  ⟨TokenCall.entry, TokenTask.next⟩

/-- The users before anybody has logged in. -/
def TokenWorld.opening (users : List TokenUser) : TokenWorld :=
  ⟨⟨users.map fun u => { u with refreshToken := none, revokedBefore := 0 }, [], []⟩, []⟩

def TokenWorld.after (w : TokenWorld) (events : List TokenEvent) : TokenWorld :=
  Machine.run tokenProgram.step w events

/-! ## The property and the condition -/

structure TokenDesk.SingleUse (d : TokenDesk) : Prop where
  once : (d.exchanges.map (·.token)).Nodup
  revoked : ∀ x ∈ d.exchanges, x.revokedBefore ≤ x.root

/-- The condition on an event: an exchange writes over the hash that it has compared. -/
def TokenWorld.overCompared (w : TokenWorld) : TokenEvent → Bool
  | .advance i _ =>
    match w.task i with
    | some (.writeRefresh r) =>
      w.state.users[r.userId]?.all fun user => user.refreshToken == r.user.refreshToken
    | _ => true
  | _ => true

namespace TokenLemmas

variable {w : TokenWorld} {d d' : TokenDesk} {t : TokenTask} {t' : Option TokenTask}
  {input : TokenInput} {e : TokenEvent} {userId : Nat}

/-! ## 1. One statement -/

/-- What a statement writes. -/
inductive TokenWrite (d : TokenDesk) : TokenTask → TokenDesk → Prop
  | nothing {t : TokenTask} : TokenWrite d t d
  | login {t : TokenTask} {userId : Nat} :
      TokenWrite d t
        { d with
          users := d.users.modify userId fun u => { u with refreshToken := some d.tokens.length }
          tokens := d.tokens ++ [⟨userId, d.tokens.length⟩] }
  | refresh {r : Refreshing} {issued : IssuedToken} {user : TokenUser}
      (hissued : d.tokens[r.token]? = some issued) (huser : d.users[r.userId]? = some user) :
      TokenWrite d (.writeRefresh r)
        { users := d.users.modify r.userId fun u => { u with refreshToken := some d.tokens.length }
          tokens := d.tokens ++ [⟨r.userId, issued.root⟩]
          exchanges := ⟨r.token, issued.root, user.revokedBefore⟩ :: d.exchanges }
  | cleared {t : TokenTask} {userId : Nat} :
      TokenWrite d t
        { d with users := d.users.modify userId fun u => { u with refreshToken := none } }
  | revoked {t : TokenTask} {userId : Nat} :
      TokenWrite d t
        { d with
          users := d.users.modify userId fun u =>
            { u with refreshToken := none, revokedBefore := d.tokens.length } }

/-- What a call knows once it has compared: the hash that it read is the one of its token. -/
def Compared : TokenTask → Prop
  | .rotateSession r | .writeRefresh r => r.user.refreshToken = some r.token
  | _ => True

/-- What a statement writes; and only a comparison that succeeds leads to an exchange. -/
theorem next_does (h : Yields (t.next input) d t' d') :
    TokenWrite d t d' ∧ ∀ u, t' = some u → Compared t → Compared u := by
  -- the next point owes no comparison, or has just made it
  have hplain : ∀ {u : TokenTask}, Compared u → ∀ v, some u = some v → Compared t → Compared v := by
    intro u hu v hv _
    cases hv
    exact hu
  have hended : ∀ v, (none : Option TokenTask) = some v → Compared t → Compared v := by
    intro v hv
    cases hv
  cases t with
  | findUser userId =>
    simp only [TokenTask.next, yields_bind, yields_get, yields_required, yields_ensure,
      yields_pure] at h
    obtain ⟨_, _, ⟨rfl, rfl⟩, _, _, ⟨-, rfl⟩, _, _, ⟨-, rfl⟩, rfl, rfl⟩ := h
    exact ⟨.nothing, hplain trivial⟩
  | checkLogin userId =>
    simp only [TokenTask.next, yields_bind, yields_ensure, yields_pure] at h
    obtain ⟨_, _, ⟨-, rfl⟩, rfl, rfl⟩ := h
    exact ⟨.nothing, hplain trivial⟩
  | writeLogin userId =>
    simp only [TokenTask.next, issueToken, yields_bind, yields_get, yields_modify, yields_pure] at h
    obtain ⟨_, _, ⟨rfl, rfl⟩, _, _, rfl, rfl, rfl⟩ := h
    exact ⟨.login, hended⟩
  | findRefreshed token tenantId deviceInfo =>
    simp only [TokenTask.next, yields_bind, yields_get, yields_required, yields_ensure,
      yields_pure] at h
    obtain ⟨_, _, ⟨-, rfl⟩, _, _, ⟨rfl, rfl⟩, _, _, ⟨-, rfl⟩, _, _, ⟨-, rfl⟩, _, _, ⟨-, rfl⟩, rfl,
      rfl⟩ := h
    exact ⟨.nothing, hplain trivial⟩
  | validatePasswordAge r =>
    simp only [TokenTask.next, yields_bind, yields_ensure] at h
    obtain ⟨_, _, ⟨-, rfl⟩, _, _, ⟨-, rfl⟩, h⟩ := h
    split at h
    · obtain ⟨rfl, rfl⟩ := yields_pure.mp h
      exact ⟨.nothing, hplain trivial⟩
    · next heq =>
      split at h
      · obtain ⟨rfl, rfl⟩ := yields_pure.mp h
        exact ⟨.nothing, hplain (not_not.mp heq)⟩
      · obtain ⟨rfl, rfl⟩ := yields_pure.mp h
        exact ⟨.nothing, hplain (not_not.mp heq)⟩
  | revokeSessions userId =>
    obtain ⟨rfl, rfl⟩ := yields_pure.mp h
    exact ⟨.nothing, hplain trivial⟩
  | clearReused userId =>
    simp only [TokenTask.next, yields_bind, yields_modify, yields_pure] at h
    obtain ⟨_, _, rfl, rfl, rfl⟩ := h
    exact ⟨.cleared, hended⟩
  | rotateSession r =>
    simp only [TokenTask.next, yields_bind, yields_ensure, yields_pure] at h
    obtain ⟨_, _, ⟨-, rfl⟩, rfl, rfl⟩ := h
    refine ⟨.nothing, fun u hu hcompared => ?_⟩
    cases hu
    exact hcompared
  | writeRefresh r =>
    simp only [TokenTask.next, issueToken, yields_bind, yields_get, yields_required, yields_modify,
      yields_pure] at h
    obtain ⟨_, _, ⟨rfl, rfl⟩, issued, _, ⟨hissued, rfl⟩, user, _, ⟨huser, rfl⟩, _, _, rfl, _, _, rfl,
      rfl, rfl⟩ := h
    exact ⟨.refresh hissued huser, hended⟩
  | clearLogout userId | clearChanged userId | clearReset userId =>
    simp only [TokenTask.next, revokeToken, yields_bind, yields_modify, yields_pure] at h
    obtain ⟨_, _, rfl, rfl, rfl⟩ := h
    exact ⟨.revoked, hended⟩
  | findChanged userId tenantId =>
    simp only [TokenTask.next, yields_bind, yields_get, yields_required, yields_ensure,
      yields_pure] at h
    obtain ⟨_, _, ⟨rfl, rfl⟩, _, _, ⟨-, rfl⟩, _, _, ⟨-, rfl⟩, _, _, ⟨-, rfl⟩, rfl, rfl⟩ := h
    exact ⟨.nothing, hplain trivial⟩
  | findReset userId =>
    simp only [TokenTask.next, yields_bind, yields_get, yields_required, yields_ensure,
      yields_pure] at h
    obtain ⟨_, _, ⟨rfl, rfl⟩, _, _, ⟨-, rfl⟩, _, _, ⟨-, rfl⟩, rfl, rfl⟩ := h
    exact ⟨.nothing, hplain trivial⟩
  | validatePin userId =>
    simp only [TokenTask.next, yields_bind, yields_ensure, yields_pure] at h
    obtain ⟨_, _, ⟨-, rfl⟩, rfl, rfl⟩ := h
    exact ⟨.nothing, hplain trivial⟩

/-! ## 2. One event -/

/-- The token in a user's column is the user's, descends from a login after the last revocation and
was not exchanged. -/
structure Live (d : TokenDesk) : Prop where
  stored : ∀ (userId token : Nat) (u : TokenUser), d.users[userId]? = some u →
    u.refreshToken = some token →
      token ∉ d.exchanges.map (·.token) ∧
        ∃ root, d.tokens[token]? = some ⟨userId, root⟩ ∧ u.revokedBefore ≤ root
  issued : ∀ x ∈ d.exchanges, x.token < d.tokens.length
  past : ∀ u ∈ d.users, u.revokedBefore ≤ d.tokens.length
  single : d.SingleUse

theorem live_issue (h : Live d) {root : Nat}
    (hroot : ∀ u, d.users[userId]? = some u → u.revokedBefore ≤ root) :
    Live { d with
      users := d.users.modify userId fun u => { u with refreshToken := some d.tokens.length }
      tokens := d.tokens ++ [⟨userId, root⟩] } where
  stored j token u hu htoken := by
    obtain ⟨u₀, hu₀, rfl⟩ := Table.getElem?_modify_some hu
    split at htoken
    · next hj =>
      subst hj
      obtain rfl := Option.some.inj htoken
      refine ⟨fun hmem => ?_, root, Table.getElem?_append_one_self, ?_⟩
      · obtain ⟨x, hx, heq⟩ := List.mem_map.mp hmem
        exact absurd heq (Nat.ne_of_lt (h.issued x hx))
      · rw [if_pos rfl]
        exact hroot u₀ hu₀
    · next hj =>
      obtain ⟨hnot, root', hrow, hle⟩ := h.stored j token u₀ hu₀ htoken
      refine ⟨hnot, root', Table.getElem?_append_one_old hrow, ?_⟩
      rw [if_neg hj]
      exact hle
  issued x hx := by
    rw [List.length_append]
    exact Nat.lt_of_lt_of_le (h.issued x hx) (Nat.le_add_right _ _)
  past := by
    refine Table.forall_modify (fun u hu => ?_) fun _ hu => hu
    rw [List.length_append]
    exact Nat.le_trans (h.past u hu) (Nat.le_add_right _ _)
  single := ⟨h.single.once, h.single.revoked⟩

/-- A token that nobody's column holds any more is exchanged. -/
theorem live_exchange (h : Live d) {x : Exchange} (hissued : x.token < d.tokens.length)
    (hfresh : x.token ∉ d.exchanges.map (·.token)) (hrevoked : x.revokedBefore ≤ x.root)
    (hgone : ∀ u ∈ d.users, u.refreshToken ≠ some x.token) :
    Live { d with exchanges := x :: d.exchanges } where
  stored j token u hu htoken := by
    obtain ⟨hnot, hrow⟩ := h.stored j token u hu htoken
    refine ⟨fun hmem => ?_, hrow⟩
    rcases List.mem_cons.mp hmem with heq | hmem
    · exact hgone u (List.mem_of_getElem? hu) (htoken.trans (congrArg some heq))
    · exact hnot hmem
  issued y hy := by
    rcases List.mem_cons.mp hy with rfl | hy
    · exact hissued
    · exact h.issued y hy
  past := h.past
  single := by
    refine ⟨List.nodup_cons.mpr ⟨hfresh, h.single.once⟩, fun y hy => ?_⟩
    rcases List.mem_cons.mp hy with rfl | hy
    · exact hrevoked
    · exact h.single.revoked y hy

theorem live_clear (h : Live d) {f : TokenUser → TokenUser} (hf : ∀ u, (f u).refreshToken = none)
    (hpast : ∀ u ∈ d.users, (f u).revokedBefore ≤ d.tokens.length) :
    Live { d with users := d.users.modify userId f } where
  stored j token u hu htoken := by
    obtain ⟨u₀, hu₀, rfl⟩ := Table.getElem?_modify_some hu
    split at htoken
    · cases (hf u₀).symm.trans htoken
    · next hj =>
      obtain ⟨hnot, root, hrow, hle⟩ := h.stored j token u₀ hu₀ htoken
      refine ⟨hnot, root, hrow, ?_⟩
      rw [if_neg hj]
      exact hle
  issued := h.issued
  past := by
    intro u hu
    obtain ⟨j, hj⟩ := List.mem_iff_getElem?.mp hu
    obtain ⟨u₀, hu₀, rfl⟩ := Table.getElem?_modify_some hj
    have hmem := List.mem_of_getElem? hu₀
    split
    · exact hpast u₀ hmem
    · exact h.past u₀ hmem
  single := ⟨h.single.once, h.single.revoked⟩

/-- An exchange of the token that the user's column holds. -/
theorem live_refresh (h : Live d) {token : Nat} {issued : IssuedToken} {user : TokenUser}
    (hissued : d.tokens[token]? = some issued) (huser : d.users[userId]? = some user)
    (hstored : user.refreshToken = some token) :
    Live
      { users := d.users.modify userId fun u => { u with refreshToken := some d.tokens.length }
        tokens := d.tokens ++ [⟨userId, issued.root⟩]
        exchanges := ⟨token, issued.root, user.revokedBefore⟩ :: d.exchanges } := by
  obtain ⟨hfresh, root, hrow, hle⟩ := h.stored userId token user huser hstored
  obtain rfl := Option.some.inj (hissued.symm.trans hrow)
  have hlt := Table.lt_length_of_getElem? hrow
  have hnext : Live { d with
      users := d.users.modify userId fun u => { u with refreshToken := some d.tokens.length }
      tokens := d.tokens ++ [⟨userId, root⟩] } := by
    refine live_issue h fun u hu => ?_
    obtain rfl := Option.some.inj (huser.symm.trans hu)
    exact hle
  refine live_exchange hnext (x := ⟨token, root, user.revokedBefore⟩) ?_ hfresh hle ?_
  · rw [List.length_append]
    exact Nat.lt_of_lt_of_le hlt (Nat.le_add_right _ _)
  · intro u hu htoken
    obtain ⟨j, hj⟩ := List.mem_iff_getElem?.mp hu
    obtain ⟨u₀, hu₀, rfl⟩ := Table.getElem?_modify_some hj
    split at htoken
    · exact absurd (Option.some.inj htoken) (Nat.ne_of_gt hlt)
    · next hother =>
      obtain ⟨-, root', hrow', -⟩ := h.stored j token u₀ hu₀ htoken
      cases hrow.symm.trans hrow'
      exact hother rfl

def Sound (w : TokenWorld) : Prop := Upheld Live (fun _ t => Compared t) w

/-- An event keeps the tokens single-use if an exchange writes over the hash that it compared. -/
theorem sound_step (h : Sound w) (hover : w.overCompared e = true) :
    Sound (tokenProgram.step w e) := by
  refine upheld_step h (fun a _ => ?_) fun i input t t' d' he hat hy => ?_
  · cases a <;> trivial
  · subst he
    obtain ⟨hwrite, hown⟩ := next_does hy
    refine ⟨?_, fun u hu => hown u hu (h.tasks i t hat), fun _ _ _ _ hu => hu⟩
    have hlive := h.state
    cases hwrite with
    | nothing => exact hlive
    | login =>
      refine live_issue hlive fun u hu => hlive.past u (List.mem_of_getElem? hu)
    | refresh hissued huser =>
      refine live_refresh hlive hissued huser ?_
      have hcompared := h.tasks i _ hat
      unfold TokenWorld.overCompared at hover
      simp only [task_some.mpr hat, huser, Option.all_some] at hover
      exact (eq_of_beq hover).trans hcompared
    | cleared => exact live_clear hlive (fun _ => rfl) hlive.past
    | revoked => exact live_clear hlive (fun _ => rfl) fun _ _ => Nat.le_refl _

theorem sound_opening (users : List TokenUser) : Sound (TokenWorld.opening users) where
  state := by
    have hrow : ∀ u ∈ (TokenWorld.opening users).state.users,
        u.refreshToken = none ∧ u.revokedBefore = 0 := by
      intro u hu
      obtain ⟨_, -, rfl⟩ := List.mem_map.mp hu
      exact ⟨rfl, rfl⟩
    refine ⟨fun j token u hu htoken => ?_, fun x hx => ?_, fun u hu => ?_, List.nodup_nil,
      fun x hx => ?_⟩
    · cases (hrow u (List.mem_of_getElem? hu)).1.symm.trans htoken
    · cases hx
    · exact Nat.le_of_eq (hrow u hu).2
    · cases hx
  tasks _ _ ht := by cases ht

end TokenLemmas

open TokenLemmas

/-! ## 3. Runs -/

/-- If every exchange writes over the hash that it compared, a token is exchanged once at most, and
every exchange after a logout, a change of password or a reset is of a token that goes back to a
login after it. -/
theorem refresh_tokens_single_use (users : List TokenUser) (events : List TokenEvent)
    (h : Machine.Guarded tokenProgram.step (fun w e => TokenWorld.overCompared w e = true)
      (TokenWorld.opening users) events) :
    ((TokenWorld.opening users).after events).state.SingleUse :=
  (Machine.run_induct (fun _ _ => sound_step) (sound_opening users) h).state.single

/-- A member of a tenant. -/
def exTokenUser : TokenUser := ⟨.member, "t1", .active, none, 0⟩

/-- A statement whose checks pass. -/
def exAllowed (i : Nat) : TokenEvent := .advance i ⟨true⟩

theorem refresh_tokens_single_use_logout :
    ((TokenWorld.opening [exTokenUser]).after
      [.start (.login 0), exAllowed 0, exAllowed 0, exAllowed 0,
        .start (.refreshToken 0 "t1" false), exAllowed 1, exAllowed 1, exAllowed 1,
        .start (.logout 0), exAllowed 2]).state.SingleUse :=
  refresh_tokens_single_use [exTokenUser] _ (by decide +kernel)

/-- Two exchanges of one token both compare before either writes. An exchange that has compared
writes after the logout has completed, and the token that it issued is exchanged in turn. -/
theorem refresh_token_survives :
    let login : List TokenEvent := [.start (.login 0), exAllowed 0, exAllowed 0, exAllowed 0]
    let compared (i token : Nat) : List TokenEvent :=
      [.start (.refreshToken token "t1" false), exAllowed i, exAllowed i]
    let world (events : List TokenEvent) :=
      (TokenWorld.opening [exTokenUser]).after (login ++ events)
    (world (compared 1 0 ++ compared 2 0 ++ [exAllowed 1, exAllowed 2])).state.exchanges =
        [⟨0, 0, 0⟩, ⟨0, 0, 0⟩] ∧
      (world (compared 1 0 ++ [.start (.logout 0), exAllowed 2, exAllowed 1] ++ compared 3 1 ++
        [exAllowed 3])).state.exchanges = [⟨1, 0, 1⟩, ⟨0, 0, 1⟩] := by
  decide +kernel

end BebaSacco
