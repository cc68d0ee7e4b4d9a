import BebaSacco.Lib.Process
import BebaSacco.Lib.Table
import BebaSacco.Users
import Mathlib.Data.List.Forall2
import Mathlib.Data.List.Nodup
import Mathlib.Data.Rat.Floor

/-! # Refresh sessions

`createSession` counts the sessions of a user, revokes the oldest when there are three, and inserts
one; `rotateSession` reads a session, checks and revokes it and creates its successor. The database
statements of all calls interleave, and the time of each comes with the event, so that sessions
expire in between.

Results:
 1. `activeCount_fades`: what expires or is revoked is counted no more.
 2. `limited_step`: one event keeps the limit when a count is followed by its insert before another
    one starts and the session that is evicted has not expired.
 3. `sessions_limited_and_rotated_once`: the limit and the single rotation in every such run, and the
    reuse that revokes everything in every run.
 4. `sessions_exceeded`: an expired session in the way, two logins at once and two rotations at once.
-/

namespace BebaSacco

open Txn Process

structure DeviceInfo where
  userAgent : Option String
  timezone : Option String
  screenRes : Option String
  deriving DecidableEq, Repr

structure RefreshSession where
  userId : String
  deviceId : String
  fingerprint : String
  expiresAt : Int
  isRevoked : Bool
  createdAt : Int
  deriving DecidableEq, Repr

def MAX_CONCURRENT_SESSIONS : Nat := 3

def REFRESH_TOKEN_TTL_DAYS : Int := 7

/-- The time, the rows by their ids and the sessions whose rotation succeeded. -/
structure SessionDesk where
  now : Int
  sessions : List RefreshSession
  rotated : List Nat
  deriving DecidableEq, Repr

/-- The arguments of `createSession`, with the session that it succeeds, if `rotateSession` makes the
call. -/
structure CreateSession where
  userId : String
  deviceInfo : DeviceInfo
  rotating : Option Nat
  deriving DecidableEq, Repr

structure RotateSession where
  sessionId : Nat
  userId : String
  deviceInfo : DeviceInfo
  deriving DecidableEq, Repr

/-- Where a call is; the audit events are statements of their own. -/
inductive SessionTask where
  | findTenant (c : CreateSession)
  | countActive (c : CreateSession) (expiresAt : Int)
  | findOldest (c : CreateSession) (expiresAt : Int)
  | revokeOldest (c : CreateSession) (expiresAt : Int) (oldest : Nat)
  | insert (c : CreateSession) (expiresAt : Int)
  | auditCreated (c : CreateSession)
  | findRotated (r : RotateSession)
  | revokeAll (userId : String)
  | auditReuse
  | auditMismatch
  | revokeRotated (r : RotateSession) (session : RefreshSession)
  | auditRotated (sessionId : Nat)
  | findRevocable (sessionId : Nat) (userId : String)
  | revoke (sessionId : Nat)
  | auditRevoked
  deriving DecidableEq, Repr

inductive SessionCall where
  | createSession (userId : String) (deviceInfo : DeviceInfo)
  | rotateSession (r : RotateSession)
  | revokeSession (sessionId : Nat) (userId : String)
  deriving DecidableEq, Repr

/-- The time of a statement, and what the settings of the tenant say when they are read. -/
structure SessionInput where
  time : Int
  sessionTimeoutMinutes : Option ℚ
  deriving DecidableEq, Repr

abbrev SessionWorld := World SessionDesk SessionTask

abbrev SessionEvent := Event SessionCall SessionInput

/-- `getSessionExpiryDate` -/
def getSessionExpiryDate (now : Int) (sessionTimeoutMinutes : Option ℚ) : Int :=
  match sessionTimeoutMinutes.filter (0 < ·) with
  | some timeoutMinutes => now + ⌊timeoutMinutes * 60 * 1000⌋
  | none => now + REFRESH_TOKEN_TTL_DAYS * 24 * 60 * 60 * 1000

/-- The row is unrevoked and belongs to the user. -/
def RefreshSession.unrevoked (userId : String) (s : RefreshSession) : Bool :=
  s.userId == userId && !s.isRevoked

/-- The row is unrevoked and unexpired and belongs to the user. -/
def RefreshSession.active (userId : String) (now : Int) (s : RefreshSession) : Bool :=
  s.unrevoked userId && now < s.expiresAt

def RefreshSession.revoke (s : RefreshSession) : RefreshSession := { s with isRevoked := true }

def activeCount (sessions : List RefreshSession) (userId : String) (now : Int) : Nat :=
  sessions.countP (·.active userId now)

/-- `findFirst` with `orderBy: { createdAt: 'asc' }` -/
def earliest : List (Nat × RefreshSession) → Option (Nat × RefreshSession)
  | [] => none
  | row :: rows =>
    match earliest rows with
    | none => some row
    | some other => if other.2.createdAt < row.2.createdAt then some other else some row

def oldestUnrevoked (sessions : List RefreshSession) (userId : String) :
    Option (Nat × RefreshSession) :=
  earliest (Table.selectRows (·.unrevoked userId) sessions)

section

variable (sha256 : String → String)

def generateDeviceId (info : DeviceInfo) : String :=
  sha256 ("|".intercalate
    [info.userAgent.getD "unknown", info.timezone.getD "UTC", info.screenRes.getD "1920x1080"])

def sessionFingerprint (info : DeviceInfo) : String :=
  let agent := (info.userAgent.map fun s => String.ofList (s.toList.take 50)).getD "unknown"
  let timezone := info.timezone.getD "UTC"
  s!"{agent} | {timezone}"

/-- One statement of a call, at its time. -/
def SessionTask.statement (input : SessionInput) :
    SessionTask → Txn SessionDesk AuthErr (Option SessionTask)
  | .findTenant c => do
    let d ← get
    return some (.countActive c (getSessionExpiryDate d.now input.sessionTimeoutMinutes))
  | .countActive c expiresAt => do
    let d ← get
    if MAX_CONCURRENT_SESSIONS ≤ activeCount d.sessions c.userId d.now then
      return some (.findOldest c expiresAt)
    else
      return some (.insert c expiresAt)
  | .findOldest c expiresAt => do
    let d ← get
    match oldestUnrevoked d.sessions c.userId with
    | some (oldest, _) => return some (.revokeOldest c expiresAt oldest)
    | none => return some (.insert c expiresAt)
  | .revokeOldest c expiresAt oldest => do
    modify fun d => { d with sessions := d.sessions.modify oldest (·.revoke) }
    return some (.insert c expiresAt)
  | .insert c expiresAt => do
    modify fun d =>
      { d with
        sessions := d.sessions ++
          [{ userId := c.userId
             deviceId := generateDeviceId sha256 c.deviceInfo
             fingerprint := sessionFingerprint c.deviceInfo
             expiresAt
             isRevoked := false
             createdAt := d.now }] }
    return some (.auditCreated c)
  | .auditCreated c => return c.rotating.map .auditRotated
  | .findRotated r => do
    let d ← get
    let session ← required d.sessions[r.sessionId]? (.unauthorized "Invalid session")
    ensure (session.userId = r.userId) (.unauthorized "Invalid session")
    if session.isRevoked then
      return some (.revokeAll r.userId)
    else do
      ensure (¬ session.expiresAt < d.now) (.unauthorized "Session expired")
      if session.deviceId ≠ generateDeviceId sha256 r.deviceInfo then
        return some .auditMismatch
      else
        return some (.revokeRotated r session)
  | .revokeAll userId => do
    modify fun d =>
      { d with sessions := d.sessions.map fun s => if s.userId == userId then s.revoke else s }
    return some .auditReuse
  | .auditReuse => throw (.unauthorized "Session reuse detected – all sessions revoked")
  | .auditMismatch => throw (.forbidden "Device fingerprint mismatch")
  | .revokeRotated r _ => do
    modify fun d => { d with sessions := d.sessions.modify r.sessionId (·.revoke) }
    return some (.findTenant ⟨r.userId, r.deviceInfo, some r.sessionId⟩)
  | .auditRotated sessionId => do
    -- the call returns the id of the new session
    modify fun d => { d with rotated := sessionId :: d.rotated }
    return none
  | .findRevocable sessionId userId => do
    let d ← get
    let session ← required d.sessions[sessionId]? (.unauthorized "Session not found")
    ensure (session.userId = userId) (.unauthorized "Session not found")
    return some (.revoke sessionId)
  | .revoke sessionId => do
    modify fun d => { d with sessions := d.sessions.modify sessionId (·.revoke) }
    return some .auditRevoked
  | .auditRevoked => return none

def SessionTask.next (t : SessionTask) (input : SessionInput) :
    Txn SessionDesk AuthErr (Option SessionTask) := do
  modify fun d => { d with now := max d.now input.time }
  t.statement sha256 input

def SessionCall.entry : SessionCall → SessionTask
  | .createSession userId deviceInfo => .findTenant ⟨userId, deviceInfo, none⟩
  | .rotateSession r => .findRotated r
  | .revokeSession sessionId userId => .findRevocable sessionId userId

def sessionProgram : Program SessionDesk AuthErr SessionCall SessionInput SessionTask :=
  ⟨SessionCall.entry, SessionTask.next sha256⟩

def SessionWorld.opening (now : Int) : SessionWorld := ⟨⟨now, [], []⟩, []⟩

def SessionWorld.after (w : SessionWorld) (events : List SessionEvent) : SessionWorld :=
  Machine.run (sessionProgram sha256).step w events

end

/-! ## 1. The properties and the condition -/

/-- The user whose session the call is about to insert, having counted. -/
def SessionTask.inserting : SessionTask → Option String
  | .findOldest c _ | .revokeOldest c _ _ | .insert c _ => some c.userId
  | _ => none

/-- The session whose rotation the call is in, having revoked it. -/
def SessionTask.rotates : SessionTask → Option Nat
  | .findTenant c | .countActive c _ | .findOldest c _ | .revokeOldest c _ _ | .insert c _
  | .auditCreated c => c.rotating
  | .auditRotated sessionId => some sessionId
  | _ => none

/-- The condition on an event: nobody else stands between a count and its insert for the user whose
sessions are counted, the session that is picked for eviction has not expired, and the session that
a rotation revokes is as revoked as it was read. -/
def SessionWorld.orderly (w : SessionWorld) : SessionEvent → Bool
  | .advance i input =>
    let now := max w.state.now input.time
    match w.task i with
    | some (.countActive c _) =>
      w.tasks.all (·.all fun t => t.inserting != some c.userId)
    | some (.findOldest c _) =>
      (oldestUnrevoked w.state.sessions c.userId).all fun row => now < row.2.expiresAt
    | some (.revokeRotated r session) =>
      w.state.sessions[r.sessionId]?.all (·.isRevoked == session.isRevoked)
    | _ => true
  | _ => true

namespace SessionLemmas

variable {sha256 : String → String} {w : SessionWorld} {d d' : SessionDesk} {t : SessionTask}
  {t' : Option SessionTask} {input : SessionInput} {e : SessionEvent} {userId : String} {now : Int}

/-! ## 2. Sessions that expire or are revoked -/

/-- The row later on, when nobody can make it active again. -/
structure FadesTo (s s' : RefreshSession) : Prop where
  userId : s'.userId = s.userId
  expiresAt : s'.expiresAt = s.expiresAt
  isRevoked : s.isRevoked = true → s'.isRevoked = true

theorem fades_refl (s : RefreshSession) : FadesTo s s := ⟨rfl, rfl, id⟩

theorem fades_revoke (s : RefreshSession) : FadesTo s s.revoke := ⟨rfl, rfl, fun _ => rfl⟩

def Fades : List RefreshSession → List RefreshSession → Prop := List.Forall₂ FadesTo

variable {rows rows' : List RefreshSession} {k : Nat} {s s' : RefreshSession}

theorem fades_rows (rows : List RefreshSession) : Fades rows rows :=
  List.forall₂_same.mpr fun s _ => fades_refl s

theorem fades_modify (rows : List RefreshSession) (k : Nat) :
    Fades rows (rows.modify k (·.revoke)) := by
  induction rows generalizing k with
  | nil =>
    rw [List.modify_nil]
    exact .nil
  | cons s rows ih =>
    cases k with
    | zero => exact .cons (fades_revoke s) (fades_rows rows)
    | succ k => exact .cons (fades_refl s) (ih k)

theorem fades_revokeAll (rows : List RefreshSession) (userId : String) :
    Fades rows (rows.map fun s => if s.userId == userId then s.revoke else s) := by
  induction rows with
  | nil => exact .nil
  | cons s rows ih =>
    refine .cons ?_ ih
    beta_reduce
    split
    · exact fades_revoke s
    · exact fades_refl s

theorem fades_getElem? (h : Fades rows rows') (hk : rows[k]? = some s) :
    ∃ s', rows'[k]? = some s' ∧ FadesTo s s' := by
  induction h generalizing k with
  | nil => cases hk
  | cons hs _ ih =>
    cases k with
    | zero =>
      cases hk
      exact ⟨_, rfl, hs⟩
    | succ k => exact ih hk

theorem active_fades {now' : Int} (h : FadesTo s s') (hle : now ≤ now')
    (hactive : s'.active userId now' = true) : s.active userId now = true := by
  unfold RefreshSession.active RefreshSession.unrevoked at *
  rw [h.userId, h.expiresAt] at hactive
  simp only [Bool.and_eq_true, Bool.not_eq_true', decide_eq_true_eq] at hactive ⊢
  obtain ⟨⟨huser, hrevoked⟩, hlt⟩ := hactive
  refine ⟨⟨huser, ?_⟩, Int.lt_of_le_of_lt hle hlt⟩
  by_contra hnot
  rw [Bool.not_eq_false] at hnot
  cases (h.isRevoked hnot).symm.trans hrevoked

/-- What expires or is revoked is counted no more, and nothing else is counted. -/
theorem activeCount_fades {now' : Int} (h : Fades rows rows') (hle : now ≤ now') :
    activeCount rows' userId now' ≤ activeCount rows userId now := by
  unfold activeCount
  induction h with
  | nil => exact Nat.le_refl 0
  | @cons s s' _ _ hs _ ih =>
    by_cases hactive : s'.active userId now' = true
    · rw [List.countP_cons_of_pos hactive, List.countP_cons_of_pos (active_fades hs hle hactive)]
      exact Nat.succ_le_succ ih
    · rw [List.countP_cons_of_neg hactive, List.countP_cons]
      exact Nat.le_trans ih (Nat.le_add_right _ _)

/-- A session that is active no more lowers the count. -/
theorem activeCount_drops {now' : Int} (h : Fades rows rows') (hle : now ≤ now')
    (hk : rows[k]? = some s) (hs : s.active userId now = true) (hk' : rows'[k]? = some s')
    (hs' : s'.active userId now' = false) :
    activeCount rows' userId now' + 1 ≤ activeCount rows userId now := by
  induction h generalizing k with
  | nil => cases hk
  | @cons a a' _ _ ha hrest ih =>
    unfold activeCount at ih ⊢
    cases k with
    | zero =>
      cases hk
      cases hk'
      rw [List.countP_cons_of_pos hs, List.countP_cons_of_neg (by rw [hs']; exact Bool.false_ne_true)]
      exact Nat.succ_le_succ (activeCount_fades hrest hle)
    | succ k =>
      have hless := ih hk hk'
      by_cases hactive : a'.active userId now' = true
      · rw [List.countP_cons_of_pos hactive, List.countP_cons_of_pos (active_fades ha hle hactive)]
        exact Nat.succ_le_succ hless
      · rw [List.countP_cons_of_neg hactive, List.countP_cons]
        exact Nat.le_trans hless (Nat.le_add_right _ _)

theorem activeCount_append :
    activeCount (rows ++ [s]) userId now ≤ activeCount rows userId now + 1 := by
  unfold activeCount
  rw [List.countP_append]
  exact Nat.add_le_add_left List.countP_le_length _

theorem activeCount_append_other (h : s.userId ≠ userId) :
    activeCount (rows ++ [s]) userId now = activeCount rows userId now := by
  have hnot : s.active userId now = false := by
    unfold RefreshSession.active RefreshSession.unrevoked
    rw [beq_eq_false_iff_ne.mpr h, Bool.false_and, Bool.false_and]
  unfold activeCount
  rw [List.countP_append, List.countP_singleton, hnot, if_neg Bool.false_ne_true]
  rfl

theorem earliest_mem {rows : List (Nat × RefreshSession)} {row : Nat × RefreshSession}
    (h : earliest rows = some row) : row ∈ rows := by
  induction rows generalizing row with
  | nil => cases h
  | cons first rows ih =>
    unfold earliest at h
    split at h
    · cases h
      exact List.mem_cons_self
    · next other hother =>
      split at h
      · cases h
        exact List.mem_cons_of_mem _ (ih hother)
      · cases h
        exact List.mem_cons_self

theorem earliest_none {rows : List (Nat × RefreshSession)} (h : earliest rows = none) :
    rows = [] := by
  cases rows with
  | nil => rfl
  | cons first rows =>
    unfold earliest at h
    split at h
    · cases h
    · split at h <;> cases h

theorem oldest_some {oldest : Nat} (h : oldestUnrevoked rows userId = some (oldest, s)) :
    rows[oldest]? = some s ∧ s.unrevoked userId = true :=
  Table.mem_selectRows.mp (earliest_mem h)

/-- A user without an unrevoked session has no active one. -/
theorem oldest_none (h : oldestUnrevoked rows userId = none) : activeCount rows userId now = 0 := by
  refine List.countP_eq_zero.mpr fun s hs hactive => ?_
  obtain ⟨k, hk⟩ := List.getElem?_of_mem hs
  have hmem := Table.mem_selectRows.mpr ⟨hk, (Bool.and_eq_true_iff.mp hactive).1⟩
  rw [earliest_none h] at hmem
  cases hmem

/-! ## 3. One statement -/

/-- What a statement does to the desk, at its time, and where it leads. -/
inductive SessionMove (d : SessionDesk) : SessionTask → Option SessionTask → SessionDesk → Prop
  | reads {t : SessionTask} {t' : Option SessionTask}
      (hinserting : ∀ u, t' = some u → u.inserting = none)
      (hrotates : ∀ u k, t' = some u → u.rotates = some k → t.rotates = some k)
      (hrow : ∀ r s, t' = some (.revokeRotated r s) →
        r.sessionId < d.sessions.length ∧ s.isRevoked = false) :
      SessionMove d t t' d
  | counted {c : CreateSession} {expiresAt : Int} :
      SessionMove d (.countActive c expiresAt) (some (.findOldest c expiresAt)) d
  | admitted {c : CreateSession} {expiresAt : Int}
      (h : activeCount d.sessions c.userId d.now < MAX_CONCURRENT_SESSIONS) :
      SessionMove d (.countActive c expiresAt) (some (.insert c expiresAt)) d
  | picked {c : CreateSession} {expiresAt : Int} {k : Nat} {s : RefreshSession}
      (h : oldestUnrevoked d.sessions c.userId = some (k, s)) :
      SessionMove d (.findOldest c expiresAt) (some (.revokeOldest c expiresAt k)) d
  | absent {c : CreateSession} {expiresAt : Int}
      (h : oldestUnrevoked d.sessions c.userId = none) :
      SessionMove d (.findOldest c expiresAt) (some (.insert c expiresAt)) d
  | evicted {c : CreateSession} {expiresAt : Int} {k : Nat} :
      SessionMove d (.revokeOldest c expiresAt k) (some (.insert c expiresAt))
        { d with sessions := d.sessions.modify k (·.revoke) }
  | inserted {c : CreateSession} {expiresAt : Int} {s : RefreshSession} (h : s.userId = c.userId) :
      SessionMove d (.insert c expiresAt) (some (.auditCreated c))
        { d with sessions := d.sessions ++ [s] }
  | revokedAll {userId : String} :
      SessionMove d (.revokeAll userId) (some .auditReuse)
        { d with
          sessions := d.sessions.map fun s => if s.userId == userId then s.revoke else s }
  | revokedRotated {r : RotateSession} {s : RefreshSession} :
      SessionMove d (.revokeRotated r s)
        (some (.findTenant ⟨r.userId, r.deviceInfo, some r.sessionId⟩))
        { d with sessions := d.sessions.modify r.sessionId (·.revoke) }
  | completed {sessionId : Nat} :
      SessionMove d (.auditRotated sessionId) none { d with rotated := sessionId :: d.rotated }
  | revoked {sessionId : Nat} :
      SessionMove d (.revoke sessionId) (some .auditRevoked)
        { d with sessions := d.sessions.modify sessionId (·.revoke) }

theorem statement_moves (h : Yields (t.statement sha256 input) d t' d') : SessionMove d t t' d' := by
  cases t with
  | findTenant c =>
    simp only [SessionTask.statement, yields_bind, yields_get, yields_pure] at h
    obtain ⟨_, _, ⟨rfl, rfl⟩, rfl, rfl⟩ := h
    exact .reads (fun u hu => by cases hu; rfl) (fun u k hu hk => by cases hu; exact hk)
      fun r s hr => by cases hr
  | countActive c expiresAt =>
    simp only [SessionTask.statement, yields_bind, yields_get] at h
    obtain ⟨_, _, ⟨rfl, rfl⟩, h⟩ := h
    -- the count, the pick and the login that was let in decide what the next statement may do
    split at h
    · obtain ⟨rfl, rfl⟩ := yields_pure.mp h
      exact .counted
    · next hlt =>
      obtain ⟨rfl, rfl⟩ := yields_pure.mp h
      exact .admitted (Nat.lt_of_not_le hlt)
  | findOldest c expiresAt =>
    simp only [SessionTask.statement, yields_bind, yields_get] at h
    obtain ⟨_, _, ⟨rfl, rfl⟩, h⟩ := h
    split at h
    · next hsome =>
      obtain ⟨rfl, rfl⟩ := yields_pure.mp h
      exact .picked hsome
    · next hnone =>
      obtain ⟨rfl, rfl⟩ := yields_pure.mp h
      exact .absent hnone
  | revokeOldest c expiresAt oldest =>
    simp only [SessionTask.statement, yields_bind, yields_modify, yields_pure] at h
    obtain ⟨_, _, rfl, rfl, rfl⟩ := h
    exact .evicted
  | insert c expiresAt =>
    simp only [SessionTask.statement, yields_bind, yields_modify, yields_pure] at h
    obtain ⟨_, _, rfl, rfl, rfl⟩ := h
    exact .inserted rfl
  | auditCreated c =>
    obtain ⟨rfl, rfl⟩ := yields_pure.mp h
    refine .reads (fun u hu => ?_) (fun u k hu hk => ?_) fun r s hr => ?_
    · obtain ⟨_, -, rfl⟩ := Option.map_eq_some_iff.mp hu
      rfl
    · obtain ⟨sessionId, hsession, rfl⟩ := Option.map_eq_some_iff.mp hu
      cases hk
      exact hsession
    · obtain ⟨_, -, hnot⟩ := Option.map_eq_some_iff.mp hr
      cases hnot
  | findRotated r =>
    simp only [SessionTask.statement, yields_bind, yields_get, yields_required, yields_ensure] at h
    obtain ⟨_, _, ⟨rfl, rfl⟩, session, _, ⟨hsession, rfl⟩, _, _, ⟨-, rfl⟩, h⟩ := h
    have hlt := Table.lt_length_of_getElem? hsession
    have hpure : ∃ u, t' = some u ∧ d' = d ∧ u.inserting = none ∧ u.rotates = none ∧
        ∀ r' s, u = .revokeRotated r' s → r' = r ∧ s.isRevoked = false := by
      split at h
      · obtain ⟨rfl, rfl⟩ := yields_pure.mp h
        exact ⟨_, rfl, rfl, rfl, rfl, fun _ _ hu => by cases hu⟩
      · next hrevoked =>
        simp only [yields_bind, yields_ensure] at h
        obtain ⟨_, _, ⟨-, rfl⟩, h⟩ := h
        split at h
        · obtain ⟨rfl, rfl⟩ := yields_pure.mp h
          exact ⟨_, rfl, rfl, rfl, rfl, fun _ _ hu => by cases hu⟩
        · obtain ⟨rfl, rfl⟩ := yields_pure.mp h
          refine ⟨_, rfl, rfl, rfl, rfl, fun _ _ hu => ?_⟩
          cases hu
          exact ⟨rfl, Bool.not_eq_true _ ▸ hrevoked⟩
    obtain ⟨u, rfl, rfl, hinserting, hrotates, hrow⟩ := hpure
    refine .reads (fun v hv => ?_) (fun v k hv hk => ?_) fun r' s hr' => ?_
    · cases hv
      exact hinserting
    · cases hv
      cases hrotates.symm.trans hk
    · obtain ⟨rfl, hunrevoked⟩ := hrow r' s (Option.some.inj hr')
      exact ⟨hlt, hunrevoked⟩
  | revokeAll userId =>
    simp only [SessionTask.statement, yields_bind, yields_modify, yields_pure] at h
    obtain ⟨_, _, rfl, rfl, rfl⟩ := h
    exact .revokedAll
  | auditReuse => exact (yields_throw.mp h).elim
  | auditMismatch => exact (yields_throw.mp h).elim
  | revokeRotated r s =>
    simp only [SessionTask.statement, yields_bind, yields_modify, yields_pure] at h
    obtain ⟨_, _, rfl, rfl, rfl⟩ := h
    exact .revokedRotated
  | auditRotated sessionId =>
    simp only [SessionTask.statement, yields_bind, yields_modify, yields_pure] at h
    obtain ⟨_, _, rfl, rfl, rfl⟩ := h
    exact .completed
  | findRevocable sessionId userId =>
    simp only [SessionTask.statement, yields_bind, yields_get, yields_required, yields_ensure,
      yields_pure] at h
    obtain ⟨_, _, ⟨rfl, rfl⟩, _, _, ⟨-, rfl⟩, _, _, ⟨-, rfl⟩, rfl, rfl⟩ := h
    exact .reads (fun u hu => by cases hu; rfl) (fun u k hu hk => by cases hu; cases hk)
      fun r s hr => by cases hr
  | revoke sessionId =>
    simp only [SessionTask.statement, yields_bind, yields_modify, yields_pure] at h
    obtain ⟨_, _, rfl, rfl, rfl⟩ := h
    exact .revoked
  | auditRevoked =>
    obtain ⟨rfl, rfl⟩ := yields_pure.mp h
    exact .reads (fun u hu => by cases hu) (fun u k hu => by cases hu) fun r s hr => by cases hr

theorem next_moves (h : Yields (t.next sha256 input) d t' d') :
    SessionMove { d with now := max d.now input.time } t t' d' := by
  simp only [SessionTask.next, yields_bind, yields_modify] at h
  obtain ⟨_, _, rfl, h⟩ := h
  exact statement_moves h

/-! ## 4. The limit -/

def Within (d : SessionDesk) : Prop :=
  ∀ userId, activeCount d.sessions userId d.now ≤ MAX_CONCURRENT_SESSIONS

/-- The room that a call has made for the session it is about to insert. -/
def HasRoom (d : SessionDesk) : SessionTask → Prop
  | .revokeOldest c _ k =>
    activeCount d.sessions c.userId d.now < MAX_CONCURRENT_SESSIONS ∨
      ∃ s, d.sessions[k]? = some s ∧ s.active c.userId d.now = true
  | .insert c _ => activeCount d.sessions c.userId d.now < MAX_CONCURRENT_SESSIONS
  | _ => True

structure Limited (w : SessionWorld) : Prop where
  upheld : Upheld Within HasRoom w
  alone : Alone SessionTask.inserting w

theorem within_fades (h : Within d) (hrows : Fades d.sessions d'.sessions) (hle : d.now ≤ d'.now) :
    Within d' :=
  fun userId => Nat.le_trans (activeCount_fades hrows hle) (h userId)

/-- Room is not lost to what expires or is revoked. -/
theorem hasRoom_fades (hwithin : Within d) (h : HasRoom d t)
    (hrows : Fades d.sessions d'.sessions) (hle : d.now ≤ d'.now) : HasRoom d' t := by
  cases t with
  | revokeOldest c expiresAt k =>
    rcases h with hlt | ⟨s, hs, hactive⟩
    · exact .inl (Nat.lt_of_le_of_lt (activeCount_fades hrows hle) hlt)
    · obtain ⟨s', hs', -⟩ := fades_getElem? hrows hs
      cases hactive' : s'.active c.userId d'.now with
      | true => exact .inr ⟨s', hs', hactive'⟩
      | false =>
        exact .inl (Nat.lt_of_lt_of_le (activeCount_drops hrows hle hs hactive hs' hactive')
          (hwithin c.userId))
  | insert c expiresAt => exact Nat.lt_of_le_of_lt (activeCount_fades hrows hle) h
  | _ => trivial

/-- Nor to the session of another user. -/
theorem hasRoom_inserted (h : HasRoom d t) (hother : t.inserting ≠ some s.userId) :
    HasRoom { d with sessions := d.sessions ++ [s] } t := by
  have hcount : ∀ {c : CreateSession}, s.userId ≠ c.userId →
      activeCount (d.sessions ++ [s]) c.userId d.now = activeCount d.sessions c.userId d.now :=
    activeCount_append_other
  cases t with
  | revokeOldest c expiresAt k =>
    have hne : s.userId ≠ c.userId := fun he => hother (congrArg some he.symm)
    rcases h with hlt | ⟨s', hs', hactive⟩
    · exact .inl ((hcount hne).symm ▸ hlt)
    · exact .inr ⟨s', Table.getElem?_append_one_old hs', hactive⟩
  | insert c expiresAt =>
    have hne : s.userId ≠ c.userId := fun he => hother (congrArg some he.symm)
    exact Nat.lt_of_le_of_lt (Nat.le_of_eq (hcount hne)) h
  | _ => trivial

theorem hasRoom_quiet (h : t.inserting = none) : HasRoom d t := by
  cases t with
  | revokeOldest _ _ _ => cases h
  | insert _ _ => cases h
  | _ => trivial

/-- The eviction of a session that was active makes room. -/
theorem room_evicted {c : CreateSession} {expiresAt : Int} {k : Nat} (hwithin : Within d)
    (h : HasRoom d (.revokeOldest c expiresAt k)) :
    activeCount (d.sessions.modify k (·.revoke)) c.userId d.now < MAX_CONCURRENT_SESSIONS := by
  rcases h with hlt | ⟨s, hs, hactive⟩
  · exact Nat.lt_of_le_of_lt (activeCount_fades (fades_modify _ k) (Int.le_refl _)) hlt
  · have hrevoked : s.revoke.active c.userId d.now = false := by
      unfold RefreshSession.active RefreshSession.unrevoked RefreshSession.revoke
      rw [Bool.not_true, Bool.and_false, Bool.false_and]
    exact Nat.lt_of_lt_of_le (activeCount_drops (fades_modify _ k) (Int.le_refl _) hs hactive
      (Table.getElem?_modify_self hs) hrevoked) (hwithin c.userId)

theorem orderly_findOldest {i k : Nat} {c : CreateSession} {expiresAt : Int} {s : RefreshSession}
    (h : SessionWorld.orderly w (.advance i input) = true) (hat : w.At i (.findOldest c expiresAt))
    (hs : oldestUnrevoked w.state.sessions c.userId = some (k, s)) :
    s.active c.userId (max w.state.now input.time) = true := by
  unfold SessionWorld.orderly at h
  simp only [task_some.mpr hat, hs, Option.all_some] at h
  unfold RefreshSession.active
  rw [(oldest_some hs).2, h, Bool.true_and]

theorem orderly_countActive {i j : Nat} {c : CreateSession} {expiresAt : Int} {u : SessionTask}
    (h : SessionWorld.orderly w (.advance i input) = true) (hat : w.At i (.countActive c expiresAt))
    (hu : w.At j u) : u.inserting ≠ some c.userId := by
  unfold SessionWorld.orderly at h
  simp only [task_some.mpr hat] at h
  exact bne_iff_ne.mp (List.all_eq_true.mp h _ (List.mem_of_getElem? hu))

theorem within_inserted {c : CreateSession} {expiresAt : Int} (hwithin : Within d)
    (h : HasRoom d (.insert c expiresAt)) (hs : s.userId = c.userId) :
    Within { d with sessions := d.sessions ++ [s] } := by
  intro userId
  by_cases huser : s.userId = userId
  · have hlt : activeCount d.sessions c.userId d.now < MAX_CONCURRENT_SESSIONS := h
    rw [← hs, huser] at hlt
    exact Nat.le_trans activeCount_append hlt
  · exact Nat.le_trans (Nat.le_of_eq (activeCount_append_other huser)) (hwithin userId)

/-- A statement of a call that can only take away sessions and leaves the insertion of one. -/
theorem owes_fades {i : Nat} (hwithin : Within d) (hroom : ∀ j u, w.At j u → HasRoom d u)
    (hrows : Fades d.sessions d'.sessions) (hle : d.now ≤ d'.now)
    (hown : ∀ u, t' = some u → HasRoom d' u) : Owes Within HasRoom w i t' d' where
  state := within_fades hwithin hrows hle
  own := hown
  others j u _ hu _ := hasRoom_fades hwithin (hroom j u hu) hrows hle

theorem limited_owes {i : Nat} (h : Limited w) (horderly : w.orderly (.advance i input) = true)
    (hat : w.At i t) (hy : Yields (t.next sha256 input) w.state t' d') :
    Owes Within HasRoom w i t' d' := by
  have hmove := next_moves hy
  have htick : w.state.now ≤ max w.state.now input.time := Int.le_max_left _ _
  generalize hd : ({ w.state with now := max w.state.now input.time } : SessionDesk) = d at hmove
  -- the clock moves on with every statement, so the sessions of a user can only run out
  have hrows : Fades w.state.sessions d.sessions := by
    subst hd
    exact fades_rows _
  have hle : w.state.now ≤ d.now := by
    subst hd
    exact htick
  have hwithin : Within d := within_fades h.upheld.state hrows hle
  have hroom : ∀ j u, w.At j u → HasRoom d u := fun j u hu =>
    hasRoom_fades h.upheld.state (h.upheld.tasks j u hu) hrows hle
  have hnow : d.now ≤ d.now := Int.le_refl _
  cases hmove with
  | reads hinserting =>
    exact owes_fades hwithin hroom (fades_rows _) hnow fun u hu => hasRoom_quiet (hinserting u hu)
  | counted =>
    exact owes_fades hwithin hroom (fades_rows _) hnow fun u hu => by cases hu; trivial
  | admitted hlt =>
    exact owes_fades hwithin hroom (fades_rows _) hnow fun u hu => by cases hu; exact hlt
  | picked holdest =>
    refine owes_fades hwithin hroom (fades_rows _) hnow fun u hu => ?_
    cases hu
    subst hd
    exact .inr ⟨_, (oldest_some holdest).1, orderly_findOldest horderly hat holdest⟩
  | absent hnone =>
    refine owes_fades hwithin hroom (fades_rows _) hnow fun u hu => ?_
    cases hu
    exact Nat.lt_of_le_of_lt (Nat.le_of_eq (oldest_none hnone)) (Nat.succ_pos 2)
  | evicted =>
    refine owes_fades hwithin hroom (fades_modify _ _) hnow fun u hu => ?_
    cases hu
    exact room_evicted hwithin (hroom i _ hat)
  -- the one write that adds a session: the login has made room for it and is alone in doing so
  | inserted hs =>
    refine ⟨within_inserted hwithin (hroom i _ hat) hs, fun u hu => ?_, fun j u hj hu _ => ?_⟩
    · cases hu
      trivial
    · refine hasRoom_inserted (hroom j u hu) fun hinserting => ?_
      exact hj (h.alone j i u _ _ hu hat hinserting (congrArg some hs.symm))
  | revokedAll =>
    exact owes_fades hwithin hroom (fades_revokeAll _ _) hnow fun u hu => by cases hu; trivial
  | revokedRotated =>
    exact owes_fades hwithin hroom (fades_modify _ _) hnow fun u hu => by cases hu; trivial
  | completed =>
    exact owes_fades hwithin hroom (fades_rows _) hnow fun u hu => by cases hu
  | revoked =>
    exact owes_fades hwithin hroom (fades_modify _ _) hnow fun u hu => by cases hu; trivial

theorem limited_alone (h : Limited w) (horderly : w.orderly e = true) :
    Alone SessionTask.inserting ((sessionProgram sha256).step w e) := by
  refine alone_step h.alone (fun a => by cases a <;> rfl) fun i input t u d' user he hat hy hu => ?_
  subst he
  cases next_moves hy with
  | reads hinserting => cases (hinserting u rfl).symm.trans hu
  | counted =>
    cases hu
    exact .inr fun j v hv => orderly_countActive horderly hat hv
  | admitted _ =>
    cases hu
    exact .inr fun j v hv => orderly_countActive horderly hat hv
  | picked _ | absent _ | evicted => exact .inl hu
  | inserted _ | revokedAll | revokedRotated | revoked => cases hu

theorem limited_step (h : Limited w) (horderly : w.orderly e = true) :
    Limited ((sessionProgram sha256).step w e) where
  upheld := by
    refine upheld_step h.upheld (fun a _ => hasRoom_quiet (by cases a <;> rfl)) ?_
    intro i input t t' d' he hat hy
    subst he
    exact limited_owes h horderly hat hy
  alone := limited_alone h horderly

theorem limited_opening (now : Int) : Limited (SessionWorld.opening now) where
  upheld := ⟨fun _ => Nat.zero_le _, fun _ _ ht => by cases ht⟩
  alone _ _ _ _ _ hi := by cases hi

/-! ## 5. Rotations -/

/-- The session is there and revoked. -/
def Revoked (d : SessionDesk) (sessionId : Nat) : Prop :=
  ∃ s, d.sessions[sessionId]? = some s ∧ s.isRevoked = true

/-- What every statement leaves: the rows that were there, faded, and perhaps one more. -/
theorem move_rows (h : SessionMove d t t' d') :
    ∃ rows new, Fades d.sessions rows ∧ d'.sessions = rows ++ new := by
  cases h with
  | inserted => exact ⟨_, _, fades_rows _, rfl⟩
  | evicted => exact ⟨_, [], fades_modify _ _, (List.append_nil _).symm⟩
  | revokedAll => exact ⟨_, [], fades_revokeAll _ _, (List.append_nil _).symm⟩
  | revokedRotated => exact ⟨_, [], fades_modify _ _, (List.append_nil _).symm⟩
  | revoked => exact ⟨_, [], fades_modify _ _, (List.append_nil _).symm⟩
  | _ => exact ⟨_, [], fades_rows _, (List.append_nil _).symm⟩

theorem revoked_move {k : Nat} (hmove : SessionMove d t t' d') (h : Revoked d k) : Revoked d' k := by
  obtain ⟨rows, new, hfades, hrows⟩ := move_rows hmove
  obtain ⟨s, hs, hrevoked⟩ := h
  obtain ⟨s', hs', hfaded⟩ := fades_getElem? hfades hs
  refine ⟨s', ?_, hfaded.isRevoked hrevoked⟩
  rw [hrows, List.getElem?_append_left (Table.lt_length_of_getElem? hs')]
  exact hs'

/-- The session of a rotation that is past its update is revoked; before it the row is there and was
read as unrevoked. -/
def Rotating (d : SessionDesk) (t : SessionTask) : Prop :=
  (∀ k, t.rotates = some k → Revoked d k) ∧ ∀ r s, t = .revokeRotated r s →
    r.sessionId < d.sessions.length ∧ s.isRevoked = false

def RotatedRevoked (d : SessionDesk) : Prop := ∀ k ∈ d.rotated, Revoked d k

theorem rotating_move {u : SessionTask} (hmove : SessionMove d t t' d') (h : Rotating d u) :
    Rotating d' u := by
  refine ⟨fun k hk => revoked_move hmove (h.1 k hk), fun r s hr => ?_⟩
  obtain ⟨rows, new, hfades, hrows⟩ := move_rows hmove
  rw [hrows, List.length_append, ← hfades.length_eq]
  exact (h.2 r s hr).imp_left fun hlt => Nat.lt_of_lt_of_le hlt (Nat.le_add_right _ _)

theorem rotating_own {u : SessionTask} (hmove : SessionMove d t (some u) d') (h : Rotating d t) :
    Rotating d' u := by
  have hkept : ∀ k, Revoked d k → Revoked d' k := fun _ => revoked_move hmove
  generalize ho : some u = t' at hmove
  cases hmove with
  | reads _ hrotates hrow =>
    subst ho
    exact ⟨fun k hk => h.1 k (hrotates u k rfl hk), fun r s hr => hrow r s (congrArg some hr)⟩
  | revokedRotated =>
    cases ho
    refine ⟨fun k hk => ?_, fun r s hr => by cases hr⟩
    cases hk
    obtain ⟨s, hs⟩ : ∃ s, d.sessions[_]? = some s :=
      ⟨_, List.getElem?_eq_getElem (h.2 _ _ rfl).1⟩
    exact ⟨s.revoke, Table.getElem?_modify_self hs, rfl⟩
  | completed => cases ho
  | counted | admitted _ | picked _ | absent _ | evicted | inserted _ =>
    cases ho
    exact ⟨fun k hk => hkept k (h.1 k hk), fun r s hr => by cases hr⟩
  | revokedAll | revoked =>
    cases ho
    refine ⟨fun k hk => ?_, fun r s hr => by cases hr⟩
    cases hk

theorem rotated_move (hmove : SessionMove d t t' d') (h : RotatedRevoked d) (ht : Rotating d t) :
    RotatedRevoked d' := by
  have hsame : ∀ {d' : SessionDesk}, SessionMove d t t' d' → d'.rotated = d.rotated →
      RotatedRevoked d' := by
    intro d' hmove hrotated k hk
    exact revoked_move hmove (h k (hrotated ▸ hk))
  cases hmove with
  | completed =>
    intro k hk
    rcases List.mem_cons.mp hk with rfl | hk
    · exact ht.1 _ rfl
    · exact h k hk
  | reads _ _ _ => exact h
  | inserted hs => exact hsame (.inserted hs) rfl
  | evicted => exact hsame .evicted rfl
  | revokedAll => exact hsame .revokedAll rfl
  | revokedRotated => exact hsame .revokedRotated rfl
  | revoked => exact hsame .revoked rfl
  | _ => exact h

theorem rotated_step (h : Upheld RotatedRevoked Rotating w) :
    Upheld RotatedRevoked Rotating ((sessionProgram sha256).step w e) := by
  refine upheld_step h (fun a _ => ?_) ?_
  · refine ⟨fun k hk => ?_, fun r s hr => ?_⟩
    · cases a <;> cases hk
    · cases a <;> cases hr
  · intro i input t t' d' he hat hy
    have hmove := next_moves hy
    have htask : Rotating { w.state with now := max w.state.now input.time } t := h.tasks i t hat
    refine ⟨rotated_move hmove h.state htask, fun u hu => ?_, fun j u _ _ hu => ?_⟩
    · subst hu
      exact rotating_own hmove htask
    · exact rotating_move (d := { w.state with now := max w.state.now input.time }) hmove hu

/-- Each session is rotated once; what is still to be reported was not reported before. -/
structure RotatedOnce (w : SessionWorld) : Prop where
  revoked : Upheld RotatedRevoked Rotating w
  upheld : Upheld (fun d => d.rotated.Nodup)
    (fun d t => ∀ k, t.rotates = some k → k ∉ d.rotated) w
  alone : Alone SessionTask.rotates w

theorem orderly_revokeRotated {i : Nat} {r : RotateSession} {session : RefreshSession}
    (h : SessionWorld.orderly w (.advance i input) = true) (hat : w.At i (.revokeRotated r session))
    (hread : session.isRevoked = false) : ¬ Revoked w.state r.sessionId := by
  rintro ⟨s, hs, hrevoked⟩
  unfold SessionWorld.orderly at h
  simp only [task_some.mpr hat, hs, Option.all_some, hrevoked, hread] at h
  cases h

/-- A call that gets to a rotating point was at one, or revokes a session that nobody rotates. -/
theorem rotates_next {i k : Nat} {u : SessionTask} (h : RotatedOnce w)
    (horderly : w.orderly (.advance i input) = true) (hat : w.At i t)
    (hy : Yields (t.next sha256 input) w.state (some u) d') (hu : u.rotates = some k) :
    t.rotates = some k ∨
      (d'.rotated = w.state.rotated ∧ k ∉ w.state.rotated ∧
        ∀ j v, w.At j v → v.rotates ≠ some k) := by
  have hmove := next_moves hy
  generalize ho : some u = t' at hmove
  cases hmove with
  | reads _ hrotates => exact .inl (hrotates u k ho.symm hu)
  | revokedRotated =>
    cases ho
    cases hu
    have hnot := orderly_revokeRotated horderly hat ((h.revoked.tasks i _ hat).2 _ _ rfl).2
    exact .inr ⟨rfl, fun hmem => hnot (h.revoked.state _ hmem),
      fun j v hv hk => hnot ((h.revoked.tasks j v hv).1 _ hk)⟩
  | counted | admitted _ | picked _ | absent _ | evicted | inserted _ =>
    cases ho
    exact .inl hu
  | revokedAll | revoked | completed =>
    cases ho <;> cases hu

theorem rotated_next {i : Nat} (hat : w.At i t) (hy : Yields (t.next sha256 input) w.state t' d') :
    d'.rotated = w.state.rotated ∨
      ∃ k, t.rotates = some k ∧ t' = none ∧ d'.rotated = k :: w.state.rotated := by
  cases next_moves hy with
  | completed => exact .inr ⟨_, rfl, rfl, rfl⟩
  | _ => exact .inl rfl

theorem rotatedOnce_step (h : RotatedOnce w) (horderly : w.orderly e = true) :
    RotatedOnce ((sessionProgram sha256).step w e) where
  revoked := rotated_step h.revoked
  upheld := by
    refine upheld_step h.upheld (fun a _ k hk => ?_) fun i input t t' d' he hat hy => ?_
    · cases a <;> cases hk
    · subst he
      rcases rotated_next hat hy with hsame | ⟨k, hk, rfl, hrotated⟩
      · refine ⟨hsame ▸ h.upheld.state, fun u hu k hk hmem => ?_, fun j u _ _ hu k hk => ?_⟩
        · subst hu
          rw [hsame] at hmem
          rcases rotates_next h horderly hat hy hk with ht | ⟨-, hnot, -⟩
          · exact h.upheld.tasks i t hat k ht hmem
          · exact hnot hmem
        · exact hsame ▸ hu k hk
      · refine ⟨?_, fun u hu => ?_, fun j u hj hat' hu k' hk' hmem => ?_⟩
        · rw [hrotated]
          exact List.nodup_cons.mpr ⟨h.upheld.tasks i t hat k hk, h.upheld.state⟩
        · cases hu
        · rw [hrotated] at hmem
          rcases List.mem_cons.mp hmem with rfl | hmem
          · exact hj (h.alone j i u t _ hat' hat hk' hk)
          · exact hu k' hk' hmem
  alone := by
    refine alone_step h.alone (fun a => by cases a <;> rfl) fun i input t u d' k he hat hy hu => ?_
    subst he
    rcases rotates_next h horderly hat hy hu with ht | ⟨-, -, hnobody⟩
    · exact .inl ht
    · exact .inr hnobody

theorem rotated_opening (now : Int) : Upheld RotatedRevoked Rotating (SessionWorld.opening now) :=
  ⟨fun _ hk => (by cases hk), fun _ _ ht => (by cases ht)⟩

theorem rotatedOnce_opening (now : Int) : RotatedOnce (SessionWorld.opening now) where
  revoked := rotated_opening now
  upheld := ⟨List.nodup_nil, fun _ _ ht => by cases ht⟩
  alone _ _ _ _ _ hi := by cases hi

/-! ## 6. Reuse -/

/-- A call that has revoked everything changes no session any more. -/
theorem after_reuse (sha256 : String → String) {n : Nat} (inputs : List SessionInput)
    (h : ∀ t, w.At n t → t = .auditReuse) :
    (w.after sha256 (inputs.map (.advance n))).state.sessions = w.state.sessions := by
  induction inputs generalizing w with
  | nil => rfl
  | cons input inputs ih =>
    have hstep : ((sessionProgram sha256).step w (.advance n input)).state = w.state ∧
        ∀ t, ((sessionProgram sha256).step w (.advance n input)).At n t → t = .auditReuse := by
      rcases Process.step_cases (sessionProgram sha256) w (.advance n input) with ⟨_, he, -⟩ |
        ⟨i, _, t, t', he, hat, hy, -⟩ | ⟨hstate, htasks⟩
      · cases he
      · cases he
        obtain rfl := h t hat
        simp only [sessionProgram, SessionTask.next, SessionTask.statement, yields_bind,
          yields_throw] at hy
        obtain ⟨_, _, _, hfalse⟩ := hy
        exact hfalse.elim
      · exact ⟨hstate, fun t ht => h t (htasks n t ht)⟩
    exact (ih hstep.2).trans (congrArg SessionDesk.sessions hstep.1)

/-- What the call does with a session that is revoked, up to its audit event. -/
theorem reuse_steps (sha256 : String → String) {r : RotateSession} {s : RefreshSession}
    (first second : SessionInput) (hs : w.state.sessions[r.sessionId]? = some s)
    (huser : s.userId = r.userId) (hrevoked : s.isRevoked = true) :
    let w' := w.after sha256 [.start (.rotateSession r), .advance w.tasks.length first,
      .advance w.tasks.length second]
    w'.At w.tasks.length .auditReuse ∧
      w'.state.sessions =
        w.state.sessions.map fun s => if s.userId == r.userId then s.revoke else s := by
  let w₁ := (sessionProgram sha256).step w (.start (.rotateSession r))
  have hat₁ : w₁.At w.tasks.length (.findRotated r) := Table.getElem?_append_one_self
  have hfind : Yields (SessionTask.next sha256 (.findRotated r) first) w₁.state
      (some (.revokeAll r.userId)) { w.state with now := max w.state.now first.time } := by
    simp only [SessionTask.next, SessionTask.statement, yields_bind, yields_modify, yields_get,
      yields_required, yields_ensure]
    refine ⟨(), _, rfl, _, _, ⟨rfl, rfl⟩, s, _, ⟨hs, rfl⟩, (), _, ⟨huser, rfl⟩, ?_⟩
    rw [if_pos hrevoked, yields_pure]
    exact ⟨rfl, rfl⟩
  have hstep₁ := step_yields (P := sessionProgram sha256) hat₁ hfind
  have hat₂ := at_set_self (u := SessionTask.revokeAll r.userId) hat₁
  have hrevoke : Yields (SessionTask.next sha256 (.revokeAll r.userId) second)
      { w.state with now := max w.state.now first.time } (some .auditReuse)
      { now := max (max w.state.now first.time) second.time
        sessions := w.state.sessions.map fun s => if s.userId == r.userId then s.revoke else s
        rotated := w.state.rotated } := by
    simp only [SessionTask.next, SessionTask.statement, yields_bind, yields_modify, yields_pure]
    exact ⟨(), _, rfl, (), _, rfl, trivial, rfl⟩
  have hstep₂ := step_yields (P := sessionProgram sha256) (w := ⟨_, _⟩) hat₂ hrevoke
  have hend : w.after sha256 [.start (.rotateSession r), .advance w.tasks.length first,
      .advance w.tasks.length second] = _ :=
    (congrArg (fun v => (sessionProgram sha256).step v (.advance w.tasks.length second))
      hstep₁).trans hstep₂
  show World.At (w.after sha256 _) _ _ ∧ (w.after sha256 _).state.sessions = _
  rw [hend]
  exact ⟨at_set_self hat₂, rfl⟩

/-- A revoked session that is presented again costs the user every session. -/
theorem reuse_revokes (sha256 : String → String) {r : RotateSession} {s : RefreshSession}
    (first second : SessionInput) (inputs : List SessionInput)
    (hs : w.state.sessions[r.sessionId]? = some s) (huser : s.userId = r.userId)
    (hrevoked : s.isRevoked = true) :
    ∀ s' ∈ (w.after sha256 (.start (.rotateSession r) ::
      (first :: second :: inputs).map (.advance w.tasks.length))).state.sessions,
        s'.unrevoked r.userId = false := by
  obtain ⟨hat, hrows⟩ := reuse_steps sha256 first second hs huser hrevoked
  intro s' hs'
  change s' ∈ (SessionWorld.after sha256 (w.after sha256 [.start (.rotateSession r),
    .advance w.tasks.length first, .advance w.tasks.length second])
      (inputs.map (.advance w.tasks.length))).state.sessions at hs'
  rw [after_reuse sha256 inputs fun t ht => Option.some.inj (Option.some.inj (ht.symm.trans hat)),
    hrows] at hs'
  obtain ⟨s₀, -, rfl⟩ := List.mem_map.mp hs'
  unfold RefreshSession.unrevoked
  split
  · rw [RefreshSession.revoke, Bool.not_true, Bool.and_false]
  · next hother => rw [Bool.eq_false_iff.mpr hother, Bool.false_and]

end SessionLemmas

open SessionLemmas

/-! ## 7. Runs -/

/-- When counts are followed by their inserts one at a time, no expired session is evicted and a
rotation revokes a session that is still unrevoked, a user has three sessions at most and a session
is rotated once. In every run, a session that was rotated and is presented again costs its user
every session. -/
theorem sessions_limited_and_rotated_once (sha256 : String → String) (now : Int) :
    (∀ events : List SessionEvent, Machine.Guarded (sessionProgram sha256).step
        (fun w e => SessionWorld.orderly w e = true) (SessionWorld.opening now) events →
      let d := ((SessionWorld.opening now).after sha256 events).state
      (∀ userId, activeCount d.sessions userId d.now ≤ MAX_CONCURRENT_SESSIONS) ∧
        ∀ sessionId, d.rotated.count sessionId ≤ 1) ∧
    ∀ (events : List SessionEvent) (r : RotateSession),
      let w := (SessionWorld.opening now).after sha256 events
      r.sessionId ∈ w.state.rotated →
      (∀ s, w.state.sessions[r.sessionId]? = some s → s.userId = r.userId) →
      ∀ (first second : SessionInput) (inputs : List SessionInput),
        ∀ s ∈ (w.after sha256 (.start (.rotateSession r) ::
          (first :: second :: inputs).map (.advance w.tasks.length))).state.sessions,
            s.unrevoked r.userId = false := by
  constructor
  · intro events h
    have hlimited := Machine.run_induct (fun _ _ => limited_step) (limited_opening now) h
    have honce := Machine.run_induct (fun _ _ => rotatedOnce_step) (rotatedOnce_opening now) h
    exact ⟨hlimited.upheld.state, fun sessionId =>
      List.nodup_iff_count_le_one.mp honce.upheld.state sessionId⟩
  · intro events r w hrotated huser first second inputs
    have hfree : Machine.Guarded (sessionProgram sha256).step (fun _ _ => True)
        (SessionWorld.opening now) events := Machine.guarded_of_forall fun _ _ => trivial
    have hw : Upheld RotatedRevoked Rotating w :=
      Machine.run_induct (fun _ _ hw _ => rotated_step hw) (rotated_opening now) hfree
    obtain ⟨s, hs, hrevoked⟩ := hw.state _ hrotated
    exact reuse_revokes sha256 first second inputs hs (huser s hs) hrevoked

/-- A phone. -/
def exDevice : DeviceInfo := ⟨some "Mozilla/5.0", none, none⟩

/-- The statements of the call `i` at one time, as many as given. -/
def exSessionSteps (i n : Nat) (time : Int) : List SessionEvent :=
  List.replicate n (.advance i ⟨time, some 60⟩)

/-- A login that finds less than three sessions. -/
def exLogin (i : Nat) (time : Int) : List SessionEvent :=
  .start (.createSession "u1" exDevice) :: exSessionSteps i 4 time

/-- A login and its rotation. -/
def exRotated : List SessionEvent :=
  exLogin 0 0 ++ .start (.rotateSession ⟨0, "u1", exDevice⟩) :: exSessionSteps 1 7 1000

theorem sessions_limited_and_rotated_once_login :
    (∀ userId, activeCount ((SessionWorld.opening 0).after id exRotated).state.sessions userId
        ((SessionWorld.opening 0).after id exRotated).state.now ≤ 3) ∧
      ∀ s ∈ (((SessionWorld.opening 0).after id exRotated).after id
        (.start (.rotateSession ⟨0, "u1", exDevice⟩) :: exSessionSteps 2 3 2000)).state.sessions,
          s.unrevoked "u1" = false := by
  have hlimited := (sessions_limited_and_rotated_once id 0).1 exRotated (by decide +kernel)
  have hreuse := (sessions_limited_and_rotated_once id 0).2 exRotated ⟨0, "u1", exDevice⟩
    (by decide +kernel) (by decide +kernel) ⟨2000, some 60⟩ ⟨2000, some 60⟩ [⟨2000, some 60⟩]
  have hcalls : ((SessionWorld.opening 0).after id exRotated).tasks.length = 2 := by decide +kernel
  rw [hcalls] at hreuse
  exact ⟨hlimited.1, hreuse⟩

/-- The first session has expired unrevoked when the fifth login evicts it instead of an active one.
Two logins count two sessions at once. Two rotations read one session at once. -/
theorem sessions_exceeded :
    let world (events : List SessionEvent) := (SessionWorld.opening 0).after id events
    let active (w : SessionWorld) := activeCount w.state.sessions "u1" w.state.now
    let expired : List SessionEvent :=
      exLogin 0 0 ++ exLogin 1 3600001 ++ exLogin 2 3600002 ++ exLogin 3 3600003 ++
        .start (.createSession "u1" exDevice) :: exSessionSteps 4 6 3600004
    let logins : List SessionEvent :=
      exLogin 0 0 ++ exLogin 1 1 ++
        [.start (.createSession "u1" exDevice), .start (.createSession "u1" exDevice)] ++
        exSessionSteps 2 2 2 ++ exSessionSteps 3 2 2 ++ exSessionSteps 2 2 2 ++ exSessionSteps 3 2 2
    let rotations : List SessionEvent :=
      exLogin 0 0 ++ [.start (.rotateSession ⟨0, "u1", exDevice⟩),
        .start (.rotateSession ⟨0, "u1", exDevice⟩)] ++
        exSessionSteps 1 1 1 ++ exSessionSteps 2 1 1 ++ exSessionSteps 1 6 1 ++ exSessionSteps 2 6 1
    active (world expired) = 4 ∧ active (world logins) = 4 ∧
      (world rotations).state.rotated = [0, 0] := by
  decide +kernel

end BebaSacco
