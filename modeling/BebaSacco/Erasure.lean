import BebaSacco.Lib.IsoDate
import BebaSacco.Lib.Table
import BebaSacco.Lib.TwoRuns
import BebaSacco.Users

/-! # The erasure of a member

A job erases a member: one statement clears the columns of the member's row, one those of the user's
row, the records to keep are counted, the access log is given another id, and the request is marked
as completed with a certificate. Every statement commits alone. A job that fails or is lost starts
again, and it may be delivered more than once.

The HMAC of the certificate is a parameter. Two runs get the same events: the same clock and the same
random bytes.

Results:
 1. `erasure_alike`: a statement does the same on two databases that differ in the personal data of
    one member.
 2. `erasure_forgets_iff`: once the erasure has been completed, the member's row, the user's row and
    the certificates are the same exactly when the two databases had the same email, phone number, id
    number and next of kin.
 3. `erasure_remembers`: the id number is still there.
-/

namespace BebaSacco

open Txn Process

/-- The columns of a user that hold personal data or are written here. -/
structure ErasureUser where
  email : String
  firstName : String
  lastName : String
  phone : Option String
  phoneNumber : Option String
  idNumber : Option String
  nextOfKinPhone : Option String
  accountStatus : AccountStatus
  deriving DecidableEq, Repr

structure ErasureMember where
  userId : Nat
  nationalId : Option String
  kraPin : Option String
  employer : Option String
  occupation : Option String
  dateOfBirth : Option Timestamp
  isActive : Bool
  deletedAt : Option Timestamp
  deriving DecidableEq, Repr

/-- What an entry of the access log is about. -/
inductive LogEntity where
  | member (id : Nat)
  | other (id : String)
  deriving DecidableEq, Repr

structure DataAccessLog where
  tenantId : String
  entityId : LogEntity
  deriving DecidableEq, Repr

/-- A row that is kept, of a transaction or of a loan. -/
structure RetainedRow where
  tenantId : String
  memberId : Nat
  deriving DecidableEq, Repr

structure ErasureCertificate where
  certificateId : String
  memberId : String
  tenantId : String
  requestedBy : String
  reason : String
  erasedFields : List String
  preservedRecords : List String
  completedAt : String
  signature : String
  deriving DecidableEq, Repr

structure ErasureRequest where
  requestedBy : String
  reason : String
  certificateId : Option String
  status : String
  completedAt : Option Timestamp
  certificate : Option ErasureCertificate
  deriving DecidableEq, Repr

/-- What is signed. -/
structure CertificateData where
  memberId : Nat
  tenantId : String
  erasedFields : List String
  preservedRecords : List String
  completedAt : String
  deriving DecidableEq, Repr

structure ErasureJob where
  tenantId : String
  memberId : Nat
  erasureRequestId : Nat
  deriving DecidableEq, Repr

/-- The tables, and next to them the jobs that reported COMPLETED with the certificate that each
returned. -/
structure ErasureDb where
  users : List ErasureUser
  members : List ErasureMember
  transactions : List RetainedRow
  loans : List RetainedRow
  accessLogs : List DataAccessLog
  requests : List ErasureRequest
  certificates : List (ErasureJob × ErasureCertificate)
  deriving DecidableEq, Repr

/-- Where a job is. -/
inductive ErasureTask where
  | anonymizeMember (job : ErasureJob)
  | anonymizeUser (job : ErasureJob) (anonymizedId : String)
  | countTransactions (job : ErasureJob) (anonymizedId : String)
  | countLoans (job : ErasureJob) (anonymizedId : String) (preservedRecords : List String)
  | anonymizeAccessLog (job : ErasureJob) (anonymizedId : String) (preservedRecords : List String)
  | findRequest (job : ErasureJob) (anonymizedId : String) (preservedRecords : List String)
  | complete (job : ErasureJob) (certificate : ErasureCertificate)
  deriving DecidableEq, Repr

structure ErasureInput where
  now : Timestamp
  randomHex : String
  deriving DecidableEq, Repr

abbrev ErasureWorld := World ErasureDb ErasureTask

abbrev ErasureEvent := Event ErasureJob ErasureInput

/-! ## 1. What a job does -/

def erasedFields : List String :=
  ["nationalId", "kraPin", "employer", "occupation", "dateOfBirth", "user.firstName",
    "user.lastName", "user.phone"]

def ErasureMember.anonymize (now : Timestamp) (m : ErasureMember) : ErasureMember :=
  { m with
    nationalId := none
    kraPin := none
    employer := none
    occupation := none
    dateOfBirth := none
    deletedAt := some now
    isActive := false }

def ErasureUser.anonymize (anonymizedId : String) (u : ErasureUser) : ErasureUser :=
  { u with
    firstName := anonymizedId
    lastName := "ERASED"
    phone := none
    accountStatus := .suspended }

/-- `updateMany` on the user of a member. -/
def ErasureDb.updateUserOf (db : ErasureDb) (memberId : Nat) (f : ErasureUser → ErasureUser) :
    ErasureDb :=
  match db.members[memberId]? with
  | some m => { db with users := db.users.modify m.userId f }
  | none => db

/-- The access log no longer names the member. -/
def ErasureDb.anonymizeLogs (db : ErasureDb) (job : ErasureJob) (anonymizedId : String) :
    ErasureDb :=
  { db with
    accessLogs := db.accessLogs.map fun l =>
      if l.tenantId = job.tenantId ∧ l.entityId = .member job.memberId then
        { l with entityId := .other anonymizedId }
      else l }

def ErasureDb.completed (db : ErasureDb) (job : ErasureJob) (certificate : ErasureCertificate)
    (now : Timestamp) : ErasureDb :=
  { db with
    requests := db.requests.modify job.erasureRequestId fun r =>
      { r with
        status := "COMPLETED"
        completedAt := some now
        certificate := some certificate }
    certificates := db.certificates ++ [(job, certificate)] }

/-- The certificate of a job; `sign` is the HMAC of the JSON text. -/
def ErasureJob.certificate (sign : CertificateData → String) (job : ErasureJob)
    (request : Option ErasureRequest) (anonymizedId : String) (preservedRecords : List String)
    (now : Timestamp) : ErasureCertificate where
  certificateId :=
    (request.bind (·.certificateId)).getD s!"CERT-{job.erasureRequestId}"
  memberId := anonymizedId
  tenantId := job.tenantId
  requestedBy := (request.map (·.requestedBy)).getD "SYSTEM"
  reason := (request.map (·.reason)).getD "DATA_ERASURE_REQUEST"
  erasedFields := erasedFields
  preservedRecords := preservedRecords
  completedAt := now.toISOString
  signature := sign ⟨job.memberId, job.tenantId, erasedFields, preservedRecords,
    now.toISOString⟩

def ErasureTask.next (sign : CertificateData → String) (t : ErasureTask) (input : ErasureInput) :
    Txn ErasureDb AuthErr (Option ErasureTask) := do
  let db ← get
  match t with
  | .anonymizeMember job => do
    let _ ← required db.members[job.memberId]? (.notFound "Member")
    modify fun db =>
      { db with members := db.members.modify job.memberId (·.anonymize input.now) }
    return some (.anonymizeUser job s!"ANON-{input.randomHex}")
  | .anonymizeUser job anonymizedId => do
    modify (·.updateUserOf job.memberId (·.anonymize anonymizedId))
    return some (.countTransactions job anonymizedId)
  | .countTransactions job anonymizedId =>
    let txCount := db.transactions.countP fun r => r.tenantId == job.tenantId
    return some (.countLoans job anonymizedId [s!"{txCount} transactions (7-year retention)"])
  | .countLoans job anonymizedId preservedRecords =>
    let loanCount := db.loans.countP fun r =>
      r.tenantId == job.tenantId && r.memberId == job.memberId
    return some (.anonymizeAccessLog job anonymizedId
      (preservedRecords ++ [s!"{loanCount} loan records (regulatory retention)"]))
  | .anonymizeAccessLog job anonymizedId preservedRecords => do
    modify (·.anonymizeLogs job anonymizedId)
    return some (.findRequest job anonymizedId preservedRecords)
  | .findRequest job anonymizedId preservedRecords =>
    return some (.complete job (job.certificate sign db.requests[job.erasureRequestId]? anonymizedId
      preservedRecords input.now))
  | .complete job certificate => do
    let _ ← required db.requests[job.erasureRequestId]? (.notFound "ErasureRequest")
    modify (·.completed job certificate input.now)
    return none

def erasureProgram (sign : CertificateData → String) :
    Program ErasureDb AuthErr ErasureJob ErasureInput ErasureTask :=
  ⟨.anonymizeMember, ErasureTask.next sign⟩

def ErasureDb.after (db : ErasureDb) (sign : CertificateData → String) (events : List ErasureEvent) :
    ErasureWorld :=
  Machine.run (erasureProgram sign).step ⟨db, []⟩ events

/-! ## 2. Two databases -/

/-- The member's row without the personal data. -/
def ErasureMember.forget (m : ErasureMember) : ErasureMember :=
  { m with nationalId := none, kraPin := none, employer := none, occupation := none, dateOfBirth := none }

/-- The personal data of a user that no statement of the job writes. -/
def ErasureUser.retained (u : ErasureUser) : String × Option String × Option String × Option String :=
  (u.email, u.phoneNumber, u.idNumber, u.nextOfKinPhone)

/-- The user's row without those columns. -/
def ErasureUser.unretained (u : ErasureUser) : ErasureUser :=
  { u with email := "", phoneNumber := none, idNumber := none, nextOfKinPhone := none }

/-- The user's row without the personal data. -/
def ErasureUser.forget (u : ErasureUser) : ErasureUser :=
  { u.unretained with firstName := "", lastName := "", phone := none }

/-- The two databases differ in the personal data of the member `m`, whose user is `uid`. -/
structure DiffersIn (m uid : Nat) (db db' : ErasureDb) : Prop where
  rest : db' = { db with members := db'.members, users := db'.users }
  members : ∀ j, j ≠ m → db'.members[j]? = db.members[j]?
  member : db'.members[m]?.map (·.forget) = db.members[m]?.map (·.forget)
  owner : ∀ x, db.members[m]? = some x → x.userId = uid
  users : ∀ j, j ≠ uid → db'.users[j]? = db.users[j]?
  user : db'.users[uid]?.map (·.forget) = db.users[uid]?.map (·.forget)

/-- A job for the member has reported COMPLETED. -/
def ErasureDb.erased (db : ErasureDb) (m : Nat) : Bool := db.certificates.any (·.1.memberId == m)

/-- The rows of the member and of the user and all certificates are the same. -/
structure SameErased (m uid : Nat) (db db' : ErasureDb) : Prop where
  member : db'.members[m]? = db.members[m]?
  user : db'.users[uid]? = db.users[uid]?
  certificates : db'.certificates = db.certificates

namespace ErasureLemmas

variable {sign : CertificateData → String} {m uid : Nat} {db db' : ErasureDb} {t : ErasureTask}
  {input : ErasureInput} {w w' : ErasureWorld} {e : ErasureEvent}

/-- The member's row is there, and the same in both. -/
def MemberGone (m : Nat) (db db' : ErasureDb) : Prop :=
  db'.members[m]? = db.members[m]? ∧ db.members[m]?.isSome = true

/-- The user's row is the same in both, up to what no statement writes. -/
def UserGone (uid : Nat) (db db' : ErasureDb) : Prop :=
  db'.users[uid]?.map (·.unretained) = db.users[uid]?.map (·.unretained)

def jobOf : ErasureTask → ErasureJob
  | .anonymizeMember job | .anonymizeUser job _ | .countTransactions job _ | .countLoans job _ _
  | .anonymizeAccessLog job _ _ | .findRequest job _ _ | .complete job _ => job

/-- The member's row was cleared by the job. -/
def pastMember : ErasureTask → Bool
  | .anonymizeMember _ => false
  | _ => true

def pastUser : ErasureTask → Bool
  | .anonymizeMember _ | .anonymizeUser _ _ => false
  | _ => true

/-- Once a job is completed the rows are the same. -/
def Related (m uid : Nat) (db db' : ErasureDb) : Prop :=
  DiffersIn m uid db db' ∧
    (db.erased m = true → MemberGone m db db' ∧ UserGone uid db db')

/-- What a job for the member has done so far. -/
def Cleared (m uid : Nat) (db db' : ErasureDb) (t : ErasureTask) : Prop :=
  (jobOf t).memberId = m →
    (pastMember t = true → MemberGone m db db') ∧ (pastUser t = true → UserGone uid db db')

/-! ## 3. One statement -/

theorem map_modify {α β : Type} {l l' : List α} {f : α → α} {g : α → β} {i j : Nat}
    (hf : ∀ a b, g a = g b → g (f a) = g (f b)) (h : l'[j]?.map g = l[j]?.map g) :
    (l'.modify i f)[j]?.map g = (l.modify i f)[j]?.map g := by
  rw [List.getElem?_modify, List.getElem?_modify]
  cases ha : l[j]? with
  | none =>
    rw [ha, Option.map_none, Option.map_eq_none_iff] at h
    rw [h]
  | some a =>
    obtain ⟨b, hb, hba⟩ := Option.map_eq_some_iff.mp (h.trans (by rw [ha, Option.map_some]))
    rw [hb]
    refine congrArg some ?_
    split
    · exact hf b a hba
    · exact hba

theorem getElem?_modify_congr {α : Type} {l l' : List α} {f : α → α} {i j : Nat} (h : l'[j]? = l[j]?) :
    (l'.modify i f)[j]? = (l.modify i f)[j]? := by
  rw [List.getElem?_modify, List.getElem?_modify, h]

theorem forget_anonymize {now : Timestamp} {a b : ErasureMember} (h : a.forget = b.forget) :
    a.anonymize now = b.anonymize now := by
  cases a
  cases b
  cases h
  rfl

theorem unretained_anonymize {anonymizedId : String} {a b : ErasureUser} (h : a.forget = b.forget) :
    (a.anonymize anonymizedId).unretained = (b.anonymize anonymizedId).unretained := by
  cases a
  cases b
  cases h
  rfl

theorem forget_of_unretained {f : ErasureUser → ErasureUser}
    (hf : ∀ a b : ErasureUser, a.forget = b.forget → (f a).unretained = (f b).unretained)
    (a b : ErasureUser) (h : a.forget = b.forget) : (f a).forget = (f b).forget := by
  unfold ErasureUser.forget
  rw [hf a b h]

theorem rowOf_isSome (h : DiffersIn m uid db db') (j : Nat) :
    db'.members[j]?.isSome = db.members[j]?.isSome := by
  by_cases hj : j = m
  · subst hj
    have hsome := congrArg Option.isSome h.member
    rw [Option.isSome_map, Option.isSome_map] at hsome
    exact hsome
  · rw [h.members j hj]

theorem userId_same (h : DiffersIn m uid db db') (j : Nat) :
    db'.members[j]?.map (·.userId) = db.members[j]?.map (·.userId) := by
  by_cases hj : j = m
  · subst hj
    have huser := congrArg (Option.map ErasureMember.userId) h.member
    rw [Option.map_map, Option.map_map] at huser
    exact huser
  · rw [h.members j hj]

theorem differs_member {job : ErasureJob} {now : Timestamp} (h : DiffersIn m uid db db') :
    DiffersIn m uid
      { db with members := db.members.modify job.memberId (·.anonymize now) }
      { db' with members := db'.members.modify job.memberId (·.anonymize now) } := by
  refine ⟨?_, fun j hj => getElem?_modify_congr (h.members j hj), ?_, fun x hx => ?_, h.users, h.user⟩
  · rw [h.rest]
  · refine map_modify (fun a b hab => ?_) h.member
    rw [forget_anonymize hab]
  · obtain ⟨y, hy, rfl⟩ := Table.getElem?_modify_some hx
    split
    · exact h.owner y hy
    · exact h.owner y hy

theorem differs_user {j : Nat} {anonymizedId : String} (h : DiffersIn m uid db db') :
    DiffersIn m uid { db with users := db.users.modify j (·.anonymize anonymizedId) }
      { db' with users := db'.users.modify j (·.anonymize anonymizedId) } := by
  refine ⟨?_, h.members, h.member, h.owner, fun i hi => getElem?_modify_congr (h.users i hi), ?_⟩
  · rw [h.rest]
  · exact map_modify (forget_of_unretained fun a b => unretained_anonymize) h.user

theorem differs_rest {f : ErasureDb → ErasureDb} (h : DiffersIn m uid db db')
    (hf : ∀ db users members, f { db with members, users } = { f db with members, users })
    (hkeep : ∀ db, (f db).members = db.members ∧ (f db).users = db.users) :
    DiffersIn m uid (f db) (f db') := by
  obtain ⟨hmembers, husers⟩ := hkeep db
  obtain ⟨hmembers', husers'⟩ := hkeep db'
  refine ⟨?_, ?_, ?_, ?_, ?_, ?_⟩
  · rw [hmembers', husers', ← hf, ← h.rest]
  · rw [hmembers, hmembers']
    exact h.members
  · rw [hmembers, hmembers']
    exact h.member
  · rw [hmembers]
    exact h.owner
  · rw [husers, husers']
    exact h.users
  · rw [husers, husers']
    exact h.user

abbrev AlikeErasure (sign : CertificateData → String) (m uid : Nat) (t : ErasureTask)
    (input : ErasureInput) (db db' : ErasureDb) : Prop :=
  Alike (erasureProgram sign) (Related m uid) (Cleared m uid) t input db db'

/-- A statement that goes on to the same point and clears nothing less. -/
theorem alike_of {t' : Option ErasureTask} {s s' : ErasureDb} (h : Related m uid db db')
    (hy : Yields (t.next sign input) db t' s) (hy' : Yields (t.next sign input) db' t' s')
    (hdiffers : DiffersIn m uid s s') (hmember : MemberGone m db db' → MemberGone m s s')
    (huser : UserGone uid db db' → UserGone uid s s')
    (herased : s.erased m = true → db.erased m = true ∨ MemberGone m db db' ∧ UserGone uid db db')
    (hown : ∀ u, t' = some u → Cleared m uid s s' u) : AlikeErasure sign m uid t input db db' := by
  refine .inr ⟨t', s, s', hy, hy', ⟨hdiffers, fun hs => ?_⟩, hown, fun u hu hjob => ?_⟩
  · obtain ⟨hgone, hgoneUser⟩ := (herased hs).elim h.2 id
    exact ⟨hmember hgone, huser hgoneUser⟩
  · obtain ⟨hpast, hpastUser⟩ := hu hjob
    exact ⟨fun hp => hmember (hpast hp), fun hp => huser (hpastUser hp)⟩

theorem alike_quiet {u : ErasureTask} {f : ErasureDb → ErasureDb} (h : Related m uid db db')
    (hc : Cleared m uid db db' t) (hy : Yields (t.next sign input) db (some u) (f db))
    (hy' : Yields (t.next sign input) db' (some u) (f db')) (hjob : jobOf u = jobOf t)
    (hpast : pastUser t = true)
    (hf : ∀ db users members, f { db with members, users } = { f db with members, users })
    (hkeep : ∀ db, (f db).members = db.members ∧ (f db).users = db.users)
    (hcertificates : (f db).certificates = db.certificates) :
    AlikeErasure sign m uid t input db db' := by
  obtain ⟨hmembers, husers⟩ := hkeep db
  obtain ⟨hmembers', husers'⟩ := hkeep db'
  have hmember : MemberGone m db db' → MemberGone m (f db) (f db') := by
    unfold MemberGone
    rw [hmembers, hmembers']
    exact id
  have huser : UserGone uid db db' → UserGone uid (f db) (f db') := by
    unfold UserGone
    rw [husers, husers']
    exact id
  refine alike_of h hy hy' (differs_rest h.1 hf hkeep) hmember huser (fun hs => .inl ?_)
    fun v hv hv' => ?_
  · unfold ErasureDb.erased at hs ⊢
    rw [hcertificates] at hs
    exact hs
  · cases hv
    rw [hjob] at hv'
    obtain ⟨hgone, hgoneUser⟩ := hc hv'
    have hpastMember : pastMember t = true := by
      cases t <;> first | rfl | cases hpast
    exact ⟨fun _ => hmember (hgone hpastMember), fun _ => huser (hgoneUser hpast)⟩

theorem alike_anonymizeMember {job : ErasureJob} (h : Related m uid db db') :
    AlikeErasure sign m uid (.anonymizeMember job) input db db' := by
  have hsome := rowOf_isSome h.1 job.memberId
  have hfail : ∀ db : ErasureDb, db.members[job.memberId]? = none →
      Fails ((erasureProgram sign).next (.anonymizeMember job) input) db := by
    intro db hnone t' db' hy
    simp only [erasureProgram, ErasureTask.next, yields_bind, yields_get, yields_required] at hy
    obtain ⟨_, _, ⟨rfl, rfl⟩, x, _, ⟨hx, -⟩, -⟩ := hy
    cases hnone.symm.trans hx
  have hstep : ∀ (db : ErasureDb) (x : ErasureMember), db.members[job.memberId]? = some x →
      Yields ((ErasureTask.anonymizeMember job).next sign input) db
        (some (.anonymizeUser job s!"ANON-{input.randomHex}"))
        { db with members := db.members.modify job.memberId (·.anonymize input.now) } := by
    intro db x hx
    simp only [ErasureTask.next, yields_bind, yields_get, yields_required, yields_modify, yields_pure]
    exact ⟨_, _, ⟨rfl, rfl⟩, x, _, ⟨hx, rfl⟩, (), _, rfl, trivial, rfl⟩
  cases hrow : db.members[job.memberId]? with
  | none =>
    rw [hrow] at hsome
    exact .inl ⟨hfail db hrow,
      hfail db' (Option.isNone_iff_eq_none.mp (Option.isSome_eq_false_iff.mp hsome))⟩
  | some x =>
    rw [hrow] at hsome
    obtain ⟨x', hrow'⟩ := Option.isSome_iff_exists.mp hsome
    refine alike_of h (hstep db x hrow) (hstep db' x' hrow') (differs_member h.1) ?_ id .inl ?_
    · intro hgone
      refine ⟨getElem?_modify_congr hgone.1, ?_⟩
      obtain ⟨y, hy⟩ := Option.isSome_iff_exists.mp hgone.2
      rw [List.getElem?_modify, hy]
      rfl
    · intro u hu hjob
      cases hu
      refine ⟨fun _ => ?_, fun hend => (by cases hend)⟩
      -- all personal data of the row is overwritten, whatever it was
      have hm : job.memberId = m := hjob
      subst hm
      have hforget := h.1.member
      rw [hrow, hrow', Option.map_some, Option.map_some, Option.some.injEq] at hforget
      refine ⟨?_, ?_⟩
      · rw [Table.getElem?_modify_self hrow, Table.getElem?_modify_self hrow', forget_anonymize hforget]
      · rw [Table.getElem?_modify_self hrow]
        rfl

theorem updateUserOf_some {j : Nat} {x : ErasureMember} {f : ErasureUser → ErasureUser}
    (h : db.members[j]? = some x) :
    db.updateUserOf j f = { db with users := db.users.modify x.userId f } := by
  unfold ErasureDb.updateUserOf
  rw [h]

theorem updateUserOf_none {j : Nat} {f : ErasureUser → ErasureUser} (h : db.members[j]? = none) :
    db.updateUserOf j f = db := by
  unfold ErasureDb.updateUserOf
  rw [h]

theorem alike_anonymizeUser {job : ErasureJob} {anonymizedId : String} (h : Related m uid db db')
    (hc : Cleared m uid db db' (.anonymizeUser job anonymizedId)) :
    AlikeErasure sign m uid (.anonymizeUser job anonymizedId) input db db' := by
  have hstep : ∀ db : ErasureDb, Yields ((ErasureTask.anonymizeUser job anonymizedId).next sign input)
      db (some (.countTransactions job anonymizedId))
      (db.updateUserOf job.memberId (·.anonymize anonymizedId)) := by
    intro db
    simp only [ErasureTask.next, yields_bind, yields_get, yields_modify, yields_pure]
    exact ⟨_, _, ⟨rfl, rfl⟩, (), _, rfl, trivial, rfl⟩
  have hy := hstep db
  have hy' := hstep db'
  have huser := userId_same h.1 job.memberId
  cases hrow : db.members[job.memberId]? with
  | none =>
    -- no user is written, and the job is not the member's
    have hrow' : db'.members[job.memberId]? = none := by
      rw [hrow] at huser
      exact Option.map_eq_none_iff.mp huser
    rw [updateUserOf_none hrow] at hy
    rw [updateUserOf_none hrow'] at hy'
    refine alike_of h hy hy' h.1 id id .inl fun u hu hjob => ?_
    cases hu
    have hm : job.memberId = m := hjob
    have hthere := ((hc hjob).1 rfl).2
    rw [← hm, hrow] at hthere
    cases hthere
  | some x =>
    rw [hrow, Option.map_some] at huser
    obtain ⟨x', hrow', hsame⟩ := Option.map_eq_some_iff.mp huser
    rw [updateUserOf_some hrow] at hy
    rw [updateUserOf_some hrow', hsame] at hy'
    have hkept : UserGone uid db db' → UserGone uid
        { db with users := db.users.modify x.userId (·.anonymize anonymizedId) }
        { db' with users := db'.users.modify x.userId (·.anonymize anonymizedId) } := by
      intro hgone
      refine map_modify (fun a b hab => ?_) hgone
      cases a
      cases b
      cases hab
      rfl
    refine alike_of h hy hy' (differs_user h.1) id hkept .inl fun u hu hjob => ?_
    cases hu
    refine ⟨fun _ => (hc hjob).1 rfl, fun _ => ?_⟩
    -- the four columns that are not written are the only ones in which the rows may differ now
    have hm : job.memberId = m := hjob
    have hown := h.1.owner x (hm ▸ hrow)
    have hforget := h.1.user
    subst hown
    show Option.map _ _ = Option.map _ _
    rw [List.getElem?_modify_eq, List.getElem?_modify_eq]
    cases ha : db.users[x.userId]? with
    | none =>
      rw [ha, Option.map_none, Option.map_eq_none_iff] at hforget
      rw [hforget]
    | some a =>
      obtain ⟨b, hb, hba⟩ := Option.map_eq_some_iff.mp (hforget.trans (by rw [ha, Option.map_some]))
      rw [hb]
      exact congrArg some (unretained_anonymize hba)

theorem alike_complete {job : ErasureJob} {certificate : ErasureCertificate}
    (h : Related m uid db db') (hc : Cleared m uid db db' (.complete job certificate)) :
    AlikeErasure sign m uid (.complete job certificate) input db db' := by
  have hrequests : db'.requests = db.requests := by rw [h.1.rest]
  have hstep : ∀ (db : ErasureDb) (r : ErasureRequest), db.requests[job.erasureRequestId]? = some r →
      Yields ((ErasureTask.complete job certificate).next sign input) db none
        (db.completed job certificate input.now) := by
    intro db r hr
    simp only [ErasureTask.next, yields_bind, yields_get, yields_required, yields_modify, yields_pure]
    exact ⟨_, _, ⟨rfl, rfl⟩, r, _, ⟨hr, rfl⟩, (), _, rfl, trivial, rfl⟩
  have hfail : ∀ db : ErasureDb, db.requests[job.erasureRequestId]? = none →
      Fails ((erasureProgram sign).next (.complete job certificate) input) db := by
    intro db hnone t' db' hy
    simp only [erasureProgram, ErasureTask.next, yields_bind, yields_get, yields_required] at hy
    obtain ⟨_, _, ⟨rfl, rfl⟩, r, _, ⟨hr, -⟩, -⟩ := hy
    cases hnone.symm.trans hr
  cases hrow : db.requests[job.erasureRequestId]? with
  | none => exact .inl ⟨hfail db hrow, hfail db' (hrequests ▸ hrow)⟩
  | some r =>
    refine alike_of h (hstep db r hrow) (hstep db' r (hrequests ▸ hrow))
      (differs_rest (f := (·.completed job certificate input.now)) h.1 (fun _ _ _ => rfl)
        fun _ => ⟨rfl, rfl⟩) id id (fun hs => ?_) fun _ hu => (by cases hu)
    unfold ErasureDb.erased at hs ⊢
    unfold ErasureDb.completed at hs
    rw [List.any_append, Bool.or_eq_true] at hs
    refine hs.imp_right fun hnew => ?_
    have hjob : job.memberId = m := by simpa using hnew
    obtain ⟨hgone, hgoneUser⟩ := hc hjob
    exact ⟨hgone rfl, hgoneUser rfl⟩

/-- Each statement does the same on both. -/
theorem erasure_alike (h : Related m uid db db') (hc : Cleared m uid db db' t) :
    AlikeErasure sign m uid t input db db' := by
  -- the statements that count or read see tables in which the two runs agree
  have hrest := h.1.rest
  cases t with
  | anonymizeMember job => exact alike_anonymizeMember h
  | anonymizeUser job anonymizedId => exact alike_anonymizeUser h hc
  | complete job certificate => exact alike_complete h hc
  | countTransactions job anonymizedId =>
    have hnext : ∀ db : ErasureDb,
        Yields ((ErasureTask.countTransactions job anonymizedId).next sign input) db
          (some (.countLoans job anonymizedId
            [s!"{db.transactions.countP fun r =>
              r.tenantId == job.tenantId} transactions (7-year retention)"]))
          db := fun _ => rfl
    have hy' := hnext db'
    rw [show db'.transactions = db.transactions by rw [hrest]] at hy'
    exact alike_quiet (f := id) h hc (hnext db) hy' rfl rfl (fun _ _ _ => rfl) (fun _ => ⟨rfl, rfl⟩) rfl
  | countLoans job anonymizedId preservedRecords =>
    have hnext : ∀ db : ErasureDb,
        Yields ((ErasureTask.countLoans job anonymizedId preservedRecords).next sign input) db
          (some (.anonymizeAccessLog job anonymizedId (preservedRecords ++
            [s!"{db.loans.countP fun r => r.tenantId == job.tenantId &&
              r.memberId == job.memberId} loan records (regulatory retention)"])))
          db := fun _ => rfl
    have hy' := hnext db'
    rw [show db'.loans = db.loans by rw [hrest]] at hy'
    exact alike_quiet (f := id) h hc (hnext db) hy' rfl rfl (fun _ _ _ => rfl) (fun _ => ⟨rfl, rfl⟩) rfl
  | findRequest job anonymizedId preservedRecords =>
    have hnext : ∀ db : ErasureDb,
        Yields ((ErasureTask.findRequest job anonymizedId preservedRecords).next sign input) db
          (some (.complete job (job.certificate sign db.requests[job.erasureRequestId]? anonymizedId
            preservedRecords input.now))) db := fun _ => rfl
    have hy' := hnext db'
    rw [show db'.requests = db.requests by rw [hrest]] at hy'
    exact alike_quiet (f := id) h hc (hnext db) hy' rfl rfl (fun _ _ _ => rfl) (fun _ => ⟨rfl, rfl⟩) rfl
  | anonymizeAccessLog job anonymizedId preservedRecords =>
    have hnext : ∀ db : ErasureDb,
        Yields ((ErasureTask.anonymizeAccessLog job anonymizedId preservedRecords).next sign input) db
          (some (.findRequest job anonymizedId preservedRecords))
          (db.anonymizeLogs job anonymizedId) := fun _ => rfl
    exact alike_quiet (f := (·.anonymizeLogs job anonymizedId)) h hc (hnext db) (hnext db') rfl rfl
      (fun _ _ _ => rfl) (fun _ => ⟨rfl, rfl⟩) rfl

/-! ## 4. Runs -/

/-- The four columns stay what they are. -/
theorem statement_retains {t' : Option ErasureTask} {j : Nat}
    (hy : Yields (t.next sign input) db t' db') :
    db'.users[j]?.map (·.retained) = db.users[j]?.map (·.retained) := by
  have hsame : db'.users = db.users → db'.users[j]?.map (·.retained) = db.users[j]?.map (·.retained) :=
    fun hu => by rw [hu]
  cases t with
  | anonymizeMember job =>
    simp only [ErasureTask.next, yields_bind, yields_get, yields_required, yields_modify] at hy
    obtain ⟨_, _, ⟨rfl, rfl⟩, _, _, ⟨-, rfl⟩, _, _, rfl, hy⟩ := hy
    exact hsame (by rw [← (yields_pure.mp hy).2])
  | anonymizeUser job anonymizedId =>
    simp only [ErasureTask.next, yields_bind, yields_get, yields_modify] at hy
    obtain ⟨_, _, ⟨rfl, rfl⟩, _, _, rfl, hy⟩ := hy
    rw [← (yields_pure.mp hy).2]
    unfold ErasureDb.updateUserOf
    split
    · rw [List.getElem?_modify]
      cases db.users[j]? with
      | none => rfl
      | some u =>
        refine congrArg some ?_
        split <;> rfl
    · rfl
  | countTransactions _ _ | countLoans _ _ _ | findRequest _ _ _ =>
    obtain ⟨-, rfl⟩ := yields_pure.mp hy
    rfl
  | anonymizeAccessLog _ _ _ =>
    simp only [ErasureTask.next, yields_bind, yields_get, yields_modify] at hy
    obtain ⟨_, _, ⟨rfl, rfl⟩, _, _, rfl, hy⟩ := hy
    exact hsame (by rw [← (yields_pure.mp hy).2, ErasureDb.anonymizeLogs])
  | complete job certificate =>
    simp only [ErasureTask.next, yields_bind, yields_get, yields_required, yields_modify] at hy
    obtain ⟨_, _, ⟨rfl, rfl⟩, _, _, ⟨-, rfl⟩, _, _, rfl, hy⟩ := hy
    exact hsame (by rw [← (yields_pure.mp hy).2, ErasureDb.completed])

theorem run_retains (w : ErasureWorld) (events : List ErasureEvent) (j : Nat) :
    (Machine.run (erasureProgram sign).step w events).state.users[j]?.map (·.retained) =
      w.state.users[j]?.map (·.retained) := by
  refine Machine.run_related
    (R := fun w w' : ErasureWorld =>
      w'.state.users[j]?.map (·.retained) = w.state.users[j]?.map (·.retained))
    (fun _ => rfl) (fun _ _ _ h h' => h'.trans h) fun w e => ?_
  rcases Process.step_cases (erasureProgram sign) w e with ⟨a, -, hstep⟩ | ⟨_, _, _, _, -, -, hy, -⟩ |
    ⟨hstate, -⟩
  · rw [hstep]
  · exact statement_retains hy
  · rw [hstate]

theorem lockstep_run (sign : CertificateData → String)
    (h : Lockstep (Related m uid) (Cleared m uid) w w') (events : List ErasureEvent) :
    Lockstep (Related m uid) (Cleared m uid) (Machine.run (erasureProgram sign).step w events)
      (Machine.run (erasureProgram sign).step w' events) := by
  induction events generalizing w w' with
  | nil => exact h
  | cons e events ih =>
    refine ih (lockstep_step h
      (fun a _ _ => ⟨fun hpast => (by cases hpast), fun hpast => (by cases hpast)⟩)
      fun i input t _ _ hR hJ => ?_)
    exact erasure_alike hR hJ

theorem user_of_columns {a b : ErasureUser} (hrest : a.unretained = b.unretained)
    (h : a.retained = b.retained) : a = b := by
  cases a
  cases b
  cases hrest
  cases h
  rfl

end ErasureLemmas

open ErasureLemmas

/-! ## 5. The erasure -/

/-- Once the erasure has been completed, whatever happened to the jobs, nothing tells the databases
apart exactly when they had the same email, phone number, id number and next of kin. -/
theorem erasure_forgets_iff (sign : CertificateData → String) (m uid : Nat) (db db' : ErasureDb)
    (h : DiffersIn m uid db db') (hnew : db.certificates = []) (events : List ErasureEvent)
    (herased : (db.after sign events).state.erased m = true) :
    SameErased m uid (db.after sign events).state (db'.after sign events).state ↔
      db'.users[uid]?.map (·.retained) = db.users[uid]?.map (·.retained) := by
  have hopening : Lockstep (Related m uid) (Cleared m uid) ⟨db, []⟩ ⟨db', []⟩ := by
    refine ⟨rfl, ⟨h, fun hnone => ?_⟩, fun i t hat => by cases hat⟩
    unfold ErasureDb.erased at hnone
    rw [hnew] at hnone
    cases hnone
  obtain ⟨-, ⟨hdiffers, hcleared⟩, -⟩ := lockstep_run sign hopening events
  obtain ⟨⟨hmember, -⟩, hrest⟩ := hcleared herased
  have hcertificates : (db'.after sign events).state.certificates =
      (db.after sign events).state.certificates := by
    have hsame := congrArg ErasureDb.certificates hdiffers.rest
    exact hsame
  have hkept : ∀ db : ErasureDb, (db.after sign events).state.users[uid]?.map (·.retained) =
      db.users[uid]?.map (·.retained) := fun db => run_retains ⟨db, []⟩ events uid
  constructor
  · intro hsame
    rw [← hkept db, ← hkept db', hsame.user]
  · intro hcolumns
    refine ⟨hmember, ?_, hcertificates⟩
    rw [← hkept db, ← hkept db'] at hcolumns
    have hrest' : (db'.after sign events).state.users[uid]?.map (·.unretained) =
        (db.after sign events).state.users[uid]?.map (·.unretained) := hrest
    cases ha : (db.after sign events).state.users[uid]? with
    | none =>
      rw [ha] at hrest'
      exact Option.map_eq_none_iff.mp hrest'
    | some a =>
      rw [ha] at hrest' hcolumns
      obtain ⟨b, hb, hba⟩ := Option.map_eq_some_iff.mp hrest'
      rw [hb, Option.map_some, Option.map_some, Option.some.injEq] at hcolumns
      rw [hb, user_of_columns hba hcolumns]

/-- A member with a request for erasure. -/
def exErasable (firstName nationalId idNumber : String) : ErasureDb :=
  { users := [⟨"a@x.ke", firstName, "Wanjiru", some "0711", some "0711", some idNumber, none, .active⟩]
    members := [⟨0, some nationalId, none, some "Juja Farm", none, none, true, none⟩]
    transactions := [⟨"t1", 0⟩]
    loans := []
    accessLogs := [⟨"t1", .member 0⟩]
    requests := [⟨"admin", "left", some "CERT-1", "PENDING", none, none⟩]
    certificates := [] }

/-- The job is lost after its first statement, and delivered again. -/
def exErasure : List ErasureEvent :=
  [.start ⟨"t1", 0, 0⟩, .advance 0 ⟨⟨0, by decide⟩, "aa"⟩, .crash 0, .start ⟨"t1", 0, 0⟩] ++
    List.replicate 7 (.advance 1 ⟨⟨10000, by decide⟩, "bb"⟩)

/-- Names and national ids are forgotten. -/
theorem erasure_forgets_iff_witness :
    SameErased 0 0 ((exErasable "Anne" "111" "7").after (fun _ => "") exErasure).state
        ((exErasable "Beth" "222" "7").after (fun _ => "") exErasure).state ↔
      (exErasable "Beth" "222" "7").users[0]?.map (·.retained) =
        (exErasable "Anne" "111" "7").users[0]?.map (·.retained) := by
  refine erasure_forgets_iff _ 0 0 _ _ ⟨rfl, fun j hj => ?_, rfl, fun x hx => ?_, fun j hj => ?_, rfl⟩ rfl
    exErasure (by decide +kernel)
  · cases j with
    | zero => exact absurd rfl hj
    | succ j => rfl
  · cases hx
    rfl
  · cases j with
    | zero => exact absurd rfl hj
    | succ j => rfl

/-- The job reports COMPLETED, and the user's row still holds the email, the phone number and the id
number; two members who differ in the id number are told apart. -/
theorem erasure_remembers :
    let erased := ((exErasable "Anne" "111" "7").after (fun _ => "") exErasure).state
    let other := ((exErasable "Anne" "111" "8").after (fun _ => "") exErasure).state
    erased.erased 0 = true ∧ other.erased 0 = true ∧
      erased.users[0]?.map (·.retained) = some ("a@x.ke", some "0711", some "7", none) ∧
      erased.users[0]? ≠ other.users[0]? := by
  decide +kernel

end BebaSacco
