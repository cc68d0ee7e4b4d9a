import BebaSacco.Deposits
import BebaSacco.Lib.Process
import BebaSacco.Lib.Table
import BebaSacco.Users
import Mathlib.Data.List.Dedup
import Mathlib.Data.List.Sort
import Mathlib.Data.List.Perm.Subperm

/-! # Documents of members

A member uploads documents, a confirmation hands them to the reviewers, and the reviews decide about
the member. Most writes are by the id of a document that an earlier statement has read; the database
statements of all calls interleave. A sweep deletes uploads that nobody has confirmed.

Results:
 1. `distinctTypes_all`: as many types as required are all of them.
 2. `statement_does`: what one statement does to the documents and to the members.
 3. `kyc_consistent`: the steps of every document and what stands behind an approved member, when no
    document has moved on between a call's read and its write.
 4. `kyc_broken`: two reviewers, a late confirmation, and a sweep that crosses a confirmation.
-/

namespace BebaSacco

open Txn Process

inductive DocumentType where
  | nationalIdFront
  | nationalIdBack
  | kraPin
  | memberForm
  | crbConsent
  | other
  deriving DecidableEq, Repr

inductive DocumentStatus where
  | pendingUpload
  | pendingReview
  | approved
  | rejected
  | deleted
  | quarantine
  deriving DecidableEq, Repr

inductive KycStatus where
  | pendingReview
  | approved
  | rejected
  | pendingUpload
  deriving DecidableEq, Repr

structure Document where
  memberId : Nat
  type : DocumentType
  status : DocumentStatus
  mimeType : String
  sizeBytes : Nat
  checksum : Option String
  expiresAt : Option Int
  uploadToken : Option String
  uploadTokenExpires : Option Int
  uploadConfirmed : Bool
  deriving DecidableEq, Repr

def REQUIRED_KYC_DOCUMENT_TYPES : List DocumentType :=
  [.nationalIdFront, .nationalIdBack, .kraPin, .memberForm]

def MAX_DOCUMENT_UPLOAD_BYTES : Nat := 5 * 1024 * 1024

def LEGACY_UPLOAD_URL_TTL_SECONDS : Int := 3600

def SECURE_UPLOAD_URL_TTL_SECONDS : Int := 900

def REVIEW_ROLES : List UserRole := [.tenantAdmin, .manager, .chairman, .loanOfficer]

/-- The time, the members' `kycStatus` and the documents, both by their ids. -/
structure KycDesk where
  now : Int
  members : List KycStatus
  documents : List Document
  deriving DecidableEq, Repr

/-- An upload intent; `uploadToken` is there when secure uploads are enabled. -/
structure UploadIntent where
  memberId : Nat
  type : DocumentType
  mimeType : String
  sizeBytes : Nat
  checksum : Option String
  uploadToken : Option String
  deriving DecidableEq, Repr

structure ConfirmUpload where
  memberId : Nat
  documentId : Nat
  checksum : Option String
  uploadToken : Option String
  deriving DecidableEq, Repr

structure ReviewDocument where
  role : UserRole
  documentId : Nat
  status : DocumentStatus
  rejectionReason : Option String
  deriving DecidableEq, Repr

/-- What the storage says about an uploaded object: the answer to `HEAD`, and the length and the hash
of its bytes. -/
structure StoredObject where
  contentType : Option String
  contentLength : Nat
  bytes : Nat
  sha256 : String
  deriving DecidableEq, Repr

/-- The time of a statement, the object in the storage, and the types that the tenant requires. -/
structure KycInput where
  time : Int
  stored : Option StoredObject
  configured : List DocumentType
  deriving DecidableEq, Repr

inductive KycCall where
  | registerMember
  | requestUploadUrl (u : UploadIntent)
  | confirmSecureUpload (c : ConfirmUpload)
  | confirmUpload (c : ConfirmUpload)
  | cleanupExpiredUploads
  | reviewDocument (r : ReviewDocument)
  | processReview (documentId : Nat) (approve : Bool)
  deriving DecidableEq, Repr

inductive KycTask where
  | createMember
  | findMember (u : UploadIntent)
  | createDocument (u : UploadIntent) (kycStatus : KycStatus)
  | reopenMember (memberId : Nat)
  | findSecure (c : ConfirmUpload)
  | verifyChecksum (c : ConfirmUpload) (document : Document)
  | integrityFailed
  | confirmSecure (c : ConfirmUpload) (sizeBytes : Nat)
  | findLegacy (c : ConfirmUpload)
  | confirmLegacy (c : ConfirmUpload) (document : Document)
  | findReady (memberId : Nat)
  | updateReady (memberId : Nat)
  | findExpired
  | deleteExpired (rows : List (Nat × Document))
  | findReviewable (r : ReviewDocument)
  /-- `document` is what was read. -/
  | persistReview (r : ReviewDocument) (document : Document)
  | rejectMember (memberId : Nat)
  | findApproved (memberId : Nat)
  | approveMember (memberId : Nat)
  | findQueued (documentId : Nat) (approve : Bool)
  | persistQueued (documentId : Nat) (approve : Bool) (document : Document)
  deriving DecidableEq, Repr

abbrev KycWorld := World KycDesk KycTask

abbrev KycEvent := Event KycCall KycInput

/-! ## 1. What the calls do -/

def normalizeMimeType (mimeType : String) : String :=
  (jsTrim (String.ofList (mimeType.toList.takeWhile (· != ';')))).toLower

/-- The checks of an uploaded object that both confirmations make. -/
def checkStored (document : Document) (stored : Option StoredObject) :
    Except AuthErr StoredObject := do
  match stored with
  | none => throw (.badRequest "Uploaded object was not found in storage")
  | some object =>
    if object.contentType.map normalizeMimeType ≠ some document.mimeType then
      throw (.badRequest "Uploaded MIME type mismatch")
    if object.contentLength < 1 then
      throw (.badRequest "Uploaded document is empty")
    if MAX_DOCUMENT_UPLOAD_BYTES < object.contentLength then
      throw (.badRequest s!"Uploaded document exceeds {MAX_DOCUMENT_UPLOAD_BYTES} bytes")
    -- `Math.ceil(declaredSizeBytes * 1.05)`
    if (document.sizeBytes * 105 + 99) / 100 < object.contentLength then
      throw (.badRequest "File exceeds declared size by >5%")
    return object

/-- The stream is longer than the object was said to be. -/
def StoredObject.tooLong (object : StoredObject) : Bool :=
  (object.contentLength * 11 + 9) / 10 < object.bytes || MAX_DOCUMENT_UPLOAD_BYTES < object.bytes

/-- The types of a member's documents with one of the statuses, as `distinct` gives them. -/
def distinctTypes (documents : List Document) (memberId : Nat) (types : List DocumentType)
    (statuses : List DocumentStatus) : List DocumentType :=
  ((documents.filter fun x =>
    x.memberId == memberId && types.contains x.type && statuses.contains x.status).map
      (·.type)).dedup

/-- The first hundred expired uploads. -/
def expiredUploads (now : Int) (documents : List Document) : List (Nat × Document) :=
  let rows := Table.selectRows
    (fun x => x.status == .pendingUpload && x.expiresAt.any (· < now)) documents
  (rows.insertionSort fun a b => a.2.expiresAt.getD 0 ≤ b.2.expiresAt.getD 0).take 100

def KycDesk.setStatus (d : KycDesk) (documentId : Nat) (status : DocumentStatus) : KycDesk :=
  { d with documents := d.documents.modify documentId ({ · with status }) }

def KycDesk.setMember (d : KycDesk) (memberId : Nat) (kycStatus : KycStatus) : KycDesk :=
  { d with members := d.members.set memberId kycStatus }

/-- The row that `requestUploadUrl` creates. -/
def UploadIntent.row (u : UploadIntent) (now : Int) : Document :=
  let ttl := if u.uploadToken.isSome then SECURE_UPLOAD_URL_TTL_SECONDS
    else LEGACY_UPLOAD_URL_TTL_SECONDS
  { memberId := u.memberId
    type := u.type
    status := .pendingUpload
    mimeType := u.mimeType
    sizeBytes := u.sizeBytes
    checksum := u.checksum
    expiresAt := some (now + ttl * 1000)
    uploadToken := u.uploadToken
    uploadTokenExpires := u.uploadToken.map fun _ => now + ttl * 1000
    uploadConfirmed := false }

/-- The row that `confirmUpload` writes. -/
def Document.confirm (x : Document) (checksum : Option String) (sizeBytes : Nat) : Document :=
  { x with status := .pendingReview, sizeBytes, checksum, expiresAt := none }

/-- The row that `confirmSecureUpload` writes. -/
def Document.confirmSecure (x : Document) (checksum : Option String) (sizeBytes : Nat) : Document :=
  { x.confirm checksum sizeBytes with
    uploadConfirmed := true, uploadToken := none, uploadTokenExpires := none }

/-- The row that the update of `confirmSecureUpload` looks for. -/
def ConfirmUpload.matches (c : ConfirmUpload) (now : Int) (x : Document) : Bool :=
  x.memberId == c.memberId && x.status == .pendingUpload && x.uploadToken == c.uploadToken &&
    x.uploadTokenExpires.any (now < ·) && !x.uploadConfirmed

/-- One statement of a call, at its time. -/
def KycTask.statement (input : KycInput) : KycTask → Txn KycDesk AuthErr (Option KycTask)
  | .createMember => do
    modify fun d => { d with members := d.members ++ [.pendingUpload] }
    return none
  | .findMember u => do
    let d ← get
    let kycStatus ← required d.members[u.memberId]? (.notFound "Member profile not found")
    return some (.createDocument u kycStatus)
  | .createDocument u kycStatus => do
    modify fun d => { d with documents := d.documents ++ [u.row d.now] }
    return if kycStatus = .rejected then some (.reopenMember u.memberId) else none
  | .reopenMember memberId => do
    modify (·.setMember memberId .pendingUpload)
    return none
  | .findSecure c => do
    ensure (c.uploadToken.isSome = true)
      (.badRequest "uploadToken is required when secure upload is enabled")
    ensure (c.checksum.isSome = true)
      (.badRequest "checksum is required when secure upload is enabled")
    let d ← get
    let document ← required (d.documents[c.documentId]?.filter (·.memberId == c.memberId))
      (.notFound "Pending upload document not found")
    ensure (document.status = .pendingUpload) (.conflict "INVALID_UPLOAD_TOKEN")
    return some (.verifyChecksum c document)
  | .verifyChecksum c document => do
    let object ← fromExcept (checkStored document input.stored)
    ensure (object.tooLong = false) (.badRequest "FILE_SIZE_MISMATCH")
    if c.checksum.map (·.toLower) = some object.sha256 then
      return some (.confirmSecure c object.contentLength)
    else do
      modify (·.setStatus c.documentId .quarantine)
      return some .integrityFailed
  | .integrityFailed => throw (.badRequest "FILE_INTEGRITY_CHECK_FAILED")
  | .confirmSecure c sizeBytes => do
    let d ← get
    ensure (d.documents[c.documentId]?.any (c.matches d.now) = true)
      (.conflict "INVALID_UPLOAD_TOKEN")
    modify fun d =>
      { d with documents := d.documents.modify c.documentId (·.confirmSecure c.checksum sizeBytes) }
    return some (.findReady c.memberId)
  | .findLegacy c => do
    let d ← get
    let document ← required
      (d.documents[c.documentId]?.filter fun x =>
        x.memberId == c.memberId && x.status == .pendingUpload)
      (.notFound "Pending upload document not found")
    ensure (document.expiresAt.any (· < d.now) = false)
      (.badRequest "Upload URL has expired. Request a new upload URL.")
    return some (.confirmLegacy c document)
  | .confirmLegacy c document => do
    let object ← fromExcept (checkStored document input.stored)
    modify fun d =>
      { d with
        documents := d.documents.modify c.documentId
          (·.confirm (c.checksum.or document.checksum) object.contentLength) }
    return some (.findReady c.memberId)
  | .findReady memberId => do
    let d ← get
    let ready := distinctTypes d.documents memberId REQUIRED_KYC_DOCUMENT_TYPES
      [.pendingReview, .approved]
    return if ready.length = REQUIRED_KYC_DOCUMENT_TYPES.length then some (.updateReady memberId)
      else none
  | .updateReady memberId => do
    modify (·.setMember memberId .pendingReview)
    return none
  | .findExpired => do
    let d ← get
    return some (.deleteExpired (expiredUploads d.now d.documents))
  | .deleteExpired [] => return none
  | .deleteExpired (row :: rows) => do
    modify (·.setStatus row.1 .deleted)
    return some (.deleteExpired rows)
  | .findReviewable r => do
    ensure (r.role ∈ REVIEW_ROLES ∨ r.role = .superAdmin)
      (.forbidden ("Only TENANT_ADMIN, MANAGER, CHAIRMAN, and LOAN_OFFICER " ++
        "can review KYC documents"))
    ensure (r.status = .approved ∨ r.status = .rejected)
      (.badRequest "Document review status must be APPROVED or REJECTED")
    ensure (r.status = .rejected → (r.rejectionReason.map jsTrim).any (· != "") = true)
      (.badRequest "Rejection reason is required")
    let d ← get
    let document ← required (d.documents[r.documentId]?.filter (·.status == .pendingReview))
      (.notFound "Pending review document not found")
    return some (.persistReview r document)
  | .persistReview r _ => do
    modify (·.setStatus r.documentId r.status)
    let d ← get
    let updated ← required d.documents[r.documentId]? (.notFound "Record to update not found.")
    -- the rejection of a document that is not required goes on to count the approved ones
    if r.status = .rejected ∧ updated.type ∈ REQUIRED_KYC_DOCUMENT_TYPES then
      return some (.rejectMember updated.memberId)
    else
      return some (.findApproved updated.memberId)
  | .rejectMember memberId => do
    modify (·.setMember memberId .rejected)
    return none
  | .findApproved memberId => do
    let d ← get
    let approved := distinctTypes d.documents memberId REQUIRED_KYC_DOCUMENT_TYPES [.approved]
    return if approved.length = REQUIRED_KYC_DOCUMENT_TYPES.length then
      some (.approveMember memberId) else none
  | .approveMember memberId => do
    modify (·.setMember memberId .approved)
    return none
  | .findQueued documentId approve => do
    let d ← get
    match d.documents[documentId]?.filter (·.status == .pendingReview) with
    | some document => return some (.persistQueued documentId approve document)
    | none => return none
  | .persistQueued documentId approve _ => do
    modify (·.setStatus documentId (if approve then .approved else .rejected))
    let d ← get
    let updated ← required d.documents[documentId]? (.notFound "Record to update not found.")
    if approve then do
      let requiredTypes :=
        if input.configured = [] then REQUIRED_KYC_DOCUMENT_TYPES else input.configured
      let approved := distinctTypes d.documents updated.memberId requiredTypes [.approved]
      if approved.length = requiredTypes.length then
        modify (·.setMember updated.memberId .approved)
    else
      modify (·.setMember updated.memberId .rejected)
    return none

def KycTask.next (t : KycTask) (input : KycInput) : Txn KycDesk AuthErr (Option KycTask) := do
  modify fun d => { d with now := max d.now input.time }
  t.statement input

def KycCall.entry : KycCall → KycTask
  | .registerMember => .createMember
  | .requestUploadUrl u => .findMember u
  | .confirmSecureUpload c => .findSecure c
  | .confirmUpload c => .findLegacy c
  | .cleanupExpiredUploads => .findExpired
  | .reviewDocument r => .findReviewable r
  | .processReview documentId approve => .findQueued documentId approve

def kycProgram : Program KycDesk AuthErr KycCall KycInput KycTask := ⟨KycCall.entry, KycTask.next⟩

def KycWorld.opening (now : Int) : KycWorld := ⟨⟨now, [], []⟩, []⟩

def KycWorld.after (w : KycWorld) (events : List KycEvent) : KycWorld :=
  Machine.run kycProgram.step w events

/-! ## 2. The properties and the condition -/

inductive DocumentStatus.Moves : DocumentStatus → DocumentStatus → Prop
  | confirm : Moves .pendingUpload .pendingReview
  | quarantine : Moves .pendingUpload .quarantine
  | delete : Moves .pendingUpload .deleted
  | approve : Moves .pendingReview .approved
  | reject : Moves .pendingReview .rejected

/-- Every document stays where it is or moves on. -/
def StatusesMove (documents documents' : List Document) : Prop :=
  ∀ (k : Nat) (x : Document), documents[k]? = some x → ∃ x', documents'[k]? = some x' ∧
    (x'.status = x.status ∨ x.status.Moves x'.status)

/-- A member has an approved document of every required type. -/
def Backed (documents : List Document) (memberId : Nat) : Prop :=
  ∀ type ∈ REQUIRED_KYC_DOCUMENT_TYPES, ∃ x ∈ documents,
    x.memberId = memberId ∧ x.type = type ∧ x.status = .approved

def KycDesk.ApprovedBacked (d : KycDesk) : Prop :=
  ∀ m, d.members[m]? = some .approved → Backed d.documents m

/-- A write to a document by its id: the status that the call has read, and the one it writes. -/
structure DocumentWrite where
  documentId : Nat
  read : DocumentStatus
  written : DocumentStatus
  deriving DecidableEq, Repr

/-- The write by id that a statement makes. -/
def KycTask.writes (input : KycInput) : KycTask → Option DocumentWrite
  | .verifyChecksum c document =>
    match checkStored document input.stored with
    | .ok object =>
      if object.tooLong || c.checksum.map (·.toLower) == some object.sha256 then none
      else some ⟨c.documentId, document.status, .quarantine⟩
    | .error _ => none
  | .confirmLegacy c document => some ⟨c.documentId, document.status, .pendingReview⟩
  | .deleteExpired (row :: _) => some ⟨row.1, row.2.status, .deleted⟩
  | .persistReview r document => some ⟨r.documentId, document.status, r.status⟩
  | .persistQueued documentId approve document =>
    some ⟨documentId, document.status, if approve then .approved else .rejected⟩
  | _ => none

/-- The types that a queued approval counts are at least the required ones. -/
def KycTask.demanding (input : KycInput) : KycTask → Bool
  | .persistQueued _ true _ =>
    input.configured == [] || REQUIRED_KYC_DOCUMENT_TYPES.all (input.configured.contains ·)
  | _ => true

/-- The document still has the status that was read, or has got the one that is written. -/
def DocumentWrite.fresh (write : DocumentWrite) (documents : List Document) : Bool :=
  documents[write.documentId]?.all fun x => x.status == write.read || x.status == write.written

/-- The condition on an event. -/
def KycWorld.orderly (w : KycWorld) : KycEvent → Bool
  | .advance i input =>
    match w.task i with
    | some t => (t.writes input).all (·.fresh w.state.documents) && t.demanding input
    | none => true
  | _ => true

namespace KycLemmas

variable {w : KycWorld} {d d' : KycDesk} {t : KycTask} {t' : Option KycTask} {input : KycInput}
  {e : KycEvent} {documents documents' : List Document} {memberId k : Nat} {x : Document}
  {types : List DocumentType} {type : DocumentType}

/-! ## 3. Documents -/

/-- What stays of a document whatever happens to it. -/
structure KeptAs (x x' : Document) : Prop where
  memberId : x'.memberId = x.memberId
  type : x'.type = x.type
  status : x'.status = x.status ∨ x.status.Moves x'.status

def Kept (documents documents' : List Document) : Prop :=
  ∀ (k : Nat) (x : Document), documents[k]? = some x → ∃ x', documents'[k]? = some x' ∧ KeptAs x x'

theorem keptAs_refl (x : Document) : KeptAs x x := ⟨rfl, rfl, .inl rfl⟩

theorem kept_refl (documents : List Document) : Kept documents documents :=
  fun _ x hx => ⟨x, hx, keptAs_refl x⟩

theorem kept_append (documents : List Document) (x : Document) : Kept documents (documents ++ [x]) :=
  fun _ y hy => ⟨y, Table.getElem?_append_one_old hy, keptAs_refl y⟩

theorem kept_modify {f : Document → Document} (hf : ∀ x, documents[k]? = some x → KeptAs x (f x)) :
    Kept documents (documents.modify k f) := by
  intro j x hx
  by_cases hjk : k = j
  · subst hjk
    exact ⟨f x, Table.getElem?_modify_self hx, hf x hx⟩
  · exact ⟨x, (Table.getElem?_modify_other hjk).trans hx, keptAs_refl x⟩

theorem keptAs_approved {x' : Document} (h : KeptAs x x') (hx : x.status = .approved) :
    x'.status = .approved := by
  rcases h.status with hsame | hmoves
  · exact hsame.trans hx
  · rw [hx] at hmoves
    cases hmoves

theorem backed_kept (hkept : Kept documents documents') (h : Backed documents memberId) :
    Backed documents' memberId := by
  intro type htype
  obtain ⟨x, hx, rfl, rfl, happroved⟩ := h type htype
  obtain ⟨k, hk⟩ := List.getElem?_of_mem hx
  obtain ⟨x', hx', hkeptAs⟩ := hkept k x hk
  exact ⟨x', List.mem_of_getElem? hx', hkeptAs.memberId, hkeptAs.type,
    keptAs_approved hkeptAs happroved⟩

theorem kept_write (write : DocumentWrite) {f : Document → Document}
    (hfresh : write.fresh documents = true) (hmoves : write.read.Moves write.written)
    (hf : ∀ x, (f x).memberId = x.memberId ∧ (f x).type = x.type ∧ (f x).status = write.written) :
    Kept documents (documents.modify write.documentId f) := by
  refine kept_modify fun x hx => ?_
  obtain ⟨hmember, htype, hstatus⟩ := hf x
  refine ⟨hmember, htype, ?_⟩
  unfold DocumentWrite.fresh at hfresh
  rw [hx, Option.all_some, Bool.or_eq_true, beq_iff_eq, beq_iff_eq] at hfresh
  rcases hfresh with hread | hwritten
  · refine .inr ?_
    rw [hread, hstatus]
    exact hmoves
  · exact .inl (hstatus.trans hwritten.symm)

/-! ## 4. Required types -/

theorem mem_distinctTypes {statuses : List DocumentStatus}
    (h : type ∈ distinctTypes documents memberId types statuses) :
    type ∈ types ∧ ∃ x ∈ documents, x.memberId = memberId ∧ x.type = type ∧ x.status ∈ statuses := by
  unfold distinctTypes at h
  rw [List.mem_dedup, List.mem_map] at h
  obtain ⟨x, hx, rfl⟩ := h
  obtain ⟨hmem, hx⟩ := List.mem_filter.mp hx
  simp only [Bool.and_eq_true, beq_iff_eq, List.contains_iff_mem] at hx
  exact ⟨hx.1.2, x, hmem, hx.1.1, rfl, hx.2⟩

/-- Where as many types are found as are asked for, all of them are. -/
theorem distinctTypes_all {statuses : List DocumentStatus}
    (h : (distinctTypes documents memberId types statuses).length = types.length)
    (htype : type ∈ types) : type ∈ distinctTypes documents memberId types statuses := by
  have hsub : (distinctTypes documents memberId types statuses).Subperm types :=
    List.subperm_of_subset (List.nodup_dedup _) fun _ hmem => (mem_distinctTypes hmem).1
  exact (hsub.perm_of_length_le (Nat.le_of_eq h.symm)).mem_iff.mpr htype

theorem backed_of_distinct
    (h : (distinctTypes documents memberId types [.approved]).length = types.length)
    (hrequired : REQUIRED_KYC_DOCUMENT_TYPES ⊆ types) : Backed documents memberId := by
  intro type htype
  obtain ⟨-, x, hx, hmember, hxtype, hstatus⟩ :=
    mem_distinctTypes (distinctTypes_all h (hrequired htype))
  exact ⟨x, hx, hmember, hxtype, List.mem_singleton.mp hstatus⟩

/-! ## 5. One statement -/

/-- What a call knows about the desk between two statements. -/
def Knows (d : KycDesk) : KycTask → Prop
  | .approveMember memberId => Backed d.documents memberId
  | .verifyChecksum _ document | .confirmLegacy _ document => document.status = .pendingUpload
  | .deleteExpired rows => ∀ row ∈ rows, row.2.status = .pendingUpload
  | .persistReview r document =>
    (r.status = .approved ∨ r.status = .rejected) ∧ document.status = .pendingReview
  | .persistQueued _ _ document => document.status = .pendingReview
  | _ => True

theorem knows_kept (hkept : Kept d.documents d'.documents) (h : Knows d t) : Knows d' t := by
  cases t with
  | approveMember memberId => exact backed_kept hkept h
  | _ => exact h

/-- Documents only move on, who becomes approved has the documents for it, and the call knows what
it needs next. -/
structure Does (d : KycDesk) (t' : Option KycTask) (d' : KycDesk) : Prop where
  kept : Kept d.documents d'.documents
  approved : ∀ m, d'.members[m]? = some .approved →
    d.members[m]? = some .approved ∨ Backed d'.documents m
  knows : ∀ u, t' = some u → Knows d' u

theorem does_read (h : ∀ u, t' = some u → Knows d u) : Does d t' d :=
  ⟨kept_refl _, fun _ hm => .inl hm, h⟩

theorem does_documents (hkept : Kept d.documents documents)
    (h : ∀ u, t' = some u → Knows { d with documents } u) : Does d t' { d with documents } :=
  ⟨hkept, fun _ hm => .inl hm, h⟩

theorem approved_setMember {kycStatus : KycStatus} (hstatus : kycStatus ≠ .approved) {m : Nat}
    (hm : (d.setMember memberId kycStatus).members[m]? = some .approved) :
    d.members[m]? = some .approved := by
  have hset : (d.members.set memberId kycStatus)[m]? = some .approved := hm
  rw [List.getElem?_set] at hset
  split at hset
  · split at hset
    · cases hset
      exact absurd rfl hstatus
    · cases hset
  · exact hset

theorem does_member {kycStatus : KycStatus} (hstatus : kycStatus ≠ .approved) :
    Does d none (d.setMember memberId kycStatus) :=
  ⟨kept_refl _, fun _ hm => .inl (approved_setMember hstatus hm), fun _ hu => by cases hu⟩

theorem approved_setApproved (hbacked : Backed d.documents memberId) {m : Nat}
    (hm : (d.setMember memberId .approved).members[m]? = some .approved) :
    d.members[m]? = some .approved ∨ Backed d.documents m := by
  by_cases heq : memberId = m
  · subst heq
    exact .inr hbacked
  · exact .inl ((List.getElem?_set_ne heq).symm.trans hm)

theorem kept_confirmSecure {c : ConfirmUpload} {now : Int} {sizeBytes : Nat}
    (h : documents[c.documentId]?.any (c.matches now) = true) :
    Kept documents (documents.modify c.documentId (·.confirmSecure c.checksum sizeBytes)) := by
  refine kept_modify fun x hx => ⟨rfl, rfl, .inr ?_⟩
  rw [hx, Option.any_some] at h
  unfold ConfirmUpload.matches at h
  simp only [Bool.and_eq_true, beq_iff_eq] at h
  rw [h.1.1.1.2]
  exact .confirm

theorem kept_review {read status : DocumentStatus} (hread : read = .pendingReview)
    (hstatus : status = .approved ∨ status = .rejected)
    (hfresh : DocumentWrite.fresh ⟨k, read, status⟩ d.documents = true) :
    Kept d.documents (d.setStatus k status).documents := by
  refine kept_write ⟨k, read, status⟩ hfresh ?_ fun x => ⟨rfl, rfl, rfl⟩
  subst hread
  rcases hstatus with rfl | rfl
  · exact .approve
  · exact .reject

theorem required_of_demanding {documentId : Nat}
    (h : KycTask.demanding input (.persistQueued documentId true x) = true) :
    REQUIRED_KYC_DOCUMENT_TYPES ⊆
      (if input.configured = [] then REQUIRED_KYC_DOCUMENT_TYPES else input.configured) := by
  unfold KycTask.demanding at h
  rw [Bool.or_eq_true, beq_iff_eq] at h
  intro type htype
  split
  · exact htype
  · next hconfigured =>
    have hall := h.resolve_left hconfigured
    exact List.contains_iff_mem.mp (List.all_eq_true.mp hall type htype)

theorem mem_expiredUploads {now : Int} {row : Nat × Document}
    (h : row ∈ expiredUploads now documents) : row.2.status = .pendingUpload := by
  have hrow := (List.perm_insertionSort _ _).mem_iff.mp (List.mem_of_mem_take h)
  have hfilter := (Table.mem_selectRows.mp hrow).2
  exact beq_iff_eq.mp (Bool.and_eq_true_iff.mp hfilter).1

theorem statement_does (h : Yields (t.statement input) d t' d')
    (hfresh : (t.writes input).all (·.fresh d.documents) = true) (hdemanding : t.demanding input = true)
    (hknows : Knows d t) : Does d t' d' := by
  cases t with
  | createMember =>
    simp only [KycTask.statement, yields_bind, yields_modify, yields_pure] at h
    obtain ⟨_, _, rfl, rfl, rfl⟩ := h
    refine ⟨kept_refl _, fun m hm => ?_, fun u hu => by cases hu⟩
    rcases Table.getElem?_append_one_some hm with hold | ⟨-, hnew⟩
    · exact .inl hold
    · cases hnew
  | findMember u =>
    simp only [KycTask.statement, yields_bind, yields_get, yields_required, yields_pure] at h
    obtain ⟨_, _, ⟨rfl, rfl⟩, _, _, ⟨-, rfl⟩, rfl, rfl⟩ := h
    exact does_read fun v hv => by cases hv; trivial
  | createDocument u kycStatus =>
    simp only [KycTask.statement, yields_bind, yields_modify, yields_pure] at h
    obtain ⟨_, _, rfl, rfl, rfl⟩ := h
    refine does_documents (kept_append _ _) fun v hv => ?_
    split at hv
    · cases hv
      trivial
    · cases hv
  | reopenMember memberId =>
    simp only [KycTask.statement, yields_bind, yields_modify, yields_pure] at h
    obtain ⟨_, _, rfl, rfl, rfl⟩ := h
    exact does_member (by simp)
  | findSecure c =>
    simp only [KycTask.statement, yields_bind, yields_get, yields_required, yields_ensure,
      yields_pure] at h
    obtain ⟨_, _, ⟨-, rfl⟩, _, _, ⟨-, rfl⟩, _, _, ⟨rfl, rfl⟩, _, _, ⟨-, rfl⟩, _, _, ⟨hpending, rfl⟩,
      rfl, rfl⟩ := h
    exact does_read fun v hv => by cases hv; exact hpending
  | verifyChecksum c document =>
    simp only [KycTask.statement, yields_bind, yields_fromExcept, yields_ensure] at h
    obtain ⟨object, _, ⟨hobject, rfl⟩, _, _, ⟨hlength, rfl⟩, h⟩ := h
    split at h
    · obtain ⟨rfl, rfl⟩ := yields_pure.mp h
      exact does_read fun v hv => by cases hv; trivial
    · next hchecksum =>
      simp only [yields_bind, yields_modify, yields_pure] at h
      obtain ⟨_, _, rfl, rfl, rfl⟩ := h
      have hwrites : KycTask.writes input (.verifyChecksum c document) =
          some ⟨c.documentId, document.status, .quarantine⟩ := by
        simp [KycTask.writes, hobject, hlength, hchecksum]
      rw [hwrites, Option.all_some, show document.status = .pendingUpload from hknows] at hfresh
      exact does_documents (kept_write _ hfresh .quarantine fun x => ⟨rfl, rfl, rfl⟩)
        fun v hv => by cases hv; trivial
  | integrityFailed => exact (yields_throw.mp h).elim
  | confirmSecure c sizeBytes =>
    simp only [KycTask.statement, yields_bind, yields_get, yields_ensure, yields_modify,
      yields_pure] at h
    obtain ⟨_, _, ⟨rfl, rfl⟩, _, _, ⟨hmatches, rfl⟩, _, _, rfl, rfl, rfl⟩ := h
    exact does_documents (kept_confirmSecure hmatches) fun v hv => by cases hv; trivial
  | findLegacy c =>
    simp only [KycTask.statement, yields_bind, yields_get, yields_required, yields_ensure,
      yields_pure] at h
    obtain ⟨_, _, ⟨rfl, rfl⟩, _, _, ⟨hfound, rfl⟩, _, _, ⟨-, rfl⟩, rfl, rfl⟩ := h
    have hpending := (Option.filter_eq_some_iff.mp hfound).2
    rw [Bool.and_eq_true, beq_iff_eq, beq_iff_eq] at hpending
    exact does_read fun v hv => by cases hv; exact hpending.2
  | confirmLegacy c document =>
    simp only [KycTask.statement, yields_bind, yields_fromExcept, yields_modify, yields_pure] at h
    obtain ⟨object, _, ⟨-, rfl⟩, _, _, rfl, rfl, rfl⟩ := h
    refine does_documents (kept_write _ hfresh ?_ fun x => ⟨rfl, rfl, rfl⟩) ?_
    · exact (show document.status = .pendingUpload from hknows) ▸ .confirm
    exact
      fun v hv => by cases hv; trivial
  | findReady memberId =>
    simp only [KycTask.statement, yields_bind, yields_get, yields_pure] at h
    obtain ⟨_, _, ⟨rfl, rfl⟩, rfl, rfl⟩ := h
    refine does_read fun v hv => ?_
    split at hv
    · cases hv
      trivial
    · cases hv
  | updateReady memberId =>
    simp only [KycTask.statement, yields_bind, yields_modify, yields_pure] at h
    obtain ⟨_, _, rfl, rfl, rfl⟩ := h
    exact does_member (by simp)
  | findExpired =>
    simp only [KycTask.statement, yields_bind, yields_get, yields_pure] at h
    obtain ⟨_, _, ⟨rfl, rfl⟩, rfl, rfl⟩ := h
    exact does_read fun v hv => by cases hv; exact fun row hrow => mem_expiredUploads hrow
  | deleteExpired rows =>
    cases rows with
    | nil =>
      obtain ⟨rfl, rfl⟩ := yields_pure.mp h
      exact does_read fun v hv => by cases hv
    | cons row rows =>
      simp only [KycTask.statement, yields_bind, yields_modify, yields_pure] at h
      obtain ⟨_, _, rfl, rfl, rfl⟩ := h
      obtain ⟨hpending, hrest⟩ := List.forall_mem_cons.mp hknows
      refine does_documents (kept_write _ hfresh ?_ fun x => ⟨rfl, rfl, rfl⟩)
        fun v hv => by cases hv; exact hrest
      exact hpending ▸ .delete
  | findReviewable r =>
    simp only [KycTask.statement, yields_bind, yields_get, yields_ensure, yields_required,
      yields_pure] at h
    obtain ⟨_, _, ⟨-, rfl⟩, _, _, ⟨hstatus, rfl⟩, _, _, ⟨-, rfl⟩, _, _, ⟨rfl, rfl⟩, _, _,
      ⟨hfound, rfl⟩, rfl, rfl⟩ := h
    have hpending := beq_iff_eq.mp (Option.filter_eq_some_iff.mp hfound).2
    exact does_read fun v hv => by cases hv; exact ⟨hstatus, hpending⟩
  | persistReview r document =>
    simp only [KycTask.statement, yields_bind, yields_modify, yields_get, yields_required] at h
    obtain ⟨_, _, rfl, _, _, ⟨rfl, rfl⟩, updated, _, ⟨-, rfl⟩, h⟩ := h
    have hkept := kept_review (d := d) hknows.2 hknows.1 hfresh
    split at h
    · obtain ⟨rfl, rfl⟩ := yields_pure.mp h
      exact does_documents hkept fun v hv => by cases hv; trivial
    · obtain ⟨rfl, rfl⟩ := yields_pure.mp h
      exact does_documents hkept fun v hv => by cases hv; trivial
  | rejectMember memberId =>
    simp only [KycTask.statement, yields_bind, yields_modify, yields_pure] at h
    obtain ⟨_, _, rfl, rfl, rfl⟩ := h
    exact does_member (by simp)
  | findApproved memberId =>
    simp only [KycTask.statement, yields_bind, yields_get, yields_pure] at h
    obtain ⟨_, _, ⟨rfl, rfl⟩, rfl, rfl⟩ := h
    refine does_read fun v hv => ?_
    split at hv
    · next hall =>
      cases hv
      exact backed_of_distinct hall (List.Subset.refl _)
    · cases hv
  | approveMember memberId =>
    simp only [KycTask.statement, yields_bind, yields_modify, yields_pure] at h
    obtain ⟨_, _, rfl, rfl, rfl⟩ := h
    exact ⟨kept_refl _, fun _ hm => approved_setApproved hknows hm, fun _ hu => by cases hu⟩
  | findQueued documentId approve =>
    simp only [KycTask.statement, yields_bind, yields_get] at h
    obtain ⟨_, _, ⟨rfl, rfl⟩, h⟩ := h
    split at h
    · next document hfound =>
      obtain ⟨rfl, rfl⟩ := yields_pure.mp h
      have hpending := beq_iff_eq.mp (Option.filter_eq_some_iff.mp hfound).2
      exact does_read fun v hv => by cases hv; exact hpending
    · obtain ⟨rfl, rfl⟩ := yields_pure.mp h
      exact does_read fun v hv => by cases hv
  | persistQueued documentId approve document =>
    simp only [KycTask.statement, yields_bind, yields_modify, yields_get, yields_required] at h
    obtain ⟨_, _, rfl, _, _, ⟨rfl, rfl⟩, updated, _, ⟨-, rfl⟩, h⟩ := h
    cases approve with
    | true =>
      have hkept := kept_review (d := d) hknows (.inl rfl) hfresh
      have hrequired : REQUIRED_KYC_DOCUMENT_TYPES ⊆
          (if input.configured = [] then REQUIRED_KYC_DOCUMENT_TYPES else input.configured) :=
        required_of_demanding hdemanding
      simp only [if_true] at h
      generalize (if input.configured = [] then REQUIRED_KYC_DOCUMENT_TYPES
        else input.configured) = types at h hrequired
      split at h
      · next hall =>
        simp only [yields_bind, yields_modify, yields_pure] at h
        obtain ⟨_, _, rfl, rfl, rfl⟩ := h
        have hbacked := backed_of_distinct hall hrequired
        exact ⟨hkept, fun m hm => approved_setApproved hbacked hm, fun _ hu => by cases hu⟩
      · obtain ⟨rfl, rfl⟩ := yields_pure.mp h
        exact does_documents hkept fun v hv => by cases hv
    | false =>
      have hkept := kept_review (d := d) hknows (.inr rfl) hfresh
      simp only [Bool.false_eq_true, if_false, yields_bind, yields_modify, yields_pure] at h
      obtain ⟨_, _, rfl, rfl, rfl⟩ := h
      exact ⟨hkept, fun m hm => .inl (approved_setMember (by simp) hm), fun _ hu => by cases hu⟩

theorem next_does (h : Yields (t.next input) d t' d')
    (hfresh : (t.writes input).all (·.fresh d.documents) = true)
    (hdemanding : t.demanding input = true) (hknows : Knows d t) : Does d t' d' := by
  simp only [KycTask.next, yields_bind, yields_modify] at h
  obtain ⟨_, _, rfl, h⟩ := h
  have hknows' : Knows { d with now := max d.now input.time } t := knows_kept (kept_refl _) hknows
  obtain ⟨hkept, happroved, hnext⟩ := statement_does h hfresh hdemanding hknows'
  exact ⟨hkept, happroved, hnext⟩

/-! ## 6. One event -/

theorem orderly_advance {i : Nat} (horderly : w.orderly (.advance i input) = true)
    (hat : w.At i t) : (t.writes input).all (·.fresh w.state.documents) = true ∧
      t.demanding input = true := by
  unfold KycWorld.orderly at horderly
  simp only [task_some.mpr hat] at horderly
  exact Bool.and_eq_true_iff.mp horderly

theorem upheld_kyc (h : Upheld KycDesk.ApprovedBacked Knows w) (horderly : w.orderly e = true) :
    Upheld KycDesk.ApprovedBacked Knows (kycProgram.step w e) := by
  refine upheld_step h (fun a _ => ?_) fun i input t t' d' he hat hy => ?_
  · cases a <;> trivial
  · subst he
    obtain ⟨hfresh, hdemanding⟩ := orderly_advance horderly hat
    obtain ⟨hkept, happroved, hknows⟩ := next_does hy hfresh hdemanding (h.tasks i t hat)
    refine ⟨fun m hm => ?_, hknows, fun j u _ _ hu => knows_kept hkept hu⟩
    rcases happroved m hm with hold | hbacked
    · exact backed_kept hkept (h.state m hold)
    · exact hbacked

theorem kept_step (h : Upheld KycDesk.ApprovedBacked Knows w) (horderly : w.orderly e = true) :
    Kept w.state.documents (kycProgram.step w e).state.documents := by
  rcases Process.step_cases kycProgram w e with ⟨a, -, hstep⟩ |
    ⟨i, input, t, t', he, hat, hy, -⟩ | ⟨hstate, -⟩
  · rw [hstep]
    exact kept_refl _
  · subst he
    obtain ⟨hfresh, hdemanding⟩ := orderly_advance horderly hat
    exact (next_does hy hfresh hdemanding (h.tasks i t hat)).kept
  · rw [hstate]
    exact kept_refl _

theorem upheld_opening (now : Int) :
    Upheld KycDesk.ApprovedBacked Knows (KycWorld.opening now) :=
  ⟨fun _ hm => (by cases hm), fun _ _ ht => (by cases ht)⟩

end KycLemmas

open KycLemmas

/-! ## 7. Runs -/

/-- While no document has moved on between the read of a call and its write, and queued approvals ask
for the required types, every document takes the allowed steps only and an approved member has an
approved document of every required type. -/
theorem kyc_consistent (now : Int) (events : List KycEvent) (e : KycEvent)
    (h : Machine.Guarded kycProgram.step (fun w e => KycWorld.orderly w e = true)
      (KycWorld.opening now) (events ++ [e])) :
    StatusesMove ((KycWorld.opening now).after events).state.documents
        ((KycWorld.opening now).after (events ++ [e])).state.documents ∧
      ((KycWorld.opening now).after (events ++ [e])).state.ApprovedBacked := by
  obtain ⟨hevents, horderly, -⟩ := Machine.guarded_append.mp h
  have hupheld := Machine.run_induct (fun _ _ => upheld_kyc) (upheld_opening now) hevents
  have hlast : (KycWorld.opening now).after (events ++ [e]) =
      kycProgram.step ((KycWorld.opening now).after events) e := by
    unfold KycWorld.after
    rw [Machine.run_append]
    rfl
  rw [hlast]
  refine ⟨fun k x hx => ?_, (upheld_kyc hupheld horderly).state⟩
  obtain ⟨x', hx', hkept⟩ := kept_step hupheld horderly k x hx
  exact ⟨x', hx', hkept.status⟩

/-- A statement of call `i` at the time `time`. -/
def exKycStep (i : Nat) (time : Int) : KycEvent := .advance i ⟨time, none, []⟩

/-- The form of the first member. -/
def exForm (type : DocumentType) : UploadIntent := ⟨0, type, "application/pdf", 1000, none, none⟩

/-- Call `i` confirms document `k`, whose object is there. -/
def exConfirm (i k : Nat) : List KycEvent :=
  [.start (.confirmUpload ⟨0, k, none, none⟩), exKycStep i 1,
    .advance i ⟨1, some ⟨some "application/pdf", 1000, 1000, "h"⟩, []⟩, exKycStep i 1, exKycStep i 1]

/-- Call `i` approves document `k`. -/
def exApprove (i k : Nat) : List KycEvent :=
  [.start (.reviewDocument ⟨.manager, k, .approved, none⟩), exKycStep i 2, exKycStep i 2,
    exKycStep i 2]

/-- A member with the four documents, confirmed, and three of them approved. -/
def exReviewed : List KycEvent :=
  [.start .registerMember, exKycStep 0 0] ++
    [.start (.requestUploadUrl (exForm .nationalIdFront)), exKycStep 1 0, exKycStep 1 0] ++
    [.start (.requestUploadUrl (exForm .nationalIdBack)), exKycStep 2 0, exKycStep 2 0] ++
    [.start (.requestUploadUrl (exForm .kraPin)), exKycStep 3 0, exKycStep 3 0] ++
    [.start (.requestUploadUrl (exForm .memberForm)), exKycStep 4 0, exKycStep 4 0] ++
    exConfirm 5 0 ++ exConfirm 6 1 ++ exConfirm 7 2 ++ exConfirm 8 3 ++
    exApprove 9 0 ++ exApprove 10 1 ++ exApprove 11 2

theorem kyc_consistent_approved :
    StatusesMove ((KycWorld.opening 0).after (exReviewed ++ exApprove 12 3)).state.documents
        ((KycWorld.opening 0).after (exReviewed ++ exApprove 12 3 ++ [exKycStep 12 2])).state.documents ∧
      ((KycWorld.opening 0).after
        (exReviewed ++ exApprove 12 3 ++ [exKycStep 12 2])).state.ApprovedBacked :=
  kyc_consistent 0 _ _ (by decide +kernel)

/-- One reviewer approves the last document while another one, who has read it too, rejects it: the
member is approved without it. A sweep deletes a document that was confirmed and approved after the
sweep had read it as expired, and a confirmation brings a deleted one back. -/
theorem kyc_broken :
    let documents (events : List KycEvent) :=
      ((KycWorld.opening 0).after events).state.documents.map (·.status)
    let two : List KycEvent := exReviewed ++
      [.start (.reviewDocument ⟨.manager, 3, .approved, none⟩),
        .start (.reviewDocument ⟨.chairman, 3, .rejected, some "blurred"⟩), exKycStep 12 2,
        exKycStep 13 2, exKycStep 12 2, exKycStep 12 2]
    let finished : List KycEvent := two ++ [exKycStep 13 2, exKycStep 13 2, exKycStep 12 2]
    let uploaded : List KycEvent := [.start .registerMember, exKycStep 0 0,
      .start (.requestUploadUrl (exForm .kraPin)), exKycStep 1 0, exKycStep 1 0,
      .start (.confirmUpload ⟨0, 0, none, none⟩), exKycStep 2 1, .start .cleanupExpiredUploads,
      exKycStep 3 3600001]
    let confirmed : KycEvent :=
      .advance 2 ⟨3600001, some ⟨some "application/pdf", 1000, 1000, "h"⟩, []⟩
    let swept : KycEvent := exKycStep 3 3600001
    documents two = [.approved, .approved, .approved, .approved] ∧
      documents finished = [.approved, .approved, .approved, .rejected] ∧
      ((KycWorld.opening 0).after finished).state.members = [.approved] ∧
      ((KycWorld.opening 0).after finished).tasks.all (·.isNone) = true ∧
      documents (uploaded ++ [confirmed] ++ exApprove 4 0) = [.approved] ∧
      documents (uploaded ++ [confirmed] ++ exApprove 4 0 ++ [swept]) = [.deleted] ∧
      documents (uploaded ++ [swept, confirmed]) = [.pendingReview] := by
  decide +kernel

end BebaSacco
